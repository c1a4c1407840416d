import ScriptLexer.Proofs.Strict

/-! Whether a character is illegal is seen from the character alone. No token swallows an illegal
one and no legal one starts an illegal token, so the illegal tokens of a source stand exactly where
its illegal characters are, and strict lexing fails at the first of these. -/
namespace ScriptLexer
open Alphabet

/-- The illegal characters with their indices, the first of all characters having index `n`. -/
def illegalChars (n : ℕ) (cs : List Char) : List (Char × ℕ) :=
  (cs.zipIdx n).filter fun p => isIllegal p.1

variable {n : ℕ} {cs : List Char}

lemma illegalChars_append (n : ℕ) (as bs : List Char) :
    illegalChars n (as ++ bs) = illegalChars n as ++ illegalChars (n + as.length) bs := by
  simp [illegalChars, List.zipIdx_append]

lemma illegalChars_eq_nil (h : ∀ c ∈ cs, isIllegal c = false) (n : ℕ) :
    illegalChars n cs = [] := by
  rw [illegalChars, List.filter_eq_nil_iff]
  intro p hp
  simp [h p.1 (List.fst_mem_of_mem_zipIdx hp)]

lemma getElem?_of_mem_illegalChars {c : Char} {i : ℕ} (h : (c, i) ∈ illegalChars 0 cs) :
    cs[i]? = some c :=
  List.mk_mem_zipIdx_iff_getElem?.mp (List.mem_of_mem_filter h)

/-- The illegal lexemes of a reading start at its illegal characters. -/
theorem Reads.map_start_illegal {ls : List Lexeme} (h : Reads n cs ls) :
    (ls.filter (·.token == .illegal)).map (·.start) = (illegalChars n cs).map (·.2) := by
  induction h with
  | @blanks n gap blank =>
    have hgap : ∀ c ∈ gap, isIllegal c = false := fun c hc => by simp [isIllegal, blank c hc]
    rw [illegalChars_eq_nil hgap]
    rfl
  | @lexeme n gap text rest t ls blank spelled stops tail ih =>
    have hgap : ∀ c ∈ gap, isIllegal c = false := fun c hc => by simp [isIllegal, blank c hc]
    rw [illegalChars_append, illegalChars_append, illegalChars_eq_nil hgap, List.nil_append,
      List.map_append, ← ih]
    by_cases hi : t = .illegal
    · subst hi
      obtain ⟨c, hc, rfl⟩ := spelled.exists_of_illegal
      simp [illegalChars, hc]
    · rw [illegalChars_eq_nil (spelled.isIllegal_eq_false hi)]
      simp [hi]

/-- An illegal character is a lexeme of its own, whatever stands around it. -/
lemma Reads.append_illegal {a : List Char} {ls ks : List Lexeme} {c : Char} (h : Reads n a ls)
    (hc : isIllegal c = true) (h' : Reads (n + a.length + 1) cs ks) :
    Reads n (a ++ c :: cs) (ls ++ ⟨n + a.length, .illegal⟩ :: ks) :=
  h.append (.cons (.illegal hc) (fun _ _ => rfl) h') fun l _ _ =>
    (Token.stopsBefore_cons l.token c cs).mpr (Token.goesOn_eq_false_of_isIllegal hc l.token)

lemma Reads.token_ne_illegal {ls : List Lexeme} (h : Reads n cs ls)
    (legal : ∀ c ∈ cs, isIllegal c = false) {l : Lexeme} (hl : l ∈ ls) : l.token ≠ .illegal := by
  intro hill
  obtain ⟨before, text, rest, rfl, -, -, spelled, -⟩ := h.exists_text_of_mem hl
  rw [hill] at spelled
  obtain ⟨c, hc, rfl⟩ := spelled.exists_of_illegal
  simp [legal c (by simp)] at hc

/-- Strict lexing fails exactly at the first illegal character. -/
theorem lexStrict_eq_error_iff_first {source : String} {file : Option String} {d : Diagnostic} :
    lexStrict source file = .error d ↔ ∃ before c after, source.toList = before ++ c :: after ∧
      (∀ b ∈ before, isIllegal b = false) ∧ isIllegal c = true ∧
      d = ⟨.illegalCharacter c, before.length, file.getD unnamedSource⟩ := by
  have hfirst {before after : List Char} {c : Char} (hsource : source.toList = before ++ c :: after)
      (legal : ∀ b ∈ before, isIllegal b = false) (hc : isIllegal c = true) :
      lexStrict source file =
        .error ⟨.illegalCharacter c, before.length, file.getD unnamedSource⟩ := by
    obtain ⟨ls, hbefore⟩ := Reads.exists_reads 0 before
    obtain ⟨ks, hafter⟩ := Reads.exists_reads (0 + before.length + 1) after
    have hread := hbefore.append_illegal hc hafter
    have hnone : ls.find? (·.token == .illegal) = none := by
      rw [List.find?_eq_none]
      intro l hl
      simpa using hbefore.token_ne_illegal legal hl
    rw [← hsource] at hread
    rw [lexStrict_eq_error_iff, hread.lexemes_eq]
    refine ⟨⟨before.length, .illegal⟩, by simp [hnone], ?_⟩
    simp [Diagnostic.ofIllegal, hsource]
  constructor
  · intro h
    obtain ⟨x, hx, hill, -⟩ := exists_illegal_of_error h
    obtain ⟨before, rest, hsource, legal, hstop⟩ := exists_run (fun c => !isIllegal c) source.toList
    cases rest with
    | nil =>
      have hmem := List.mem_of_getElem? hx
      rw [hsource, List.append_nil] at hmem
      simpa [hill] using legal x hmem
    | cons c after =>
      have hc : isIllegal c = true := by simpa using hstop c rfl
      have hlegal : ∀ b ∈ before, isIllegal b = false := by simpa using legal
      have herror := hfirst hsource hlegal hc
      exact ⟨before, c, after, hsource, hlegal, hc, Except.error.inj (h.symm.trans herror)⟩
  · rintro ⟨before, c, after, hsource, legal, hc, rfl⟩
    exact hfirst hsource legal hc

/-- The illegal tokens of a source start at the indices of its illegal characters, which are those
that separate no tokens and start none. Strict lexing succeeds if there is no such character, and
otherwise fails with the first of them. -/
theorem illegal_starts_eq (source : String) (file : Option String) :
    (∀ c, isIllegal c = true ↔ isBlank c = false ∧ Sign.ofLone? c = none ∧ c ≠ '=' ∧ c ≠ '!' ∧
        isLetter c = false ∧ isDigit c = false) ∧
      ((lexemes source).filter (·.token == .illegal)).map (·.start) =
        (illegalChars 0 source.toList).map (·.2) ∧
      lexStrict source file = match (illegalChars 0 source.toList).head? with
        | none => .ok (lex source)
        | some (c, i) => .error ⟨.illegalCharacter c, i, file.getD "shell"⟩ := by
  obtain ⟨ls, h, hlex⟩ := exists_reads_lexemes source
  have hstarts : ((lexemes source).filter (·.token == .illegal)).map (·.start) =
      (illegalChars 0 source.toList).map (·.2) := by
    rw [hlex, List.filter_append, ← h.map_start_illegal]
    simp
  refine ⟨fun c => ?_, hstarts, ?_⟩
  · rw [isIllegal_iff, startsSign_eq_false_iff]
    tauto
  · have hfirst := congrArg List.head? hstarts
    rw [List.head?_map, List.head?_map, List.head?_filter] at hfirst
    rw [lexStrict_eq]
    cases hhead : (illegalChars 0 source.toList).head? with
    | none =>
      rw [hhead, Option.map_none, Option.map_eq_none_iff] at hfirst
      rw [hfirst]
    | some p =>
      obtain ⟨c, i⟩ := p
      have hc := getElem?_of_mem_illegalChars (List.mem_of_head? hhead)
      rw [hhead] at hfirst
      obtain ⟨l, hl, rfl⟩ := Option.map_eq_some_iff.mp hfirst
      rw [hl]
      simp [Diagnostic.ofIllegal, unnamedSource, hc]

end ScriptLexer
