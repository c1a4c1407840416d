import ScriptLexer.Proofs.Cursor
import ScriptLexer.Proofs.Cut

/-! Strict lexing is lenient lexing up to the first illegal token. Where there is none the two give
the same tokens; where there is one, the error is about the character it stands for, and the source
before it is accepted with the tokens before it. -/
namespace ScriptLexer

variable {n : ℕ} {cs : List Char} {ls : List Lexeme}

/-- Both loops take the same steps; the strict one ends at the first illegal lexeme. -/
theorem StrictReading.ofCursor_eq (c : Cursor) : StrictReading.ofCursor c =
    ⟨(Stream.ofCursor c).toList.takeWhile (·.token != .illegal),
      (Stream.ofCursor c).toList.find? (·.token == .illegal)⟩ := by
  fun_induction StrictReading.ofCursor c with
  | case1 c heof =>
    rw [Stream.toList_ofCursor]
    simp [heof]
  | case2 c heof hill =>
    rw [Stream.toList_ofCursor]
    simp [hill]
  | case3 c heof hill _ tail ih =>
    rw [Stream.toList_ofCursor, if_neg heof]
    simp [tail, ih, hill]

lemma takeWhile_eq_of_find?_eq_none (h : ls.find? (·.token == .illegal) = none) :
    ls.takeWhile (·.token != .illegal) = ls := by
  rw [List.takeWhile_eq_self_iff]
  intro l hl
  simpa using List.find?_eq_none.mp h l hl

/-- A strict reading looks for the first illegal lexeme. -/
lemma lexStrict_eq (source : String) (file : Option String) : lexStrict source file =
    match (lexemes source).find? (·.token == .illegal) with
    | some l => .error (.ofIllegal source.toList.toArray (file.getD unnamedSource) l)
    | none => .ok (lex source) := by
  rw [lexStrict, StrictReading.ofString, StrictReading.ofCursor_eq]
  change (match (lexemes source).find? (·.token == .illegal) with
    | some l => _
    | none => _) = _
  split
  next => rfl
  next h => rw [lex, ← takeWhile_eq_of_find?_eq_none h]; rfl

lemma find?_eq_none_iff (source : String) :
    (lexemes source).find? (·.token == .illegal) = none ↔ .illegal ∉ lex source := by
  simp [lex]

lemma lexStrict_eq_ok_iff {source : String} {file : Option String} {ts : List Token} :
    lexStrict source file = .ok ts ↔ lex source = ts ∧ .illegal ∉ ts := by
  have hnone := find?_eq_none_iff source
  rw [lexStrict_eq]
  split
  next l h =>
    rw [h] at hnone
    constructor
    · intro hok
      cases hok
    · rintro ⟨rfl, hmem⟩
      cases hnone.mpr hmem
  next h =>
    constructor
    · rintro ⟨⟩
      exact ⟨rfl, hnone.mp h⟩
    · rintro ⟨rfl, -⟩
      rfl

lemma exists_lexStrict_eq_ok_iff {source : String} {file : Option String} :
    (∃ ts, lexStrict source file = .ok ts) ↔ .illegal ∉ lex source := by
  simp [lexStrict_eq_ok_iff]

lemma lexStrict_eq_error_iff {source : String} {file : Option String} {d : Diagnostic} :
    lexStrict source file = .error d ↔ ∃ l, (lexemes source).find? (·.token == .illegal) = some l ∧
      d = .ofIllegal source.toList.toArray (file.getD unnamedSource) l := by
  rw [lexStrict_eq]
  split
  next l h => simp [h, eq_comm]
  next h => simp [h]

/-- The first illegal lexeme of a reading: the character it stands for, and the reading of what
stands before it. -/
lemma Reads.exists_first_illegal {l : Lexeme} (h : Reads 0 cs ls)
    (hfind : ls.find? (·.token == .illegal) = some l) :
    ∃ init tail c, ls = init ++ l :: tail ∧ l.token = .illegal ∧ (∀ m ∈ init, m.token ≠ .illegal) ∧
      cs[l.start]? = some c ∧ Reads 0 (cs.take l.start) init := by
  obtain ⟨hl, init, tail, rfl, hinit⟩ := List.find?_eq_some_iff_append.mp hfind
  obtain ⟨before, text, rest, rfl, hstart, spelled, hread, -, -⟩ := h.exists_split
  obtain ⟨c, text, rfl⟩ := List.exists_cons_of_ne_nil spelled.ne_nil
  rw [Nat.zero_add] at hstart
  refine ⟨init, tail, c, rfl, by simpa using hl, by simpa using hinit, by simp [hstart], ?_⟩
  rwa [hstart, List.take_left]

/-- Strict lexing fails at an illegal character of the source. -/
lemma exists_illegal_of_error {source : String} {file : Option String} {d : Diagnostic}
    (h : lexStrict source file = .error d) : ∃ c, source.toList[d.position]? = some c ∧
      Alphabet.isIllegal c = true ∧ d.cause = .illegalCharacter c ∧
      d.file = file.getD unnamedSource := by
  obtain ⟨l, hl, rfl⟩ := lexStrict_eq_error_iff.mp h
  obtain ⟨ls, hread, hlex⟩ := exists_reads_lexemes source
  have hill : l.token = .illegal := by simpa using List.find?_some hl
  have hmem : l ∈ ls := by
    have hall := List.mem_of_find?_eq_some hl
    rw [hlex, List.mem_append, List.mem_singleton] at hall
    rcases hall with hmem | rfl
    · exact hmem
    · cases hill
  obtain ⟨before, text, rest, hsource, hstart, -, spelled, -⟩ := hread.exists_text_of_mem hmem
  rw [hill] at spelled
  obtain ⟨c, hc, rfl⟩ := spelled.exists_of_illegal
  rw [Nat.zero_add] at hstart
  have hchar : source.toList[l.start]? = some c := by simp [hsource, hstart]
  exact ⟨c, hchar, hc, by simp [Diagnostic.ofIllegal, hchar], rfl⟩

/-- Strict lexing gives the tokens of lenient lexing if none of them is illegal. Otherwise it fails
with the character in place of the first illegal token and the index at which a step reports that
token, and it accepts the source before this index. -/
theorem lexStrict_agrees (source : String) (file : Option String) :
    (∀ ts, lexStrict source file = .ok ts ↔ lex source = ts ∧ .illegal ∉ ts) ∧
      (.illegal ∈ lex source → ∃ k p c,
        (lexemes source)[k]? = some ⟨p, .illegal⟩ ∧ .illegal ∉ (lex source).take k ∧
        ((Cursor.ofString source).after k).next.1 = ⟨p, .illegal⟩ ∧ source.toList[p]? = some c ∧
        lexStrict source file = .error ⟨.illegalCharacter c, p, file.getD "shell"⟩ ∧
        lexStrict (String.ofList (source.toList.take p)) file =
          .ok ((lex source).take k ++ [.eof])) := by
  refine ⟨fun ts => lexStrict_eq_ok_iff, fun hmem => ?_⟩
  obtain ⟨ls, h, hlex⟩ := exists_reads_lexemes source
  have hfind : (lexemes source).find? (·.token == .illegal) = ls.find? (·.token == .illegal) := by
    rw [hlex, List.find?_append]
    simp
  obtain ⟨l, hl⟩ := Option.ne_none_iff_exists'.mp fun hnone =>
    (find?_eq_none_iff source).mp hnone hmem
  obtain ⟨init, tail, c, rfl, hill, hinit, hc, hread⟩ := h.exists_first_illegal (hfind ▸ hl)
  obtain ⟨p, t⟩ := l
  obtain rfl : t = .illegal := hill
  have hk : (lexemes source)[init.length]? = some ⟨p, .illegal⟩ := by simp [hlex]
  have htake : (lex source).take init.length = init.map (·.token) := by simp [lex, hlex]
  have hnot : .illegal ∉ init.map (·.token) := by simpa using hinit
  refine ⟨init.length, p, c, hk, htake ▸ hnot, ?_, hc, ?_, ?_⟩
  · rw [hlex, ← String.length_toList, ← Nat.zero_add source.toList.length] at hk
    rw [Cursor.ofString_eq]
    exact (h.after_eq [] rfl _ _ hk).1
  · rw [lexStrict_eq, hl]
    simp [Diagnostic.ofIllegal, unnamedSource, hc]
  · rw [lexStrict_eq_ok_iff, htake]
    have htrunc : Reads 0 (String.ofList (source.toList.take p)).toList init := by
      rwa [String.toList_ofList]
    refine ⟨?_, by simpa using hnot⟩
    rw [lex, htrunc.lexemes_eq]
    simp

theorem lexStrict_at_sign : .illegal ∈ lex "a=@ _" ∧ ∃ k p c,
    (lexemes "a=@ _")[k]? = some ⟨p, .illegal⟩ ∧ .illegal ∉ (lex "a=@ _").take k ∧
    ((Cursor.ofString "a=@ _").after k).next.1 = ⟨p, .illegal⟩ ∧ "a=@ _".toList[p]? = some c ∧
    lexStrict "a=@ _" none = .error ⟨.illegalCharacter c, p, "shell"⟩ ∧
    lexStrict (String.ofList ("a=@ _".toList.take p)) none =
      .ok ((lex "a=@ _").take k ++ [.eof]) :=
  ⟨by decide +kernel, (lexStrict_agrees "a=@ _" none).2 (by decide +kernel)⟩

end ScriptLexer
