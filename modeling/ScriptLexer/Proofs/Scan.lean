import ScriptLexer.Proofs.Cursor

/-! Lexing without a cursor: the rules of the language on the list of characters still to be read. They
give the tokens of a reading, hence what a cursor gives; first they are brought to the form in which a
cursor applies them, the longest sign before all else. -/
namespace ScriptLexer
open Alphabet

private theorem length_dropWhile_le (p : Char → Bool) (cs : List Char) :
    (cs.dropWhile p).length ≤ cs.length :=
  (List.dropWhile_sublist p).length_le

/-- The tokens of a list of characters, the end token last. -/
def scan : List Char → List Token
  | [] => [.eof]
  | '=' :: '=' :: rest => .sign .equal :: scan rest
  | '!' :: '=' :: rest => .sign .notEqual :: scan rest
  | c :: rest =>
    if isBlank c then scan rest
    else if c = '=' then .sign .assign :: scan rest
    else if c = '!' then .sign .bang :: scan rest
    else match Sign.ofLone? c with
      | some sign => .sign sign :: scan rest
      | none =>
        if isLetter c then
          .ofWord (String.ofList (c :: rest.takeWhile isLetter)) :: scan (rest.dropWhile isLetter)
        else if isDigit c then
          .number (String.ofList (c :: rest.takeWhile isDigit)) :: scan (rest.dropWhile isDigit)
        else .illegal :: scan rest
termination_by cs => cs.length
decreasing_by
  all_goals simp only [List.length_cons]
  all_goals first
    | omega
    | exact Nat.lt_succ_of_le (length_dropWhile_le _ _)

lemma width_of_ofLone? {c : Char} {s : Sign} (h : Sign.ofLone? c = some s) : s.width = 1 := by
  rw [← s.length_spelling, (Token.lone_spelling _ (ofLone?_eq_some h)).1, List.length_singleton]

/-- One rule of cursor-free lexing for all heads: the longest sign is looked for first. -/
lemma scan_cons (c : Char) (cs : List Char) : scan (c :: cs) =
    if isBlank c then scan cs
    else match Sign.starting? c cs.head? with
      | some s => .sign s :: scan ((c :: cs).drop s.width)
      | none =>
        if isLetter c then
          .ofWord (String.ofList ((c :: cs).takeWhile isLetter)) ::
            scan ((c :: cs).dropWhile isLetter)
        else if isDigit c then
          .number (String.ofList ((c :: cs).takeWhile isDigit)) ::
            scan ((c :: cs).dropWhile isDigit)
        else .illegal :: scan cs := by
  have hhead (h : ∀ rest, cs ≠ '=' :: rest) : cs.head? ≠ some '=' := by
    intro hh
    obtain ⟨rest, hr⟩ := List.head?_eq_some_iff.mp hh
    exact h rest hr
  rw [scan.eq_def]
  split
  next h => cases h
  next rest h => cases h; rfl
  next rest h => cases h; rfl
  next d ds he hb h =>
    cases h
    by_cases hblank : isBlank c = true
    · rw [if_pos hblank, if_pos hblank]
    · rw [if_neg hblank, if_neg hblank]
      by_cases hce : c = '='
      · subst hce
        rw [if_pos rfl, Token.starting?_assign (hhead fun rest => he rest rfl)]
        rfl
      · by_cases hcb : c = '!'
        · subst hcb
          rw [if_neg hce, if_pos rfl, Token.starting?_bang (hhead fun rest => hb rest rfl)]
          rfl
        · cases hl : Sign.ofLone? c with
          | some s => simp [Sign.starting?, hl, hce, hcb, width_of_ofLone? hl]
          | none =>
            by_cases hlet : isLetter c = true
            · simp [Sign.starting?, hl, hce, hcb, hlet]
            · by_cases hdig : isDigit c = true <;>
                simp [Sign.starting?, hl, hce, hcb, hlet, hdig]

lemma scan_blanks {gap : List Char} (blank : ∀ c ∈ gap, isBlank c = true) (cs : List Char) :
    scan (gap ++ cs) = scan cs := by
  induction gap with
  | nil => rfl
  | cons c gap ih =>
    obtain ⟨hc, hgap⟩ := List.forall_mem_cons.mp blank
    rw [List.cons_append, scan_cons, if_pos hc, ih hgap]

lemma takeWhile_append_of_stop {p : Char → Bool} {text rest : List Char}
    (all : ∀ c ∈ text, p c = true) (stop : ∀ c ∈ rest.head?, p c = false) :
    (text ++ rest).takeWhile p = text := by
  rw [List.takeWhile_append_of_pos all]
  cases rest with
  | nil => simp
  | cons c cs => simp [stop c rfl]

lemma dropWhile_append_of_stop {p : Char → Bool} {text rest : List Char}
    (all : ∀ c ∈ text, p c = true) (stop : ∀ c ∈ rest.head?, p c = false) :
    (text ++ rest).dropWhile p = rest := by
  rw [List.dropWhile_append_of_pos all]
  cases rest with
  | nil => simp
  | cons c cs => simp [stop c rfl]

lemma scan_spelled {t : Token} {text rest : List Char} (spelled : t.Spelled text)
    (stops : t.StopsBefore rest) : scan (text ++ rest) = t :: scan rest := by
  cases spelled with
  | sign s =>
    obtain ⟨c, cs, heq, hs⟩ := Token.starting?_of_spelling stops
    rw [heq, scan_cons, isBlank_eq_false_of_starting? hs, hs, ← heq]
    change Token.sign s :: scan ((s.spelling.toList ++ rest).drop s.width) = _
    rw [← s.length_spelling, List.drop_left]
  | @word text nonempty letters =>
    obtain ⟨c, cs, rfl⟩ := List.exists_cons_of_ne_nil nonempty
    have hc := letters c List.mem_cons_self
    have hstop : ∀ d ∈ rest.head?, isLetter d = false := by
      intro d hd
      simpa using stops d hd
    rw [List.cons_append, scan_cons, isBlank_eq_false_of_isLetter hc,
      starting?_eq_none_of_isLetter hc, ← List.cons_append,
      takeWhile_append_of_stop letters hstop, dropWhile_append_of_stop letters hstop]
    simp [hc]
  | @number c cs first digits =>
    have hc := digits c List.mem_cons_self
    rw [List.cons_append, scan_cons, isBlank_eq_false_of_isDigit hc,
      starting?_eq_none_of_isDigit hc, ← List.cons_append,
      takeWhile_append_of_stop digits stops, dropWhile_append_of_stop digits stops]
    simp [hc, first]
  | @illegal c h =>
    obtain ⟨hb, hs, hl, hd⟩ := isIllegal_iff.mp h
    rw [List.singleton_append, scan_cons, starting?_eq_none_iff.mpr hs]
    simp [hb, hl, hd]

/-- A token found first has its text there: no other text gives it. -/
lemma exists_rest_of_scan {t : Token} {text : List Char} (spelled : t.Spelled text)
    (hi : t ≠ .illegal) {cs : List Char} {ts : List Token}
    (hhead : ∀ c ∈ cs.head?, isBlank c = false) (hscan : scan cs = t :: ts) :
    ∃ rest, cs = text ++ rest ∧ t.StopsBefore rest := by
  cases cs with
  | nil =>
    rw [scan.eq_def] at hscan
    exact absurd (List.cons.inj hscan).1.symm spelled.ne_eof
  | cons c cs =>
    obtain ⟨t', text', rest, heq, spelled', stops⟩ := Token.exists_spelled cs (hhead c rfl)
    rw [heq, scan_spelled spelled' stops] at hscan
    obtain ⟨rfl, -⟩ := List.cons.inj hscan
    obtain rfl := spelled.text_unique spelled' hi
    exact ⟨rest, heq, stops⟩

/-- Cursor-free lexing gives the tokens of a reading, and then the end token. -/
theorem Reads.scan_eq {n : ℕ} {cs : List Char} {ls : List Lexeme} (h : Reads n cs ls) :
    scan cs = ls.map (·.token) ++ [.eof] := by
  induction h with
  | @blanks n gap blank =>
    have hs := scan_blanks blank []
    rw [List.append_nil] at hs
    rw [hs, scan.eq_def]
    rfl
  | lexeme blank spelled stops tail ih =>
    rw [scan_blanks blank, scan_spelled spelled stops, ih]
    rfl

lemma lex_eq_scan (source : String) : lex source = scan source.toList := by
  obtain ⟨ls, h, heq⟩ := exists_reads_lexemes source
  rw [lex, heq, h.scan_eq, List.map_append]
  rfl

/-- Wherever any number of steps has led a cursor, it gives the tokens that cursor-free lexing finds
in the characters from its position on; from the first position on these are all of the source. -/
theorem toList_after_eq_scan (source : String) (k : ℕ) :
    (Stream.ofCursor ((Cursor.ofString source).after k)).toList.map (·.token) =
        scan (source.toList.drop ((Cursor.ofString source).after k).position) ∧
      lex source = scan source.toList := by
  refine ⟨?_, lex_eq_scan source⟩
  obtain ⟨before, rest, hsource, hafter⟩ := Cursor.exists_after_ofString source k
  obtain ⟨ls, h⟩ := Reads.exists_reads before.length rest
  rw [hafter, h.toList_eq before rfl, Cursor.position_between, hsource, List.drop_left, h.scan_eq,
    List.map_append]
  rfl

end ScriptLexer
