import ScriptLexer.Proofs.Lines
import ScriptLexer.Proofs.Strict

/-! Lexing line by line. A line feed is a blank, so no token goes on over the end of a line, and the
lexemes of a source are those of its lines, each moved by the length of the lines in front of it.
Strict lexing therefore fails in the first line in which it fails alone, and the index it gives is
the one under which that place is found among the lines. -/
namespace ScriptLexer
open Alphabet

/-- The lexemes of the lines, each lexed alone, the first line starting at index `n`. -/
def linewise : ℕ → List (List Char) → List Lexeme
  | _, [] => []
  | n, l :: ls =>
    (lexemes (String.ofList l)).dropLast.map (.shift n) ++ linewise (n + l.length) ls

lemma linewise_append (n : ℕ) (as bs : List (List Char)) :
    linewise n (as ++ bs) = linewise n as ++ linewise (n + as.flatten.length) bs := by
  induction as generalizing n with
  | nil => rfl
  | cons l as ih =>
    rw [List.cons_append, linewise, linewise, ih, List.flatten_cons, List.length_append,
      Nat.add_assoc, List.append_assoc]

lemma map_token_linewise (n : ℕ) (ls : List (List Char)) :
    (linewise n ls).map (·.token) = ls.flatMap fun l => (lex (String.ofList l)).dropLast := by
  induction ls generalizing n with
  | nil => rfl
  | cons l ls ih =>
    have hline : ((lexemes (String.ofList l)).dropLast.map (Lexeme.shift n)).map (·.token) =
        (lex (String.ofList l)).dropLast := by
      rw [List.map_map, lex, ← List.map_dropLast]
      rfl
    rw [linewise, List.map_append, hline, ih, List.flatMap_cons]

/-- A line is read as it is read alone. -/
lemma Reads.of_line (n : ℕ) (l : List Char) :
    Reads n l ((lexemes (String.ofList l)).dropLast.map (.shift n)) := by
  obtain ⟨ls, h, hlex⟩ := exists_reads_lexemes (String.ofList l)
  rw [String.toList_ofList] at h
  have hmoved := h.shift n
  rw [Nat.zero_add] at hmoved
  rwa [hlex, List.dropLast_concat]

/-- What stands behind a blank is read apart from what stands in front of it. -/
lemma Reads.append_blank {n : ℕ} {a cs : List Char} {ls ks : List Lexeme} {b : Char}
    (h : Reads n a ls) (hb : isBlank b = true) (h' : Reads (n + a.length + 1) cs ks) :
    Reads n (a ++ b :: cs) (ls ++ ks) := by
  have hblank : ∀ c ∈ [b], isBlank c = true := by simpa using hb
  have htail : Reads (n + a.length) (b :: cs) ks := blanks_append hblank h'
  exact h.append htail fun l _ _ => Token.stopsBefore_of_isBlank hb l.token cs

/-- A line feed behind a text gives no lexeme. -/
lemma dropLast_lexemes_line (l : List Char) :
    (lexemes (String.ofList (l ++ ['\n']))).dropLast = (lexemes (String.ofList l)).dropLast := by
  obtain ⟨ls, h, hlex⟩ := exists_reads_lexemes (String.ofList l)
  rw [String.toList_ofList] at h
  have hline : Reads 0 (String.ofList (l ++ ['\n'])).toList (ls ++ []) := by
    rw [String.toList_ofList]
    exact h.append_blank rfl (.blanks (by simp))
  rw [hline.lexemes_eq, hlex, List.append_nil, List.dropLast_concat, List.dropLast_concat]

/-- The lines of a text together are read as the text. -/
theorem Reads.linewise (n : ℕ) (cs : List Char) : Reads n cs (linewise n (lines cs)) := by
  induction cs using lines_induction generalizing n with
  | nil => exact .blanks (by simp)
  | last l nonempty hl =>
    rw [lines_last nonempty hl, ScriptLexer.linewise, ScriptLexer.linewise, List.append_nil]
    exact .of_line n l
  | cons l rest hl ih =>
    have hend : n + (l ++ ['\n']).length = n + l.length + 1 := by simp [Nat.add_assoc]
    rw [lines_cons hl, ScriptLexer.linewise, dropLast_lexemes_line, hend]
    exact (of_line n l).append_blank rfl (ih (n + l.length + 1))

theorem lexemes_eq_linewise (source : String) :
    lexemes source = linewise 0 (lines source.toList) ++ [⟨source.length, .eof⟩] :=
  (Reads.linewise 0 source.toList).lexemes_eq

lemma lex_eq_flatMap_lines (source : String) : lex source =
    ((lines source.toList).flatMap fun l => (lex (String.ofList l)).dropLast) ++ [.eof] := by
  rw [lex, lexemes_eq_linewise, List.map_append, map_token_linewise]
  rfl

lemma illegal_mem_dropLast_lex {source : String} :
    .illegal ∈ (lex source).dropLast ↔ .illegal ∈ lex source := by
  obtain ⟨ls, -, hlex⟩ := exists_reads_lexemes source
  simp [lex, hlex]

lemma illegal_mem_lex_iff (source : String) : .illegal ∈ lex source ↔
    ∃ l ∈ lines source.toList, .illegal ∈ lex (String.ofList l) := by
  rw [lex_eq_flatMap_lines]
  simp [illegal_mem_dropLast_lex]

lemma find?_linewise_eq_none {ls : List (List Char)}
    (accepted : ∀ l ∈ ls, .illegal ∉ lex (String.ofList l)) (n : ℕ) :
    (linewise n ls).find? (·.token == .illegal) = none := by
  rw [List.find?_eq_none]
  intro m hm hill
  have hmem : m.token ∈ (linewise n ls).map (·.token) := List.mem_map_of_mem hm
  rw [map_token_linewise, beq_iff_eq.mp hill] at hmem
  obtain ⟨l, hl, hmem⟩ := List.mem_flatMap.mp hmem
  exact accepted l hl (illegal_mem_dropLast_lex.mp hmem)

lemma find?_dropLast_lexemes {source : String} {m : Lexeme}
    (h : (lexemes source).find? (·.token == .illegal) = some m) :
    (lexemes source).dropLast.find? (·.token == .illegal) = some m ∧ m.start < source.length := by
  obtain ⟨ls, hread, hlex⟩ := exists_reads_lexemes source
  have hfind : ls.find? (·.token == .illegal) = some m := by
    rw [hlex, List.find?_append] at h
    simpa using h
  rw [hlex, List.dropLast_concat]
  refine ⟨hfind, ?_⟩
  have hmem := List.mem_of_find?_eq_some hfind
  have hstart := hread.start_lt_stop hmem
  have hstop := hread.stop_le hmem
  rw [String.length_toList] at hstop
  omega

/-- The first illegal lexeme of the first line that has one, moved by the lines in front of it, is the
first one of the source. -/
lemma find?_lexemes_of_lines {source : String} {before after : List (List Char)} {l : List Char}
    {m : Lexeme} (hlines : lines source.toList = before ++ l :: after)
    (accepted : ∀ k ∈ before, .illegal ∉ lex (String.ofList k))
    (h : (lexemes (String.ofList l)).find? (·.token == .illegal) = some m) :
    (lexemes source).find? (·.token == .illegal) = some (m.shift before.flatten.length) := by
  have hline : ((lexemes (String.ofList l)).dropLast.map (.shift before.flatten.length)).find?
      (·.token == .illegal) = some (m.shift before.flatten.length) := by
    rw [List.find?_map]
    change ((lexemes (String.ofList l)).dropLast.find? (·.token == .illegal)).map _ = _
    rw [(find?_dropLast_lexemes h).1]
    rfl
  rw [lexemes_eq_linewise, hlines, linewise_append, linewise, Nat.zero_add, List.append_assoc,
    List.append_assoc, List.find?_append, find?_linewise_eq_none accepted, Option.none_or,
    List.find?_append, hline, Option.some_or]

/-- A lexeme of a part of a text gives the diagnostic of its character, moved with the part. -/
lemma ofIllegal_shift {l : List Char} {m : Lexeme} (h : m.start < l.length)
    (before after : List Char) (file : String) :
    Diagnostic.ofIllegal (before ++ (l ++ after)).toArray file (m.shift before.length) =
      { Diagnostic.ofIllegal l.toArray file m with position := before.length + m.start } := by
  have hchar : (before ++ (l ++ after))[m.start + before.length]? = l[m.start]? := by
    rw [Nat.add_comm, List.getElem?_append_right (Nat.le_add_right _ _), Nat.add_sub_cancel_left,
      List.getElem?_append_left h]
  simp [Diagnostic.ofIllegal, Lexeme.shift, hchar, Nat.add_comm]

theorem lexStrict_of_lines {source : String} {before after : List (List Char)} {l : List Char}
    {file : Option String} {d : Diagnostic}
    (hlines : lines source.toList = before ++ l :: after)
    (accepted : ∀ k ∈ before, .illegal ∉ lex (String.ofList k))
    (refused : lexStrict (String.ofList l) file = .error d) :
    lexStrict source file = .error { d with position := before.flatten.length + d.position } ∧
      Spot.locate? source (before.flatten.length + d.position) =
        some ⟨before.length + 1, l, d.position⟩ := by
  obtain ⟨m, hfind, rfl⟩ := lexStrict_eq_error_iff.mp refused
  have hstart : m.start < l.length := by simpa using (find?_dropLast_lexemes hfind).2
  have hsource : source.toList = before.flatten ++ (l ++ after.flatten) := by
    rw [← flatten_lines source.toList, hlines]
    simp
  refine ⟨?_, Spot.locate?_of_lines hlines hstart⟩
  rw [lexStrict_eq_error_iff]
  refine ⟨_, find?_lexemes_of_lines hlines accepted hfind, ?_⟩
  rw [hsource, ofIllegal_shift hstart]
  simp [Diagnostic.ofIllegal]

/-- A source has the tokens of its lines in order, and is accepted exactly if all of them are. If not,
it fails with the character at which the first line fails that is not accepted, and the index of that
character is found in this line. -/
theorem lex_line_by_line (source : String) (file : Option String) :
    lex source =
        ((lines source.toList).flatMap fun l => (lex (String.ofList l)).dropLast) ++ [.eof] ∧
      ((∃ ts, lexStrict source file = .ok ts) ↔
        ∀ l ∈ lines source.toList, ∃ ts, lexStrict (String.ofList l) file = .ok ts) ∧
      ∀ (j c : ℕ) (l : List Char) (x : Char) (name : String),
        (lines source.toList)[j]? = some l →
        (∀ k ∈ (lines source.toList).take j, ∃ ts, lexStrict (String.ofList k) file = .ok ts) →
        lexStrict (String.ofList l) file = .error ⟨.illegalCharacter x, c, name⟩ →
        lexStrict source file =
            .error ⟨.illegalCharacter x, lineStart (lines source.toList) j + c, name⟩ ∧
          Spot.locate? source (lineStart (lines source.toList) j + c) = some ⟨j + 1, l, c⟩ := by
  refine ⟨lex_eq_flatMap_lines source, ?_, fun j c l x name hj haccepted hrefused => ?_⟩
  · simp only [exists_lexStrict_eq_ok_iff]
    rw [illegal_mem_lex_iff]
    push Not
    rfl
  · obtain ⟨hlt, hl⟩ := List.getElem?_eq_some_iff.mp hj
    have hlines : lines source.toList =
        (lines source.toList).take j ++ l :: (lines source.toList).drop (j + 1) := by
      rw [← hl, ← List.drop_eq_getElem_cons hlt, List.take_append_drop]
    have hlength : ((lines source.toList).take j).length = j := by
      rw [List.length_take, Nat.min_eq_left hlt.le]
    have hstart : ((lines source.toList).take j).flatten.length =
        lineStart (lines source.toList) j := List.length_flatten
    have hall := lexStrict_of_lines hlines
      (fun k hk => exists_lexStrict_eq_ok_iff.mp (haccepted k hk)) hrefused
    rwa [hlength, hstart] at hall

theorem lex_line_by_line_second :
    (lines "a\r\n = _@\n#".toList)[1]? = some " = _@\n".toList ∧
      (∀ k ∈ (lines "a\r\n = _@\n#".toList).take 1,
        ∃ ts, lexStrict (String.ofList k) none = .ok ts) ∧
      lexStrict (String.ofList " = _@\n".toList) none =
        .error ⟨.illegalCharacter '_', 3, "shell"⟩ ∧
      lexStrict "a\r\n = _@\n#" none =
        .error ⟨.illegalCharacter '_', lineStart (lines "a\r\n = _@\n#".toList) 1 + 3, "shell"⟩ ∧
      Spot.locate? "a\r\n = _@\n#" (lineStart (lines "a\r\n = _@\n#".toList) 1 + 3) =
        some ⟨2, " = _@\n".toList, 3⟩ := by
  have hline : (lines "a\r\n = _@\n#".toList)[1]? = some " = _@\n".toList := by decide +kernel
  have hbefore : (lines "a\r\n = _@\n#".toList).take 1 = ["a\r\n".toList] := by decide +kernel
  have haccepted : ∀ k ∈ (lines "a\r\n = _@\n#".toList).take 1,
      ∃ ts, lexStrict (String.ofList k) none = .ok ts := by
    rw [hbefore]
    simp only [List.mem_singleton, forall_eq, exists_lexStrict_eq_ok_iff]
    decide +kernel
  have hrefused : lexStrict (String.ofList " = _@\n".toList) none =
      .error ⟨.illegalCharacter '_', 3, "shell"⟩ := by decide +kernel
  exact ⟨hline, haccepted, hrefused,
    (lex_line_by_line "a\r\n = _@\n#" none).2.2 1 3 _ '_' "shell" hline haccepted hrefused⟩

end ScriptLexer
