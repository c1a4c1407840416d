import ScriptLexer.Lex
import ScriptLexer.Proofs.Reading

/-! Cursors as a cut of the source in two: the characters passed and those still to come. Every
cursor that reading can reach is of this form, and each operation moves the cut. So what a cursor
gives is the reading of the characters after the cut. -/
namespace ScriptLexer.Cursor
open Alphabet

/-- The cursor between two parts of a source, on the first character of the second. -/
def between (before rest : List Char) : Cursor :=
  ⟨(before ++ rest).toArray, before.length, before.length + 1, rest.head?⟩

variable {before gap text rest : List Char}

lemma getElem?_between (before : List Char) (c : Char) (rest : List Char) :
    (before ++ c :: rest)[before.length + 1]? = rest.head? := by
  rw [List.getElem?_append_right (by omega)]
  simp [List.head?_eq_getElem?]

@[simp] lemma current_between (before rest : List Char) :
    (between before rest).current = rest.head? := rfl

@[simp] lemma position_between (before rest : List Char) :
    (between before rest).position = before.length := rfl

@[simp] lemma following_between (before : List Char) (c : Char) (rest : List Char) :
    (between before (c :: rest)).following = rest.head? := by
  simp only [between, following, List.getElem?_toArray]
  exact getElem?_between before c rest

@[simp] lemma advance_between_cons (before : List Char) (c : Char) (rest : List Char) :
    (between before (c :: rest)).advance = between (before ++ [c]) rest := by
  have hmin : min (before.length + 1) (before ++ c :: rest).length = before.length + 1 := by
    simp only [List.length_append, List.length_cons]
    omega
  simp only [between, advance, List.getElem?_toArray, List.size_toArray, hmin,
    getElem?_between before c rest]
  simp

/-- At the end of the source nothing moves. -/
@[simp] lemma advance_between_nil (before : List Char) :
    (between before []).advance = between before [] := by
  simp [between, advance]

lemma advanceBy_between (before text rest : List Char) :
    (between before (text ++ rest)).advanceBy text.length = between (before ++ text) rest := by
  induction text generalizing before with
  | nil => simp [advanceBy]
  | cons c text ih => simp [advanceBy, ih]

lemma advanceWhile_of_any {p : Char → Bool} {c : Cursor} (h : c.current.any p = true) :
    c.advanceWhile p = c.advance.advanceWhile p := by
  rw [advanceWhile, dif_pos h]

lemma advanceWhile_of_not_any {p : Char → Bool} {c : Cursor} (h : c.current.any p = false) :
    c.advanceWhile p = c := by
  rw [advanceWhile, dif_neg (by simp [h])]

lemma advanceWhile_between {p : Char → Bool} (all : ∀ c ∈ text, p c = true)
    (stop : ∀ c ∈ rest.head?, p c = false) (before : List Char) :
    (between before (text ++ rest)).advanceWhile p = between (before ++ text) rest := by
  induction text generalizing before with
  | nil =>
    have hstop : (between before rest).current.any p = false := by
      cases rest with
      | nil => rfl
      | cons c cs => exact stop c rfl
    rw [List.nil_append, List.append_nil, advanceWhile_of_not_any hstop]
  | cons c text ih =>
    obtain ⟨hc, htext⟩ := List.forall_mem_cons.mp all
    have hany : (between before (c :: (text ++ rest))).current.any p = true := hc
    rw [List.cons_append, advanceWhile_of_any hany, advance_between_cons, ih htext,
      List.append_assoc, List.singleton_append]

lemma textUntil_between (before text rest : List Char) :
    (between before (text ++ rest)).textUntil (between (before ++ text) rest) =
      String.ofList text := by
  simp [textUntil, between]

lemma start_toArray (source : List Char) : start source.toArray = between [] source := by
  simp [start, advance, between, List.head?_eq_getElem?]

lemma ofString_eq (source : String) : ofString source = between [] source.toList :=
  start_toArray source.toList

lemma lexeme_between_cons (before : List Char) (c : Char) (cs : List Char) :
    (between before (c :: cs)).lexeme =
      match Sign.starting? c cs.head? with
      | some s => (⟨before.length, .sign s⟩, (between before (c :: cs)).advanceBy s.width)
      | none =>
        if isLetter c then
          (⟨before.length, .ofWord ((between before (c :: cs)).textUntil
            ((between before (c :: cs)).advanceWhile isLetter))⟩,
            (between before (c :: cs)).advanceWhile isLetter)
        else if isDigit c then
          (⟨before.length, .number ((between before (c :: cs)).textUntil
            ((between before (c :: cs)).advanceWhile isDigit))⟩,
            (between before (c :: cs)).advanceWhile isDigit)
        else (⟨before.length, .illegal⟩, (between before (c :: cs)).advance) := by
  rw [lexeme, following_between]
  rfl

/-- A step reads the text that stands after the cut and moves the cut behind it. -/
lemma lexeme_between {t : Token} (spelled : t.Spelled text) (stops : t.StopsBefore rest)
    (before : List Char) : (between before (text ++ rest)).lexeme =
      (⟨before.length, t⟩, between (before ++ text) rest) := by
  cases spelled with
  | sign s =>
    obtain ⟨c, cs, heq, hs⟩ := Token.starting?_of_spelling stops
    have hmove := advanceBy_between before s.spelling.toList rest
    rw [s.length_spelling, heq] at hmove
    rw [heq, lexeme_between_cons, hs, ← hmove]
  | @word text nonempty letters =>
    obtain ⟨c, cs, rfl⟩ := List.exists_cons_of_ne_nil nonempty
    have hc := letters c List.mem_cons_self
    have hstop : ∀ d ∈ rest.head?, isLetter d = false := by
      intro d hd
      simpa using stops d hd
    rw [List.cons_append, lexeme_between_cons, starting?_eq_none_of_isLetter hc, ← List.cons_append,
      advanceWhile_between letters hstop, textUntil_between]
    simp [hc]
  | @number c cs first digits =>
    have hc := digits c List.mem_cons_self
    rw [List.cons_append, lexeme_between_cons, starting?_eq_none_of_isDigit hc, ← List.cons_append,
      advanceWhile_between digits stops, textUntil_between]
    simp [hc, first]
  | @illegal c h =>
    obtain ⟨-, hs, hl, hd⟩ := isIllegal_iff.mp h
    rw [List.singleton_append, lexeme_between_cons, starting?_eq_none_iff.mpr hs]
    simp [hl, hd]

lemma lexeme_between_nil (before : List Char) :
    (between before []).lexeme = (⟨before.length, .eof⟩, between before []) := by
  rw [lexeme, advance_between_nil]
  rfl

lemma skipBlanks_between (blank : ∀ c ∈ gap, isBlank c = true)
    (stop : ∀ c ∈ rest.head?, isBlank c = false) (before : List Char) :
    (between before (gap ++ rest)).skipBlanks = between (before ++ gap) rest :=
  advanceWhile_between blank stop before

lemma next_between {t : Token} (blank : ∀ c ∈ gap, isBlank c = true) (spelled : t.Spelled text)
    (stops : t.StopsBefore rest) (before : List Char) :
    (between before (gap ++ (text ++ rest))).next =
      (⟨before.length + gap.length, t⟩, between (before ++ gap ++ text) rest) := by
  rw [next, skipBlanks_between blank (spelled.isBlank_head? rest), lexeme_between spelled stops,
    List.length_append]

lemma next_between_blanks (blank : ∀ c ∈ gap, isBlank c = true) (before : List Char) :
    (between before gap).next =
      (⟨before.length + gap.length, .eof⟩, between (before ++ gap) []) := by
  have hskip : (between before (gap ++ [])).skipBlanks = between (before ++ gap) [] :=
    skipBlanks_between blank (by simp) before
  rw [List.append_nil] at hskip
  rw [next, hskip, lexeme_between_nil, List.length_append]

/-- One step moves on over the characters it has read. Those in front of the cursor are kept and only
add to the index at which the lexeme starts. -/
theorem exists_next_between (rest : List Char) :
    ∃ k t read rest', rest = read ++ rest' ∧ ∀ before : List Char,
      (between before rest).next = (⟨before.length + k, t⟩, between (before ++ read) rest') := by
  obtain ⟨ls, h⟩ := Reads.exists_reads 0 rest
  cases h with
  | blanks blank => exact ⟨rest.length, .eof, rest, [], by simp, next_between_blanks blank⟩
  | @lexeme _ gap text tail t ls blank spelled stops _ =>
    refine ⟨gap.length, t, gap ++ text, tail, by simp, fun before => ?_⟩
    rw [next_between blank spelled stops, List.append_assoc]

/-- Any number of steps leads to a cut of the source. -/
theorem exists_after_between (k : ℕ) (rest : List Char) :
    ∃ read rest', rest = read ++ rest' ∧ ∀ before : List Char,
      (between before rest).after k = between (before ++ read) rest' := by
  induction k generalizing rest with
  | zero => exact ⟨[], rest, rfl, fun before => by simp [after]⟩
  | succ k ih =>
    obtain ⟨_, _, read, mid, rfl, hnext⟩ := exists_next_between rest
    obtain ⟨more, rest', rfl, hafter⟩ := ih mid
    refine ⟨read ++ more, rest', by simp, fun before => ?_⟩
    rw [after, hnext, hafter, List.append_assoc]

theorem exists_after_ofString (source : String) (k : ℕ) :
    ∃ before rest, source.toList = before ++ rest ∧
      (ofString source).after k = between before rest := by
  obtain ⟨read, rest, hsource, hafter⟩ := exists_after_between k source.toList
  exact ⟨read, rest, hsource, by rw [ofString_eq, hafter, List.nil_append]⟩

end ScriptLexer.Cursor

namespace ScriptLexer
open Cursor

/-- What a cursor still gives is the reading of the characters after the cut. -/
theorem Reads.toList_eq {n : ℕ} {cs : List Char} {ls : List Lexeme} (h : Reads n cs ls) :
    ∀ before : List Char, before.length = n →
      (Stream.ofCursor (between before cs)).toList = ls ++ [⟨n + cs.length, .eof⟩] := by
  induction h with
  | @blanks n gap blank =>
    rintro before rfl
    rw [Stream.toList_ofCursor, next_between_blanks blank]
    rfl
  | @lexeme n gap text rest t ls blank spelled stops tail ih =>
    rintro before rfl
    have htail := ih (before ++ gap ++ text) (by simp [Nat.add_assoc])
    rw [Stream.toList_ofCursor, next_between blank spelled stops]
    simp only [if_neg spelled.ne_eof, htail, List.length_append, List.cons_append, Nat.add_assoc]

/-- The steps of a cursor one by one: what each gives, and where it leaves the cursor. -/
theorem Reads.after_eq {n : ℕ} {cs : List Char} {ls : List Lexeme} (h : Reads n cs ls) :
    ∀ before : List Char, before.length = n → ∀ (i : ℕ) (l : Lexeme),
      (ls ++ [⟨n + cs.length, .eof⟩])[i]? = some l →
        ((between before cs).after i).next.1 = l ∧
          ((between before cs).after (i + 1)).position = l.stop := by
  induction h with
  | @blanks n gap blank =>
    rintro before rfl i l hl
    cases i with
    | zero =>
      obtain rfl := Option.some.inj hl
      rw [after, after, after, next_between_blanks blank]
      simp [Lexeme.stop, Token.width]
    | succ i => simp at hl
  | @lexeme n gap text rest t ls blank spelled stops tail ih =>
    rintro before rfl i l hl
    cases i with
    | zero =>
      obtain rfl := Option.some.inj hl
      rw [after, after, after, next_between blank spelled stops]
      simp [Lexeme.stop, spelled.width_eq, Nat.add_assoc]
    | succ i =>
      have htail := ih (before ++ gap ++ text) (by simp [Nat.add_assoc]) i l
        (by simpa [Nat.add_assoc] using hl)
      rw [after, after, next_between blank spelled stops]
      exact htail

theorem Reads.lexemes_eq {source : String} {ls : List Lexeme} (h : Reads 0 source.toList ls) :
    lexemes source = ls ++ [⟨source.length, .eof⟩] := by
  rw [lexemes, ofString_eq, h.toList_eq [] rfl, Nat.zero_add, String.length_toList]

/-- A source has the lexemes of a reading and the end token behind its last character. -/
theorem exists_reads_lexemes (source : String) :
    ∃ ls, Reads 0 source.toList ls ∧ lexemes source = ls ++ [⟨source.length, .eof⟩] := by
  obtain ⟨ls, h⟩ := Reads.exists_reads 0 source.toList
  exact ⟨ls, h, h.lexemes_eq⟩

end ScriptLexer
