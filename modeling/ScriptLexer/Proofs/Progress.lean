import ScriptLexer.Proofs.Session
import ScriptLexer.Proofs.Strict

/-! Every step but one that meets the end moves the cursor on, and the end is met as soon as nothing
but blanks is left. So both loops over the steps of a source come to their end, after as many steps
as there are characters that are no blanks and one more at most. -/
namespace ScriptLexer
open Alphabet

/-- What the step with number `i` over a source gives, the steps counted from zero. -/
def nthLexeme (source : String) (i : ℕ) : Lexeme := ((Cursor.ofString source).after i).next.1

/-- Each lexeme of a reading takes a character that is no blank. -/
lemma Reads.length_le_countP {n : ℕ} {cs : List Char} {ls : List Lexeme} (h : Reads n cs ls) :
    ls.length ≤ cs.countP fun c => !isBlank c := by
  induction h with
  | blanks _ => exact Nat.zero_le _
  | @lexeme n gap text rest t ls blank spelled stops tail ih =>
    have htext : (text.countP fun c => !isBlank c) = text.length := by
      rw [List.countP_eq_length]
      intro c hc
      simp [spelled.isBlank_eq_false c hc]
    have hpos := List.length_pos_iff.mpr spelled.ne_nil
    rw [List.countP_append, List.countP_append, htext, List.length_cons]
    omega

namespace Cursor
variable {source before rest : List Char} {c : Cursor}

lemma token_next_between_eq_eof_iff :
    (between before rest).next.1.token = .eof ↔ ∀ c ∈ rest, isBlank c = true := by
  constructor
  · intro heof
    obtain ⟨ls, h⟩ := Reads.exists_reads 0 rest
    cases h with
    | blanks blank => exact blank
    | lexeme blank spelled stops _ =>
      rw [next_between blank spelled stops] at heof
      exact absurd heof spelled.ne_eof
  · intro blank
    rw [next_between_blanks blank]

/-- The end token is given exactly if only blanks are still to come. -/
theorem Valid.token_next_eq_eof_iff (h : c.Valid source) :
    c.next.1.token = .eof ↔ ∀ ch ∈ source.drop c.position, isBlank ch = true := by
  obtain ⟨before, rest, rfl, rfl⟩ := h.exists_between
  rw [position_between, List.drop_left]
  exact token_next_between_eq_eof_iff

/-- A step that gives another token moves the cursor on. -/
theorem Valid.position_lt_next (h : c.Valid source) (ht : c.next.1.token ≠ .eof) :
    c.position < c.next.2.position := by
  obtain ⟨before, rest, rfl, rfl⟩ := h.exists_between
  obtain ⟨ls, hreads⟩ := Reads.exists_reads 0 rest
  cases hreads with
  | blanks blank => exact absurd (token_next_between_eq_eof_iff.mpr blank) ht
  | @lexeme _ gap text rest t ls blank spelled stops _ =>
    have hpos := List.length_pos_iff.mpr spelled.ne_nil
    rw [next_between blank spelled stops]
    simp only [position_between, List.length_append]
    omega

end Cursor

lemma nthLexeme_of_getElem? {source : String} {i : ℕ} {l : Lexeme}
    (h : (lexemes source)[i]? = some l) : nthLexeme source i = l := by
  obtain ⟨ls, hread, hlex⟩ := exists_reads_lexemes source
  rw [hlex, ← String.length_toList, ← Nat.zero_add source.toList.length] at h
  rw [nthLexeme, Cursor.ofString_eq]
  exact (hread.after_eq [] rfl i l h).1

/-- The lenient loop takes one step for each of its lexemes. -/
lemma lexemes_eq_map_range (source : String) :
    lexemes source = (List.range (lexemes source).length).map (nthLexeme source) := by
  apply List.ext_getElem (by simp)
  intro i hi _
  rw [List.getElem_map, List.getElem_range]
  exact (nthLexeme_of_getElem? (List.getElem?_eq_getElem hi)).symm

/-- The strict loop ends at the first step that gives the end token or an illegal one. -/
lemma StrictReading.exists_lexemes_ofCursor (c : Cursor) :
    ∃ j, (ofCursor c).lexemes = (List.range (j + 1)).map (fun i => (c.after i).next.1) ∧
      (∀ i < j, (c.after i).next.1.token ≠ .eof ∧ (c.after i).next.1.token ≠ .illegal) ∧
      ((c.after j).next.1.token = .eof ∨ (c.after j).next.1.token = .illegal) := by
  fun_induction ofCursor c with
  | case1 c heof => exact ⟨0, rfl, by simp, .inl heof⟩
  | case2 c _ hill => exact ⟨0, rfl, by simp, .inr hill⟩
  | case3 c heof hill _ tail ih =>
    obtain ⟨j, hlexemes, hbefore, hend⟩ := ih
    refine ⟨j + 1, ?_, fun i hi => ?_, hend⟩
    · rw [List.range_succ_eq_map, List.map_cons, List.map_map]
      exact congrArg (c.next.1 :: ·) hlexemes
    · cases i with
      | zero => exact ⟨heof, hill⟩
      | succ i => exact hbefore i (by omega)

/-- The lenient loop ends at the first step that gives the end token, which comes after no more other
tokens than the source has characters that are no blanks. -/
lemma exists_lexemes_eq_map_range (source : String) :
    ∃ k, lexemes source = (List.range (k + 1)).map (nthLexeme source) ∧
      (∀ i < k, (nthLexeme source i).token ≠ .eof) ∧ (nthLexeme source k).token = .eof ∧
      k ≤ source.toList.countP fun c => !isBlank c := by
  obtain ⟨ls, hread, hlex⟩ := exists_reads_lexemes source
  have hsteps := lexemes_eq_map_range source
  have hlength : (lexemes source).length = ls.length + 1 := by simp [hlex]
  rw [hlength] at hsteps
  refine ⟨ls.length, hsteps, fun i hi => ?_, ?_, hread.length_le_countP⟩
  · have hget : (lexemes source)[i]? = some ls[i] := by
      rw [hlex, List.getElem?_append_left hi, List.getElem?_eq_getElem hi]
    rw [nthLexeme_of_getElem? hget]
    exact hread.token_ne_eof (List.getElem_mem hi)
  · have hget : (lexemes source)[ls.length]? = some ⟨source.length, .eof⟩ := by simp [hlex]
    rw [nthLexeme_of_getElem? hget]

/-- A step of a cursor that can be reached gives the end token exactly if only blanks are left, and
any other step moves the cursor on within the source. So the lenient loop ends at the first end
token and the strict one there or at an illegal token before it; the end token comes once, last, and
there are no more tokens before it than characters that are no blanks. -/
theorem next_progresses {source : String} {s : Session} {c : Cursor} (h : s.Reachable source)
    (hc : c ∈ s.cursor :: s.saved) :
    (c.next.1.token = .eof ↔ ∀ ch ∈ source.toList.drop c.position, isBlank ch = true) ∧
      (c.next.1.token ≠ .eof →
        c.position < c.next.2.position ∧ c.next.2.position ≤ source.length) ∧
      (∃ k, lexemes source = (List.range (k + 1)).map (nthLexeme source) ∧
        (∀ i < k, (nthLexeme source i).token ≠ .eof) ∧ (nthLexeme source k).token = .eof ∧
        ∃ j ≤ k, (StrictReading.ofString source).lexemes =
            (List.range (j + 1)).map (nthLexeme source) ∧
          (∀ i < j, (nthLexeme source i).token ≠ .illegal) ∧
          ((nthLexeme source j).token = .eof ∨ (nthLexeme source j).token = .illegal)) ∧
      (∃ ts, lex source = ts ++ [.eof] ∧ .eof ∉ ts) ∧
      (lex source).length ≤ 1 + source.toList.countP fun ch => !isBlank ch := by
  have hvalid := h.valid c hc
  obtain ⟨k, hlenient, hbefore, hend, hcount⟩ := exists_lexemes_eq_map_range source
  refine ⟨hvalid.token_next_eq_eof_iff, fun ht => ⟨hvalid.position_lt_next ht, ?_⟩,
    ⟨k, hlenient, hbefore, hend, ?_⟩, ?_, ?_⟩
  · rw [← String.length_toList]
    exact hvalid.next.1.position_le
  · obtain ⟨j, hstrict, hnot, hstop⟩ :=
      StrictReading.exists_lexemes_ofCursor (Cursor.ofString source)
    have hle : j ≤ k := by
      by_contra hlt
      exact (hnot k (Nat.lt_of_not_le hlt)).1 hend
    exact ⟨j, hle, hstrict, fun i hi => (hnot i hi).2, hstop⟩
  · refine ⟨(List.range k).map fun i => (nthLexeme source i).token, ?_, ?_⟩
    · rw [lex, hlenient, List.range_succ, List.map_append, List.map_append, List.map_map]
      simp [hend]
    · rw [List.mem_map]
      rintro ⟨i, hi, heof⟩
      exact hbefore i (List.mem_range.mp hi) heof
  · rw [lex, hlenient, List.length_map, List.length_map, List.length_range]
    omega

/-- A cursor in front of two blanks and one that was laid down in front of a sign. -/
theorem next_progresses_laid_down :
    ((Session.start "a= \n").read.2.save.read.2.cursor.next.1.token = .eof ∧
      ∀ ch ∈ "a= \n".toList.drop (Session.start "a= \n").read.2.save.read.2.cursor.position,
        isBlank ch = true) ∧
    ((Session.start "a= \n").read.2.cursor.next.1.token ≠ .eof ∧
      (Session.start "a= \n").read.2.cursor.position <
        (Session.start "a= \n").read.2.cursor.next.2.position) ∧
    (lex "a= \n").length ≤ 1 + "a= \n".toList.countP fun ch => !isBlank ch := by
  have hreach : Session.Reachable "a= \n" (Session.start "a= \n").read.2.save.read.2 :=
    .read (.save (.read .start))
  have heof : (Session.start "a= \n").read.2.save.read.2.cursor.next.1.token = .eof := by
    decide +kernel
  have htoken : (Session.start "a= \n").read.2.cursor.next.1.token ≠ .eof := by decide +kernel
  obtain ⟨hend, -, -, -, hlength⟩ := next_progresses hreach List.mem_cons_self
  obtain ⟨-, hmove, -⟩ := next_progresses hreach (List.mem_cons_of_mem _ List.mem_cons_self)
  exact ⟨⟨heof, hend.mp heof⟩, ⟨htoken, (hmove htoken).1⟩, hlength⟩

end ScriptLexer
