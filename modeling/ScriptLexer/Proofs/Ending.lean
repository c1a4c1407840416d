import ScriptLexer.Proofs.Memoryless
import ScriptLexer.Proofs.Progress

/-! Reading on behind the end. The step that meets the end puts the cursor behind the last character,
and from there a step changes nothing and gives the end token again. A stream does not repeat it: it
keeps its own record of having given the end token, so it gives that token once wherever the cursor
it was made of stood, and nothing after it. -/
namespace ScriptLexer
open Cursor

variable {source : String} {c : Cursor}

/-- The cursors on which some step has given the end token. Laying a cursor down and taking it up
does not change it, so only steps are counted. -/
inductive Exhausted (source : String) : Cursor → Prop
  | first {s : Session} {c : Cursor} (h : s.Reachable source) (hc : c ∈ s.cursor :: s.saved)
      (eof : c.next.1.token = .eof) : Exhausted source c.next.2
  | again {c : Cursor} (h : Exhausted source c) : Exhausted source c.next.2

/-- The step that meets the end says where the source ends and leaves the cursor there. -/
lemma Cursor.Valid.next_of_eof {cs : List Char} (h : c.Valid cs) (ht : c.next.1.token = .eof) :
    c.next = (⟨cs.length, .eof⟩, between cs []) := by
  obtain ⟨before, rest, rfl, rfl⟩ := h.exists_between
  rw [next_between_blanks (token_next_between_eq_eof_iff.mp ht), List.length_append]

lemma Cursor.Valid.after {cs : List Char} (h : c.Valid cs) (k : ℕ) : (c.after k).Valid cs := by
  induction k generalizing c with
  | zero => exact h
  | succ k ih => exact ih h.next.1

theorem Exhausted.eq_between (h : Exhausted source c) : c = between source.toList [] := by
  induction h with
  | first h hc eof => rw [(h.valid _ hc).next_of_eof eof]
  | again _ ih => rw [ih, next_between_nil]

/-- Every cursor meets the end after some number of steps. -/
lemma Cursor.exists_first_eof (c : Cursor) :
    ∃ k, (∀ i < k, (c.after i).next.1.token ≠ .eof) ∧ (c.after k).next.1.token = .eof := by
  induction hn : c.unread using Nat.strong_induction_on generalizing c with
  | _ n ih =>
    by_cases heof : c.next.1.token = .eof
    · exact ⟨0, by simp, heof⟩
    · obtain ⟨k, hbefore, hend⟩ := ih _ (hn ▸ unread_next_lt heof) c.next.2 rfl
      refine ⟨k + 1, fun i hi => ?_, hend⟩
      cases i with
      | zero => exact heof
      | succ i => exact hbefore i (Nat.lt_of_succ_lt_succ hi)

namespace Stream

lemma pull_of_finished {s : Stream} (h : s.finished = true) (m : ℕ) :
    s.pull m = List.replicate m none := by
  have hnext : s.next = (none, s) := by rw [next, if_pos h]
  induction m with
  | zero => rfl
  | succ m ih => rw [pull, hnext, ih, List.replicate_succ]

/-- The first request to a stream gives the next lexeme of its cursor; the others go to a stream that
has given the end token if this was it. -/
lemma pull_ofCursor_succ (c : Cursor) (m : ℕ) : (ofCursor c).pull (m + 1) =
    some c.next.1 :: pull m ⟨c.next.2, c.next.1.token == .eof⟩ := rfl

/-- A stream gives what the steps of its cursor give up to the first end token, and then nothing. -/
theorem pull_ofCursor {k : ℕ} (before : ∀ i < k, (c.after i).next.1.token ≠ .eof)
    (eof : (c.after k).next.1.token = .eof) (m : ℕ) : (ofCursor c).pull m =
      (List.range m).map fun i => if i ≤ k then some (c.after i).next.1 else none := by
  induction m generalizing c k with
  | zero => rfl
  | succ m ih =>
    rw [pull_ofCursor_succ, List.range_succ_eq_map, List.map_cons, List.map_map]
    cases k with
    | zero =>
      have hlater : ((fun i => if i ≤ 0 then some (c.after i).next.1 else none) ∘ Nat.succ) =
          fun _ => none := by
        funext i
        simp
      have heof : c.next.1.token = .eof := eof
      rw [hlater, pull_of_finished (by simp [heof]), List.map_const', List.length_range]
      rfl
    | succ k =>
      have hfirst : c.next.1.token ≠ .eof := before 0 (Nat.succ_pos k)
      have htail := ih (c := c.next.2) (fun i hi => before (i + 1) (Nat.succ_lt_succ hi)) eof
      rw [beq_eq_false_iff_ne.mpr hfirst, ← ofCursor, htail]
      refine congrArg₂ _ rfl (List.map_congr_left fun i _ => ?_)
      simp only [Function.comp_apply, Nat.succ_eq_add_one, Nat.add_le_add_iff_right, after]

end Stream

/-- A cursor on which some step has given the end token stands behind the last character, and any
number of further steps give that token there and leave the cursor as it is. A stream made of a
cursor that can be reached, exhausted or not, gives the lexemes that steps of the cursor give before
the end token, then this token once, and nothing to all later requests. -/
theorem fused_behind_end (source : String) :
    (∀ c, Exhausted source c →
      c.source = source.toList.toArray ∧ c.position = source.length ∧
        c.ahead = source.length + 1 ∧ c.current = none ∧
        ∀ k, c.after k = c ∧ (c.after k).next = (⟨source.length, .eof⟩, c)) ∧
      ∀ (s : Session) (c : Cursor), s.Reachable source → c ∈ s.cursor :: s.saved →
        ∃ k, (∀ i < k, (c.after i).next.1.token ≠ .eof) ∧
          (c.after k).next.1 = ⟨source.length, .eof⟩ ∧
          ∀ m, (Stream.ofCursor c).pull m =
            (List.range m).map fun i => if i ≤ k then some (c.after i).next.1 else none := by
  refine ⟨fun c h => ?_, fun s c h hc => ?_⟩
  · obtain rfl := h.eq_between
    have hvalid := valid_between source.toList []
    rw [List.append_nil] at hvalid
    rw [← String.length_toList]
    refine ⟨hvalid.source_eq, rfl, rfl, rfl, fun k => ?_⟩
    rw [after_between_nil, next_between_nil]
    exact ⟨rfl, rfl⟩
  · obtain ⟨k, hbefore, hend⟩ := exists_first_eof c
    have hlast := ((h.valid c hc).after k).next_of_eof hend
    rw [String.length_toList] at hlast
    exact ⟨k, hbefore, by rw [hlast], Stream.pull_ofCursor hbefore hend⟩

/-- A cursor behind a word: three steps on it all give the end token, and so does its stream once. -/
theorem fused_behind_end_word :
    (Session.Reachable "a " (Session.start "a ").read.2 ∧
      Exhausted "a " ((Cursor.ofString "a ").after 3)) ∧
    (((Cursor.ofString "a ").after 3).position = 2 ∧
      ∀ k, (((Cursor.ofString "a ").after 3).after k).next =
        (⟨2, .eof⟩, (Cursor.ofString "a ").after 3)) ∧
    (Stream.ofCursor ((Cursor.ofString "a ").after 1)).pull 3 = [some ⟨2, .eof⟩, none, none] := by
  have hreach : Session.Reachable "a " (Session.start "a ").read.2 := .read .start
  have heof : ((Cursor.ofString "a ").after 1).next.1.token = .eof := by decide +kernel
  have hexhausted : Exhausted "a " ((Cursor.ofString "a ").after 3) :=
    .again (.first hreach List.mem_cons_self heof)
  obtain ⟨hend, hstream⟩ := fused_behind_end "a "
  obtain ⟨-, hposition, -, -, hsteps⟩ := hend _ hexhausted
  obtain ⟨k, hbefore, -, hpull⟩ := hstream _ ((Cursor.ofString "a ").after 1) hreach
    List.mem_cons_self
  obtain rfl : k = 0 := by
    by_contra hk
    exact hbefore 0 (Nat.pos_of_ne_zero hk) heof
  refine ⟨⟨hreach, hexhausted⟩, ⟨hposition, fun k => (hsteps k).2⟩, ?_⟩
  rw [hpull]
  decide +kernel

end ScriptLexer
