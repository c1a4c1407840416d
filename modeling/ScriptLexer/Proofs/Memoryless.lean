import ScriptLexer.Proofs.Cursor
import ScriptLexer.Proofs.Cut

/-! A cursor remembers nothing of what it has passed but how much that was. Two cursors with the same
characters still to come give the same tokens for ever, at indices that always differ by the same
number; so reading may be taken up at any place as if the source began there. -/
namespace ScriptLexer
open Alphabet Cursor

variable {before rest : List Char}

/-- What any number of steps reads and gives does not depend on the characters before the cursor. -/
lemma after_between_shift (k : ℕ) (before rest : List Char) :
    ((between before rest).after k).next.1 =
        ((between [] rest).after k).next.1.shift before.length ∧
      ((between before rest).after k).position =
        ((between [] rest).after k).position + before.length ∧
      ((between before rest).after k).current = ((between [] rest).after k).current := by
  obtain ⟨read, rest', rfl, hafter⟩ := exists_after_between k rest
  obtain ⟨n, t, _, _, _, hnext⟩ := exists_next_between rest'
  rw [hafter before, hafter [], hnext, hnext]
  refine ⟨?_, ?_, rfl⟩
  · have hstart : (before ++ read).length + n = ([] ++ read).length + n + before.length := by
      simp only [List.length_append, List.length_nil]
      omega
    exact congrArg (Lexeme.mk · t) hstart
  · simp only [position_between, List.length_append, List.length_nil]
    omega

lemma next_between_of_eof (h : (between before rest).next.1.token = .eof) :
    (between before rest).next.2 = between (before ++ rest) [] := by
  obtain ⟨ls, hread⟩ := Reads.exists_reads 0 rest
  cases hread with
  | blanks blank => rw [next_between_blanks blank]
  | lexeme blank spelled stops _ =>
    rw [next_between blank spelled stops] at h
    exact absurd h spelled.ne_eof

/-- At the end of the source a step gives the end token and changes nothing. -/
lemma next_between_nil (before : List Char) :
    (between before []).next = (⟨before.length, .eof⟩, between before []) := by
  have hblank : ∀ c ∈ ([] : List Char), isBlank c = true := by simp
  rw [next_between_blanks hblank, List.append_nil, List.length_nil, Nat.add_zero]

lemma after_between_nil (k : ℕ) (before : List Char) :
    (between before []).after k = between before [] := by
  induction k with
  | zero => rfl
  | succ k ih => rw [after, next_between_nil, ih]

/-- A stream made behind the end token gives that token once more. -/
lemma toList_after_of_eof {j : ℕ}
    (h : ∃ i < j, ((between before rest).after i).next.1.token = .eof) :
    (Stream.ofCursor ((between before rest).after j)).toList.map (·.token) = [.eof] := by
  induction j generalizing before rest with
  | zero => simp at h
  | succ j ih =>
    obtain ⟨i, hi, heof⟩ := h
    cases i with
    | zero =>
      have hend : Reads (before ++ rest).length [] [] := .blanks (by simp)
      rw [after, next_between_of_eof heof, after_between_nil, hend.toList_eq _ rfl]
      rfl
    | succ i =>
      obtain ⟨_, _, read, rest', rfl, hnext⟩ := exists_next_between rest
      rw [after, hnext] at heof ⊢
      exact ih ⟨i, by omega, heof⟩

/-- Before that it gives what the stream of the first cursor gives after as many lexemes. -/
lemma toList_after {j : ℕ} {c : Cursor} (h : ∀ i < j, (c.after i).next.1.token ≠ .eof) :
    (Stream.ofCursor (c.after j)).toList = (Stream.ofCursor c).toList.drop j := by
  induction j generalizing c with
  | zero => rfl
  | succ j ih =>
    have hfirst : c.next.1.token ≠ .eof := h 0 (Nat.succ_pos j)
    rw [after, ih fun i hi => h (i + 1) (Nat.succ_lt_succ hi), Stream.toList_ofCursor c,
      if_neg hfirst, List.drop_succ_cons]

/-- After any number of steps a cursor reads on as a new one does that starts with the characters from
its position on, each index being greater by this position. A stream made of it gives the tokens of
the source that have not been given, or the end token alone if that has been given. -/
theorem after_eq_fresh (source : String) (j : ℕ) :
    let c := (ofString source).after j
    let fresh := ofString (String.ofList (source.toList.drop c.position))
    (∀ k, (c.after k).next.1 = (fresh.after k).next.1.shift c.position ∧
        (c.after k).position = (fresh.after k).position + c.position ∧
        (c.after k).current = (fresh.after k).current) ∧
      (Stream.ofCursor c).toList.map (·.token) =
        if ∃ i < j, ((ofString source).after i).next.1.token = .eof then [.eof]
        else (lex source).drop j := by
  intro c fresh
  refine ⟨fun k => ?_, ?_⟩
  · obtain ⟨before, rest, hsource, hafter⟩ := exists_after_ofString source j
    have hc : c = between before rest := hafter
    have hdrop : source.toList.drop c.position = rest := by
      rw [hsource, hc, position_between, List.drop_left]
    have hfresh : fresh = between [] rest := by
      calc fresh = between [] (String.ofList (source.toList.drop c.position)).toList :=
            ofString_eq _
        _ = between [] rest := by rw [String.toList_ofList, hdrop]
    rw [hfresh, hc, position_between]
    exact after_between_shift k before rest
  · by_cases h : ∃ i < j, ((ofString source).after i).next.1.token = .eof
    · rw [if_pos h]
      rw [ofString_eq] at h
      have hend := toList_after_of_eof h
      rwa [← ofString_eq] at hend
    · rw [if_neg h]
      push Not at h
      rw [toList_after h, List.map_drop]
      rfl

end ScriptLexer
