/-! Sets of code points as ascending lists of closed ranges. Membership stops at the first range
that lies wholly above the number asked for, so a small number costs a short walk; that no later
range can hold the number is what `Ascending` says. -/
namespace ScriptLexer.CodePoint

/-- Closed ranges of code points, each as its first and its last member. -/
abbrev Ranges := List (Nat × Nat)

namespace Ranges

/-- Every range is inhabited and starts above all ranges before it. -/
def AscendingFrom : Nat → Ranges → Prop
  | _, [] => True
  | least, (first, last) :: rest => least ≤ first ∧ first ≤ last ∧ AscendingFrom (last + 1) rest

def Ascending (ranges : Ranges) : Prop := AscendingFrom 0 ranges

instance decidableAscendingFrom : (least : Nat) → (ranges : Ranges) →
    Decidable (AscendingFrom least ranges)
  | _, [] => isTrue trivial
  | least, (first, last) :: rest =>
    have := decidableAscendingFrom (last + 1) rest
    inferInstanceAs (Decidable (least ≤ first ∧ first ≤ last ∧ AscendingFrom (last + 1) rest))

instance (ranges : Ranges) : Decidable ranges.Ascending :=
  inferInstanceAs (Decidable (AscendingFrom 0 ranges))

/-- Whether one of the ranges holds `n`, for ranges in ascending order. -/
def holds : Ranges → Nat → Bool
  | [], _ => false
  | (first, last) :: rest, n => if n < first then false else if n ≤ last then true else holds rest n

theorem AscendingFrom.le_of_mem {ranges : Ranges} {least first last : Nat}
    (h : AscendingFrom least ranges) (hr : (first, last) ∈ ranges) : least ≤ first := by
  induction ranges generalizing least with
  | nil => simp at hr
  | cons range rest ih =>
    obtain ⟨a, b⟩ := range
    obtain ⟨ha, hab, hrest⟩ := h
    rcases List.mem_cons.mp hr with heq | hmem
    · cases heq; exact ha
    · have := ih hrest hmem; omega

theorem AscendingFrom.holds_iff {ranges : Ranges} {least : Nat} (h : AscendingFrom least ranges)
    (n : Nat) : ranges.holds n = true ↔ ∃ r ∈ ranges, r.1 ≤ n ∧ n ≤ r.2 := by
  induction ranges generalizing least with
  | nil => simp [holds]
  | cons range rest ih =>
    obtain ⟨a, b⟩ := range
    obtain ⟨ha, hab, hrest⟩ := h
    have hih := ih hrest
    by_cases hlow : n < a
    · have hnone : ¬ ∃ r ∈ (a, b) :: rest, r.1 ≤ n ∧ n ≤ r.2 := by
        rintro ⟨⟨x, y⟩, hr, hx, hy⟩
        rcases List.mem_cons.mp hr with heq | hmem
        · cases heq; omega
        · have := hrest.le_of_mem hmem; omega
      exact iff_of_false (by simp [holds, hlow]) hnone
    · by_cases hin : n ≤ b
      · exact iff_of_true (by simp [holds, hlow, hin])
          ⟨(a, b), List.mem_cons_self, Nat.le_of_not_lt hlow, hin⟩
      · simp [holds, hlow, hin, hih]

/-- Membership in an ascending list is membership in one of its ranges. -/
theorem Ascending.holds_iff {ranges : Ranges} (h : ranges.Ascending) (n : Nat) :
    ranges.holds n = true ↔ ∃ r ∈ ranges, r.1 ≤ n ∧ n ≤ r.2 :=
  AscendingFrom.holds_iff h n

end Ranges
end ScriptLexer.CodePoint
