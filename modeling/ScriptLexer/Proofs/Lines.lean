import Mathlib
import ScriptLexer.Line

/-! The lines of a text one by one. A text is empty, or a last line without a line feed, or a line
with its line feed in front of another text: what holds along these three cases holds of every text.
Of the lines in front of a place only the number and the length count. -/
namespace ScriptLexer

variable {l : List Char}

/-- The index of the first character of the line with index `j`. -/
def lineStart (ls : List (List Char)) (j : ℕ) : ℕ := ((ls.take j).map List.length).sum

lemma isChain_line (h : '\n' ∉ l) : (l ++ ['\n']).IsChain fun c _ => c != '\n' := by
  have hne : ∀ c ∈ l, (c != '\n') = true := by
    intro c hc
    simpa using ne_of_mem_of_not_mem hc h
  apply List.Pairwise.isChain
  rw [List.pairwise_append]
  refine ⟨?_, List.pairwise_singleton _ _, fun c hc _ _ => hne c hc⟩
  exact List.pairwise_of_forall_mem_list fun c hc _ _ => hne c hc

@[simp] lemma lines_nil : lines [] = [] := rfl

@[simp] lemma flatten_lines (cs : List Char) : (lines cs).flatten = cs := List.flatten_splitBy _ cs

lemma lines_last (nonempty : l ≠ []) (h : '\n' ∉ l) : lines l = [l] :=
  List.splitBy_of_isChain nonempty (isChain_line h).left_of_append

lemma lines_cons (h : '\n' ∉ l) (rest : List Char) :
    lines (l ++ '\n' :: rest) = (l ++ ['\n']) :: lines rest := by
  have hline : lines (l ++ ['\n']) = [l ++ ['\n']] :=
    List.splitBy_of_isChain (by simp) (isChain_line h)
  have hends : ∀ c ∈ (l ++ ['\n']).getLast?, ∀ d ∈ rest.head?, (c != '\n') = false := by
    simp
  have hsplit : lines (l ++ ['\n'] ++ rest) = lines (l ++ ['\n']) ++ lines rest :=
    List.splitBy_append hends
  rw [List.append_cons, hsplit, hline, List.singleton_append]

theorem lines_induction {motive : List Char → Prop} (nil : motive [])
    (last : ∀ l, l ≠ [] → '\n' ∉ l → motive l)
    (cons : ∀ l rest, '\n' ∉ l → motive rest → motive (l ++ '\n' :: rest)) (cs : List Char) :
    motive cs := by
  induction hk : cs.length using Nat.strong_induction_on generalizing cs with
  | _ k ih =>
    by_cases h : '\n' ∈ cs
    · obtain ⟨l, rest, rfl, hl⟩ := List.eq_append_cons_of_mem h
      have hlt : rest.length < k := by
        simp only [List.length_append, List.length_cons] at hk
        omega
      exact cons l rest hl (ih _ hlt rest rfl)
    · by_cases hcs : cs = []
      · exact hcs ▸ nil
      · exact last cs hcs h

namespace Spot

lemma within?_last (hl : '\n' ∉ l) {n : ℕ} (hn : n < l.length) (number : ℕ) :
    within? number (lines l) n = some ⟨number, l, n⟩ := by
  rw [lines_last (List.ne_nil_of_length_pos (Nat.zero_lt_of_lt hn)) hl, within?, if_pos hn]

lemma within?_line (hl : '\n' ∉ l) {n : ℕ} (hn : n < l.length) (number : ℕ) (rest : List Char) :
    within? number (lines (l ++ '\n' :: rest)) n = some ⟨number, l ++ ['\n'], n⟩ := by
  rw [lines_cons hl, within?, if_pos (by rw [List.length_append]; omega)]

lemma within?_behind_line (hl : '\n' ∉ l) (number n : ℕ) (rest : List Char) :
    within? number (lines (l ++ '\n' :: rest)) ((l ++ ['\n']).length + n) =
      within? (number + 1) (lines rest) n := by
  rw [lines_cons hl, within?, if_neg (by omega), Nat.add_sub_cancel_left]

end Spot
end ScriptLexer
