import Mathlib
import ScriptLexer.Text.Escape

/-! Escaped text hides nothing: every character of it shows itself, also where the escaped one does
not. -/
namespace ScriptLexer.Text

lemma exists_digitChar_of_mem_toDigits {b n : ℕ} {c : Char} (hb : 1 < b)
    (h : c ∈ Nat.toDigits b n) : ∃ k < b, c = Nat.digitChar k := by
  induction n using Nat.strong_induction_on with
  | _ n ih =>
    rcases Nat.lt_or_ge n b with hlt | hge
    · rw [Nat.toDigits_of_lt_base hlt, List.mem_singleton] at h
      exact ⟨n, hlt, h⟩
    · rw [Nat.toDigits_of_base_le hb hge, List.mem_append, List.mem_singleton] at h
      rcases h with h | h
      · exact ih (n / b) (Nat.div_lt_self (by omega) hb) h
      · exact ⟨n % b, Nat.mod_lt n (by omega), h⟩

/-- The characters that stand in escapes besides the escaped ones. -/
def marks : List Char :=
  ['\\', '0', 't', 'n', 'r', 'u', '\x7b', '\x7d', '\x27', '\x22'] ++
    (List.range 16).map Nat.digitChar

lemma isHidden_eq_false_of_mem_marks {c : Char} (h : c ∈ marks) : isHidden c = false := by
  have hall : marks.all (fun c => !isHidden c) = true := by decide +kernel
  simpa using List.all_eq_true.mp hall c h

lemma mem_marks_of_shortEscape? {c letter : Char} (h : shortEscape? c = some letter) :
    letter ∈ marks := by
  unfold shortEscape? at h
  split at h <;> cases h <;> decide

lemma mem_marks_of_escapes {q : Quotes} {c : Char} (h : q.escapes c = true) : c ∈ marks := by
  have hc : c = '\x27' ∨ c = '\x22' := by
    simp only [Quotes.escapes, Bool.or_eq_true, Bool.and_eq_true, beq_iff_eq] at h
    exact h.imp And.left And.left
  rcases hc with rfl | rfl <;> decide

lemma mem_marks_of_mem_numbered {c d : Char} (h : d ∈ numbered c) : d ∈ marks := by
  rw [numbered, List.mem_append, List.mem_append] at h
  rcases h with (h | h) | h
  · have hopen : ['\\', 'u', '\x7b'] ⊆ marks := by decide
    exact hopen h
  · obtain ⟨k, hk, rfl⟩ := exists_digitChar_of_mem_toDigits (by decide) h
    exact List.mem_append_right _ (List.mem_map_of_mem (List.mem_range.mpr hk))
  · rw [List.mem_singleton.mp h]
    decide

theorem isHidden_eq_false_of_mem_escape {q : Quotes} {c d : Char} (h : d ∈ escape q c) :
    isHidden d = false := by
  unfold escape at h
  split at h
  next letter hletter =>
    rcases List.mem_pair.mp h with rfl | rfl
    · exact isHidden_eq_false_of_mem_marks (by decide)
    · exact isHidden_eq_false_of_mem_marks (mem_marks_of_shortEscape? hletter)
  next =>
    split at h
    next hquote =>
      rcases List.mem_pair.mp h with rfl | rfl
      · exact isHidden_eq_false_of_mem_marks (by decide)
      · exact isHidden_eq_false_of_mem_marks (mem_marks_of_escapes hquote)
    next =>
      split at h
      next => exact isHidden_eq_false_of_mem_marks (mem_marks_of_mem_numbered h)
      next hshown =>
        rw [List.mem_singleton.mp h]
        exact eq_false_of_ne_true hshown

end ScriptLexer.Text
