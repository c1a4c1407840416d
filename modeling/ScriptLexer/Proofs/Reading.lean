import ScriptLexer.Lexeme
import ScriptLexer.Proofs.Spelled

/-! Readings: how characters fall into gaps of blanks and texts of tokens. A text ends where the
character after it no longer belongs to the token, and every list of characters has a reading. -/
namespace ScriptLexer
open Alphabet

/-- The characters, of which the first has index `n`, hold the lexemes, blanks around them. -/
inductive Reads : ℕ → List Char → List Lexeme → Prop
  | blanks {n : ℕ} {gap : List Char} (blank : ∀ c ∈ gap, isBlank c = true) : Reads n gap []
  | lexeme {n : ℕ} {gap text rest : List Char} {t : Token} {ls : List Lexeme}
      (blank : ∀ c ∈ gap, isBlank c = true) (spelled : t.Spelled text)
      (stops : t.StopsBefore rest) (tail : Reads (n + gap.length + text.length) rest ls) :
      Reads n (gap ++ (text ++ rest)) (⟨n + gap.length, t⟩ :: ls)

namespace Reads

variable {n : ℕ} {cs : List Char} {ls : List Lexeme}

/-- Every list of characters has a reading. -/
theorem exists_reads (n : ℕ) (cs : List Char) : ∃ ls, Reads n cs ls := by
  induction hk : cs.length using Nat.strong_induction_on generalizing n cs with
  | _ k ih =>
    obtain ⟨gap, tail, rfl, blank, htail⟩ := exists_run isBlank cs
    cases tail with
    | nil => exact ⟨[], .blanks (by simpa using blank)⟩
    | cons c tail =>
      obtain ⟨t, text, rest, heq, spelled, stops⟩ := Token.exists_spelled tail (htail c rfl)
      rw [heq] at hk ⊢
      have hlt : rest.length < k := by
        have hpos := List.length_pos_iff.mpr spelled.ne_nil
        simp only [List.length_append] at hk
        omega
      obtain ⟨ls, hls⟩ := ih _ hlt (n + gap.length + text.length) rest rfl
      exact ⟨_, .lexeme blank spelled stops hls⟩

lemma blank_of_nil (h : Reads n cs []) : ∀ c ∈ cs, isBlank c = true := by
  cases h with
  | blanks blank => exact blank

/-- Blanks in front of a reading only widen its first gap. -/
lemma blanks_append {gap : List Char} (blank : ∀ c ∈ gap, isBlank c = true)
    (h : Reads (n + gap.length) cs ls) : Reads n (gap ++ cs) ls := by
  cases h with
  | blanks hb => exact .blanks (List.forall_mem_append.mpr ⟨blank, hb⟩)
  | @lexeme _ gap' text rest t ls hb spelled stops tail =>
    have hlen : n + gap.length + gap'.length = n + (gap ++ gap').length := by
      rw [List.length_append, Nat.add_assoc]
    rw [hlen] at tail ⊢
    rw [← List.append_assoc]
    exact .lexeme (List.forall_mem_append.mpr ⟨blank, hb⟩) spelled stops tail

/-- A text with no gap in front of it. -/
lemma cons {t : Token} {text rest : List Char} (spelled : t.Spelled text)
    (stops : t.StopsBefore rest) (tail : Reads (n + text.length) rest ls) :
    Reads n (text ++ rest) (⟨n, t⟩ :: ls) :=
  @lexeme n [] text rest t ls (by simp) spelled stops tail

/-- Each lexeme of a reading has its text in the characters, and stops before what follows it. -/
theorem exists_text_of_mem (h : Reads n cs ls) {l : Lexeme} (hl : l ∈ ls) :
    ∃ before text rest, cs = before ++ (text ++ rest) ∧ l.start = n + before.length ∧
      l.stop = l.start + text.length ∧ l.token.Spelled text ∧ l.token.StopsBefore rest := by
  induction h with
  | blanks _ => cases hl
  | @lexeme n gap text rest t ls blank spelled stops tail ih =>
    rcases List.mem_cons.mp hl with rfl | hmem
    · exact ⟨gap, text, rest, rfl, rfl, by rw [Lexeme.stop, spelled.width_eq], spelled, stops⟩
    · obtain ⟨before, text', rest', rfl, hstart, hstop, spelled', stops'⟩ := ih hmem
      exact ⟨gap ++ (text ++ before), text', rest', by simp, by simp [hstart, Nat.add_assoc],
        hstop, spelled', stops'⟩

lemma token_ne_eof (h : Reads n cs ls) {l : Lexeme} (hl : l ∈ ls) : l.token ≠ .eof := by
  obtain ⟨_, _, _, -, -, -, spelled, -⟩ := h.exists_text_of_mem hl
  exact spelled.ne_eof

lemma le_start (h : Reads n cs ls) {l : Lexeme} (hl : l ∈ ls) : n ≤ l.start := by
  obtain ⟨before, text, rest, -, hstart, -, -, -⟩ := h.exists_text_of_mem hl
  omega

lemma stop_le (h : Reads n cs ls) {l : Lexeme} (hl : l ∈ ls) : l.stop ≤ n + cs.length := by
  obtain ⟨before, text, rest, rfl, hstart, hstop, -, -⟩ := h.exists_text_of_mem hl
  simp only [List.length_append]
  omega

lemma start_lt_stop (h : Reads n cs ls) {l : Lexeme} (hl : l ∈ ls) : l.start < l.stop := by
  obtain ⟨_, text, _, -, -, hstop, spelled, -⟩ := h.exists_text_of_mem hl
  have hpos := List.length_pos_iff.mpr spelled.ne_nil
  omega

end Reads

end ScriptLexer
