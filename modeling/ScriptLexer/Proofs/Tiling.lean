import ScriptLexer.Proofs.Cursor

/-! Lexing loses nothing. The lexemes of a source cover its characters one after the other; outside
of them are only blanks, and inside are none. So the source can be put together again from its
lexemes, the gaps between them and the characters that are no token. -/
namespace ScriptLexer
open Alphabet

/-- The characters that a lexeme stands for: its spelling, or what the source has in its place. -/
def Lexeme.textIn (source : List Char) (l : Lexeme) : List Char :=
  match l.token.spelling? with
  | some s => s.toList
  | none => source.extract l.start l.stop

/-- The lexemes written out, with the gap before each of them, from index `n` on. -/
def rebuilt (source : List Char) : ℕ → List Lexeme → List Char
  | _, [] => []
  | n, l :: ls => source.extract n l.start ++ l.textIn source ++ rebuilt source l.stop ls

/-- The lexemes before the end token cover the characters of the source that are no blanks. -/
structure Tiles (source : List Char) (ls : List Lexeme) : Prop where
  ne_eof : ∀ l ∈ ls, l.token ≠ .eof
  start_lt_stop : ∀ l ∈ ls, l.start < l.stop
  stop_le : ∀ l ∈ ls, l.stop ≤ source.length
  /-- Each lexeme ends before all later ones start. -/
  ordered : ls.Pairwise fun l m => l.stop ≤ m.start
  /-- Every lexeme but an illegal one covers its spelling. -/
  spelled : ∀ l ∈ ls, ∀ s, l.token.spelling? = some s →
    source.extract l.start l.stop = s.toList
  /-- What no lexeme covers is a blank, and no blank is covered. -/
  isBlank_iff : ∀ (i : ℕ) (c : Char), source[i]? = some c →
    (isBlank c = true ↔ ∀ l ∈ ls, ¬ (l.start ≤ i ∧ i < l.stop))

namespace Reads

variable {n : ℕ} {cs : List Char} {ls : List Lexeme}

theorem pairwise_stop_le_start (h : Reads n cs ls) : ls.Pairwise fun l m => l.stop ≤ m.start := by
  induction h with
  | blanks _ => exact .nil
  | lexeme blank spelled stops tail ih =>
    refine .cons (fun m hm => ?_) ih
    have hle := tail.le_start hm
    rwa [Lexeme.stop, spelled.width_eq]

/-- A character that is no blank belongs to a lexeme. -/
theorem exists_covering (h : Reads n cs ls) {i : ℕ} {c : Char} (hi : cs[i]? = some c)
    (hc : isBlank c = false) : ∃ l ∈ ls, l.start ≤ n + i ∧ n + i < l.stop := by
  induction h generalizing i with
  | blanks blank => simp [blank c (List.mem_of_getElem? hi)] at hc
  | @lexeme n gap text rest t ls blank spelled stops tail ih =>
    by_cases hgap : i < gap.length
    · rw [List.getElem?_append_left hgap] at hi
      simp [blank c (List.mem_of_getElem? hi)] at hc
    · by_cases htext : i < gap.length + text.length
      · refine ⟨_, List.mem_cons_self, ?_, ?_⟩
        · dsimp only
          omega
        · rw [Lexeme.stop, spelled.width_eq]
          dsimp only
          omega
      · rw [List.getElem?_append_right (by omega), List.getElem?_append_right (by omega)] at hi
        obtain ⟨l, hl, hstart, hstop⟩ := ih hi
        exact ⟨l, List.mem_cons_of_mem _ hl, by omega, by omega⟩

/-- No blank belongs to a lexeme. -/
theorem isBlank_eq_false_of_covered (h : Reads n cs ls) {l : Lexeme} (hl : l ∈ ls) {i : ℕ}
    {c : Char} (hi : cs[i]? = some c) (hstart : l.start ≤ n + i) (hstop : n + i < l.stop) :
    isBlank c = false := by
  obtain ⟨before, text, rest, rfl, heq, hend, spelled, -⟩ := h.exists_text_of_mem hl
  rw [List.getElem?_append_right (by omega), List.getElem?_append_left (by omega)] at hi
  exact spelled.isBlank_eq_false c (List.mem_of_getElem? hi)

end Reads

lemma extract_middle (before text rest : List Char) :
    (before ++ (text ++ rest)).extract before.length (before.length + text.length) = text := by
  simp [List.extract]

/-- A reading of a whole source tiles it. -/
theorem Reads.tiles {source : List Char} {ls : List Lexeme} (h : Reads 0 source ls) :
    Tiles source ls where
  ne_eof l hl := by
    obtain ⟨_, _, _, -, -, -, spelled, -⟩ := h.exists_text_of_mem hl
    exact spelled.ne_eof
  start_lt_stop l hl := h.start_lt_stop hl
  stop_le l hl := by simpa using h.stop_le hl
  ordered := h.pairwise_stop_le_start
  spelled l hl s hs := by
    obtain ⟨before, text, rest, rfl, hstart, hstop, spelled, -⟩ := h.exists_text_of_mem hl
    have hi : l.token ≠ .illegal := by
      intro hi
      simp [hi, Token.spelling?] at hs
    obtain rfl := Option.some.inj ((spelled.spelling?_eq hi).symm.trans hs)
    rw [hstop, hstart, Nat.zero_add, extract_middle, String.toList_ofList]
  isBlank_iff i c hi := by
    constructor
    · rintro hblank l hl ⟨hstart, hstop⟩
      have hc := h.isBlank_eq_false_of_covered hl hi (by omega) (by omega)
      simp [hblank] at hc
    · intro hout
      by_contra hblank
      obtain ⟨l, hl, hstart, hstop⟩ := h.exists_covering hi (by simpa using hblank)
      exact hout l hl ⟨by omega, by omega⟩

/-- The text of a lexeme is the one that stands in its place. -/
lemma textIn_eq {t : Token} {text : List Char} (spelled : t.Spelled text)
    (before rest : List Char) :
    Lexeme.textIn (before ++ (text ++ rest)) ⟨before.length, t⟩ = text := by
  by_cases hi : t = .illegal
  · subst hi
    rw [Lexeme.textIn, Lexeme.stop, spelled.width_eq]
    exact extract_middle before text rest
  · rw [Lexeme.textIn, spelled.spelling?_eq hi]
    exact String.toList_ofList

theorem Reads.rebuilt_eq {n : ℕ} {cs : List Char} {ls : List Lexeme} (h : Reads n cs ls) :
    ∀ before : List Char, before.length = n →
      rebuilt (before ++ cs) n (ls ++ [⟨n + cs.length, .eof⟩]) = cs := by
  induction h with
  | @blanks n gap blank =>
    rintro before rfl
    have hgap := extract_middle before gap []
    rw [List.append_nil] at hgap
    simp [rebuilt, hgap, Lexeme.textIn, Token.spelling?]
  | @lexeme n gap text rest t ls blank spelled stops tail ih =>
    rintro before rfl
    have hgap := extract_middle before gap (text ++ rest)
    have htext := textIn_eq spelled (before ++ gap) rest
    have htail := ih (before ++ gap ++ text) (by simp [Nat.add_assoc])
    simp only [List.append_assoc, List.length_append, Nat.add_assoc] at hgap htext htail ⊢
    rw [List.cons_append, rebuilt, Lexeme.stop, spelled.width_eq, hgap, htext]
    simp only [Nat.add_assoc, htail, List.append_assoc]

/-- The lexemes of a source tile it, and the end token stands behind its last character. They are
what the steps of a cursor give, each step leaving the cursor where its lexeme ends, and the source
can be rebuilt from them. -/
theorem lexemes_tile (source : String) :
    ∃ ls, lexemes source = ls ++ [⟨source.length, .eof⟩] ∧ Tiles source.toList ls ∧
      (∀ (i : ℕ) (l : Lexeme), (lexemes source)[i]? = some l →
        ((Cursor.ofString source).after i).next.1 = l ∧
          ((Cursor.ofString source).after (i + 1)).position = l.stop) ∧
      rebuilt source.toList 0 (lexemes source) = source.toList := by
  obtain ⟨ls, h, heq⟩ := exists_reads_lexemes source
  refine ⟨ls, heq, h.tiles, ?_, ?_⟩
  · intro i l hl
    rw [heq, ← String.length_toList, ← Nat.zero_add source.toList.length] at hl
    rw [Cursor.ofString_eq]
    exact h.after_eq [] rfl i l hl
  · rw [heq, ← String.length_toList, ← Nat.zero_add source.toList.length]
    exact h.rebuilt_eq [] rfl

end ScriptLexer
