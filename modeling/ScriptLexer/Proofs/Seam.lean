import ScriptLexer.Proofs.Cut
import ScriptLexer.Proofs.Scan

/-! Lexing two texts put together. Only the last token of the first can change, and it changes
exactly if the second starts with a character that it goes on over: one character is all that
lexing looks ahead. -/
namespace ScriptLexer
open Alphabet

/-- The last token of the first source reaches its end, and the second source starts with a
character that lengthens it. -/
def Merges (a b : String) : Prop :=
  ∃ c ∈ a.toList.getLast?, isBlank c = false ∧
    ∃ t ∈ (lex a).dropLast.getLast?, ∃ d ∈ b.toList.head?, t.goesOn d = true

/-- The last lexeme of a reading, with the blanks after it. What stands before it is read in the
same way whatever follows its text. -/
theorem Reads.exists_last {n : ℕ} {cs : List Char} {init : List Lexeme} {l : Lexeme}
    (h : Reads n cs (init ++ [l])) :
    ∃ before text gap, cs = before ++ (text ++ gap) ∧ (∀ c ∈ gap, isBlank c = true) ∧
      l.token.Spelled text ∧ ∀ rest ks, Reads l.start (text ++ rest) ks →
        Reads n (before ++ (text ++ rest)) (init ++ ks) := by
  obtain ⟨before, text, gap, rfl, hstart, spelled, hread, htail, hstops⟩ := h.exists_split
  refine ⟨before, text, gap, rfl, htail.blank_of_nil, spelled, fun rest ks hks => ?_⟩
  exact hread.append (hstart ▸ hks) fun m hm hend =>
    (hstops m hm hend).of_part (List.prefix_refl text) spelled.ne_nil rest

/-- A token that reaches a seam is found there unless the first character behind it lengthens it. -/
theorem scan_seam_iff {t : Token} {text gap : List Char} (spelled : t.Spelled text)
    (blank : ∀ c ∈ gap, isBlank c = true) (rest : List Char) :
    scan (text ++ (gap ++ rest)) = t :: scan rest ↔
      ¬ (gap = [] ∧ ∃ d ∈ rest.head?, t.goesOn d = true) := by
  constructor
  · rintro hscan ⟨rfl, d, hd, hgoes⟩
    have hi : t ≠ .illegal := by
      rintro rfl
      cases hgoes
    obtain ⟨rest', heq, stops⟩ := exists_rest_of_scan spelled hi (spelled.isBlank_head? _) hscan
    obtain rfl := List.append_cancel_left heq
    simp [stops d hd] at hgoes
  · intro h
    have stops : t.StopsBefore (gap ++ rest) := by
      cases gap with
      | nil =>
        intro d hd
        by_contra hgoes
        exact h ⟨rfl, d, hd, by simpa using hgoes⟩
      | cons c gap => exact Token.stopsBefore_of_isBlank (blank c List.mem_cons_self) t _
    rw [scan_spelled spelled stops, scan_blanks blank]

lemma getLast?_blank_iff {t : Token} {text gap : List Char} (spelled : t.Spelled text)
    (blank : ∀ c ∈ gap, isBlank c = true) (before : List Char) :
    (∃ c ∈ (before ++ (text ++ gap)).getLast?, isBlank c = false) ↔ gap = [] := by
  rcases List.eq_nil_or_concat gap with rfl | ⟨gap, c, rfl⟩
  · refine iff_of_true ?_ rfl
    have hlast : (before ++ (text ++ [])).getLast? = some (text.getLast spelled.ne_nil) := by
      rw [List.append_nil, List.getLast?_append, List.getLast?_eq_some_getLast spelled.ne_nil]
      rfl
    exact ⟨_, hlast, spelled.isBlank_eq_false _ (List.getLast_mem _)⟩
  · refine iff_of_false ?_ (by simp)
    rw [List.concat_eq_append] at blank ⊢
    rintro ⟨d, hd, hblank⟩
    have hdc : c = d := by simpa [← List.append_assoc] using hd
    simp [blank d (by simp [hdc])] at hblank

/-- A source merges with what follows it exactly if its last token reaches its end and goes on. -/
lemma merges_iff {a b : String} {ls : List Lexeme} {l : Lexeme} {before text gap : List Char}
    (hlex : lexemes a = ls ++ [l] ++ [⟨a.length, .eof⟩]) (ha : a.toList = before ++ (text ++ gap))
    (spelled : l.token.Spelled text) (blank : ∀ c ∈ gap, isBlank c = true) :
    Merges a b ↔ gap = [] ∧ ∃ d ∈ b.toList.head?, l.token.goesOn d = true := by
  have hlast : (lex a).dropLast.getLast? = some l.token := by
    rw [lex, hlex]
    simp
  rw [← getLast?_blank_iff spelled blank before, ← ha, Merges, hlast]
  constructor
  · rintro ⟨c, hc, hblank, t, ht, hgoes⟩
    cases ht
    exact ⟨⟨c, hc, hblank⟩, hgoes⟩
  · rintro ⟨⟨c, hc, hblank⟩, hgoes⟩
    exact ⟨c, hc, hblank, l.token, rfl, hgoes⟩

/-- A source put in front of another is read again up to its last lexeme, and from there on together
with what follows. -/
lemma Reads.exists_seam {a : String} {init : List Lexeme} {l : Lexeme}
    (h : Reads 0 a.toList (init ++ [l])) (b : String) :
    ∃ before text gap ks, a.toList = before ++ (text ++ gap) ∧ l.token.Spelled text ∧
      (∀ c ∈ gap, isBlank c = true) ∧ Reads l.start (text ++ (gap ++ b.toList)) ks ∧
      Reads 0 (a ++ b).toList (init ++ ks) := by
  obtain ⟨before, text, gap, ha, blank, spelled, hread⟩ := h.exists_last
  obtain ⟨ks, hks⟩ := Reads.exists_reads l.start (text ++ (gap ++ b.toList))
  refine ⟨before, text, gap, ks, ha, spelled, blank, hks, ?_⟩
  simpa [String.toList_append, ha] using hread _ ks hks

/-- All lexemes of a source but its last are found again in front of any other source. -/
lemma prefix_lexemes_append (a b : String) :
    (lexemes a).dropLast.dropLast <+: lexemes (a ++ b) := by
  obtain ⟨ls, h, hlex⟩ := exists_reads_lexemes a
  rcases List.eq_nil_or_concat ls with rfl | ⟨init, l, rfl⟩
  · simp [hlex]
  · rw [List.concat_eq_append] at h hlex
    obtain ⟨-, -, -, ks, -, -, -, -, hab⟩ := h.exists_seam b
    rw [hlex, hab.lexemes_eq]
    simp

/-- Lexing two sources put together gives the tokens of both, unless they merge at the seam. All
lexemes of the first but its last are found again in any case. -/
theorem lex_append_iff (a b : String) :
    (lex (a ++ b) = (lex a).dropLast ++ lex b ↔ ¬ Merges a b) ∧
      (lexemes a).dropLast.dropLast <+: lexemes (a ++ b) := by
  refine ⟨?_, prefix_lexemes_append a b⟩
  obtain ⟨ls, h, hlex⟩ := exists_reads_lexemes a
  rcases List.eq_nil_or_concat ls with rfl | ⟨init, l, rfl⟩
  · have hnil : (lex a).dropLast = [] := by
      rw [lex, hlex]
      rfl
    have hmerge : ¬ Merges a b := by
      rintro ⟨-, -, -, t, ht, -⟩
      rw [hnil] at ht
      cases ht
    refine iff_of_true ?_ hmerge
    rw [hnil, List.nil_append, lex_eq_scan, lex_eq_scan, String.toList_append,
      scan_blanks h.blank_of_nil]
  · rw [List.concat_eq_append] at h hlex
    obtain ⟨before, text, gap, ks, ha, spelled, blank, hks, hab⟩ := h.exists_seam b
    rw [merges_iff hlex ha spelled blank, ← scan_seam_iff spelled blank, lex_eq_scan, hab.scan_eq,
      hks.scan_eq, lex, hlex, lex_eq_scan]
    simp

end ScriptLexer
