import ScriptLexer.Diagnostic.Render
import ScriptLexer.Proofs.Spot
import ScriptLexer.Proofs.Strict

/-! The rows of a rendered diagnostic. The caret and what is shown of the line are moved to the left
by the same indentation and to the right by the same number and bar, so the caret stands below the
offending character, or behind the end of the line where that character is cut off as white space. -/
namespace ScriptLexer
open Alphabet CodePoint

/-- A text in three parts: the spaces and tabs it starts with, what is shown of it, and the white
space it ends with. -/
structure Shown (margin shown tail : List Char) : Prop where
  margin_blank : ∀ c ∈ margin, c = ' ' ∨ c = '\t'
  starts : ∀ c ∈ (shown ++ tail).head?, c ≠ ' ' ∧ c ≠ '\t'
  tail_whiteSpace : ∀ c ∈ tail, isWhiteSpace c = true
  ends : ∀ c ∈ shown.getLast?, isWhiteSpace c = false

namespace Shown
variable {margin shown tail : List Char}

/-- What is shown goes on behind a place as long as anything but white space comes from there on. -/
lemma lt_length_iff (h : Shown margin shown tail) (k : ℕ) : k < shown.length ↔
    ∃ i c, margin.length + k ≤ i ∧ (margin ++ (shown ++ tail))[i]? = some c ∧
      isWhiteSpace c = false := by
  constructor
  · intro hk
    have hlast : shown.getLast? = shown[shown.length - 1]? := List.getLast?_eq_getElem?
    rw [List.getElem?_eq_getElem (by omega)] at hlast
    refine ⟨margin.length + (shown.length - 1), _, by omega, ?_, h.ends _ hlast⟩
    rw [List.getElem?_append_right (Nat.le_add_right _ _), Nat.add_sub_cancel_left,
      List.getElem?_append_left (by omega), List.getElem?_eq_getElem (by omega)]
  · rintro ⟨i, c, hi, hc, hws⟩
    by_contra hk
    rw [List.getElem?_append_right (by omega), List.getElem?_append_right (by omega)] at hc
    simp [h.tail_whiteSpace c (List.mem_of_getElem? hc)] at hws

/-- A character behind the margin is shown if what is shown reaches it. -/
lemma getElem?_eq_some_iff {k : ℕ} {c : Char}
    (hc : (margin ++ (shown ++ tail))[margin.length + k]? = some c) :
    shown[k]? = some c ↔ k < shown.length := by
  rw [List.getElem?_append_right (Nat.le_add_right _ _), Nat.add_sub_cancel_left] at hc
  refine ⟨fun hk => (List.getElem?_eq_some_iff.mp hk).1, fun hk => ?_⟩
  rwa [List.getElem?_append_left hk] at hc

/-- A line feed at the end of a text is not shown. -/
lemma newline_not_mem (h : Shown margin shown tail)
    (hline : '\n' ∉ (margin ++ (shown ++ tail)).dropLast) : '\n' ∉ shown := by
  rcases List.eq_nil_or_concat' shown with rfl | ⟨init, c, rfl⟩
  · exact List.not_mem_nil
  · have hc : isWhiteSpace c = false := h.ends c (by simp)
    have hne : '\n' ≠ c := by
      rintro rfl
      exact absurd hc (by decide +kernel)
    rw [List.append_assoc, ← List.append_assoc margin,
      List.dropLast_append_of_ne_nil (by simp)] at hline
    simp only [List.mem_append, not_or] at hline
    simp [hne, hline.1.2]

end Shown

namespace Diagnostic

lemma indentWidth_le {text : List Char} {i : ℕ} {c : Char} (h : text[i]? = some c)
    (space : c ≠ ' ') (tab : c ≠ '\t') : indentWidth text ≤ i := by
  by_contra hlt
  have hmem : c ∈ text.takeWhile fun c => c == ' ' || c == '\t' := by
    rw [← List.takeWhile_append_dropWhile (p := fun c => c == ' ' || c == '\t') (l := text),
      List.getElem?_append_left (Nat.lt_of_not_le hlt)] at h
    exact List.mem_of_getElem? h
  simpa [space, tab] using List.mem_takeWhile_imp hmem

/-- A text has these three parts, each as long as can be. -/
lemma exists_shown (text : List Char) : ∃ margin tail,
    text = margin ++ (shownText text ++ tail) ∧ margin.length = indentWidth text ∧
      Shown margin (shownText text) tail := by
  have hrest : text.drop (indentWidth text) = text.dropWhile fun c => c == ' ' || c == '\t' := by
    nth_rewrite 2 [← List.takeWhile_append_dropWhile (p := fun c => c == ' ' || c == '\t')
      (l := text)]
    rw [indentWidth, List.drop_left]
  have hparts : shownText text ++ (text.drop (indentWidth text)).rtakeWhile isWhiteSpace =
      text.drop (indentWidth text) := List.rdropWhile_append_rtakeWhile
  refine ⟨text.takeWhile fun c => c == ' ' || c == '\t',
    (text.drop (indentWidth text)).rtakeWhile isWhiteSpace, ?_, rfl, ?_, ?_, ?_, ?_⟩
  · rw [hparts, hrest, List.takeWhile_append_dropWhile]
  · intro c hc
    simpa using List.mem_takeWhile_imp hc
  · intro c hc
    rw [hparts, hrest] at hc
    have hstop := List.head?_dropWhile_not (fun c => c == ' ' || c == '\t') text
    rw [hc] at hstop
    simpa using hstop
  · intro c hc
    exact List.mem_rtakeWhile_imp hc
  · intro c hc
    obtain ⟨hne, rfl⟩ := List.mem_getLast?_eq_getLast hc
    exact Bool.eq_false_iff.mpr (List.rdropWhile_last_not isWhiteSpace _ hne)

/-- The bar of the rows without text, below that of the row with the text. -/
def gutterRow (spot : Spot) : List Char :=
  List.replicate ((toString spot.line).length + 1) ' ' ++ ['|']

/-- What stands in front of the text in its row. -/
def lead (spot : Spot) : List Char := (toString spot.line).toList ++ [' ', '|', ' ']

/-- What stands in front of the caret in its row: the bar, and `k` dashes. -/
def dashes (spot : Spot) (k : ℕ) : List Char := gutterRow spot ++ ' ' :: List.replicate k '-'

lemma length_dashes (spot : Spot) (k : ℕ) : (dashes spot k).length = (lead spot).length + k := by
  simp only [dashes, gutterRow, lead, List.length_append, List.length_replicate, List.length_cons,
    List.length_nil, String.length_toList]
  omega

lemma not_mem_toDigits {c : Char} (h : c.isDigit = false) (n : ℕ) : c ∉ Nat.toDigits 10 n := by
  intro hmem
  rw [Nat.isDigit_of_mem_toDigits (by decide) (by decide) hmem] at h
  cases h

lemma newline_not_mem_lead (spot : Spot) : '\n' ∉ lead spot := by
  have hnumber : '\n' ∉ Nat.toDigits 10 spot.line := not_mem_toDigits (by decide) _
  simp [lead, hnumber]

lemma newline_not_mem_dashes (spot : Spot) (k : ℕ) : '\n' ∉ dashes spot k := by
  simp [dashes, gutterRow]

lemma toList_rows (spot : Spot) : (rows spot).toList =
    gutterRow spot ++ '\n' :: (lead spot ++ shownText spot.text ++
      '\n' :: (dashes spot (spot.column - indentWidth spot.text) ++ ['^', '\n'])) := by
  simp [rows, flushRight, List.leftpad, underlineWidth, gutterRow, lead, dashes]

lemma render_of_locate? {d : Diagnostic} {source : String} {spot : Spot}
    (hspot : Spot.locate? source d.position = some spot)
    (hwidth : spot.column - indentWidth spot.text + 1 ≤ maxFieldWidth) :
    d.render source = .ok (d.header ++ rows spot) := by
  simp only [render, hspot]
  exact if_neg (Nat.not_lt.mpr hwidth)

/-- The character that strict lexing fails at stands in a line, and not in its indentation. -/
lemma exists_spot_of_error {source : String} {file : Option String} {d : Diagnostic}
    (h : lexStrict source file = .error d) : ∃ spot k,
      Spot.locate? source d.position = some spot ∧
        spot.text[spot.column]? = some d.cause.character ∧
        spot.column = indentWidth spot.text + k := by
  obtain ⟨c, hc, hill, hcause, -⟩ := exists_illegal_of_error h
  have hlt : d.position < source.length := by
    rw [← String.length_toList]
    exact (List.getElem?_eq_some_iff.mp hc).1
  obtain ⟨spot, hspot⟩ := Option.isSome_iff_exists.mp (Spot.isSome_locate?_iff.mpr hlt)
  have htext : spot.text[spot.column]? = some c := by rw [Spot.getElem?_text hspot, hc]
  have hblank : isBlank c = false := (isIllegal_iff.mp hill).1
  have hle : indentWidth spot.text ≤ spot.column :=
    indentWidth_le htext (by rintro rfl; simp [isBlank] at hblank)
      (by rintro rfl; simp [isBlank] at hblank)
  obtain ⟨k, hk⟩ := Nat.exists_eq_add_of_le hle
  refine ⟨spot, k, hspot, ?_, hk⟩
  rw [hcause]
  exact htext

/-- An error of strict lexing is about a character of a line that stands `k` characters behind the
indentation. If `k` dashes and the caret are no wider than a field can be, the error is rendered as
its header and three rows: the bar, the number of the line with what is shown of it, and the caret,
`k` characters behind the place where that begins. The character stands there if anything but white
space comes from it on in its line; if not, what is shown ends before. -/
theorem render_caret_below {source : String} {file : Option String} {d : Diagnostic}
    (h : lexStrict source file = .error d) :
    ∃ spot k, Spot.locate? source d.position = some spot ∧
      spot.text[spot.column]? = some d.cause.character ∧
      spot.column = indentWidth spot.text + k ∧
      (k + 1 ≤ 65535 →
        d.render source = .ok ("Error: " ++ d.cause.title ++ " (" ++ d.cause.tip ++ ")\n-> " ++
          file.getD "shell" ++ "\n" ++ String.ofList (gutterRow spot ++ '\n' ::
            (lead spot ++ shownText spot.text ++ '\n' :: (dashes spot k ++ ['^', '\n'])))) ∧
        '\n' ∉ gutterRow spot ∧ '\n' ∉ lead spot ++ shownText spot.text ∧
        '\n' ∉ dashes spot k ++ ['^'] ∧
        (dashes spot k).length = (lead spot).length + k) ∧
      (∃ margin tail, spot.text = margin ++ (shownText spot.text ++ tail) ∧
        margin.length = indentWidth spot.text ∧ Shown margin (shownText spot.text) tail) ∧
      ((shownText spot.text)[k]? = some d.cause.character ↔ ∃ i c, spot.column ≤ i ∧
        spot.text[i]? = some c ∧ isWhiteSpace c = false) ∧
      ((shownText spot.text)[k]? ≠ some d.cause.character → (shownText spot.text).length ≤ k) := by
  obtain ⟨spot, k, hspot, htext, hk⟩ := exists_spot_of_error h
  obtain ⟨margin, tail, hparts, hmargin, hshown⟩ := exists_shown spot.text
  have hfile : d.file = file.getD "shell" := by
    obtain ⟨_, -, -, -, hfile⟩ := exists_illegal_of_error h
    exact hfile
  have hreach : (shownText spot.text)[k]? = some d.cause.character ↔
      k < (shownText spot.text).length := by
    rw [hparts, hk, ← hmargin] at htext
    exact Shown.getElem?_eq_some_iff htext
  have hgoesOn := hshown.lt_length_iff k
  rw [hmargin, ← hk, ← hparts] at hgoesOn
  refine ⟨spot, k, hspot, htext, hk, fun hwidth => ⟨?_, ?_, ?_, ?_, length_dashes spot k⟩,
    ⟨margin, tail, hparts, hmargin, hshown⟩, hreach.trans hgoesOn,
    fun hne => Nat.le_of_not_lt fun hlt => hne (hreach.mpr hlt)⟩
  · have hsub : spot.column - indentWidth spot.text = k := by omega
    rw [render_of_locate? hspot (hsub ▸ hwidth), header, hfile, ← hsub, ← toList_rows,
      String.ofList_toList]
  · simp [gutterRow]
  · have hline := hshown.newline_not_mem (hparts ▸ Spot.newline_not_mem_dropLast hspot)
    simp [newline_not_mem_lead, hline]
  · simp [newline_not_mem_dashes]

/-- A no-break space that is cut off with the white space around it. -/
theorem render_caret_below_cut_off :
    lexStrict "x\n\ty \u00a0 \n" (some "a") = .error ⟨.illegalCharacter '\u00a0', 5, "a"⟩ ∧
      2 + 1 ≤ 65535 ∧
      render ⟨.illegalCharacter '\u00a0', 5, "a"⟩ "x\n\ty \u00a0 \n" =
        .ok ("Error: IllegalCharacter (`\\u\x7ba0\x7d` does not start any token)\n-> a\n" ++
          "  |\n2 | y\n  | --^\n") ∧
      (shownText "\ty \u00a0 \n".toList)[2]? ≠ some '\u00a0' ∧
      (shownText "\ty \u00a0 \n".toList).length ≤ 2 := by
  have herror : lexStrict "x\n\ty \u00a0 \n" (some "a") =
      .error ⟨.illegalCharacter '\u00a0', 5, "a"⟩ := by decide +kernel
  have hspot : Spot.locate? "x\n\ty \u00a0 \n" 5 = some ⟨2, "\ty \u00a0 \n".toList, 3⟩ := by
    decide +kernel
  have hindent : indentWidth "\ty \u00a0 \n".toList = 1 := by decide +kernel
  have hshown : (shownText "\ty \u00a0 \n".toList)[2]? ≠ some '\u00a0' := by decide +kernel
  obtain ⟨spot, k, hspot', -, hk, hrender, -, -, hcut⟩ := render_caret_below herror
  obtain rfl := Option.some.inj (hspot.symm.trans hspot')
  obtain rfl : 2 = k := by
    rw [hindent] at hk
    dsimp only at hk
    omega
  exact ⟨herror, by decide, (hrender (by decide)).1.trans (by decide +kernel), hshown,
    hcut hshown⟩

end Diagnostic
end ScriptLexer
