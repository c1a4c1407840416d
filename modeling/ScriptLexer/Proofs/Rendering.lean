import ScriptLexer.Proofs.Caret
import ScriptLexer.Proofs.Checked

/-! Rendering of any diagnostic, whether or not it is about the source it is rendered with. The only
thing that can fail is the field of the caret, which may be too wide: a machine with words of 64 bits,
that stops on a sum or a difference no word holds and on a gutter too wide, never stops. -/
namespace ScriptLexer

namespace Checked
open Diagnostic

/-- The difference of two words, if it is one. -/
def sub (m n : ℕ) : Option ℕ := if n ≤ m then some (m - n) else none

/-- The place of a character in lines, given how many lines and characters are in front of them. -/
def within? (index start : ℕ) : List (List Char) → (position : ℕ) → Option (Option Spot)
  | [], _ => some none
  | l :: rest, position => do
    let stop ← add start l.length
    let number ← add index 1
    if start ≤ position ∧ position < stop then
      let column ← sub position start
      return some ⟨number, l, column⟩
    else within? number stop rest position

def locate? (source : String) (position : ℕ) : Option (Option Spot) :=
  within? 0 0 (lines source.toList) position

/-- The text flush right in a field, if a field can be so wide. -/
def field? (width : ℕ) (fill : Char) (text : String) : Option String :=
  if width ≤ maxFieldWidth then some (flushRight width fill text) else none

/-- The diagnostic as text. Only the field of the caret may be refused. -/
def render (d : Diagnostic) (source : String) : Option (Except RenderFault String) := do
  match ← locate? source d.position with
  | none => return .ok d.header
  | some spot =>
    let number := toString spot.line
    let gutterWidth ← add number.length 2
    let width ← add (spot.column - indentWidth spot.text) 1
    let gutter ← field? gutterWidth ' ' "|"
    match field? width '-' "^" with
    | none => return .error .underlineTooWide
    | some underline =>
      return .ok (d.header ++ (gutter ++ "\n" ++
        number ++ " | " ++ String.ofList (shownText spot.text) ++ "\n" ++
        gutter ++ " " ++ underline ++ "\n"))

lemma length_lines_le (cs : List Char) : (lines cs).length ≤ cs.length := by
  induction cs using lines_induction with
  | nil => simp
  | last l nonempty hl =>
    rw [lines_last nonempty hl]
    exact List.length_pos_iff.mpr nonempty
  | cons l rest hl ih =>
    rw [lines_cons hl, List.length_cons, List.length_append, List.length_cons]
    omega

lemma add_eq {m n : ℕ} (h : m + n < 2 ^ 64) : add m n = some (m + n) := if_pos h

lemma within?_eq {index start position : ℕ} {ls : List (List Char)} (hstart : start ≤ position)
    (hindex : index + ls.length < 2 ^ 64) (hend : start + ls.flatten.length < 2 ^ 64) :
    within? index start ls position = some (Spot.within? (index + 1) ls (position - start)) := by
  induction ls generalizing index start with
  | nil => rfl
  | cons l ls ih =>
    rw [List.length_cons] at hindex
    rw [List.flatten_cons, List.length_append] at hend
    rw [within?, Spot.within?, add_eq (by omega), add_eq (by omega)]
    simp only [Option.bind_eq_bind, Option.bind_some]
    by_cases hlt : position < start + l.length
    · have hsub : sub position start = some (position - start) := if_pos hstart
      rw [if_pos ⟨hstart, hlt⟩, if_pos (by omega), hsub]
      rfl
    · rw [if_neg (fun h => hlt h.2), if_neg (by omega),
        ih (Nat.le_of_not_lt hlt) (by omega) (by omega), Nat.sub_sub]

variable {source : String} (fits : source.length < 2 ^ 64)
include fits

lemma locate?_eq (position : ℕ) : locate? source position = some (Spot.locate? source position) := by
  have hlines := length_lines_le source.toList
  have hchars := congrArg List.length (flatten_lines source.toList)
  rw [String.length_toList] at hlines hchars
  exact within?_eq (Nat.zero_le _) (by omega) (by omega)

/-- The place of a character, its line and its column, is in words. -/
lemma line_column_lt {position : ℕ} {spot : Spot}
    (h : Spot.locate? source position = some spot) :
    spot.line < 2 ^ 64 ∧ spot.column + 1 < 2 ^ 64 := by
  have hlt : position < source.length :=
    Spot.isSome_locate?_iff.mp (Option.isSome_iff_exists.mpr ⟨spot, h⟩)
  have hline := Spot.line_eq h
  have hcount := List.count_le_length (a := '\n') (l := source.toList.take position)
  have hcolumn := Spot.lineStart_add_column h
  rw [List.length_take] at hcount
  omega

theorem render_eq (d : Diagnostic) : render d source = some (d.render source) := by
  rw [render, locate?_eq fits, Diagnostic.render]
  cases hspot : Spot.locate? source d.position with
  | none => rfl
  | some spot =>
    obtain ⟨hline, hcolumn⟩ := line_column_lt fits hspot
    have hdigits : (toString spot.line).length ≤ 20 := Nat.repr_length _ 20 (by decide) (by omega)
    have hgutter : (toString spot.line).length + 2 ≤ maxFieldWidth := by
      unfold maxFieldWidth
      omega
    simp only [Option.bind_eq_bind, Option.bind_some]
    rw [add_eq (by omega), add_eq (by omega)]
    simp only [Option.bind_some]
    rw [field?, if_pos hgutter, Option.bind_some, field?]
    by_cases hwidth : underlineWidth spot ≤ maxFieldWidth
    · rw [if_neg (Nat.not_lt.mpr hwidth)]
      unfold underlineWidth at hwidth
      rw [if_pos hwidth]
      rfl
    · rw [if_pos (Nat.lt_of_not_le hwidth)]
      unfold underlineWidth at hwidth
      rw [if_neg hwidth]
      rfl

end Checked
namespace Diagnostic

/-- None of the three rows for a place has a line feed in it. -/
lemma newline_not_mem_rows {source : String} {position : ℕ} {spot : Spot}
    (h : Spot.locate? source position = some spot) (k : ℕ) :
    '\n' ∉ gutterRow spot ∧ '\n' ∉ lead spot ++ shownText spot.text ∧
      '\n' ∉ dashes spot k ++ ['^'] := by
  obtain ⟨margin, tail, hparts, -, hshown⟩ := exists_shown spot.text
  have hline : '\n' ∉ shownText spot.text :=
    hshown.newline_not_mem (hparts ▸ Spot.newline_not_mem_dropLast h)
  exact ⟨by simp [gutterRow], List.not_mem_append (newline_not_mem_lead spot) hline,
    List.not_mem_append (newline_not_mem_dashes spot k) (by simp)⟩

/-- A diagnostic cannot be rendered exactly if its caret, counted from the indentation of the line or
from the column if that is less, needs a field wider than one can be. -/
lemma render_eq_error_iff {d : Diagnostic} {source : String} :
    d.render source = .error .underlineTooWide ↔
      ∃ spot, Spot.locate? source d.position = some spot ∧ maxFieldWidth < underlineWidth spot := by
  rw [render]
  cases hspot : Spot.locate? source d.position with
  | none => simp
  | some spot =>
    by_cases hwidth : maxFieldWidth < underlineWidth spot <;> simp [hwidth]

/-- Rendering fails exactly if the position is in the source and the caret, with as many dashes in front
of it as the column is behind the indentation, would need a field of more than 65535 characters. Else
a position outside the source gives the header alone, and one in the source the header and three rows
without inner line feeds: the bar, the number of the line with what is shown of it, and the caret as
many characters behind the place where that begins; there itself if the position is in the
indentation. Nothing in between leaves the words of a machine or fails otherwise. -/
theorem render_any (d : Diagnostic) (source : String) :
    (d.render source = .error .underlineTooWide ↔ d.position < source.length ∧
      ∃ spot, Spot.locate? source d.position = some spot ∧
        65535 < max spot.column (indentWidth spot.text) - indentWidth spot.text + 1) ∧
    (source.length ≤ d.position → d.render source =
      .ok ("Error: " ++ d.cause.title ++ " (" ++ d.cause.tip ++ ")\n-> " ++ d.file ++ "\n")) ∧
    (d.position < source.length → ∃ spot k, Spot.locate? source d.position = some spot ∧
      k = max spot.column (indentWidth spot.text) - indentWidth spot.text ∧
      (spot.column ≤ indentWidth spot.text → k = 0) ∧
      (k + 1 ≤ 65535 → d.render source =
        .ok ("Error: " ++ d.cause.title ++ " (" ++ d.cause.tip ++ ")\n-> " ++ d.file ++ "\n" ++
          String.ofList (gutterRow spot ++ '\n' :: (lead spot ++ shownText spot.text ++
            '\n' :: (dashes spot k ++ ['^', '\n']))))) ∧
      '\n' ∉ gutterRow spot ∧ '\n' ∉ lead spot ++ shownText spot.text ∧
      '\n' ∉ dashes spot k ++ ['^'] ∧ (dashes spot k).length = (lead spot).length + k ∧
      ∃ margin tail, spot.text = margin ++ (shownText spot.text ++ tail) ∧
        margin.length = indentWidth spot.text ∧ Shown margin (shownText spot.text) tail) ∧
    (source.length < 2 ^ 64 → Checked.render d source = some (d.render source)) := by
  have hsub (spot : Spot) : max spot.column (indentWidth spot.text) - indentWidth spot.text =
      spot.column - indentWidth spot.text := by omega
  refine ⟨?_, fun hout => ?_, fun hin => ?_, fun fits => Checked.render_eq fits d⟩
  · rw [render_eq_error_iff]
    simp only [hsub]
    constructor
    · rintro ⟨spot, hspot, hwidth⟩
      have hin := Spot.isSome_locate?_iff.mp (Option.isSome_iff_exists.mpr ⟨spot, hspot⟩)
      exact ⟨hin, spot, hspot, hwidth⟩
    · rintro ⟨-, spot, hspot, hwidth⟩
      exact ⟨spot, hspot, hwidth⟩
  · have hnone : Spot.locate? source d.position = none := by
      rw [← Option.not_isSome_iff_eq_none, Spot.isSome_locate?_iff]
      omega
    simp only [render, hnone, header]
  · obtain ⟨spot, hspot⟩ := Option.isSome_iff_exists.mp (Spot.isSome_locate?_iff.mpr hin)
    obtain ⟨hgutter, hline, hcaret⟩ :=
      newline_not_mem_rows hspot (spot.column - indentWidth spot.text)
    refine ⟨spot, _, hspot, (hsub spot).symm, by omega, fun hwidth => ?_, hgutter, hline, hcaret,
      length_dashes spot _, exists_shown spot.text⟩
    rw [render_of_locate? hspot hwidth, header, ← toList_rows, String.ofList_toList]

/-- A position in the indentation of the second line, and one far outside the source. -/
theorem render_any_in_margin :
    (3 < "x\n   y".length ∧ 0 + 1 ≤ 65535 ∧
      render ⟨.illegalCharacter '?', 3, "a"⟩ "x\n   y" =
        .ok ("Error: IllegalCharacter (`?` does not start any token)\n-> a\n" ++
          "  |\n2 | y\n  | ^\n")) ∧
    ("x\n   y".length ≤ 2 ^ 64 - 1 ∧
      render ⟨.illegalCharacter '?', 2 ^ 64 - 1, "a"⟩ "x\n   y" =
        .ok "Error: IllegalCharacter (`?` does not start any token)\n-> a\n") ∧
    ("x\n   y".length < 2 ^ 64 ∧ Checked.render ⟨.illegalCharacter '?', 3, "a"⟩ "x\n   y" =
      some (render ⟨.illegalCharacter '?', 3, "a"⟩ "x\n   y")) := by
  have hin : 3 < "x\n   y".length := by decide
  have hout : "x\n   y".length ≤ 2 ^ 64 - 1 := by decide
  have hfits : "x\n   y".length < 2 ^ 64 := by decide
  have hspot : Spot.locate? "x\n   y" 3 = some ⟨2, "   y".toList, 1⟩ := by decide +kernel
  obtain ⟨-, -, hrows, hmachine⟩ := render_any ⟨.illegalCharacter '?', 3, "a"⟩ "x\n   y"
  obtain ⟨spot, k, hspot', -, hzero, hrender, -⟩ := hrows hin
  obtain rfl := Option.some.inj (hspot.symm.trans hspot')
  obtain rfl := hzero (by decide)
  have hheader := (render_any ⟨.illegalCharacter '?', 2 ^ 64 - 1, "a"⟩ "x\n   y").2.1 hout
  exact ⟨⟨hin, by decide, (hrender (by decide)).trans (by decide +kernel)⟩,
    ⟨hout, hheader.trans (by decide +kernel)⟩, hfits, hmachine hfits⟩

end Diagnostic
end ScriptLexer
