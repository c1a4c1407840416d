import ScriptLexer.Proofs.Caret
import ScriptLexer.Proofs.Illegal

/-! Layout and diagnostics. Spaces and tabs in front of a line move the offending character and widen
the indentation by the same number, and what is put in before a line feed is white space that is not
shown. So a source laid out anew is refused for the same character, and the rows under the header are
the same. -/
namespace ScriptLexer
open Alphabet CodePoint

/-- The second text is the first with spaces and tabs put in at the starts of lines, and spaces, tabs
and carriage returns before line feeds. -/
inductive Relaid : List Char → List Char → Prop
  | last {margin l : List Char} (blank : ∀ c ∈ margin, c = ' ' ∨ c = '\t') (line : '\n' ∉ l) :
      Relaid l (margin ++ l)
  | line {margin l tail rest rest' : List Char} (blank : ∀ c ∈ margin, c = ' ' ∨ c = '\t')
      (line : '\n' ∉ l) (filler : ∀ c ∈ tail, c = ' ' ∨ c = '\t' ∨ c = '\r')
      (h : Relaid rest rest') :
      Relaid (l ++ '\n' :: rest) (margin ++ l ++ tail ++ '\n' :: rest')

/-- The text with a carriage return before each line feed. -/
def withReturns (cs : List Char) : List Char :=
  cs.flatMap fun c => if c = '\n' then ['\r', '\n'] else [c]

lemma withReturns_line {l : List Char} (h : '\n' ∉ l) : withReturns l = l := by
  induction l with
  | nil => rfl
  | cons c l ih =>
    obtain ⟨hc, hl⟩ := List.ne_and_not_mem_of_not_mem_cons h
    rw [withReturns, List.flatMap_cons, if_neg (Ne.symm hc), ← withReturns, ih hl]
    rfl

lemma relaid_withReturns (cs : List Char) : Relaid cs (withReturns cs) := by
  have hmargin : ∀ c ∈ ([] : List Char), c = ' ' ∨ c = '\t' := by simp
  induction cs using lines_induction with
  | nil => exact .last hmargin List.not_mem_nil
  | last l _ hl =>
    rw [withReturns_line hl]
    exact .last hmargin hl
  | cons l rest hl ih =>
    have heq : withReturns (l ++ '\n' :: rest) = [] ++ l ++ ['\r'] ++ '\n' :: withReturns rest := by
      rw [withReturns, List.flatMap_append, ← withReturns, withReturns_line hl]
      simp [withReturns]
    rw [heq]
    exact .line hmargin hl (by simp) ih

namespace Spot

/-- The place of a character, and the one it has after spaces and tabs were put in at the start of the
line and the end of the line was exchanged for other white space. -/
inductive Moved (c : Char) : Spot → Spot → Prop
  | mk (number : ℕ) (before behind : List Char) {margin tail tail' : List Char}
      (blank : ∀ c ∈ margin, c = ' ' ∨ c = '\t') (ends : ∀ c ∈ tail, isWhiteSpace c = true)
      (ends' : ∀ c ∈ tail', isWhiteSpace c = true) :
      Moved c ⟨number, before ++ c :: (behind ++ tail), before.length⟩
        ⟨number, margin ++ (before ++ c :: (behind ++ tail')), margin.length + before.length⟩

end Spot

/-- All that stands behind the last character of a line is white space. -/
lemma isWhiteSpace_of_mem_ending {tail : List Char}
    (filler : ∀ c ∈ tail, c = ' ' ∨ c = '\t' ∨ c = '\r') :
    ∀ c ∈ tail ++ ['\n'], isWhiteSpace c = true := by
  intro c hc
  rcases List.mem_append.mp hc with hc | hc
  · rcases filler c hc with rfl | rfl | rfl <;> decide +kernel
  · rw [List.mem_singleton.mp hc]
    decide +kernel

lemma isBlank_of_filler {c : Char} (h : c = ' ' ∨ c = '\t' ∨ c = '\r') : isBlank c = true := by
  rcases h with rfl | rfl | rfl <;> rfl

lemma isBlank_of_margin {c : Char} (h : c = ' ' ∨ c = '\t') : isBlank c = true :=
  isBlank_of_filler (h.imp_right .inl)

lemma newline_not_mem_filler {l : List Char} (h : ∀ c ∈ l, c = ' ' ∨ c = '\t' ∨ c = '\r') :
    '\n' ∉ l := fun hmem => by simpa using h _ hmem

lemma newline_not_mem_margin {l : List Char} (h : ∀ c ∈ l, c = ' ' ∨ c = '\t') : '\n' ∉ l :=
  newline_not_mem_filler fun c hc => (h c hc).imp_right .inl

/-- The line feed is not in the text in front of it nor is it the character `c`, so `c` stands in front
of it or behind it. -/
lemma exists_of_append_feed {l rest a b : List Char} {c : Char}
    (h : l ++ '\n' :: rest = a ++ c :: b) (hc : c ≠ '\n') :
    (∃ v, l = a ++ c :: v ∧ b = v ++ '\n' :: rest) ∨
      ∃ u, a = l ++ '\n' :: u ∧ rest = u ++ c :: b := by
  rcases List.append_eq_append_iff.mp h with ⟨u, rfl, hu⟩ | ⟨v, rfl, hv⟩
  · cases u with
    | nil => exact absurd (List.cons.inj hu).1.symm hc
    | cons d u =>
      obtain ⟨rfl, rfl⟩ := List.cons.inj hu
      exact .inr ⟨u, rfl, rfl⟩
  · cases v with
    | nil => exact absurd (List.cons.inj hv).1 hc
    | cons d v =>
      obtain ⟨rfl, rfl⟩ := List.cons.inj hv
      exact .inl ⟨v, rfl, rfl⟩

/-- A character of a text that is laid out anew stands in a line with the same number, behind the same
characters but for the blanks put in. -/
theorem Relaid.exists_moved {cs cs' a b : List Char} {c : Char} (h : Relaid cs cs')
    (hcs : cs = a ++ c :: b) (hc : c ≠ '\n') :
    ∃ a' b', cs' = a' ++ c :: b' ∧ (∀ x ∈ a', x ∈ a ∨ isBlank x = true) ∧ ∀ number, ∃ s s',
      Spot.within? number (lines cs) a.length = some s ∧
        Spot.within? number (lines cs') a'.length = some s' ∧ Spot.Moved c s s' := by
  -- line by line; the lines behind a line feed are numbered from the next number on
  induction h generalizing a b with
  | @last margin l blank line =>
    subst hcs
    have hline : '\n' ∉ margin ++ (a ++ c :: b) :=
      List.not_mem_append (newline_not_mem_margin blank) line
    refine ⟨margin ++ a, b, by simp, fun x hx => ?_, fun number => ⟨_, _,
      Spot.within?_last line (by simp) number, Spot.within?_last hline (by simp) number, ?_⟩⟩
    · exact (List.mem_append.mp hx).elim (fun hx => .inr (isBlank_of_margin (blank x hx))) .inl
    · have hnone : ∀ x ∈ ([] : List Char), isWhiteSpace x = true := by simp
      have hmoved := Spot.Moved.mk (c := c) number a b blank hnone hnone
      simpa using hmoved
  | @line margin l tail rest rest' blank line filler h ih =>
    have hline : '\n' ∉ margin ++ l ++ tail :=
      List.not_mem_append (List.not_mem_append (newline_not_mem_margin blank) line)
        (newline_not_mem_filler filler)
    rcases exists_of_append_feed hcs hc with ⟨v, rfl, rfl⟩ | ⟨u, rfl, rfl⟩
    · refine ⟨margin ++ a, v ++ tail ++ '\n' :: rest', by simp, fun x hx => ?_, fun number => ?_⟩
      · exact (List.mem_append.mp hx).elim (fun hx => .inr (isBlank_of_margin (blank x hx))) .inl
      · have hspot := Spot.within?_line line (n := a.length) (by simp) number rest
        have hspot' := Spot.within?_line hline (n := (margin ++ a).length) (by simp) number rest'
        have hends : ∀ x ∈ [] ++ ['\n'], isWhiteSpace x = true :=
          isWhiteSpace_of_mem_ending (by simp)
        have hmoved := Spot.Moved.mk (c := c) number a v blank hends
          (isWhiteSpace_of_mem_ending filler)
        exact ⟨_, _, hspot, hspot', by simpa using hmoved⟩
    · obtain ⟨u', b', rfl, hu', hspots⟩ := ih rfl
      refine ⟨margin ++ l ++ tail ++ '\n' :: u', b', by simp, fun x hx => ?_, fun number => ?_⟩
      · simp only [List.mem_append, List.mem_cons] at hx ⊢
        rcases hx with ((hx | hx) | hx) | rfl | hx
        · exact .inr (isBlank_of_margin (blank x hx))
        · exact .inl (.inl hx)
        · exact .inr (isBlank_of_filler (filler x hx))
        · exact .inr rfl
        · exact (hu' x hx).imp_left fun hx => .inr (.inr hx)
      · have hspot := Spot.within?_behind_line line number u.length (u ++ c :: b)
        have hspot' := Spot.within?_behind_line hline number u'.length (u' ++ c :: b')
        obtain ⟨s, s', hs, hs', hmoved⟩ := hspots (number + 1)
        rw [hs, ← List.length_append, ← List.append_cons] at hspot
        rw [hs', ← List.length_append, ← List.append_cons] at hspot'
        exact ⟨s, s', hspot, hspot', hmoved⟩

namespace Diagnostic
variable {margin tail : List Char} {c : Char}

lemma indentWidth_margin_append (blank : ∀ c ∈ margin, c = ' ' ∨ c = '\t') (text : List Char) :
    indentWidth (margin ++ text) = margin.length + indentWidth text := by
  have hall : ∀ c ∈ margin, (c == ' ' || c == '\t') = true := by simpa using blank
  rw [indentWidth, List.takeWhile_append_of_pos hall, List.length_append, indentWidth]

/-- The indentation ends at the first character that is no space and no tab. -/
lemma indentWidth_append_cons (space : c ≠ ' ') (tab : c ≠ '\t') (before rest : List Char) :
    indentWidth (before ++ c :: rest) = indentWidth before := by
  unfold indentWidth
  induction before with
  | nil => simp [space, tab]
  | cons d before ih =>
    simp only [List.cons_append, List.takeWhile_cons]
    split
    · rw [List.length_cons, List.length_cons, ih]
    · rfl

lemma trimEnd_append (h : ∀ c ∈ tail, isWhiteSpace c = true) (text : List Char) :
    trimEnd (text ++ tail) = trimEnd text := by
  have hall : ∀ c ∈ tail.reverse, isWhiteSpace c = true := by simpa using h
  rw [trimEnd, List.reverse_append, List.dropWhile_append_of_pos hall, trimEnd]

lemma shownText_line (blank : ∀ c ∈ margin, c = ' ' ∨ c = '\t') (space : c ≠ ' ') (tab : c ≠ '\t')
    (ends : ∀ c ∈ tail, isWhiteSpace c = true) (before behind : List Char) :
    shownText (margin ++ (before ++ c :: (behind ++ tail))) =
      trimEnd (before.drop (indentWidth before) ++ c :: behind) := by
  have hle : indentWidth before ≤ before.length := (List.takeWhile_sublist _).length_le
  rw [shownText, indentWidth_margin_append blank, indentWidth_append_cons space tab,
    List.drop_length_add_append, List.drop_append_of_le_length hle, ← List.cons_append,
    ← List.append_assoc, trimEnd_append ends]

/-- A moved place has the same rows. -/
theorem rows_of_moved {s s' : Spot} (h : Spot.Moved c s s') (space : c ≠ ' ') (tab : c ≠ '\t') :
    underlineWidth s' = underlineWidth s ∧ rows s' = rows s := by
  cases h with
  | @mk number before behind margin tail tail' blank ends ends' =>
    have hwidth : underlineWidth ⟨number, margin ++ (before ++ c :: (behind ++ tail')),
          margin.length + before.length⟩ =
        underlineWidth ⟨number, before ++ c :: (behind ++ tail), before.length⟩ := by
      rw [underlineWidth, underlineWidth, indentWidth_margin_append blank,
        indentWidth_append_cons space tab, indentWidth_append_cons space tab,
        Nat.add_sub_add_left]
    have hshown := shownText_line blank space tab ends' before behind
    have hmargin : ∀ c ∈ ([] : List Char), c = ' ' ∨ c = '\t' := by simp
    have hshown' := shownText_line hmargin space tab ends before behind
    rw [List.nil_append] at hshown'
    refine ⟨hwidth, ?_⟩
    rw [rows, rows, hwidth, hshown, hshown']

/-- Diagnostics that differ only in the position are rendered alike if their places have the same
rows. -/
lemma render_congr {d d' : Diagnostic} {source source' : String} {s s' : Spot}
    (hs : Spot.locate? source d.position = some s)
    (hs' : Spot.locate? source' d'.position = some s') (cause : d'.cause = d.cause)
    (file : d'.file = d.file) (hwidth : underlineWidth s' = underlineWidth s)
    (hrows : rows s' = rows s) : d'.render source' = d.render source := by
  simp only [render, hs, hs', hwidth, hrows, header, cause, file]

/-- A source that strict lexing refuses is refused for the same character when it is laid out anew,
and the two errors, each with its own source, are rendered as the same text or are both too wide. -/
theorem render_relaid {source source' : String} {file : Option String} {d : Diagnostic}
    (h : lexStrict source file = .error d) (relaid : Relaid source.toList source'.toList) :
    ∃ d', lexStrict source' file = .error d' ∧ d'.cause = d.cause ∧ d'.file = d.file ∧
      d'.render source' = d.render source := by
  obtain ⟨a, c, b, hsource, legal, hc, rfl⟩ := lexStrict_eq_error_iff_first.mp h
  have hblank : isBlank c = false := (isIllegal_iff.mp hc).1
  have hne : c ≠ ' ' ∧ c ≠ '\t' ∧ c ≠ '\n' := by
    refine ⟨?_, ?_, ?_⟩ <;> · rintro rfl; cases hblank
  obtain ⟨a', b', hsource', hfront, hspots⟩ := relaid.exists_moved hsource hne.2.2
  have legal' : ∀ x ∈ a', isIllegal x = false := by
    intro x hx
    rcases hfront x hx with hmem | hx
    · exact legal x hmem
    · simp [isIllegal, hx]
  obtain ⟨s, s', hs, hs', hmoved⟩ := hspots 1
  obtain ⟨hwidth, hrows⟩ := rows_of_moved hmoved hne.1 hne.2.1
  exact ⟨_, lexStrict_eq_error_iff_first.mpr ⟨a', c, b', hsource', legal', hc, rfl⟩, rfl, rfl,
    render_congr hs hs' rfl rfl hwidth hrows⟩

/-- The same source with carriage returns, and with other margins and with blanks at the ends of its
lines. The illegal character is not shown, because it is white space too. -/
theorem render_relaid_returns :
    lexStrict "x\n y\u00a0\n" none = .error ⟨.illegalCharacter '\u00a0', 4, "shell"⟩ ∧
      (Relaid "x\n y\u00a0\n".toList "x\r\n y\u00a0\r\n".toList ∧ ∃ d,
        lexStrict "x\r\n y\u00a0\r\n" none = .error d ∧ d.render "x\r\n y\u00a0\r\n" =
          render ⟨.illegalCharacter '\u00a0', 4, "shell"⟩ "x\n y\u00a0\n") ∧
      (Relaid "x\n y\u00a0\n".toList "  x\n\t y\u00a0 \t\n".toList ∧ ∃ d,
        lexStrict "  x\n\t y\u00a0 \t\n" none = .error d ∧ d.render "  x\n\t y\u00a0 \t\n" =
          render ⟨.illegalCharacter '\u00a0', 4, "shell"⟩ "x\n y\u00a0\n") := by
  have herror : lexStrict "x\n y\u00a0\n" none =
      .error ⟨.illegalCharacter '\u00a0', 4, "shell"⟩ := by decide +kernel
  have hreturns : Relaid "x\n y\u00a0\n".toList "x\r\n y\u00a0\r\n".toList := by
    have heq : withReturns "x\n y\u00a0\n".toList = "x\r\n y\u00a0\r\n".toList := by decide +kernel
    rw [← heq]
    exact relaid_withReturns _
  have hmargins : Relaid "x\n y\u00a0\n".toList "  x\n\t y\u00a0 \t\n".toList := by
    have hlast : Relaid [] ([] ++ []) := .last (by simp) (by simp)
    have hsecond : Relaid ([' ', 'y', '\u00a0'] ++ '\n' :: [])
        (['\t'] ++ [' ', 'y', '\u00a0'] ++ [' ', '\t'] ++ '\n' :: ([] ++ [])) :=
      .line (by simp) (by simp) (by simp) hlast
    have hfirst : Relaid (['x'] ++ '\n' :: ([' ', 'y', '\u00a0'] ++ '\n' :: []))
        ([' ', ' '] ++ ['x'] ++ [] ++ '\n' ::
          (['\t'] ++ [' ', 'y', '\u00a0'] ++ [' ', '\t'] ++ '\n' :: ([] ++ []))) :=
      .line (by simp) (by simp) (by simp) hsecond
    simpa using hfirst
  obtain ⟨d, hd, -, -, hrender⟩ := render_relaid herror hreturns
  obtain ⟨d', hd', -, -, hrender'⟩ := render_relaid herror hmargins
  exact ⟨herror, ⟨hreturns, d, hd, hrender⟩, hmargins, d', hd', hrender'⟩

end Diagnostic
end ScriptLexer
