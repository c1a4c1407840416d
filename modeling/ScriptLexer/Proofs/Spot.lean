import ScriptLexer.Proofs.Lines

/-! The place of a character said without the lines: its line is counted by the line feeds before it,
and begins and ends at the ones next to it. The place says which character it is, so places are
ordered as the characters are. -/
namespace ScriptLexer

variable {l : List Char}

/-- The index after the last line feed before index `p`, zero if there is none. -/
def lineBegin (cs : List Char) (p : ℕ) : ℕ := p - (cs.take p).reverse.idxOf '\n'

/-- The index after the first line feed from index `p` on, the length if there is none. -/
def lineEnd (cs : List Char) (p : ℕ) : ℕ := min (p + (cs.drop p).idxOf '\n' + 1) cs.length

/-- A text with one line feed, at its end. -/
def Ended (l : List Char) : Prop := ∃ m, '\n' ∉ m ∧ l = m ++ ['\n']

lemma Ended.newline_not_mem_take (h : Ended l) {n : ℕ} (hn : n < l.length) :
    '\n' ∉ l.take n := by
  obtain ⟨m, hm, rfl⟩ := h
  have hle : n ≤ m.length := by
    rw [List.length_append, List.length_singleton] at hn
    omega
  rw [List.take_append_of_le_length hle]
  exact fun hmem => hm (List.mem_of_mem_take hmem)

lemma newline_not_mem_dropLast_of_ended (h : Ended l ∨ '\n' ∉ l) : '\n' ∉ l.dropLast := by
  rcases h with ⟨m, hm, rfl⟩ | hl
  · rwa [List.dropLast_concat]
  · exact fun hmem => hl (List.mem_of_mem_dropLast hmem)

lemma Ended.idxOf_drop (h : Ended l) {n : ℕ} (hn : n < l.length) (rest : List Char) :
    n + (l.drop n ++ rest).idxOf '\n' + 1 = l.length := by
  obtain ⟨m, hm, rfl⟩ := h
  rw [List.length_append, List.length_singleton] at hn ⊢
  have hnot : '\n' ∉ m.drop n := fun hmem => hm (List.mem_of_mem_drop hmem)
  rw [List.drop_append_of_le_length (by omega), List.append_assoc,
    List.idxOf_append_of_notMem hnot, List.singleton_append, List.idxOf_cons_self, List.length_drop]
  omega

lemma count_flatten_of_ended {ls : List (List Char)} (h : ∀ k ∈ ls, Ended k) :
    ls.flatten.count '\n' = ls.length := by
  induction ls with
  | nil => rfl
  | cons k ls ih =>
    obtain ⟨⟨m, hm, rfl⟩, hls⟩ := List.forall_mem_cons.mp h
    rw [List.flatten_cons, List.count_append, List.count_append, List.count_eq_zero_of_not_mem hm,
      List.count_singleton_self, ih hls, List.length_cons]
    omega

/-- What ends with a line feed, read backwards, has one at once. -/
lemma idxOf_reverse_flatten_of_ended {ls : List (List Char)} (h : ∀ k ∈ ls, Ended k) :
    ls.flatten.reverse.idxOf '\n' = 0 := by
  rcases List.eq_nil_or_concat ls with rfl | ⟨init, k, rfl⟩
  · rfl
  · obtain ⟨m, -, rfl⟩ := h k (by simp)
    simp

/-- Every line but the last has one line feed, at its end; the last line may have none. -/
lemma ended_of_lines {cs : List Char} {before after : List (List Char)}
    (h : lines cs = before ++ l :: after) :
    (∀ k ∈ before, Ended k) ∧ (Ended l ∨ '\n' ∉ l ∧ after = []) := by
  induction cs using lines_induction generalizing before with
  | nil => simp at h
  | last m nonempty hm =>
    rw [lines_last nonempty hm] at h
    cases before with
    | nil =>
      obtain ⟨rfl, hafter⟩ := List.cons.inj h
      exact ⟨by simp, .inr ⟨hm, hafter.symm⟩⟩
    | cons k before => simp at h
  | cons m rest hm ih =>
    rw [lines_cons hm] at h
    cases before with
    | nil =>
      obtain ⟨rfl, -⟩ := List.cons.inj h
      exact ⟨by simp, .inl ⟨m, hm, rfl⟩⟩
    | cons k before =>
      obtain ⟨rfl, hrest⟩ := List.cons.inj h
      obtain ⟨hbefore, hl⟩ := ih hrest
      exact ⟨List.forall_mem_cons.mpr ⟨⟨m, hm, rfl⟩, hbefore⟩, hl⟩

/-- Each character of a text stands in one of its lines. -/
lemma exists_line_of_lt {cs : List Char} {p : ℕ} (h : p < cs.length) :
    ∃ before l after n, lines cs = before ++ l :: after ∧ n < l.length ∧
      p = before.flatten.length + n := by
  induction cs using lines_induction generalizing p with
  | nil => simp at h
  | last m nonempty hm => exact ⟨[], m, [], p, lines_last nonempty hm, h, by simp⟩
  | cons m rest hm ih =>
    by_cases hp : p < (m ++ ['\n']).length
    · exact ⟨[], m ++ ['\n'], lines rest, p, lines_cons hm rest, hp, by simp⟩
    · have hrest : p - (m ++ ['\n']).length < rest.length := by
        simp only [List.length_append, List.length_cons, List.length_nil] at h hp ⊢
        omega
      obtain ⟨before, l, after, n, hlines, hn, hq⟩ := ih hrest
      refine ⟨(m ++ ['\n']) :: before, l, after, n, ?_, hn, ?_⟩
      · rw [lines_cons hm, hlines, List.cons_append]
      · rw [List.flatten_cons, List.length_append]
        omega

section Line
variable {cs : List Char} {before after : List (List Char)} {n : ℕ}
  (h : lines cs = before ++ l :: after) (hn : n < l.length)
include h

lemma eq_of_lines : cs = before.flatten ++ (l ++ after.flatten) := by
  rw [← flatten_lines cs, h]
  simp

include hn

lemma take_of_lines : cs.take (before.flatten.length + n) = before.flatten ++ l.take n := by
  rw [eq_of_lines h, List.take_length_add_append, List.take_append_of_le_length hn.le]

lemma drop_of_lines : cs.drop (before.flatten.length + n) = l.drop n ++ after.flatten := by
  rw [eq_of_lines h, List.drop_length_add_append, List.drop_append_of_le_length hn.le]

lemma newline_not_mem_take_line : '\n' ∉ l.take n := by
  rcases (ended_of_lines h).2 with hl | ⟨hl, -⟩
  · exact hl.newline_not_mem_take hn
  · exact fun hmem => hl (List.mem_of_mem_take hmem)

lemma count_take_of_lines :
    (cs.take (before.flatten.length + n)).count '\n' = before.length := by
  rw [take_of_lines h hn, List.count_append, count_flatten_of_ended (ended_of_lines h).1,
    List.count_eq_zero_of_not_mem (newline_not_mem_take_line h hn), Nat.add_zero]

lemma lineBegin_of_lines :
    lineBegin cs (before.flatten.length + n) = before.flatten.length := by
  have hback : '\n' ∉ (l.take n).reverse := by
    rw [List.mem_reverse]
    exact newline_not_mem_take_line h hn
  rw [lineBegin, take_of_lines h hn, List.reverse_append, List.idxOf_append_of_notMem hback,
    idxOf_reverse_flatten_of_ended (ended_of_lines h).1, List.length_reverse, List.length_take]
  omega

lemma lineEnd_of_lines :
    lineEnd cs (before.flatten.length + n) = before.flatten.length + l.length := by
  have hlength := congrArg List.length (eq_of_lines h)
  simp only [List.length_append] at hlength
  rw [lineEnd, drop_of_lines h hn, hlength]
  rcases (ended_of_lines h).2 with hl | ⟨hl, rfl⟩
  · have hidx := hl.idxOf_drop hn after.flatten
    omega
  · have hnot : '\n' ∉ l.drop n := fun hmem => hl (List.mem_of_mem_drop hmem)
    rw [List.flatten_nil, List.append_nil, List.idxOf_of_notMem hnot, List.length_drop]
    simp only [List.length_nil]
    omega

end Line

namespace Spot
variable {source : String} {p : ℕ} {s : Spot}

lemma exists_lines_of_within? {number n : ℕ} {ls : List (List Char)}
    (h : within? number ls n = some s) : ∃ before after, ls = before ++ s.text :: after ∧
      s.line = number + before.length ∧ s.column < s.text.length ∧
      n = before.flatten.length + s.column := by
  induction ls generalizing number n with
  | nil => simp [within?] at h
  | cons l ls ih =>
    rw [within?] at h
    split at h
    next hn =>
      cases h
      exact ⟨[], ls, rfl, rfl, hn, by simp⟩
    next hn =>
      obtain ⟨before, after, rfl, hline, hcolumn, hrest⟩ := ih h
      refine ⟨l :: before, after, rfl, ?_, hcolumn, ?_⟩
      · rw [hline, List.length_cons]
        omega
      · rw [List.flatten_cons, List.length_append]
        omega

/-- A place is that of the character as many characters into its line as its column says. -/
theorem locate?_eq_some_iff : locate? source p = some s ↔
    ∃ before after, lines source.toList = before ++ s.text :: after ∧
      s.line = before.length + 1 ∧ s.column < s.text.length ∧
      p = before.flatten.length + s.column := by
  constructor
  · intro h
    obtain ⟨before, after, hlines, hline, hrest⟩ := exists_lines_of_within? h
    exact ⟨before, after, hlines, by rw [hline, Nat.add_comm], hrest⟩
  · rintro ⟨before, after, hlines, hline, hcolumn, rfl⟩
    rw [locate?_of_lines hlines hcolumn, ← hline]

theorem isSome_locate?_iff : (locate? source p).isSome = true ↔ p < source.length := by
  rw [Option.isSome_iff_exists, ← String.length_toList]
  constructor
  · rintro ⟨s, hs⟩
    obtain ⟨before, after, hlines, -, hcolumn, rfl⟩ := locate?_eq_some_iff.mp hs
    rw [eq_of_lines hlines, List.length_append, List.length_append]
    omega
  · intro h
    obtain ⟨before, l, after, n, hlines, hn, rfl⟩ := exists_line_of_lt h
    exact ⟨_, locate?_of_lines hlines hn⟩

/-- The character at a place is the one with the index. -/
lemma getElem?_text (h : locate? source p = some s) : s.text[s.column]? = source.toList[p]? := by
  obtain ⟨before, after, hlines, -, hcolumn, rfl⟩ := locate?_eq_some_iff.mp h
  rw [eq_of_lines hlines, List.getElem?_append_right (Nat.le_add_right _ _),
    Nat.add_sub_cancel_left, List.getElem?_append_left hcolumn]

lemma newline_not_mem_dropLast (h : locate? source p = some s) : '\n' ∉ s.text.dropLast := by
  obtain ⟨before, after, hlines, -⟩ := locate?_eq_some_iff.mp h
  exact newline_not_mem_dropLast_of_ended ((ended_of_lines hlines).2.imp_right And.left)

/-- The index of the first character of the line, and the column, say which character it is. -/
lemma lineStart_add_column (h : locate? source p = some s) :
    lineStart (lines source.toList) (s.line - 1) + s.column = p := by
  obtain ⟨before, after, hlines, hline, -, rfl⟩ := locate?_eq_some_iff.mp h
  rw [hline, Nat.add_sub_cancel, lineStart, hlines, List.take_left, List.length_flatten]

lemma line_eq (h : locate? source p = some s) :
    s.line = 1 + (source.toList.take p).count '\n' := by
  obtain ⟨before, after, hlines, hline, hcolumn, rfl⟩ := locate?_eq_some_iff.mp h
  rw [hline, count_take_of_lines hlines hcolumn, Nat.add_comm]

/-- Of two places of a source the later one is in a later line, or farther on in the same one. -/
lemma toLex_lt_of_lt {q : ℕ} {t : Spot} (hs : locate? source p = some s)
    (ht : locate? source q = some t) (h : p < q) :
    toLex (s.line, s.column) < toLex (t.line, t.column) := by
  have hcount : (source.toList.take p).count '\n' ≤ (source.toList.take q).count '\n' :=
    (List.take_sublist_take_left h.le).count_le '\n'
  rw [Prod.Lex.toLex_lt_toLex]
  rcases Nat.lt_or_ge s.line t.line with hlt | hge
  · exact .inl hlt
  · -- the lines are the same, so both columns are counted from the same index
    have hline : s.line = t.line := by
      rw [line_eq hs, line_eq ht] at hge ⊢
      omega
    have hp := lineStart_add_column hs
    have hq := lineStart_add_column ht
    rw [hline] at hp
    exact .inr ⟨hline, by omega⟩

/-- A character of the source, and nothing else, has a place. Its line is counted by the line feeds
before it, its column from the last of them, and the text of the line goes on through the next. The
lines in front of it and the column add up to its index, so no two characters share a place and
their order is that of their places, line before column. -/
theorem locate?_between_feeds (source : String) :
    (∀ p, (locate? source p).isSome = true ↔ p < source.length) ∧
      (∀ p s, locate? source p = some s →
        s.line = 1 + (source.toList.take p).count '\n' ∧
        lineBegin source.toList p + s.column = p ∧
        s.text = source.toList.extract (lineBegin source.toList p) (lineEnd source.toList p) ∧
        (∃ c, source.toList[p]? = some c ∧ s.text[s.column]? = some c) ∧
        lineStart (lines source.toList) (s.line - 1) + s.column = p) ∧
      ∀ p q s t, locate? source p = some s → locate? source q = some t →
        ((s.line, s.column) = (t.line, t.column) → p = q) ∧
        (p < q ↔ toLex (s.line, s.column) < toLex (t.line, t.column)) := by
  refine ⟨fun p => isSome_locate?_iff, fun p s hs => ?_, fun p q s t hs ht => ⟨fun heq => ?_, ?_⟩⟩
  · have hchar := getElem?_text hs
    have hstart := lineStart_add_column hs
    have hline := line_eq hs
    obtain ⟨before, after, hlines, -, hcolumn, rfl⟩ := locate?_eq_some_iff.mp hs
    refine ⟨hline, ?_, ?_, ⟨s.text[s.column], ?_, ?_⟩, hstart⟩
    · rw [lineBegin_of_lines hlines hcolumn]
    · rw [lineBegin_of_lines hlines hcolumn, lineEnd_of_lines hlines hcolumn,
        eq_of_lines hlines]
      simp [List.extract]
    · rw [← hchar, List.getElem?_eq_getElem hcolumn]
    · exact List.getElem?_eq_getElem hcolumn
  · obtain ⟨hline, hcolumn⟩ := Prod.mk.inj heq
    rw [← lineStart_add_column hs, ← lineStart_add_column ht, hline, hcolumn]
  · refine ⟨toLex_lt_of_lt hs ht, fun hlt => ?_⟩
    by_contra hge
    rcases Nat.lt_or_eq_of_le (Nat.le_of_not_lt hge) with hqp | rfl
    · exact lt_asymm hlt (toLex_lt_of_lt ht hs hqp)
    · obtain rfl := Option.some.inj (hs.symm.trans ht)
      exact lt_irrefl _ hlt

/-- The first and the last character of a third line behind an empty one. -/
theorem locate?_between_feeds_third :
    locate? "é\n\nxy\n" 3 = some ⟨3, "xy\n".toList, 0⟩ ∧
      locate? "é\n\nxy\n" 5 = some ⟨3, "xy\n".toList, 2⟩ ∧
      (3 = 1 + ("é\n\nxy\n".toList.take 5).count '\n' ∧
        "xy\n".toList = "é\n\nxy\n".toList.extract (lineBegin "é\n\nxy\n".toList 5)
          (lineEnd "é\n\nxy\n".toList 5)) ∧
      toLex (3, 0) < toLex (3, 2) := by
  have hfirst : locate? "é\n\nxy\n" 3 = some ⟨3, "xy\n".toList, 0⟩ := by decide +kernel
  have hlast : locate? "é\n\nxy\n" 5 = some ⟨3, "xy\n".toList, 2⟩ := by decide +kernel
  obtain ⟨-, hplace, horder⟩ := locate?_between_feeds "é\n\nxy\n"
  obtain ⟨hline, -, htext, -⟩ := hplace _ _ hlast
  exact ⟨hfirst, hlast, ⟨hline, htext⟩, (horder _ _ _ _ hfirst hlast).2.mp (by decide)⟩

end Spot
end ScriptLexer
