import ScriptLexer.Proofs.Ending
import ScriptLexer.Proofs.Spot
import ScriptLexer.Proofs.Tiling

/-! Tokens by line and column. No token has a line feed in it, so its characters stand in one line,
in columns one after the other, and the line and the column of the first lead back to its text.
Along a source the tokens follow each other as these places do. -/
namespace ScriptLexer

lemma Token.Spelled.newline_not_mem {t : Token} {text : List Char} (h : t.Spelled text) :
    '\n' ∉ text := by
  intro hmem
  exact absurd (h.isBlank_eq_false _ hmem) (by decide)

namespace Spot
variable {source : String} {p n : ℕ} {s : Spot}

/-- The character after one that is no line feed stands in the same line, one column further on. -/
lemma locate?_succ (h : locate? source p = some s) (hne : source.toList[p]? ≠ some '\n')
    (hlt : p + 1 < source.length) :
    locate? source (p + 1) = some ⟨s.line, s.text, s.column + 1⟩ := by
  have hchar := getElem?_text h
  obtain ⟨before, after, hlines, hline, hcolumn, rfl⟩ := locate?_eq_some_iff.mp h
  have hnext : s.column + 1 < s.text.length := by
    by_contra hge
    rcases (ended_of_lines hlines).2 with ⟨m, -, hm⟩ | ⟨-, rfl⟩
    · -- the character ends its line, so it is the line feed
      have hlast : s.column = m.length := by
        rw [hm, List.length_append, List.length_singleton] at hcolumn hge
        omega
      rw [← hchar, hm, hlast] at hne
      simp at hne
    · have hlength := congrArg List.length (eq_of_lines hlines)
      rw [String.length_toList] at hlength
      simp only [List.length_append, List.flatten_nil, List.length_nil] at hlength
      omega
  rw [Nat.add_assoc, locate?_of_lines hlines hnext, hline]

/-- Characters without a line feed before the last of them stand in one line. -/
lemma locate?_add (h : locate? source p = some s)
    (plain : ∀ i < n, source.toList[p + i]? ≠ some '\n') (hlt : p + n < source.length) :
    locate? source (p + n) = some ⟨s.line, s.text, s.column + n⟩ := by
  induction n with
  | zero => exact h
  | succ n ih =>
    have hprev := ih (fun i hi => plain i (Nat.lt_succ_of_lt hi)) (by omega)
    exact locate?_succ hprev (plain n (Nat.lt_succ_self n)) hlt

/-- The characters of a line by their columns are those of the source by their indices. -/
lemma extract_text (h : locate? source p = some s) (hle : s.column + n ≤ s.text.length) :
    s.text.extract s.column (s.column + n) = source.toList.extract p (p + n) := by
  obtain ⟨before, after, hlines, -, hcolumn, rfl⟩ := locate?_eq_some_iff.mp h
  have hdrop := drop_of_lines hlines hcolumn
  have hlength : n ≤ (s.text.drop s.column).length := by
    rw [List.length_drop]
    omega
  rw [List.extract_eq_take_drop, List.extract_eq_take_drop, hdrop, Nat.add_sub_cancel_left,
    Nat.add_sub_cancel_left, List.take_append_of_le_length hlength]

end Spot

/-- The lexeme stands in the line of the place, from the column of the place on. -/
structure Lexeme.StandsAt (source : String) (l : Lexeme) (s : Spot) : Prop where
  start_eq : Spot.locate? source l.start = some s
  /-- Each character that it covers is in the line, as many columns on as it is into the lexeme. -/
  each_eq : ∀ k < l.token.width,
    Spot.locate? source (l.start + k) = some ⟨s.line, s.text, s.column + k⟩
  /-- The columns that it covers show its spelling, unless it has none because it is illegal. -/
  spelled : l.token ≠ .illegal → ∃ text, l.token.spelling? = some text ∧
    s.text.extract s.column (s.column + l.token.width) = text.toList

/-- A text without a line feed stands in the line of its first character. -/
lemma Token.Spelled.exists_standsAt {source : String} {t : Token} {before text rest : List Char}
    (h : t.Spelled text) (hsource : source.toList = before ++ (text ++ rest)) :
    ∃ s, Lexeme.StandsAt source ⟨before.length, t⟩ s := by
  have hpos := List.length_pos_iff.mpr h.ne_nil
  have hlength : before.length + text.length ≤ source.length := by
    rw [← String.length_toList, hsource, List.length_append, List.length_append]
    omega
  have hin : before.length < source.length := by omega
  obtain ⟨s, hs⟩ := Option.isSome_iff_exists.mp (Spot.isSome_locate?_iff.mpr hin)
  have plain : ∀ i < text.length, source.toList[before.length + i]? ≠ some '\n' := by
    intro i hi hfeed
    rw [hsource, List.getElem?_append_right (by omega), Nat.add_sub_cancel_left,
      List.getElem?_append_left hi] at hfeed
    exact h.newline_not_mem (List.mem_of_getElem? hfeed)
  have heach : ∀ k < text.length,
      Spot.locate? source (before.length + k) = some ⟨s.line, s.text, s.column + k⟩ :=
    fun k hk => Spot.locate?_add hs (fun i hi => plain i (Nat.lt_trans hi hk)) (by omega)
  refine ⟨s, hs, fun k hk => heach k (h.width_eq ▸ hk), fun hi => ⟨_, h.spelling?_eq hi, ?_⟩⟩
  -- the place of the last character says that the line is long enough
  obtain ⟨_, _, -, -, hlast, -⟩ := Spot.locate?_eq_some_iff.mp (heach (text.length - 1) (by omega))
  dsimp only at hlast ⊢
  rw [h.width_eq, Spot.extract_text hs (by omega), hsource, extract_middle, String.toList_ofList]

namespace Cursor.Valid
variable {cs : List Char} {c : Cursor}

/-- What a step gives that does not meet the end, and where it leaves the cursor. -/
lemma exists_text_next (h : c.Valid cs) (ht : c.next.1.token ≠ .eof) :
    ∃ before text rest, cs = before ++ (text ++ rest) ∧ c.next.1.start = before.length ∧
      c.next.1.token.Spelled text ∧ c.next.2.position = before.length + text.length := by
  obtain ⟨before, rest, rfl, rfl⟩ := h.exists_between
  obtain ⟨ls, hread⟩ := Reads.exists_reads 0 rest
  cases hread with
  | blanks blank => exact absurd (token_next_between_eq_eof_iff.mpr blank) ht
  | @lexeme _ gap text rest t ls blank spelled stops _ =>
    rw [next_between blank spelled stops]
    exact ⟨before ++ gap, text, rest, by simp, by simp, spelled, by simp [Nat.add_assoc]⟩

lemma position_le_start_next (h : c.Valid cs) : c.position ≤ c.next.1.start := by
  rw [Cursor.next, start_lexeme]
  exact (h.advanceWhile _).2

lemma position_le_after (h : c.Valid cs) (k : ℕ) : c.position ≤ (c.after k).position := by
  induction k generalizing c with
  | zero => exact Nat.le_refl _
  | succ k ih => exact Nat.le_trans h.next.2 (ih h.next.1)

/-- No step after one that meets the end gives another token. -/
lemma token_after_of_eof (h : c.Valid cs) (ht : c.next.1.token = .eof) (k : ℕ) :
    (c.next.2.after k).next.1.token = .eof := by
  rw [h.next_of_eof ht, after_between_nil, next_between_nil]

/-- Up to the end token each step starts farther on than all steps before it. -/
lemma start_after_lt (h : c.Valid cs) {i j : ℕ} (hij : i < j)
    (ht : (c.after j).next.1.token ≠ .eof) :
    (c.after i).next.1.token ≠ .eof ∧ (c.after i).next.1.start < (c.after j).next.1.start := by
  obtain ⟨k, rfl⟩ := Nat.exists_eq_add_of_lt hij
  induction i generalizing c with
  | zero =>
    rw [Nat.zero_add, Cursor.after] at ht ⊢
    have hfirst : c.next.1.token ≠ .eof := fun heof => ht (h.token_after_of_eof heof k)
    obtain ⟨before, text, rest, -, hstart, spelled, hposition⟩ := h.exists_text_next hfirst
    have hpos := List.length_pos_iff.mpr spelled.ne_nil
    have hmoved := h.next.1.position_le_after k
    have hlater := (h.next.1.after k).position_le_start_next
    exact ⟨hfirst, by rw [Cursor.after]; omega⟩
  | succ i ih =>
    have hsteps : i + 1 + k + 1 = i + k + 1 + 1 := by omega
    rw [hsteps, Cursor.after] at ht ⊢
    exact ih h.next.1 (by omega) ht

lemma exists_standsAt_next {source : String} (h : c.Valid source.toList)
    (ht : c.next.1.token ≠ .eof) : ∃ s, c.next.1.StandsAt source s := by
  obtain ⟨before, text, rest, hsource, hstart, spelled, -⟩ := h.exists_text_next ht
  have hstands := spelled.exists_standsAt hsource
  rwa [← hstart] at hstands

end Cursor.Valid

/-- Every lexeme but the end token that a cursor gives, wherever reading has led it, stands in one
line: its characters are in columns one after the other, and these show its spelling unless it is
illegal. The end token is given behind the last character, which is no place. Step after step of the
cursor the places of the lexemes are in order, line before column. -/
theorem lexemes_in_lines {source : String} {s : Session} {c : Cursor} (h : s.Reachable source)
    (hc : c ∈ s.cursor :: s.saved) :
    (c.next.1.token ≠ .eof → ∃ spot, c.next.1.StandsAt source spot) ∧
      (c.next.1.token = .eof →
        c.next.1.start = source.length ∧ Spot.locate? source c.next.1.start = none) ∧
      ∀ i j, i < j → (c.after j).next.1.token ≠ .eof → ∃ first second,
        (c.after i).next.1.StandsAt source first ∧ (c.after j).next.1.StandsAt source second ∧
        toLex (first.line, first.column) < toLex (second.line, second.column) := by
  have hvalid := h.valid c hc
  refine ⟨hvalid.exists_standsAt_next, fun ht => ?_, fun i j hij ht => ?_⟩
  · rw [hvalid.next_of_eof ht, String.length_toList, ← Option.not_isSome_iff_eq_none,
      Spot.isSome_locate?_iff]
    exact ⟨rfl, Nat.lt_irrefl _⟩
  · obtain ⟨hbefore, hlt⟩ := hvalid.start_after_lt hij ht
    obtain ⟨first, hfirst⟩ := (hvalid.after i).exists_standsAt_next hbefore
    obtain ⟨second, hsecond⟩ := (hvalid.after j).exists_standsAt_next ht
    exact ⟨first, second, hfirst, hsecond,
      Spot.toLex_lt_of_lt hfirst.start_eq hsecond.start_eq hlt⟩

/-- A sign of two characters behind a tab, the illegal character after it, and the end. -/
theorem lexemes_in_lines_second :
    (Session.Reachable "é\n\t!=@" (Session.start "é\n\t!=@").read.2 ∧
      (Session.start "é\n\t!=@").read.2.cursor.next.1 = ⟨3, .sign .notEqual⟩ ∧
      Lexeme.StandsAt "é\n\t!=@" ⟨3, .sign .notEqual⟩ ⟨2, "\t!=@".toList, 1⟩) ∧
    (((Session.start "é\n\t!=@").read.2.cursor.after 1).next.1 = ⟨5, .illegal⟩ ∧
      Lexeme.StandsAt "é\n\t!=@" ⟨5, .illegal⟩ ⟨2, "\t!=@".toList, 3⟩ ∧
      toLex (2, 1) < toLex (2, 3)) ∧
    (Session.Reachable "é\n\t!=@" (Session.start "é\n\t!=@").read.2.read.2.read.2 ∧
      (Session.start "é\n\t!=@").read.2.read.2.read.2.cursor.next.1.token = .eof ∧
      Spot.locate? "é\n\t!=@"
        (Session.start "é\n\t!=@").read.2.read.2.read.2.cursor.next.1.start = none) := by
  have hreach : Session.Reachable "é\n\t!=@" (Session.start "é\n\t!=@").read.2 := .read .start
  have hend : Session.Reachable "é\n\t!=@" (Session.start "é\n\t!=@").read.2.read.2.read.2 :=
    .read (.read hreach)
  have hsign : (Session.start "é\n\t!=@").read.2.cursor.next.1 = ⟨3, .sign .notEqual⟩ := by
    decide +kernel
  have hillegal : ((Session.start "é\n\t!=@").read.2.cursor.after 1).next.1 = ⟨5, .illegal⟩ := by
    decide +kernel
  have heof : (Session.start "é\n\t!=@").read.2.read.2.read.2.cursor.next.1.token = .eof := by
    decide +kernel
  have hthree : Spot.locate? "é\n\t!=@" 3 = some ⟨2, "\t!=@".toList, 1⟩ := by decide +kernel
  have hfive : Spot.locate? "é\n\t!=@" 5 = some ⟨2, "\t!=@".toList, 3⟩ := by decide +kernel
  obtain ⟨hplace, -, hsteps⟩ := lexemes_in_lines hreach List.mem_cons_self
  obtain ⟨spot, hstands⟩ := hplace (by simp [hsign])
  obtain ⟨first, second, hfirst, hsecond, hlt⟩ := hsteps 0 1 Nat.zero_lt_one (by simp [hillegal])
  rw [hsign] at hstands
  rw [Cursor.after, hsign] at hfirst
  rw [hillegal] at hsecond
  obtain rfl := Option.some.inj (hthree.symm.trans hstands.start_eq)
  obtain rfl := Option.some.inj (hthree.symm.trans hfirst.start_eq)
  obtain rfl := Option.some.inj (hfive.symm.trans hsecond.start_eq)
  exact ⟨⟨hreach, hsign, hstands⟩, ⟨hillegal, hsecond, hlt⟩, hend, heof,
    ((lexemes_in_lines hend List.mem_cons_self).2.1 heof).2⟩

end ScriptLexer
