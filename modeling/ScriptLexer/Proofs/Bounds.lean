import ScriptLexer.Proofs.Cursor

/-! Where a cursor can stand. Its four parts are tied to each other and to the source, which is the
same as to say that it cuts the source in two; every operation keeps that and none goes back. -/
namespace ScriptLexer.Cursor

/-- The cursor stands in the source or at its end, and its parts agree. -/
structure Valid (source : List Char) (c : Cursor) : Prop where
  source_eq : c.source = source.toArray
  position_le : c.position ≤ source.length
  ahead_eq : c.ahead = c.position + 1
  /-- The character under it, none at the end of the source. -/
  current_eq : c.current = source[c.position]?

variable {source : List Char} {c : Cursor}

lemma valid_between (before rest : List Char) :
    (between before rest).Valid (before ++ rest) where
  source_eq := rfl
  position_le := by simp
  ahead_eq := rfl
  current_eq := by
    rw [position_between, List.getElem?_append_right (Nat.le_refl _), Nat.sub_self,
      ← List.head?_eq_getElem?]
    rfl

lemma Valid.exists_between (h : c.Valid source) :
    ∃ before rest, source = before ++ rest ∧ c = between before rest := by
  refine ⟨source.take c.position, source.drop c.position, by simp, ?_⟩
  obtain ⟨text, position, ahead, current⟩ := c
  obtain ⟨hsource, hle, hahead, hcurrent⟩ := h
  dsimp only at hsource hle hahead hcurrent
  simp [between, hsource, hle, hahead, hcurrent]

lemma Valid.size_eq (h : c.Valid source) : c.source.size = source.length := by
  rw [h.source_eq, List.size_toArray]

lemma Valid.advance (h : c.Valid source) : c.advance.Valid source := by
  obtain ⟨before, rest, rfl, rfl⟩ := h.exists_between
  cases rest with
  | nil =>
    rw [advance_between_nil]
    exact h
  | cons d rest =>
    have hvalid := valid_between (before ++ [d]) rest
    rwa [advance_between_cons, List.append_cons]

theorem valid_ofString (source : String) : (ofString source).Valid source.toList := by
  rw [ofString_eq]
  exact valid_between [] source.toList

/-- A step keeps a cursor valid and does not move it back. -/
theorem Valid.next (h : c.Valid source) :
    c.next.2.Valid source ∧ c.position ≤ c.next.2.position := by
  obtain ⟨before, rest, rfl, rfl⟩ := h.exists_between
  obtain ⟨_, _, read, rest', rfl, hnext⟩ := exists_next_between rest
  rw [hnext, ← List.append_assoc]
  exact ⟨valid_between (before ++ read) rest', by simp⟩

/-- So does passing over characters of one class. -/
theorem Valid.advanceWhile (h : c.Valid source) (p : Char → Bool) :
    (c.advanceWhile p).Valid source ∧ c.position ≤ (c.advanceWhile p).position := by
  obtain ⟨before, rest, rfl, rfl⟩ := h.exists_between
  obtain ⟨run, rest', rfl, hrun, hstop⟩ := Alphabet.exists_run p rest
  rw [advanceWhile_between hrun hstop, ← List.append_assoc]
  exact ⟨valid_between (before ++ run) rest', by simp⟩

lemma start_lexeme (c : Cursor) : c.lexeme.1.start = c.position := by
  unfold lexeme
  split
  next => rfl
  next =>
    split
    next => rfl
    next =>
      split
      next => rfl
      next => split <;> rfl

/-- Every lexeme but the end token starts with a character of the source. -/
theorem Valid.start_next_lt (h : c.Valid source) (ht : c.next.1.token ≠ .eof) :
    c.next.1.start < source.length := by
  have hskip : c.skipBlanks.Valid source := (h.advanceWhile _).1
  rw [Cursor.next, start_lexeme]
  by_contra hge
  have hnone : c.skipBlanks.current = none := by
    rw [hskip.current_eq, List.getElem?_eq_none (Nat.le_of_not_lt hge)]
  rw [Cursor.next, lexeme, hnone] at ht
  exact ht rfl

end ScriptLexer.Cursor
