import ScriptLexer.Proofs.Checked
import ScriptLexer.Session

/-! Sessions never leave their source. Whatever is read, laid down and taken up again, each cursor
at hand is a valid one; so everything that reading looks at is in the source, and a machine that
checks this and the sums of its words never stops. -/
namespace ScriptLexer.Session

/-- The sessions that reading, laying down and going back lead to. A cursor that was laid down may
be taken up in any order and any number of times. -/
inductive Reachable (source : String) : Session → Prop
  | start : Reachable source (.start source)
  | read {s : Session} (h : Reachable source s) : Reachable source s.read.2
  | save {s : Session} (h : Reachable source s) : Reachable source s.save
  | restore {s t : Session} (h : Reachable source s) (back : s.restore? = some t) :
      Reachable source t
  | resume {s : Session} {c : Cursor} (h : Reachable source s) (laid : c ∈ s.saved) :
      Reachable source { s with cursor := c }

variable {source : String} {s : Session} {c : Cursor}

lemma eq_of_restore? {t : Session} (h : s.restore? = some t) : s.saved = t.cursor :: t.saved := by
  unfold restore? at h
  split at h
  next => cases h
  next c rest hs =>
    cases h
    exact hs

theorem Reachable.valid (h : s.Reachable source) :
    ∀ c ∈ s.cursor :: s.saved, c.Valid source.toList := by
  induction h with
  | start => simpa [Session.start] using Cursor.valid_ofString source
  | read _ ih =>
    obtain ⟨hcursor, hsaved⟩ := List.forall_mem_cons.mp ih
    exact List.forall_mem_cons.mpr ⟨hcursor.next.1, hsaved⟩
  | save _ ih => exact List.forall_mem_cons.mpr ⟨ih _ List.mem_cons_self, ih⟩
  | restore _ back ih =>
    rw [← eq_of_restore? back]
    exact (List.forall_mem_cons.mp ih).2
  | resume _ laid ih =>
    have hsaved := (List.forall_mem_cons.mp ih).2
    exact List.forall_mem_cons.mpr ⟨hsaved _ laid, hsaved⟩

/-- Each cursor of a session that can be reached stands in the source or at its end, with its parts
in agreement, and a step does not move it back. The text that a step takes out is a part of the
source, and each lexeme but the end token starts in it. So no check of the machine fails, neither in
a step nor when a whole source is lexed. -/
theorem reachable_bounds (h : s.Reachable source) (hc : c ∈ s.cursor :: s.saved) :
    c.Valid source.toList ∧ c.position ≤ c.next.2.position ∧
      (∀ p, c.skipBlanks.position ≤ (c.skipBlanks.advanceWhile p).position ∧
        (c.skipBlanks.advanceWhile p).position ≤ source.length) ∧
      (c.next.1.token ≠ .eof → c.next.1.start < source.length) ∧
      (source.length < 2 ^ 63 → Checked.next c = some c.next ∧
        Checked.lex source = some (lex source) ∧
        ∀ file, Checked.lexStrict source file = some (lexStrict source file)) := by
  have hvalid := h.valid c hc
  have hskip := (hvalid.advanceWhile Alphabet.isBlank).1
  rw [← String.length_toList]
  refine ⟨hvalid, hvalid.next.2, fun p => ?_, hvalid.start_next_lt, fun fits => ?_⟩
  · obtain ⟨hpassed, hle⟩ := hskip.advanceWhile p
    exact ⟨hle, hpassed.position_le⟩
  · refine ⟨Checked.next_eq hvalid fits, ?_⟩
    rw [String.length_toList] at fits
    exact ⟨Checked.lex_eq fits, Checked.lexStrict_eq fits⟩

/-- A cursor that was laid down before a step and is taken up after it. -/
theorem reachable_bounds_resumed :
    Reachable "a =" ⟨.ofString "a =", [.ofString "a ="]⟩ ∧
      Cursor.ofString "a =" ∈ [Cursor.ofString "a =", Cursor.ofString "a ="] ∧
      (Cursor.ofString "a =").next.1.token ≠ .eof ∧ "a =".length < 2 ^ 63 ∧
      (Cursor.ofString "a =").Valid "a =".toList ∧
      (Cursor.ofString "a =").next.1.start < "a =".length ∧
      Checked.lex "a =" = some (lex "a =") := by
  have hstep : Reachable "a =" (Session.start "a =").save.read.2 := .read (.save .start)
  have hreach : Reachable "a =" ⟨.ofString "a =", [.ofString "a ="]⟩ :=
    .resume hstep List.mem_cons_self
  have hmem : Cursor.ofString "a =" ∈ [Cursor.ofString "a =", Cursor.ofString "a ="] :=
    List.mem_cons_self
  have htoken : (Cursor.ofString "a =").next.1.token ≠ .eof := by decide +kernel
  have hlength : "a =".length < 2 ^ 63 := by decide
  obtain ⟨hvalid, -, -, hstart, hchecked⟩ := reachable_bounds hreach hmem
  exact ⟨hreach, hmem, htoken, hlength, hvalid, hstart htoken, (hchecked hlength).2.1⟩

end ScriptLexer.Session
