import ScriptLexer.Proofs.Reading

/-! Readings cut in two, put together and moved. Two readings make one unless a token at the seam
goes on, and a reading falls into two wherever the cut goes through no lexeme. -/
namespace ScriptLexer
open Alphabet

namespace Lexeme

/-- The same token, `k` characters further on. -/
def shift (k : ℕ) (l : Lexeme) : Lexeme := ⟨l.start + k, l.token⟩

/-- A cut before the character with index `p` goes through the lexeme. -/
def CutAt (p : ℕ) (l : Lexeme) : Prop := l.start < p ∧ p < l.stop

instance decidableCutAt (p : ℕ) : DecidablePred (CutAt p) := fun l =>
  inferInstanceAs (Decidable (l.start < p ∧ p < l.stop))

@[simp] lemma token_shift (k : ℕ) (l : Lexeme) : (l.shift k).token = l.token := rfl

end Lexeme

namespace Reads

variable {n : ℕ} {a b cs : List Char} {ls init tail : List Lexeme} {l : Lexeme}

/-- A reading does not depend on where the characters stand. -/
lemma shift (h : Reads n cs ls) (k : ℕ) : Reads (n + k) cs (ls.map (.shift k)) := by
  induction h with
  | blanks blank => exact .blanks blank
  | @lexeme n gap text rest t ls blank spelled stops tail ih =>
    have hstart : Lexeme.shift k ⟨n + gap.length, t⟩ = ⟨n + k + gap.length, t⟩ := by
      rw [Lexeme.shift, Nat.add_right_comm]
    have htail : n + gap.length + text.length + k = n + k + gap.length + text.length := by omega
    rw [htail] at ih
    rw [List.map_cons, hstart]
    exact .lexeme blank spelled stops ih

/-- Two readings make one if no token that ends at the seam is lengthened there. -/
lemma append {ks : List Lexeme} (h : Reads n a ls) (h' : Reads (n + a.length) b ks)
    (stops : ∀ l ∈ ls, l.stop = n + a.length → l.token.StopsBefore b) :
    Reads n (a ++ b) (ls ++ ks) := by
  induction h with
  | blanks blank => exact blanks_append blank h'
  | @lexeme n gap text rest t ls blank spelled stopsRest tail ih =>
    obtain ⟨hfirst, hlater⟩ := List.forall_mem_cons.mp stops
    have hend : n + gap.length + text.length + rest.length =
        n + (gap ++ (text ++ rest)).length := by
      simp only [List.length_append]
      omega
    rw [← hend] at hfirst hlater h'
    have hstop : t.StopsBefore (rest ++ b) := by
      cases rest with
      | nil => exact hfirst (by rw [Lexeme.stop, spelled.width_eq]; rfl)
      | cons c rest =>
        exact (Token.stopsBefore_append_iff (List.cons_ne_nil c rest) b).mpr stopsRest
    rw [List.append_assoc, List.append_assoc]
    exact .lexeme blank spelled hstop (ih h' hlater)

/-- What is read before a lexeme, and what after it. The tokens before it would also be read if
other characters followed, as long as these do not lengthen the one that ends there. -/
lemma exists_split (h : Reads n cs (init ++ l :: tail)) :
    ∃ before text rest, cs = before ++ (text ++ rest) ∧ l.start = n + before.length ∧
      l.token.Spelled text ∧ Reads n before init ∧ Reads (l.start + text.length) rest tail ∧
      ∀ m ∈ init, m.stop = n + before.length → m.token.StopsBefore text := by
  generalize hls : init ++ l :: tail = ls at h
  induction h generalizing init with
  | blanks _ => simp at hls
  | @lexeme n gap text rest t ls blank spelled stops htail ih =>
    cases init with
    | nil =>
      obtain ⟨rfl, rfl⟩ := List.cons.inj hls
      exact ⟨gap, text, rest, rfl, rfl, spelled, .blanks blank, htail, by simp⟩
    | cons m init =>
      obtain ⟨rfl, hinit⟩ := List.cons.inj hls
      obtain ⟨before, text', rest', rfl, hstart, spelled', hread, hrest, hstops⟩ := ih hinit
      rw [← List.append_assoc,
        Token.stopsBefore_append_iff (by simp [spelled'.ne_nil]) rest'] at stops
      have hlength : n + gap.length + text.length + before.length =
          n + (gap ++ (text ++ before)).length := by
        simp only [List.length_append]
        omega
      rw [hlength] at hstart hstops
      refine ⟨gap ++ (text ++ before), text', rest', by simp, hstart, spelled',
        .lexeme blank spelled stops.of_append hread, hrest, ?_⟩
      refine List.forall_mem_cons.mpr ⟨fun hadj => ?_, hstops⟩
      rw [Lexeme.stop, spelled.width_eq, ← hlength] at hadj
      obtain rfl : before = [] := List.length_eq_zero_iff.mp (Nat.left_eq_add.mp hadj)
      exact stops

/-- A cut through no lexeme cuts a reading in two. -/
theorem exists_cut (h : Reads n (a ++ b) ls) (uncut : ∀ l ∈ ls, ¬ l.CutAt (n + a.length)) :
    ∃ ls₁ ls₂, ls = ls₁ ++ ls₂ ∧ Reads n a ls₁ ∧ Reads (n + a.length) b ls₂ := by
  generalize hcs : a ++ b = cs at h
  induction h generalizing a with
  | blanks blank =>
    rw [← hcs] at blank
    obtain ⟨ha, hb⟩ := List.forall_mem_append.mp blank
    exact ⟨[], [], rfl, .blanks ha, .blanks hb⟩
  | @lexeme n gap text rest t ls blank spelled stops tail ih =>
    obtain ⟨hfirst, hlater⟩ := List.forall_mem_cons.mp uncut
    rcases List.append_eq_append_iff.mp hcs with ⟨gap', rfl, rfl⟩ | ⟨a', rfl, htext⟩
    · -- the cut is in the gap, so the lexeme and all after it are read behind the cut
      obtain ⟨hblank, hblank'⟩ := List.forall_mem_append.mp blank
      rw [List.length_append, ← Nat.add_assoc] at tail ⊢
      exact ⟨[], _, rfl, .blanks hblank, .lexeme hblank' spelled stops tail⟩
    · rw [List.length_append, ← Nat.add_assoc] at hfirst hlater ⊢
      rcases List.append_eq_append_iff.mp htext with ⟨a, rfl, rfl⟩ | ⟨text', rfl, rfl⟩
      · rw [List.length_append, ← Nat.add_assoc] at hlater ⊢
        obtain ⟨ls₁, ls₂, rfl, h₁, h₂⟩ := ih hlater rfl
        exact ⟨_ :: ls₁, ls₂, rfl, .lexeme blank spelled stops.of_append h₁, h₂⟩
      · -- the cut is in the text, where it can only be at one of the ends
        have hend : a' = [] ∨ text' = [] := by
          by_contra hne
          obtain ⟨ha, htext'⟩ := not_or.mp hne
          have hpos := List.length_pos_iff.mpr ha
          have hpos' := List.length_pos_iff.mpr htext'
          refine hfirst ⟨by dsimp only; omega, ?_⟩
          rw [Lexeme.stop, spelled.width_eq, List.length_append]
          dsimp only
          omega
        rcases hend with rfl | rfl
        · exact ⟨[], _, rfl, by simpa using .blanks blank, .cons spelled stops tail⟩
        · rw [List.append_nil] at spelled tail
          have hread : Reads n (gap ++ (a' ++ [])) [⟨n + gap.length, t⟩] :=
            .lexeme blank spelled (Token.stopsBefore_nil t) (.blanks (by simp))
          rw [List.append_nil] at hread
          exact ⟨_, ls, rfl, hread, tail⟩

end Reads
end ScriptLexer
