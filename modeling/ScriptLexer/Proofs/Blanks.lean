import ScriptLexer.Proofs.Cut
import ScriptLexer.Proofs.Scan

/-! Blanks put into a source. Between two lexemes, and at the ends of the source, they only move
what stands behind them; inside of a lexeme they always change the tokens, because no other text
than its own gives the same token and that text holds no blank. -/
namespace ScriptLexer
open Alphabet

/-- The source with `w` put in before the character with index `p`. -/
def insertAt (source : String) (p : ℕ) (w : List Char) : String :=
  String.ofList (source.toList.take p ++ (w ++ source.toList.drop p))

/-- The lexeme when `k` characters are put in before the one with index `p`. -/
def Lexeme.shiftFrom (p k : ℕ) (l : Lexeme) : Lexeme := if p ≤ l.start then l.shift k else l

@[simp] lemma Lexeme.token_shiftFrom (p k : ℕ) (l : Lexeme) :
    (l.shiftFrom p k).token = l.token := by
  unfold shiftFrom
  split <;> rfl

variable {w text₁ text₂ : List Char}

/-- A token is not found where a blank parts its text. -/
lemma scan_ne_of_parted {t : Token} (spelled : t.Spelled (text₁ ++ text₂)) (h₁ : text₁ ≠ [])
    (h₂ : text₂ ≠ []) {b : Char} (hb : isBlank b = true) (rest : List Char) (ts : List Token) :
    scan (text₁ ++ b :: rest) ≠ t :: ts := by
  intro hscan
  have hi : t ≠ .illegal := by
    rintro rfl
    obtain ⟨c, -, hc⟩ := spelled.exists_of_illegal
    have hlen := congrArg List.length hc
    have hpos := List.length_pos_iff.mpr h₁
    have hpos' := List.length_pos_iff.mpr h₂
    simp only [List.length_append, List.length_singleton] at hlen
    omega
  obtain ⟨c, cs, rfl⟩ := List.exists_cons_of_ne_nil h₁
  have hhead : ∀ d ∈ (c :: cs ++ b :: rest).head?, isBlank d = false := by
    rintro d ⟨⟩
    exact spelled.isBlank_eq_false c (by simp)
  -- the token found there has the whole text, so the blank is in it
  obtain ⟨rest', heq, -⟩ := exists_rest_of_scan spelled hi hhead hscan
  rw [List.append_assoc] at heq
  obtain ⟨d, ds, rfl⟩ := List.exists_cons_of_ne_nil h₂
  obtain ⟨rfl, -⟩ := List.cons.inj (List.append_cancel_left heq)
  simp [spelled.isBlank_eq_false b (by simp)] at hb

/-- Blanks put in where they part no lexeme move what stands behind them. -/
theorem Reads.insert_blanks {n : ℕ} {a b : List Char} {ls : List Lexeme} (h : Reads n (a ++ b) ls)
    (nonempty : w ≠ []) (blank : ∀ c ∈ w, isBlank c = true)
    (uncut : ∀ l ∈ ls, ¬ l.CutAt (n + a.length)) :
    Reads n (a ++ (w ++ b)) (ls.map (.shiftFrom (n + a.length) w.length)) := by
  obtain ⟨ls₁, ls₂, rfl, h₁, h₂⟩ := h.exists_cut uncut
  have hbefore : ls₁.map (Lexeme.shiftFrom (n + a.length) w.length) = ls₁ := by
    conv_rhs => rw [← List.map_id ls₁]
    refine List.map_congr_left fun l hl => if_neg ?_
    have hlt := h₁.start_lt_stop hl
    have hle := h₁.stop_le hl
    omega
  have hbehind : ls₂.map (Lexeme.shiftFrom (n + a.length) w.length) =
      ls₂.map (Lexeme.shift w.length) :=
    List.map_congr_left fun l hl => if_pos (h₂.le_start hl)
  have hread : Reads (n + a.length) (w ++ b) (ls₂.map (.shift w.length)) :=
    blanks_append blank (h₂.shift w.length)
  obtain ⟨c, w, rfl⟩ := List.exists_cons_of_ne_nil nonempty
  rw [List.map_append, hbefore, hbehind]
  exact h₁.append hread fun l _ _ =>
    Token.stopsBefore_of_isBlank (blank c List.mem_cons_self) l.token _

lemma exists_parts_of_append_eq {a b before text rest : List Char}
    (h : a ++ b = before ++ (text ++ rest)) (hstart : before.length < a.length)
    (hstop : a.length < before.length + text.length) : ∃ part₁ part₂, part₁ ≠ [] ∧ part₂ ≠ [] ∧
      a = before ++ part₁ ∧ text = part₁ ++ part₂ ∧ b = part₂ ++ rest := by
  rcases List.append_eq_append_iff.mp h with ⟨_, rfl, -⟩ | ⟨part₁, rfl, htext⟩
  · simp at hstart
  · rcases List.append_eq_append_iff.mp htext with ⟨_, rfl, -⟩ | ⟨part₂, rfl, rfl⟩
    · simp at hstop
    · refine ⟨part₁, part₂, ?_, ?_, rfl, rfl, rfl⟩
      · rintro rfl
        simp at hstart
      · rintro rfl
        simp at hstop

/-- Blanks put into a lexeme change the tokens. -/
theorem Reads.scan_ne_of_cutAt {n : ℕ} {a b : List Char} {ls : List Lexeme} {l : Lexeme}
    (h : Reads n (a ++ b) ls) (hl : l ∈ ls) (hcut : l.CutAt (n + a.length)) (nonempty : w ≠ [])
    (blank : ∀ c ∈ w, isBlank c = true) : scan (a ++ (w ++ b)) ≠ scan (a ++ b) := by
  obtain ⟨init, tail, rfl⟩ := List.append_of_mem hl
  obtain ⟨before, text, rest, heq, hstart, spelled, hread, -, hstops⟩ := h.exists_split
  rw [Lexeme.CutAt, Lexeme.stop, spelled.width_eq, hstart] at hcut
  obtain ⟨text₁, text₂, h₁, h₂, rfl, rfl, rfl⟩ :=
    exists_parts_of_append_eq heq (by omega) (by omega)
  obtain ⟨ks, hks⟩ := exists_reads l.start (text₁ ++ (w ++ (text₂ ++ rest)))
  -- what stands before the lexeme is read as before, so the two runs differ at its token
  have hnew : Reads n (before ++ (text₁ ++ (w ++ (text₂ ++ rest)))) (init ++ ks) :=
    hread.append (hstart ▸ hks) fun m hm hend =>
      (hstops m hm hend).of_part (List.prefix_append text₁ text₂) h₁ _
  intro hscan
  rw [h.scan_eq, List.append_assoc, hnew.scan_eq, List.map_append, List.map_append,
    List.append_assoc, List.append_assoc, ← hks.scan_eq] at hscan
  obtain ⟨b, w, rfl⟩ := List.exists_cons_of_ne_nil nonempty
  exact scan_ne_of_parted spelled h₁ h₂ (blank b List.mem_cons_self) _ _
    (List.append_cancel_left hscan)

lemma toList_insertAt (source : String) (p : ℕ) (w : List Char) :
    (insertAt source p w).toList = source.toList.take p ++ (w ++ source.toList.drop p) :=
  String.toList_ofList

lemma length_insertAt (source : String) (p : ℕ) (w : List Char) :
    (insertAt source p w).length = source.length + w.length := by
  have hsplit := congrArg List.length (List.take_append_drop p source.toList)
  simp only [List.length_append, String.length_toList] at hsplit
  rw [← String.length_toList, toList_insertAt]
  simp only [List.length_append]
  omega

lemma not_cutAt_eof (p n : ℕ) : ¬ Lexeme.CutAt p ⟨n, .eof⟩ := by
  rintro ⟨hlt, hgt⟩
  exact absurd hgt (Nat.not_lt.mpr hlt.le)

/-- Blanks put in at an index leave the tokens as they were exactly if the index is not inside of a
lexeme. Then the lexemes that start there or later, and the end token, are moved by the blanks. -/
theorem lex_insertAt_iff (source : String) {p : ℕ} (hp : p ≤ source.length)
    (nonempty : w ≠ []) (blank : ∀ c ∈ w, isBlank c = true) :
    (lex (insertAt source p w) = lex source ↔ ∀ l ∈ lexemes source, ¬ l.CutAt p) ∧
      ((∀ l ∈ lexemes source, ¬ l.CutAt p) →
        lexemes (insertAt source p w) = (lexemes source).map (.shiftFrom p w.length)) := by
  obtain ⟨ls, h, hlex⟩ := exists_reads_lexemes source
  have hp' : 0 + (source.toList.take p).length = p := by
    rw [Nat.zero_add, List.length_take, String.length_toList, Nat.min_eq_left hp]
  have hread : Reads 0 (source.toList.take p ++ source.toList.drop p) ls := by simpa using h
  have hmoved (uncut : ∀ l ∈ lexemes source, ¬ l.CutAt p) :
      lexemes (insertAt source p w) = (lexemes source).map (.shiftFrom p w.length) := by
    have hnew := hread.insert_blanks nonempty blank fun l hl => by
      rw [hp']
      exact uncut l (by simp [hlex, hl])
    rw [hp', ← toList_insertAt] at hnew
    have heof : Lexeme.shiftFrom p w.length ⟨source.length, .eof⟩ =
        ⟨source.length + w.length, .eof⟩ := if_pos hp
    rw [hnew.lexemes_eq, hlex, List.map_append, List.map_singleton, heof, length_insertAt]
  refine ⟨⟨fun heq l hl hcut => ?_, fun uncut => ?_⟩, hmoved⟩
  · have hmem : l ∈ ls := by
      rw [hlex, List.mem_append, List.mem_singleton] at hl
      rcases hl with hl | rfl
      · exact hl
      · exact absurd hcut (not_cutAt_eof p source.length)
    have hne := hread.scan_ne_of_cutAt hmem (hp'.symm ▸ hcut) nonempty blank
    rw [← toList_insertAt, List.take_append_drop, ← lex_eq_scan, ← lex_eq_scan] at hne
    exact hne heq
  · rw [lex, hmoved uncut, List.map_map, lex]
    exact List.map_congr_left fun l _ => l.token_shiftFrom p w.length

theorem lex_insertAt_before_sign : 1 ≤ "a==!".length ∧ [' ', '\n'] ≠ [] ∧
    (∀ c ∈ [' ', '\n'], isBlank c = true) ∧ (∀ l ∈ lexemes "a==!", ¬ l.CutAt 1) ∧
    lex (insertAt "a==!" 1 [' ', '\n']) = lex "a==!" ∧
    lexemes (insertAt "a==!" 1 [' ', '\n']) = (lexemes "a==!").map (.shiftFrom 1 2) := by
  have hblank : ∀ c ∈ [' ', '\n'], isBlank c = true := by simp [isBlank]
  have huncut : ∀ l ∈ lexemes "a==!", ¬ l.CutAt 1 := by decide +kernel
  obtain ⟨hiff, hmoved⟩ := lex_insertAt_iff "a==!" (p := 1) (by decide) (by decide) hblank
  exact ⟨by decide, by decide, hblank, huncut, hiff.mpr huncut, hmoved huncut⟩

end ScriptLexer
