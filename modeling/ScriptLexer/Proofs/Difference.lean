import ScriptLexer.Proofs.Seam

/-! Where the tokens of two sources part. The end is a token and stands last, so no lexing is the
beginning of another one: two of them have a difference unless they are the same. It lies no further
back than at the last token of what both sources begin with. -/
namespace ScriptLexer

namespace Token
variable {a b common : List Token} {s t : Token} {k : ℕ}

@[simp] lemma firstDifference?_nil_left (b : List Token) : firstDifference? [] b = none := rfl

@[simp] lemma firstDifference?_nil_right (a : List Token) : firstDifference? a [] = none := by
  simp [firstDifference?]

lemma firstDifference?_cons : firstDifference? (s :: a) (t :: b) =
    if s = t then (firstDifference? a b).map (· + 1) else some 0 := by
  by_cases h : s = t <;> simp [firstDifference?, List.findIdx?_cons, h]

/-- What both lists begin with lies before the difference. -/
lemma firstDifference?_append (common a b : List Token) :
    firstDifference? (common ++ a) (common ++ b) =
      (firstDifference? a b).map (· + common.length) := by
  induction common with
  | nil => simp
  | cons s common ih =>
    simp [firstDifference?_cons, ih, Function.comp_def, Nat.add_assoc]

/-- There is no difference exactly if one list is the beginning of the other. -/
theorem firstDifference?_eq_none_iff : firstDifference? a b = none ↔ a <+: b ∨ b <+: a := by
  induction a generalizing b with
  | nil => simp
  | cons s a ih =>
    cases b with
    | nil => simp
    | cons t b =>
      rw [firstDifference?_cons]
      by_cases h : s = t
      · subst h
        simp [ih, List.cons_prefix_cons]
      · simp [h, List.cons_prefix_cons, Ne.symm h]

/-- The lists agree up to the difference, and both have a token there. -/
theorem firstDifference?_eq_some_iff : firstDifference? a b = some k ↔
    ∃ common s t a' b', a = common ++ s :: a' ∧ b = common ++ t :: b' ∧ s ≠ t ∧
      common.length = k := by
  constructor
  · intro h
    induction a generalizing b k with
    | nil => cases h
    | cons s a ih =>
      cases b with
      | nil => simp at h
      | cons t b =>
        rw [firstDifference?_cons] at h
        by_cases hst : s = t
        · subst hst
          rw [if_pos rfl, Option.map_eq_some_iff] at h
          obtain ⟨j, hj, rfl⟩ := h
          obtain ⟨common, s', t', a', b', rfl, rfl, hne, rfl⟩ := ih hj
          exact ⟨s :: common, s', t', a', b', rfl, rfl, hne, rfl⟩
        · rw [if_neg hst] at h
          exact ⟨[], s, t, a, b, rfl, rfl, hst, Option.some.inj h⟩
  · rintro ⟨common, s, t, a', b', rfl, rfl, hne, rfl⟩
    rw [firstDifference?_append, firstDifference?_cons, if_neg hne, Option.map_some, Nat.zero_add]

lemma length_le_of_firstDifference? (h : firstDifference? a b = some k) (ha : common <+: a)
    (hb : common <+: b) : common.length ≤ k := by
  obtain ⟨a, rfl⟩ := ha
  obtain ⟨b, rfl⟩ := hb
  rw [firstDifference?_append, Option.map_eq_some_iff] at h
  obtain ⟨j, -, rfl⟩ := h
  exact Nat.le_add_left _ _

end Token

/-- No lexing is the beginning of another one. -/
theorem lex_eq_of_isPrefix {source other : String} (h : lex source <+: lex other) :
    lex source = lex other := by
  obtain ⟨ls, hls, hlex⟩ := exists_reads_lexemes source
  obtain ⟨ks, hks, hlex'⟩ := exists_reads_lexemes other
  have hends : lex source = ls.map (·.token) ++ [.eof] := by simp [lex, hlex]
  have hends' : lex other = ks.map (·.token) ++ [.eof] := by simp [lex, hlex']
  rw [hends'] at h ⊢
  refine (List.prefix_concat_iff.mp h).resolve_right fun hshort => ?_
  have heof : .eof ∈ ks.map (·.token) := hshort.subset (by simp [hends])
  obtain ⟨l, hl, ht⟩ := List.mem_map.mp heof
  exact hks.token_ne_eof hl ht

/-- Two lexings have no difference exactly if they are the same. -/
theorem firstDifference?_lex_eq_none_iff {source other : String} :
    Token.firstDifference? (lex source) (lex other) = none ↔ lex source = lex other := by
  rw [Token.firstDifference?_eq_none_iff]
  constructor
  · rintro (h | h)
    · exact lex_eq_of_isPrefix h
    · exact (lex_eq_of_isPrefix h).symm
  · intro h
    exact .inl (h ▸ List.prefix_refl _)

/-- Of the tokens of what two sources begin with only the last and the end can differ. -/
theorem length_lex_le_of_firstDifference? {before a b : String} {k : ℕ}
    (h : Token.firstDifference? (lex (before ++ a)) (lex (before ++ b)) = some k) :
    (lex before).length ≤ k + 2 := by
  have hcommon (c : String) : (lex before).dropLast.dropLast <+: lex (before ++ c) := by
    simpa [lex, List.map_dropLast] using (prefix_lexemes_append before c).map (·.token)
  have hle := Token.length_le_of_firstDifference? h (hcommon a) (hcommon b)
  simp only [List.length_dropLast] at hle
  omega

example : Token.firstDifference? (lex "x = y1") (lex "x = y!=") = some 3 := by decide +kernel

end ScriptLexer
