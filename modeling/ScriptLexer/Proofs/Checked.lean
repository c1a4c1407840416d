import ScriptLexer.Proofs.Bounds

/-! Lexing on a machine with words of 64 bits. A sum of indices that no word holds, a part of the
source that is none and an index behind its last character stop the machine, which then gives
`none`; all else is done as cursors do it.

The machine never stops: each checked operation on a valid cursor gives what the unchecked one does,
as long as the source has fewer than half as many characters as a word has values. -/
namespace ScriptLexer.Checked
open Alphabet Cursor

/-- The sum of two words, if it is one. -/
def add (m n : ℕ) : Option ℕ := if m + n < 2 ^ 64 then some (m + n) else none

def advance (c : Cursor) : Option Cursor := do
  let position := min c.ahead c.source.size
  let ahead ← add position 1
  return ⟨c.source, position, ahead, c.source[c.ahead]?⟩

lemma eq_of_advance {c d : Cursor} (h : advance c = some d) : d = c.advance := by
  simp only [advance, add, Option.bind_eq_bind, Option.bind_eq_some_iff] at h
  obtain ⟨ahead, hadd, hd⟩ := h
  split at hadd
  · cases hadd
    exact (Option.some.inj hd).symm
  · cases hadd

def start (source : Array Char) : Option Cursor := advance ⟨source, 0, 0, none⟩

def advanceBy : ℕ → Cursor → Option Cursor
  | 0, c => some c
  | n + 1, c => do
    let d ← advance c
    advanceBy n d

def advanceWhile (p : Char → Bool) (c : Cursor) : Option Cursor :=
  if hany : c.current.any p = true then
    match h : advance c with
    | none => none
    | some d =>
      have : d.unread < c.unread := eq_of_advance h ▸ unread_advance_lt (isSome_of_any hany)
      advanceWhile p d
  else some c
termination_by c.unread

/-- The text up to a later cursor, which must not stand before this one nor behind the source. -/
def textUntil (c d : Cursor) : Option String :=
  if c.position ≤ d.position ∧ d.position ≤ c.source.size then some (c.textUntil d) else none

/-- The lexeme that starts under the cursor, which stands on no blank, and the cursor after it. -/
def lexeme (c : Cursor) : Option (Lexeme × Cursor) :=
  match c.current with
  | none => do
    let d ← advance c
    return (⟨c.position, .eof⟩, d)
  | some ch =>
    match Sign.starting? ch c.following with
    | some sign => do
      let d ← advanceBy sign.width c
      return (⟨c.position, .sign sign⟩, d)
    | none =>
      if isLetter ch then do
        let d ← advanceWhile isLetter c
        let word ← textUntil c d
        return (⟨c.position, .ofWord word⟩, d)
      else if isDigit ch then do
        let d ← advanceWhile isDigit c
        let digits ← textUntil c d
        return (⟨c.position, .number digits⟩, d)
      else do
        let d ← advance c
        return (⟨c.position, .illegal⟩, d)

/-- The next lexeme after any blanks, and the cursor after it. -/
def next (c : Cursor) : Option (Lexeme × Cursor) := do
  let d ← advanceWhile isBlank c
  lexeme d

section Agreement
variable {c d : Cursor}

lemma eq_of_advanceBy {n : ℕ} (h : advanceBy n c = some d) : d = c.advanceBy n := by
  induction n generalizing c with
  | zero => exact (Option.some.inj h).symm
  | succ n ih =>
    obtain ⟨e, he, hd⟩ := Option.bind_eq_some_iff.mp h
    rw [ih hd, eq_of_advance he]
    rfl

lemma eq_of_advanceWhile {p : Char → Bool} (h : advanceWhile p c = some d) :
    d = c.advanceWhile p := by
  fun_induction advanceWhile p c with
  | case1 c hany hnone => cases h
  | case2 c hany e he _ ih => rw [ih h, eq_of_advance he, advanceWhile_of_any hany]
  | case3 c hany =>
    rw [advanceWhile_of_not_any (by simpa using hany)]
    exact (Option.some.inj h).symm

lemma eq_of_textUntil {text : String} (h : textUntil c d = some text) : text = c.textUntil d := by
  unfold textUntil at h
  split at h
  · exact (Option.some.inj h).symm
  · cases h

lemma eq_of_lexeme {r : Lexeme × Cursor} (h : lexeme c = some r) : r = c.lexeme := by
  unfold lexeme at h
  split at h
  next hc =>
    obtain ⟨d, hd, hr⟩ := Option.bind_eq_some_iff.mp h
    cases hr
    simp [Cursor.lexeme, hc, eq_of_advance hd]
  next ch hc =>
    split at h
    next sign hs =>
      obtain ⟨d, hd, hr⟩ := Option.bind_eq_some_iff.mp h
      cases hr
      simp [Cursor.lexeme, hc, hs, eq_of_advanceBy hd]
    next hs =>
      split at h
      next hl =>
        obtain ⟨d, hd, htext⟩ := Option.bind_eq_some_iff.mp h
        obtain ⟨word, hword, hr⟩ := Option.bind_eq_some_iff.mp htext
        cases hr
        simp [Cursor.lexeme, hc, hs, hl, eq_of_textUntil hword, eq_of_advanceWhile hd]
      next hl =>
        split at h
        next hdig =>
          obtain ⟨d, hd, htext⟩ := Option.bind_eq_some_iff.mp h
          obtain ⟨digits, hdigits, hr⟩ := Option.bind_eq_some_iff.mp htext
          cases hr
          simp [Cursor.lexeme, hc, hs, hl, hdig, eq_of_textUntil hdigits, eq_of_advanceWhile hd]
        next hdig =>
          obtain ⟨d, hd, hr⟩ := Option.bind_eq_some_iff.mp h
          cases hr
          simp [Cursor.lexeme, hc, hs, hl, hdig, eq_of_advance hd]

lemma eq_of_next {l : Lexeme} (h : next c = some (l, d)) : l = c.next.1 ∧ d = c.next.2 := by
  obtain ⟨e, he, hr⟩ := Option.bind_eq_some_iff.mp h
  have heq : (l, d) = c.next := by
    rw [eq_of_lexeme hr, eq_of_advanceWhile he]
    rfl
  exact ⟨congrArg Prod.fst heq, congrArg Prod.snd heq⟩

lemma unread_lt_of_next {l : Lexeme} (h : next c = some (l, d)) (ht : l.token ≠ .eof) :
    d.unread < c.unread := by
  obtain ⟨rfl, rfl⟩ := eq_of_next h
  exact unread_next_lt ht

end Agreement

/-- The lexemes up to the end token. -/
def lexemes (c : Cursor) : Option (List Lexeme) :=
  match h : next c with
  | none => none
  | some (l, d) =>
    if ht : l.token = .eof then some [l]
    else
      have : d.unread < c.unread := unread_lt_of_next h ht
      do
        let ls ← lexemes d
        return l :: ls
termination_by c.unread

def lex (source : String) : Option (List Token) := do
  let c ← start source.toList.toArray
  let ls ← lexemes c
  return ls.map (·.token)

/-- The tokens up to the end token, or the diagnostic of the first illegal one. -/
def strictTokens (file : String) (c : Cursor) : Option (Except Diagnostic (List Token)) :=
  match h : next c with
  | none => none
  | some (l, d) =>
    if l.token = .illegal then do
      let character ← d.source[l.start]?
      return .error ⟨.illegalCharacter character, l.start, file⟩
    else if ht : l.token = .eof then some (.ok [.eof])
    else
      have : d.unread < c.unread := unread_lt_of_next h ht
      do
        let tokens ← strictTokens file d
        return tokens.map (l.token :: ·)
termination_by c.unread

def lexStrict (source : String) (file : Option String) :
    Option (Except Diagnostic (List Token)) := do
  let c ← start source.toList.toArray
  strictTokens (file.getD unnamedSource) c

section Totality
variable {source : List Char} {c : Cursor} (h : c.Valid source) (fits : source.length < 2 ^ 63)
include h fits

lemma advance_eq : advance c = some c.advance := by
  have hlt : min c.ahead c.source.size + 1 < 2 ^ 64 := by
    rw [h.size_eq]
    omega
  rw [advance, add, if_pos hlt]
  rfl

lemma advanceBy_eq (n : ℕ) : advanceBy n c = some (c.advanceBy n) := by
  induction n generalizing c with
  | zero => rfl
  | succ n ih =>
    rw [advanceBy, advance_eq h fits, Option.bind_eq_bind, Option.bind_some, ih h.advance,
      Cursor.advanceBy]

lemma advanceWhile_eq (p : Char → Bool) : advanceWhile p c = some (c.advanceWhile p) := by
  fun_induction advanceWhile p c with
  | case1 c hany hnone => simp [advance_eq h fits] at hnone
  | case2 c hany d hd _ ih =>
    obtain rfl := eq_of_advance hd
    rw [ih h.advance, advanceWhile_of_any hany]
  | case3 c hany => rw [advanceWhile_of_not_any (by simpa using hany)]

omit fits in
/-- The text passed over is a part of the source. -/
lemma textUntil_eq (p : Char → Bool) :
    textUntil c (c.advanceWhile p) = some (c.textUntil (c.advanceWhile p)) := by
  obtain ⟨hvalid, hle⟩ := h.advanceWhile p
  rw [textUntil, if_pos ⟨hle, h.size_eq ▸ hvalid.position_le⟩]

lemma lexeme_eq : lexeme c = some c.lexeme := by
  cases hc : c.current with
  | none => simp [lexeme, Cursor.lexeme, hc, advance_eq h fits]
  | some ch =>
    cases hs : Sign.starting? ch c.following with
    | some sign => simp [lexeme, Cursor.lexeme, hc, hs, advanceBy_eq h fits]
    | none =>
      by_cases hl : isLetter ch = true
      · simp [lexeme, Cursor.lexeme, hc, hs, hl, advanceWhile_eq h fits, textUntil_eq h]
      · by_cases hd : isDigit ch = true
        · simp [lexeme, Cursor.lexeme, hc, hs, hl, hd, advanceWhile_eq h fits, textUntil_eq h]
        · simp [lexeme, Cursor.lexeme, hc, hs, hl, hd, advance_eq h fits]

theorem next_eq : next c = some c.next := by
  rw [next, advanceWhile_eq h fits, Option.bind_eq_bind, Option.bind_some,
    lexeme_eq (h.advanceWhile _).1 fits]
  rfl

theorem lexemes_eq : lexemes c = some (Stream.ofCursor c).toList := by
  fun_induction lexemes c with
  | case1 c hnone => simp [next_eq h fits] at hnone
  | case2 c l d hsome ht =>
    obtain ⟨rfl, rfl⟩ := eq_of_next hsome
    rw [Stream.toList_ofCursor, if_pos ht]
  | case3 c l d hsome ht _ ih =>
    obtain ⟨rfl, rfl⟩ := eq_of_next hsome
    rw [Stream.toList_ofCursor, if_neg ht, ih h.next.1]
    rfl

/-- The character of an illegal lexeme is there, and the loop answers as a strict reading does. -/
theorem strictTokens_eq (file : String) : strictTokens file c =
    some (match (StrictReading.ofCursor c).refused with
      | some l => .error (.ofIllegal source.toArray file l)
      | none => .ok ((StrictReading.ofCursor c).taken.map (·.token))) := by
  fun_induction strictTokens file c with
  | case1 c hnone => simp [next_eq h fits] at hnone
  | case2 c l d hsome hill =>
    obtain ⟨rfl, rfl⟩ := eq_of_next hsome
    have hlt := h.start_next_lt (by simp [hill])
    rw [StrictReading.ofCursor]
    simp [hill, h.next.1.source_eq, hlt, Diagnostic.ofIllegal]
  | case3 c l d hsome hill ht =>
    obtain ⟨rfl, rfl⟩ := eq_of_next hsome
    rw [StrictReading.ofCursor]
    simp [ht]
  | case4 c l d hsome hill ht _ ih =>
    obtain ⟨rfl, rfl⟩ := eq_of_next hsome
    rw [StrictReading.ofCursor, dif_neg ht, if_neg hill, ih h.next.1]
    cases (StrictReading.ofCursor c.next.2).refused <;> rfl

end Totality

lemma start_eq (source : String) : start source.toList.toArray = some (ofString source) := by
  rw [start, advance, add, if_pos (by simp)]
  rfl

theorem lex_eq {source : String} (fits : source.length < 2 ^ 63) :
    lex source = some (ScriptLexer.lex source) := by
  rw [← String.length_toList] at fits
  rw [lex, start_eq, Option.bind_eq_bind, Option.bind_some,
    lexemes_eq (valid_ofString source) fits]
  rfl

theorem lexStrict_eq {source : String} (fits : source.length < 2 ^ 63) (file : Option String) :
    lexStrict source file = some (ScriptLexer.lexStrict source file) := by
  rw [← String.length_toList] at fits
  rw [lexStrict, start_eq, Option.bind_eq_bind, Option.bind_some,
    strictTokens_eq (valid_ofString source) fits]
  rfl

end ScriptLexer.Checked
