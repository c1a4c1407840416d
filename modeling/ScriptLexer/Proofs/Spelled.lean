import ScriptLexer.Proofs.Alphabet
import ScriptLexer.Token.Basic

/-! Tokens and the texts they can be written as. A text and the character after it decide the token
together: the text must spell the token, and the character must not lengthen it. One character is
all that ever has to be known of what follows. -/
namespace ScriptLexer.Token
open Alphabet

/-- The token can be written as the text, unless what follows the text lengthens it. -/
inductive Spelled : Token → List Char → Prop
  | sign (s : Sign) : Spelled (.sign s) s.spelling.toList
  | word {text : List Char} (nonempty : text ≠ []) (letters : ∀ c ∈ text, isLetter c = true) :
      Spelled (ofWord (String.ofList text)) text
  | number {c : Char} {text : List Char} (first : isLetter c = false)
      (digits : ∀ d ∈ c :: text, isDigit d = true) :
      Spelled (number (String.ofList (c :: text))) (c :: text)
  | illegal {c : Char} (h : isIllegal c = true) : Spelled illegal [c]

/-- Whether the character right after the token would belong to a longer token. -/
def goesOn : Token → Char → Bool
  | keyword _, c | identifier _, c => isLetter c
  | number _, c => isDigit c
  | sign .assign, c | sign .bang, c => c == '='
  | _, _ => false

/-- The characters that follow do not lengthen the token; only the first of them matters. -/
def StopsBefore (t : Token) (rest : List Char) : Prop := ∀ c ∈ rest.head?, t.goesOn c = false

@[simp] lemma stopsBefore_nil (t : Token) : t.StopsBefore [] := by simp [StopsBefore]

@[simp] lemma stopsBefore_cons (t : Token) (c : Char) (rest : List Char) :
    t.StopsBefore (c :: rest) ↔ t.goesOn c = false := by simp [StopsBefore]

lemma stopsBefore_append_iff {t : Token} {rest : List Char} (h : rest ≠ []) (more : List Char) :
    t.StopsBefore (rest ++ more) ↔ t.StopsBefore rest := by
  obtain ⟨c, cs, rfl⟩ := List.exists_cons_of_ne_nil h
  simp

lemma StopsBefore.of_append {t : Token} {rest more : List Char}
    (h : t.StopsBefore (rest ++ more)) : t.StopsBefore rest := by
  cases rest with
  | nil => exact stopsBefore_nil t
  | cons c rest => exact (stopsBefore_append_iff (List.cons_ne_nil c rest) more).mp h

/-- Only the first character counts, so a part of the text that follows does as well. -/
lemma StopsBefore.of_part {t : Token} {text part : List Char} (h : t.StopsBefore text)
    (hpart : part <+: text) (nonempty : part ≠ []) (more : List Char) :
    t.StopsBefore (part ++ more) := by
  obtain ⟨rest, rfl⟩ := hpart
  exact (stopsBefore_append_iff nonempty more).mpr h.of_append

@[simp] lemma goesOn_ofWord (word : String) (c : Char) : (ofWord word).goesOn c = isLetter c := by
  unfold ofWord
  split <;> rfl

lemma goesOn_eq_false {c : Char} (letter : isLetter c = false) (digit : isDigit c = false)
    (equals : c ≠ '=') (t : Token) : t.goesOn c = false := by
  cases t with
  | keyword k => exact letter
  | identifier name => exact letter
  | number digits => exact digit
  | sign s => cases s <;> simp [goesOn, equals]
  | illegal => rfl
  | eof => rfl

/-- No token goes on over a blank. -/
lemma goesOn_eq_false_of_isBlank {c : Char} (h : isBlank c = true) (t : Token) :
    t.goesOn c = false := by
  obtain ⟨hl, hd⟩ := isBlank_classes h
  exact goesOn_eq_false hl hd (by rintro rfl; simp [isBlank] at h) t

/-- Nor over an illegal character. -/
lemma goesOn_eq_false_of_isIllegal {c : Char} (h : isIllegal c = true) (t : Token) :
    t.goesOn c = false := by
  obtain ⟨-, hs, hl, hd⟩ := isIllegal_iff.mp h
  exact goesOn_eq_false hl hd (startsSign_eq_false_iff.mp hs).2.1 t

lemma stopsBefore_of_isBlank {c : Char} (h : isBlank c = true) (t : Token) (rest : List Char) :
    t.StopsBefore (c :: rest) :=
  (stopsBefore_cons t c rest).mpr (goesOn_eq_false_of_isBlank h t)

lemma startsSign_of_mem_spelling (s : Sign) {c : Char} (h : c ∈ s.spelling.toList) :
    startsSign c = true := by
  have hall : s.spelling.toList.all startsSign = true := by cases s <;> decide
  exact List.all_eq_true.mp hall c h

lemma isBlank_eq_false_of_mem_spelling (s : Sign) {c : Char} (h : c ∈ s.spelling.toList) :
    isBlank c = false :=
  (startsSign_classes (startsSign_of_mem_spelling s h)).1

lemma isIllegal_eq_false_of_mem_spelling (s : Sign) {c : Char} (h : c ∈ s.spelling.toList) :
    isIllegal c = false := by
  simp [isIllegal, startsSign_of_mem_spelling s h]

namespace Spelled

variable {t : Token} {text : List Char}

lemma ne_nil (h : t.Spelled text) : text ≠ [] := by
  cases h with
  | sign s => cases s <;> decide
  | word nonempty _ => exact nonempty
  | number _ _ => simp
  | illegal _ => simp

lemma ne_eof (h : t.Spelled text) : t ≠ .eof := by
  cases h with
  | word _ _ => unfold ofWord; split <;> simp
  | _ => simp

/-- The text is the token's spelling, for every token that has one. -/
lemma spelling?_eq (h : t.Spelled text) (hi : t ≠ .illegal) :
    t.spelling? = some (String.ofList text) := by
  cases h with
  | sign s => simp [spelling?]
  | word _ _ => exact spelling?_ofWord _
  | number _ _ => rfl
  | illegal _ => exact absurd rfl hi

lemma text_unique {other : List Char} (h : t.Spelled text) (h' : t.Spelled other)
    (hi : t ≠ .illegal) : text = other := by
  have he := (h.spelling?_eq hi).symm.trans (h'.spelling?_eq hi)
  exact String.ofList_injective (Option.some.inj he)

lemma width_eq (h : t.Spelled text) : t.width = text.length := by
  cases h with
  | sign s => exact s.length_spelling.symm
  | word _ _ =>
    rw [← length_spelling (spelling?_ofWord _), String.length_ofList]
  | number _ _ => exact String.length_ofList
  | illegal _ => rfl

/-- No blank belongs to a token. -/
lemma isBlank_eq_false (h : t.Spelled text) : ∀ c ∈ text, isBlank c = false := by
  intro c hc
  cases h with
  | sign s => exact isBlank_eq_false_of_mem_spelling s hc
  | word _ letters => exact isBlank_eq_false_of_isLetter (letters c hc)
  | number _ digits => exact isBlank_eq_false_of_isDigit (digits c hc)
  | illegal hi =>
    rw [List.mem_singleton.mp hc]
    exact (isIllegal_iff.mp hi).1

lemma isBlank_head? (h : t.Spelled text) (rest : List Char) :
    ∀ c ∈ (text ++ rest).head?, isBlank c = false := by
  obtain ⟨c, cs, rfl⟩ := List.exists_cons_of_ne_nil h.ne_nil
  rintro d ⟨⟩
  exact h.isBlank_eq_false c List.mem_cons_self

lemma exists_of_illegal (h : Spelled .illegal text) : ∃ c, isIllegal c = true ∧ text = [c] := by
  generalize ht : Token.illegal = t at h
  cases h with
  | illegal hc => exact ⟨_, hc, rfl⟩
  | word _ _ => unfold ofWord at ht; split at ht <;> cases ht
  | _ => cases ht

/-- No illegal character belongs to a token but `illegal`. -/
lemma isIllegal_eq_false (h : t.Spelled text) (hi : t ≠ .illegal) :
    ∀ c ∈ text, isIllegal c = false := by
  intro c hc
  cases h with
  | sign s => exact isIllegal_eq_false_of_mem_spelling s hc
  | word _ letters => simp [isIllegal, letters c hc]
  | number _ digits => simp [isIllegal, digits c hc]
  | illegal _ => exact absurd rfl hi

end Spelled

lemma goesOn_sign {s : Sign} (ha : s ≠ .assign) (hb : s ≠ .bang) (c : Char) :
    (sign s).goesOn c = false := by
  cases s <;> first | rfl | contradiction

lemma lone_spelling :
    ∀ p ∈ Sign.lone, p.2.spelling.toList = [p.1] ∧ p.2 ≠ .assign ∧ p.2 ≠ .bang := by decide

/-- The two signs that start with the same character are told apart by whether `=` follows. -/
lemma exists_rest_of_pair {long short : Sign} {c : Char} (cs : List Char)
    (hlong : long.spelling.toList = [c, '=']) (hshort : short.spelling.toList = [c])
    (stops : ∀ d, (sign long).goesOn d = false) (goes : ∀ d, (sign short).goesOn d = (d == '=')) :
    ∃ rest, c :: cs = (if cs.head? = some '=' then long else short).spelling.toList ++ rest ∧
      (sign (if cs.head? = some '=' then long else short)).StopsBefore rest := by
  by_cases h : cs.head? = some '='
  · obtain ⟨rest, rfl⟩ := List.head?_eq_some_iff.mp h
    exact ⟨rest, by simp [hlong], by simp [StopsBefore, stops]⟩
  · refine ⟨cs, by simp [h, hshort], ?_⟩
    rw [if_neg h]
    intro d hd
    rw [goes]
    exact beq_eq_false_iff_ne.mpr (fun he => h (he ▸ hd))

/-- A sign that starts the characters is spelled there, and what is left does not lengthen it. -/
lemma exists_rest_of_starting? {c : Char} {cs : List Char} {s : Sign}
    (h : Sign.starting? c cs.head? = some s) :
    ∃ rest, c :: cs = s.spelling.toList ++ rest ∧ (sign s).StopsBefore rest := by
  unfold Sign.starting? at h
  split at h
  next t ht =>
    obtain ⟨hs, ha, hb⟩ := lone_spelling _ (ofLone?_eq_some ht)
    cases h
    exact ⟨cs, by simp [hs], fun d _ => goesOn_sign ha hb d⟩
  next =>
    by_cases he : c = '='
    · subst he
      obtain rfl := Option.some.inj (by simpa using h)
      exact exists_rest_of_pair cs rfl rfl (fun _ => rfl) (fun _ => rfl)
    · by_cases hb : c = '!'
      · subst hb
        obtain rfl := Option.some.inj (by simpa using h)
        exact exists_rest_of_pair cs rfl rfl (fun _ => rfl) (fun _ => rfl)
      · simp [he, hb] at h

lemma starting?_assign {after : Option Char} (h : after ≠ some '=') :
    Sign.starting? '=' after = some .assign := by
  change some (if after = some '=' then Sign.equal else Sign.assign) = _
  rw [if_neg h]

lemma starting?_bang {after : Option Char} (h : after ≠ some '=') :
    Sign.starting? '!' after = some .bang := by
  change some (if after = some '=' then Sign.notEqual else Sign.bang) = _
  rw [if_neg h]

/-- The converse: a spelled sign that is not lengthened is the one that starts there. -/
lemma starting?_of_spelling {s : Sign} {rest : List Char} (h : (sign s).StopsBefore rest) :
    ∃ c cs, s.spelling.toList ++ rest = c :: cs ∧ Sign.starting? c cs.head? = some s := by
  have hne (hg : (sign s).goesOn '=' = true) : rest.head? ≠ some '=' := by
    intro he
    simp [h '=' he] at hg
  cases s with
  | assign => exact ⟨'=', rest, rfl, starting?_assign (hne rfl)⟩
  | bang => exact ⟨'!', rest, rfl, starting?_bang (hne rfl)⟩
  | _ => exact ⟨_, _, rfl, rfl⟩

/-- Characters that do not start with a blank start with a token, and with no longer one. -/
lemma exists_spelled {c : Char} (cs : List Char) (h : isBlank c = false) :
    ∃ t text rest, c :: cs = text ++ rest ∧ Spelled t text ∧ t.StopsBefore rest := by
  cases hs : Sign.starting? c cs.head? with
  | some s =>
    obtain ⟨rest, heq, stops⟩ := exists_rest_of_starting? hs
    exact ⟨.sign s, _, rest, heq, .sign s, stops⟩
  | none =>
    by_cases hl : isLetter c = true
    · obtain ⟨run, rest, heq, letters, stop⟩ := exists_run_cons hl cs
      exact ⟨_, c :: run, rest, heq, .word (by simp) letters, by simpa [StopsBefore] using stop⟩
    · by_cases hd : isDigit c = true
      · obtain ⟨run, rest, heq, digits, stop⟩ := exists_run_cons hd cs
        exact ⟨_, c :: run, rest, heq, .number (by simpa using hl) digits, stop⟩
      · have hi : isIllegal c = true := isIllegal_iff.mpr
          ⟨h, starting?_eq_none_iff.mp hs, by simpa using hl, by simpa using hd⟩
        exact ⟨.illegal, [c], cs, rfl, .illegal hi, fun _ _ => rfl⟩

end ScriptLexer.Token
