import ScriptLexer.Proofs.Caret
import ScriptLexer.Proofs.Escape
import ScriptLexer.Proofs.Scan

/-! Messages that can be read back. An escape shows where it ends, so the character of a diagnostic
is read off its message whatever stands behind it. The name of the file is not marked off at all,
but the position behind it has no colon, so the last colon of a message is the one between the two.
-/
namespace ScriptLexer

namespace CodePoint

/-- The control characters, which are those of category Cc. -/
def isControl (c : Char) : Bool := c.toNat < 0x20 || (0x7f ≤ c.toNat && c.toNat < 0xa0)

lemma isUnprintable_of_isControl {c : Char} (h : isControl c = true) : isUnprintable c = true := by
  rw [isUnprintable_iff]
  rcases Bool.or_eq_true_iff.mp h with hlow | hhigh
  · exact ⟨(0x0, 0x1f), List.mem_cons_self, Nat.zero_le _,
      Nat.le_of_lt_succ (of_decide_eq_true hlow)⟩
  · obtain ⟨hge, hlt⟩ := Bool.and_eq_true_iff.mp hhigh
    exact ⟨(0x7f, 0xa0), List.mem_cons_of_mem _ List.mem_cons_self, of_decide_eq_true hge,
      (of_decide_eq_true hlt).le⟩

end CodePoint

namespace Text

/-- What a hexadecimal digit in lower case stands for. -/
def hexDigit (c : Char) : ℕ := if c.isDigit then c.toNat - '0'.toNat else c.toNat - 'a'.toNat + 10

def hexNumber (digits : List Char) : ℕ := digits.foldl (fun n c => 16 * n + hexDigit c) 0

lemma hexDigit_digitChar : ∀ k < 16, hexDigit (Nat.digitChar k) = k := by decide

lemma hexNumber_toDigits (n : ℕ) : hexNumber (Nat.toDigits 16 n) = n := by
  induction n using Nat.strong_induction_on with
  | _ n ih =>
    rcases Nat.lt_or_ge n 16 with hlt | hge
    · simp [Nat.toDigits_of_lt_base hlt, hexNumber, hexDigit_digitChar n hlt]
    · have hfront := ih (n / 16) (Nat.div_lt_self (by omega) (by decide))
      have hlast := hexDigit_digitChar (n % 16) (Nat.mod_lt n (by decide))
      rw [hexNumber] at hfront
      rw [Nat.toDigits_of_base_le (by decide) hge, hexNumber, List.foldl_append, hfront,
        List.foldl_cons, List.foldl_nil, hlast, Nat.div_add_mod]

/-- What a letter behind a backslash stands for; quotes and the backslash stand for themselves. -/
def shortMeaning : Char → Char
  | '0' => '\x00'
  | 't' => '\t'
  | 'n' => '\n'
  | 'r' => '\r'
  | c => c

/-- The character that the first escape of a text stands for, and what follows the escape. -/
def unescape? : List Char → Option (Char × List Char)
  | '\\' :: 'u' :: '\x7b' :: text =>
    some (Char.ofNat (hexNumber (text.takeWhile (· != '\x7d'))),
      (text.dropWhile (· != '\x7d')).drop 1)
  | '\\' :: letter :: text => some (shortMeaning letter, text)
  | c :: text => some (c, text)
  | [] => none

lemma unescape?_cons_of_ne {c : Char} (h : c ≠ '\\') (text : List Char) :
    unescape? (c :: text) = some (c, text) := by
  unfold unescape?
  split <;> simp_all

lemma closing_not_mem_toDigits (n : ℕ) : ∀ c ∈ Nat.toDigits 16 n, (c != '\x7d') = true := by
  intro c hc
  have hall : ∀ k < 16, (Nat.digitChar k != '\x7d') = true := by decide
  obtain ⟨k, hk, rfl⟩ := exists_digitChar_of_mem_toDigits (by decide) hc
  exact hall k hk

lemma unescape?_numbered (c : Char) (text : List Char) :
    unescape? (numbered c ++ text) = some (c, text) := by
  have hdigits := closing_not_mem_toDigits c.toNat
  have hstop : ∀ d ∈ ('\x7d' :: text).head?, (d != '\x7d') = false := by simp
  have hform : numbered c ++ text =
      '\\' :: 'u' :: '\x7b' :: (Nat.toDigits 16 c.toNat ++ '\x7d' :: text) := by
    simp [numbered]
  rw [hform, unescape?, takeWhile_append_of_stop hdigits hstop,
    dropWhile_append_of_stop hdigits hstop, hexNumber_toDigits, Char.ofNat_toNat]
  rfl

/-- Escapes are undone one by one, whatever they leave as it is and whatever follows. -/
theorem unescape?_escape (q : Quotes) (c : Char) (text : List Char) :
    unescape? (escape q c ++ text) = some (c, text) := by
  unfold escape
  split
  next letter hletter =>
    unfold shortEscape? at hletter
    split at hletter <;> cases hletter <;> rfl
  next hshort =>
    split
    next hquote =>
      simp only [Quotes.escapes, Bool.or_eq_true, Bool.and_eq_true, beq_iff_eq] at hquote
      rcases hquote with ⟨rfl, -⟩ | ⟨rfl, -⟩ <;> rfl
    next =>
      split
      next => exact unescape?_numbered c text
      next =>
        have hne : c ≠ '\\' := by
          rintro rfl
          cases hshort
        exact unescape?_cons_of_ne hne text

end Text

namespace Cause

lemma toList_tip (c : Char) : (illegalCharacter c).tip.toList =
    '`' :: (Text.escape .either c ++ "` does not start any token".toList) := by
  simp [tip]

/-- The cause that a tip is about. -/
def ofTip? (text : List Char) : Option Cause :=
  (Text.unescape? (text.drop 1)).map fun (c, _) => illegalCharacter c

theorem ofTip?_tip (cause : Cause) : ofTip? cause.tip.toList = some cause := by
  obtain ⟨c⟩ := cause
  rw [ofTip?, toList_tip, List.drop_one, List.tail_cons, Text.unescape?_escape]
  rfl

/-- A tip shows all its characters. -/
lemma isHidden_eq_false_of_mem_tip {cause : Cause} {c : Char} (h : c ∈ cause.tip.toList) :
    Text.isHidden c = false := by
  obtain ⟨d⟩ := cause
  have hframe : ('`' :: "` does not start any token".toList).all (fun c => !Text.isHidden c) =
      true := by decide +kernel
  rw [toList_tip, List.mem_cons, List.mem_append, or_left_comm, ← List.mem_cons] at h
  rcases h with h | h
  · exact Text.isHidden_eq_false_of_mem_escape h
  · simpa using List.all_eq_true.mp hframe c h

end Cause

namespace Diagnostic

lemma toList_message (d : Diagnostic) : d.message.toList =
    "illegal character: '".toList ++ (Text.escape .character d.cause.character ++
      ("' at ".toList ++ (d.file.toList ++ ':' :: Nat.toDigits 10 d.position))) := by
  obtain ⟨⟨c⟩, position, file⟩ := d
  unfold message Cause.message Text.quotedChar
  simp only [String.toList_append, String.toList_ofList, List.append_assoc]
  simp [Cause.character]

/-- The diagnostic with the message: what stands behind the last colon is the position. -/
def ofMessage? (text : List Char) : Option Diagnostic :=
  (Text.unescape? (text.drop "illegal character: '".toList.length)).map fun (c, rest) =>
    let backwards := (rest.drop "' at ".toList.length).reverse
    let position := (backwards.takeWhile (· != ':')).reverse
    let file := ((backwards.dropWhile (· != ':')).drop 1).reverse
    ⟨.illegalCharacter c, Nat.ofDigitChars 10 position 0, String.ofList file⟩

theorem ofMessage?_message (d : Diagnostic) : ofMessage? d.message.toList = some d := by
  have hdigits : ∀ c ∈ (Nat.toDigits 10 d.position).reverse, (c != ':') = true := by
    intro c hc
    rw [List.mem_reverse] at hc
    simpa using ne_of_mem_of_not_mem hc (not_mem_toDigits (by decide) d.position)
  have hcolon : ∀ c ∈ (':' :: d.file.toList.reverse).head?, (c != ':') = false := by simp
  have hback : (d.file.toList ++ ':' :: Nat.toDigits 10 d.position).reverse =
      (Nat.toDigits 10 d.position).reverse ++ ':' :: d.file.toList.reverse := by simp
  rw [ofMessage?, toList_message, List.drop_left, Text.unescape?_escape, Option.map_some]
  simp only [List.drop_left, hback, takeWhile_append_of_stop hdigits hcolon,
    dropWhile_append_of_stop hdigits hcolon, List.drop_one, List.tail_cons, List.reverse_reverse,
    Nat.ofDigitChars_ten_toDigits, String.ofList_toList]
  obtain ⟨⟨c⟩, position, file⟩ := d
  rfl

end Diagnostic

/-- A message can be read back, whatever is in the name of the file, and so can a tip. Hence
diagnostics with the same message have the same character, file and position, and causes with the
same tip the same character. A tip shows all its characters, so no control character is among them.
-/
theorem message_tip_injective :
    (∀ d : Diagnostic, Diagnostic.ofMessage? d.message.toList = some d) ∧
      (∀ cause : Cause, Cause.ofTip? cause.tip.toList = some cause) ∧
      Function.Injective Diagnostic.message ∧ Function.Injective Cause.tip ∧
      ∀ cause : Cause, ∀ c ∈ cause.tip.toList,
        Text.isHidden c = false ∧ CodePoint.isControl c = false := by
  refine ⟨Diagnostic.ofMessage?_message, Cause.ofTip?_tip, fun d e h => ?_, fun a b h => ?_,
    fun cause c hc => ?_⟩
  · have hread := Diagnostic.ofMessage?_message d
    rw [h, Diagnostic.ofMessage?_message e] at hread
    exact (Option.some.inj hread).symm
  · have hread := Cause.ofTip?_tip a
    rw [h, Cause.ofTip?_tip b] at hread
    exact (Option.some.inj hread).symm
  · have hshown := Cause.isHidden_eq_false_of_mem_tip hc
    refine ⟨hshown, ?_⟩
    by_contra hcontrol
    have hhidden := CodePoint.isUnprintable_of_isControl (eq_true_of_ne_false hcontrol)
    simp [Text.isHidden, hhidden] at hshown

/-- A file whose name looks like the end of a message, and the tip about a line feed. -/
theorem message_tip_injective_feigned :
    Diagnostic.ofMessage? "illegal character: '\\'' at b' at c:1\n:2".toList =
        some ⟨.illegalCharacter '\x27', 2, "b' at c:1\n"⟩ ∧
      (Cause.illegalCharacter '\n').tip ≠ (Cause.illegalCharacter 'n').tip ∧
      'n' ∈ (Cause.illegalCharacter '\n').tip.toList ∧ CodePoint.isControl 'n' = false := by
  obtain ⟨hmessage, -, -, htip, hshown⟩ := message_tip_injective
  have htext : (Diagnostic.mk (.illegalCharacter '\x27') 2 "b' at c:1\n").message =
      "illegal character: '\\'' at b' at c:1\n:2" := by decide +kernel
  have hmem : 'n' ∈ (Cause.illegalCharacter '\n').tip.toList := by decide +kernel
  refine ⟨?_, htip.ne (by decide), hmem, (hshown _ _ hmem).2⟩
  rw [← htext]
  exact hmessage _

end ScriptLexer
