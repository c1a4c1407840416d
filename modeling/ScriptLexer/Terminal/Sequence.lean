/-! Control sequences in a text for a terminal, and the text without them. A sequence starts with an
escape; its kind decides where it ends. White space within a line or at its end is kept wherever a
terminal obeys it, which most sequences let it do, and what follows it is kept too, up to the next
control character; there the sequence goes on. -/
namespace ScriptLexer.Terminal

/-- Where a text stands with respect to control sequences. -/
inductive Sequence where
  | outside
  /-- After an escape. -/
  | escape
  /-- After an escape and what only a later character ends. -/
  | escapeDetail
  /-- In a function with parameters, such as a rendition. -/
  | function
  /-- At the start of a string for the device. -/
  | device
  /-- In the parameters of a string for the device. -/
  | deviceParameters
  /-- After the parameters of a string for the device. -/
  | deviceDetail
  /-- In a string that one of the upper controls ends. -/
  | string
  /-- In a command for the system, which a bell ends. -/
  | command
deriving DecidableEq

namespace Sequence

private def between (first last : Nat) (c : Char) : Bool := first ≤ c.toNat && c.toNat ≤ last

def isASCII (c : Char) : Bool := c.toNat < 0x80

/-- The white space that a terminal obeys as a control character. -/
def isLayout (c : Char) : Bool := c == '\t' || c == '\n' || c == '\x0c' || c == '\r'

/-- Whether the code of the string terminator is one of the character's bytes in UTF-8. -/
def endsString (c : Char) : Bool := (String.utf8EncodeChar c).contains 0x9c

/-- Where the text stands after one more character. -/
def after (s : Sequence) (c : Char) : Sequence :=
  if c == '\x1b' then escape
  else if c == '\x18' || c == '\x1a' then outside
  else match s with
    | outside => outside
    | escape =>
      if c == '[' then function
      else if c == ']' then command
      else if c == 'P' then device
      else if c == 'X' || c == '^' || c == '_' then string
      else if between 0x20 0x2f c then escapeDetail
      else if between 0x30 0x7e c then outside
      else escape
    | escapeDetail => if between 0x30 0x7e c then outside else escapeDetail
    | function => if between 0x40 0x7e c then outside else function
    | device =>
      if between 0x20 0x2f c then deviceDetail
      else if between 0x30 0x3f c then deviceParameters
      else if between 0x40 0x7e c then string
      else device
    | deviceParameters =>
      if between 0x20 0x2f c then deviceDetail
      else if between 0x3c 0x3f c || between 0x40 0x7e c then string
      else deviceParameters
    | deviceDetail => if between 0x30 0x7e c then string else deviceDetail
    | string => if endsString c then outside else string
    | command => if c == '\x07' then outside else command

/-- Whether a terminal obeys layout there. -/
def obeysLayout : Sequence → Bool
  | outside | escape | escapeDetail | function => true
  | device | deviceParameters | deviceDetail | string | command => false

/-- Whether a terminal shows the character there, or obeys it as layout. -/
def shows (s : Sequence) (c : Char) : Bool :=
  (isLayout c && s.obeysLayout) ||
    (s == outside && (between 0x20 0x7e c || !isASCII c))

/-- What is left of a text that starts in the given place. After a character that was kept the text
is read as if it stood outside, which a character beyond ASCII makes it do for good. -/
def remove (s : Sequence) (kept : Bool) : List Char → List Char
  | [] => []
  | c :: rest =>
    if (if kept then outside else s).shows c then
      c :: remove (if isASCII c then s else outside) true rest
    else remove (s.after c) false rest

/-- Outside a sequence nothing depends on what came before. -/
theorem remove_outside_true (cs : List Char) :
    remove outside true cs = remove outside false cs := by
  cases cs with
  | nil => rfl
  | cons c rest => simp [remove]

/-- Outside a sequence all stays that a terminal shows there. -/
theorem remove_outside_append {cs : List Char} (h : ∀ c ∈ cs, outside.shows c)
    (rest : List Char) : remove outside false (cs ++ rest) = cs ++ remove outside false rest := by
  induction cs with
  | nil => rfl
  | cons c cs ih =>
    have hc : outside.shows c := h c List.mem_cons_self
    simp [remove, hc, remove_outside_true, ih fun d hd => h d (List.mem_cons_of_mem c hd)]

theorem shows_outside_of_shows {s : Sequence} {c : Char} (h : s.shows c) : outside.shows c := by
  cases s <;> simp_all [shows, obeysLayout]

/-- Whatever stays is shown by a terminal that it reaches alone. -/
theorem shows_of_mem_remove {s : Sequence} {kept : Bool} {cs : List Char} {c : Char}
    (h : c ∈ remove s kept cs) : outside.shows c := by
  induction cs generalizing s kept with
  | nil => cases h
  | cons d rest ih =>
    rw [remove] at h
    by_cases hshown : (if kept then outside else s).shows d
    · rw [if_pos hshown] at h
      rcases List.mem_cons.mp h with rfl | h
      · exact shows_outside_of_shows hshown
      · exact ih h
    · rw [if_neg hshown] at h
      exact ih h

end Sequence

/-- The text without control sequences, and without control characters but layout. -/
def plain (text : String) : String :=
  String.ofList (Sequence.remove .outside false text.toList)

theorem shows_of_mem_plain {text : String} {c : Char} (h : c ∈ (plain text).toList) :
    Sequence.outside.shows c := by
  rw [plain, String.toList_ofList] at h
  exact Sequence.shows_of_mem_remove h

/-- A text stays as it is exactly if a terminal shows all of it. -/
theorem plain_eq_self_iff {text : String} :
    plain text = text ↔ ∀ c ∈ text.toList, Sequence.outside.shows c := by
  refine ⟨fun h c hc => shows_of_mem_plain (h.symm ▸ hc), fun h => ?_⟩
  have hall := Sequence.remove_outside_append h []
  rw [List.append_nil] at hall
  rw [plain, hall, Sequence.remove, List.append_nil, String.ofList_toList]

theorem plain_plain (text : String) : plain (plain text) = plain text :=
  plain_eq_self_iff.mpr fun _ => shows_of_mem_plain

end ScriptLexer.Terminal
