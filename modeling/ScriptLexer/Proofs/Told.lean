import ScriptLexer.Command.Run
import ScriptLexer.Proofs.Bounds

/-! Lexing that tells the log what it does where it does it. A step has one place for words, one for
numbers and one for all else, and each has a message of its own; the loops over the steps tell the
rest. What is told in all is what the events of a reading say, in their order. -/
namespace ScriptLexer

namespace Log

/-- What an event says to the log. -/
structure Entry where
  level : Level
  target : String
  message : String
  /-- Names and values in order. -/
  fields : List (String × String)
deriving DecidableEq

def Event.entry (e : Event) : Entry := ⟨e.level, e.target, e.message, e.fields⟩

end Log

/-- A value together with what was told on the way to it. -/
structure Told (α : Type) where
  value : α
  entries : List Log.Entry

namespace Told
open Alphabet

variable {α β : Type}

instance : Monad Told where
  pure a := ⟨a, []⟩
  bind x f := ⟨(f x.value).value, x.entries ++ (f x.value).entries⟩

lemma pure_eq (a : α) : (pure a : Told α) = ⟨a, []⟩ := rfl

lemma bind_eq (x : Told α) (f : α → Told β) :
    (x >>= f) = ⟨(f x.value).value, x.entries ++ (f x.value).entries⟩ := rfl

/-- The part of the program that lexes. -/
def lexing : String := "tokenizer::lexer::lexer"

def tell (e : Log.Entry) : Told Unit := ⟨(), [e]⟩

/-- Ends a step, which tells what it has read under the message. -/
def finish (message : String) (l : Lexeme) (c : Cursor) : Told (Lexeme × Cursor) :=
  ⟨(l, c), [⟨.trace, lexing, message, [("start", toString l.start), ("token", l.token.listed)]⟩]⟩

/-- The lexeme that starts under the cursor, which stands on no blank, and the cursor after it. -/
def lexeme (c : Cursor) : Told (Lexeme × Cursor) :=
  match c.current with
  | none => finish "read token" ⟨c.position, .eof⟩ c.advance
  | some ch =>
    match Sign.starting? ch c.following with
    | some sign => finish "read token" ⟨c.position, .sign sign⟩ (c.advanceBy sign.width)
    | none =>
      if isLetter ch then
        let d := c.advanceWhile isLetter
        finish "scanned word" ⟨c.position, .ofWord (c.textUntil d)⟩ d
      else if isDigit ch then
        let d := c.advanceWhile isDigit
        finish "scanned number" ⟨c.position, .number (c.textUntil d)⟩ d
      else finish "read token" ⟨c.position, .illegal⟩ c.advance

/-- The next lexeme after any blanks, and the cursor after it. -/
def next (c : Cursor) : Told (Lexeme × Cursor) := lexeme c.skipBlanks

/-- The message of each place is the one that an event has for the tokens read there. -/
lemma finish_eq {message : String} {l : Lexeme} (h : (Log.Event.read l).message = message)
    (c : Cursor) : finish message l c = ⟨(l, c), [(Log.Event.read l).entry]⟩ := by
  subst h
  rfl

lemma message_read_ofWord (n : ℕ) (word : String) :
    (Log.Event.read ⟨n, .ofWord word⟩).message = "scanned word" := by
  simp [Log.Event.message, Token.isWord_ofWord]

lemma lexeme_eq (c : Cursor) : lexeme c = ⟨c.lexeme, [(Log.Event.read c.lexeme.1).entry]⟩ := by
  unfold lexeme Cursor.lexeme
  cases c.current with
  | none => exact finish_eq rfl c.advance
  | some ch =>
    dsimp only
    cases Sign.starting? ch c.following with
    | some sign => exact finish_eq rfl _
    | none =>
      dsimp only
      split
      next => exact finish_eq (message_read_ofWord _ _) _
      next =>
        split
        next => exact finish_eq rfl _
        next => exact finish_eq rfl _

/-- A step tells one event, whichever way it ends. -/
theorem next_eq (c : Cursor) : next c = ⟨c.next, [(Log.Event.read c.next.1).entry]⟩ :=
  lexeme_eq c.skipBlanks

lemma unread_next_lt {c : Cursor} (h : (next c).value.1.token ≠ .eof) :
    (next c).value.2.unread < c.unread := by
  rw [next_eq] at h ⊢
  exact Cursor.unread_next_lt h

/-- The tokens up to the end token. -/
def tokens (c : Cursor) : Told (List Token) :=
  let step := next c
  if h : step.value.1.token = .eof then ⟨[.eof], step.entries⟩
  else
    have : step.value.2.unread < c.unread := unread_next_lt h
    let rest := tokens step.value.2
    ⟨step.value.1.token :: rest.value, step.entries ++ rest.entries⟩
termination_by c.unread

/-- The tokens up to the end token, or the diagnostic of the first illegal one. -/
def strictTokens (file : String) (c : Cursor) : Told (Except Diagnostic (List Token)) :=
  let step := next c
  if step.value.1.token = .illegal then
    let start := step.value.1.start
    let character := step.value.2.source.getD start '\x00'
    ⟨.error ⟨.illegalCharacter character, start, file⟩, step.entries ++
      [⟨.debug, lexing, "illegal character",
        [("start", toString start), ("character", character.toString)]⟩]⟩
  else if h : step.value.1.token = .eof then ⟨.ok [.eof], step.entries⟩
  else
    have : step.value.2.unread < c.unread := unread_next_lt h
    let rest := strictTokens file step.value.2
    ⟨rest.value.map (step.value.1.token :: ·), step.entries ++ rest.entries⟩
termination_by c.unread

/-- The cursor on the first character of a source. -/
def opened (source : String) : Told Cursor := do
  tell ⟨.debug, lexing, "created lexer", [("chars", toString source.length)]⟩
  return .ofString source

def lex (source : String) : Told (List Token) := do
  let c ← opened source
  let all ← tokens c
  tell ⟨.debug, lexing, "tokenized source", [("count", toString all.length)]⟩
  return all

def lexStrict (file source : String) : Told (Except Diagnostic (List Token)) := do
  let c ← opened source
  match ← strictTokens file c with
  | .error d => return .error d
  | .ok all =>
    tell ⟨.debug, lexing, "tokenized source", [("count", toString all.length), ("file", file)]⟩
    return .ok all

/-- The tokens of a source that a run reads, or why there are none. -/
def reading (isStrict : Bool) (name source : String) : Told (Except Diagnostic (List Token)) := do
  tell ⟨.info, "tokenize", "tokenizing", [("file", name), ("strict", toString isStrict)]⟩
  if isStrict then lexStrict name source
  else
    let all ← lex source
    return .ok all

lemma tokens_eq (c : Cursor) : tokens c =
    ⟨(Stream.ofCursor c).toList.map (·.token),
      (Stream.ofCursor c).toList.map fun l => (Log.Event.read l).entry⟩ := by
  fun_induction tokens c with
  | case1 c step heof =>
    have hstep : step = ⟨c.next, _⟩ := next_eq c
    simp only [hstep] at heof
    simp [Stream.toList_ofCursor c, hstep, heof]
  | case2 c step heof _ rest ih =>
    have hstep : step = ⟨c.next, _⟩ := next_eq c
    simp only [hstep] at heof
    simp [Stream.toList_ofCursor c, rest, ih, hstep, heof]

/-- What is told behind the steps of a strict reading that is refused. -/
def refusal (source : Array Char) (l : Lexeme) : Log.Entry :=
  (Log.Event.refused l.start (source.getD l.start '\x00')).entry

/-- The strict loop tells its steps, the refused one included, and then why it has refused it. -/
lemma strictTokens_eq {source : List Char} {c : Cursor} (h : c.Valid source) (file : String) :
    let reading := StrictReading.ofCursor c
    strictTokens file c = ⟨match reading.refused with
      | some l => .error (.ofIllegal source.toArray file l)
      | none => .ok (reading.taken.map (·.token)),
      reading.lexemes.map (fun l => (Log.Event.read l).entry) ++
        reading.refused.toList.map (refusal source.toArray)⟩ := by
  fun_induction strictTokens file c with
  | case1 c step hill start character =>
    have hstep : step = ⟨c.next, _⟩ := next_eq c
    simp only [hstep] at hill
    have heof : c.next.1.token ≠ .eof := by simp [hill]
    rw [StrictReading.ofCursor, dif_neg heof, if_pos hill]
    simp only [character, start, hstep, h.next.1.source_eq]
    rfl
  | case2 c step hill heof =>
    have hstep : step = ⟨c.next, _⟩ := next_eq c
    simp only [hstep] at heof
    rw [StrictReading.ofCursor, dif_pos heof, hstep]
    simp [heof, StrictReading.lexemes]
  | case3 c step hill heof _ rest ih =>
    have hstep : step = ⟨c.next, _⟩ := next_eq c
    simp only [hstep] at hill heof
    have hvalid : step.value.2.Valid source := by
      rw [hstep]
      exact h.next.1
    rw [StrictReading.ofCursor, dif_neg heof, if_neg hill]
    simp only [rest, ih hvalid, hstep, StrictReading.lexemes]
    cases (StrictReading.ofCursor c.next.2).refused <;> rfl

lemma lex_eq (source : String) : lex source =
    ⟨ScriptLexer.lex source, (.opened source.length :: ((lexemes source).map .read ++
      [.finished (ScriptLexer.lex source).length none])).map Log.Event.entry⟩ := by
  simp only [lex, opened, bind_eq, pure_eq, tokens_eq, List.append_nil, List.map_cons,
    List.map_append, List.map_map]
  rfl

lemma lexStrict_eq (name source : String) : lexStrict name source =
    ⟨ScriptLexer.lexStrict source (some name),
      (.opened source.length :: ((StrictReading.ofString source).lexemes.map .read ++
        [Command.Reading.strictEnd name (ScriptLexer.lexStrict source (some name))])).map
          Log.Event.entry⟩ := by
  have htokens := strictTokens_eq (Cursor.valid_ofString source) name
  simp only [lexStrict, opened, bind_eq, pure_eq, htokens, ScriptLexer.lexStrict,
    StrictReading.ofString, List.append_nil, List.map_cons, List.map_append, List.map_map]
  cases (StrictReading.ofCursor (.ofString source)).refused with
  | none =>
    simp only [Option.toList_none, List.map_nil, List.append_nil]
    rfl
  | some l =>
    simp only [Option.toList_some, List.map_cons, List.map_nil, List.append_nil]
    rfl

/-- What a run tells where it happens is what the events of its reading say. -/
theorem reading_eq (isStrict : Bool) (name source : String) :
    reading isStrict name source =
      ⟨(Command.Reading.ofSource isStrict name source).result,
        (Command.Reading.ofSource isStrict name source).events.map Log.Event.entry⟩ := by
  cases isStrict with
  | false =>
    simp only [reading, lex_eq, bind_eq, pure_eq, List.append_nil]
    rfl
  | true =>
    simp only [reading, lexStrict_eq, bind_eq]
    rfl

end Told
end ScriptLexer
