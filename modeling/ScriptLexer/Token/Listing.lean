import ScriptLexer.Text.Escape
import ScriptLexer.Token.Basic

/-! The two written forms of a token: the listing shows its text as it is, one token a line; the dump
shows it quoted and escaped. No name has a parenthesis in it, so a listed form says which token it
is, whatever text that carries. -/
namespace ScriptLexer.Token

/-- The token's name, with its text in parentheses if it carries one. -/
def listed (t : Token) : String :=
  match t.payload? with
  | some text => t.label ++ "(" ++ text ++ ")"
  | none => t.label

/-- The token's name, with its text quoted in parentheses if it carries one. -/
def dumped (t : Token) : String :=
  match t.payload? with
  | some text => t.label ++ "(" ++ Text.quotedString text ++ ")"
  | none => t.label

/-- Tokens one a line, each line ended. -/
def listing (tokens : List Token) : String := String.join (tokens.map fun t => t.listed ++ "\n")

/-- The tokens that carry no text. -/
def bare : List Token :=
  Keyword.all.map keyword ++ Sign.lone.map (fun p => sign p.2) ++
    [sign .assign, sign .equal, sign .bang, sign .notEqual, illegal, eof]

/-- The token with the listed form: its name ends at the parenthesis around its text. -/
def ofListed? (form : List Char) : Option Token :=
  let name := form.takeWhile (· != '(')
  let candidates := match form.dropWhile (· != '(') with
    | [] => bare
    | _ :: rest => [identifier (String.ofList rest.dropLast), number (String.ofList rest.dropLast)]
  candidates.find? (·.label.toList == name)

/-- No name has a parenthesis or a line feed in it. -/
theorem label_plain (t : Token) : t.label.toList.all (fun c => c != '(' && c != '\n') = true := by
  cases t with
  | keyword k => cases k <;> decide
  | sign s => cases s <;> decide
  | _ => simp [label]

theorem ne_of_mem_label {t : Token} {c : Char} (h : c ∈ t.label.toList) : c ≠ '(' ∧ c ≠ '\n' := by
  simpa using List.all_eq_true.mp t.label_plain c h

theorem find?_bare {t : Token} (h : t.payload? = none) :
    bare.find? (·.label.toList == t.label.toList) = some t := by
  cases t with
  | keyword k => cases k <;> decide
  | sign s => cases s <;> decide
  | identifier name => cases h
  | number digits => cases h
  | illegal => decide
  | eof => decide

theorem toList_listed {t : Token} {text : String} (h : t.payload? = some text) :
    t.listed.toList = t.label.toList ++ '(' :: (text.toList ++ [')']) := by
  simp [listed, h]

theorem find?_payload {t : Token} {text : String} (h : t.payload? = some text) :
    [identifier text, number text].find? (·.label.toList == t.label.toList) = some t := by
  cases t with
  | identifier name =>
    cases h
    exact List.find?_cons_of_pos (beq_self_eq_true _)
  | number digits =>
    cases h
    simp [label]
  | _ => cases h

end ScriptLexer.Token
