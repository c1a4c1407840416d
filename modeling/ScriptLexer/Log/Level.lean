/-! Levels of log events, from the gravest to the finest, and the thresholds that let some of them
through. -/
namespace ScriptLexer.Log

inductive Level where
  | error
  | warn
  | info
  | debug
  | trace
deriving DecidableEq

namespace Level

def all : List Level := [.error, .warn, .info, .debug, .trace]

/-- The finer the level, the greater the number; zero is left for a threshold that shuts off all. -/
def number : Level → Nat
  | error => 1
  | warn => 2
  | info => 3
  | debug => 4
  | trace => 5

def label : Level → String
  | error => "ERROR"
  | warn => "WARN"
  | info => "INFO"
  | debug => "DEBUG"
  | trace => "TRACE"

/-- The number of the colour a terminal shows the level in. -/
def colour : Level → Nat
  | error => 31
  | warn => 33
  | info => 32
  | debug => 34
  | trace => 35

end Level

/-- The finest level that is let through, if any is. -/
inductive Threshold where
  | off
  | upTo (level : Level)
deriving DecidableEq

namespace Threshold

def allows : Threshold → Level → Bool
  | off, _ => false
  | upTo finest, level => level.number ≤ finest.number

/-- The threshold with a name or with a number; letters count in either case, a number may have a
plus sign and leading zeros. -/
def ofName? (name : String) : Option Threshold :=
  let digits := match name.toList with
    | '+' :: rest => rest
    | cs => cs
  if !digits.isEmpty && digits.all Char.isDigit then
    let value : Nat := digits.foldl (fun n d => 10 * n + (d.toNat - '0'.toNat)) 0
    if value = 0 then some off else (Level.all.find? (·.number == value)).map upTo
  else
    let upper := String.ofList (name.toList.map Char.toUpper)
    if upper = "OFF" then some off else (Level.all.find? (·.label == upper)).map upTo

end Threshold
end ScriptLexer.Log
