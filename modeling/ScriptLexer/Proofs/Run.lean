import ScriptLexer.Command.Run
import ScriptLexer.Proofs.Strict

/-! What a run leaves behind. The command line and the variables settle what is asked for before any
file is read; a run that comes to a source lexes all of it before it puts out the first token. So a
run that fails puts out none, and one that does not fail puts out those of lenient lexing. -/
namespace ScriptLexer.Command

/-- What a command line asks for, together with the variables. -/
inductive Asked where
  | misused (error : UsageError)
  | shown (text : Terminal.Styled)
  | settled (settings : Settings)
deriving DecidableEq

def asked (arguments : List String) (env : Environment) : Asked :=
  match Arguments.read arguments with
  | .error e => .misused e
  | .ok .help => .shown (helpText env)
  | .ok .version => .shown versionText
  | .ok (.run file flags) =>
    match Settings.resolve file flags env with
    | .error e => .misused e
    | .ok s => .settled s

section Asked
variable {time : String} {arguments : List String} {env : Environment}
  {readFile other : String → Except ReadFault String}

lemma run_eq : run time arguments env readFile =
    match asked arguments env with
    | .misused e => ⟨2, "", e.message.render env.hasColour⟩
    | .shown text => ⟨0, text.render env.hasColour, ""⟩
    | .settled s => s.run time env.logFilter readFile := by
  fun_cases asked arguments env <;> simp only [run, *]

lemma run_of_settled {s : Settings} (accepted : asked arguments env = .settled s) (time : String)
    (readFile : String → Except ReadFault String) :
    run time arguments env readFile = s.run time env.logFilter readFile := by
  rw [run_eq, accepted]

end Asked

namespace Reading

lemma result_ofSource (strict : Bool) (name source : String) :
    (ofSource strict name source).result =
      if strict then lexStrict source (some name) else .ok (lex source) := by
  cases strict <;> rfl

/-- With settings of either kind the tokens of an accepted source are the same. -/
lemma result_eq_ok {strict : Bool} {name source : String} {tokens : List Token}
    (h : (ofSource strict name source).result = .ok tokens) :
    tokens = lex source ∧ (strict = false ∨ .illegal ∉ lex source) := by
  rw [result_ofSource] at h
  cases strict with
  | false => exact ⟨(Except.ok.inj h).symm, .inl rfl⟩
  | true =>
    obtain ⟨rfl, hill⟩ := lexStrict_eq_ok_iff.mp h
    exact ⟨rfl, .inr hill⟩

lemma result_eq_error {strict : Bool} {name source : String} {d : Diagnostic}
    (h : (ofSource strict name source).result = .error d) :
    strict = true ∧ lexStrict source (some name) = .error d := by
  rw [result_ofSource] at h
  cases strict with
  | false => cases h
  | true => exact ⟨rfl, h⟩

end Reading

namespace Settings
variable {s : Settings} {time : String} {setting : Option String} {name source : String}
  {readFile : String → Except ReadFault String}

lemma run_of_unreadable {path : String} {fault : ReadFault}
    (h : s.source readFile = .error (path, fault)) :
    s.run time setting readFile = ⟨1, "", unreadable path fault⟩ := by
  rw [run, h]

lemma run_of_accepted {tokens : List Token} (hs : s.source readFile = .ok (name, source))
    (h : (Reading.ofSource s.strict name source).result = .ok tokens) :
    s.run time setting readFile = ⟨0, Token.listing tokens,
      s.log time setting (Reading.ofSource s.strict name source).events⟩ := by
  rw [run, hs]
  simp only [h]

lemma run_of_refused {d : Diagnostic} (hs : s.source readFile = .ok (name, source))
    (h : (Reading.ofSource s.strict name source).result = .error d) :
    s.run time setting readFile =
      match d.render source with
      | .ok text => ⟨1, "", s.log time setting (Reading.ofSource s.strict name source).events ++ text⟩
      | .error fault => ⟨101, "",
          s.log time setting (Reading.ofSource s.strict name source).events ++
            fault.message ++ "\n"⟩ := by
  cases hd : d.render source <;> simp only [run, hs, h, hd]

lemma exitCode_run_eq_zero_iff (hs : s.source readFile = .ok (name, source)) :
    (s.run time setting readFile).exitCode = 0 ↔ s.strict = false ∨ .illegal ∉ lex source := by
  cases hr : (Reading.ofSource s.strict name source).result with
  | ok tokens =>
    rw [run_of_accepted hs hr]
    exact iff_of_true rfl (Reading.result_eq_ok hr).2
  | error d =>
    obtain ⟨hstrict, herror⟩ := Reading.result_eq_error hr
    have hill : ¬ .illegal ∉ lex source := by
      intro hnot
      have hok : ∃ ts, lexStrict source (some name) = .ok ts :=
        exists_lexStrict_eq_ok_iff.mpr hnot
      simp [herror] at hok
    rw [run_of_refused hs hr]
    refine iff_of_false ?_ (by simp [hstrict, hill])
    cases d.render source <;> simp

lemma stdout_run_eq_listing (hs : s.source readFile = .ok (name, source))
    (h : (s.run time setting readFile).exitCode = 0) :
    (s.run time setting readFile).stdout = Token.listing (lex source) := by
  cases hr : (Reading.ofSource s.strict name source).result with
  | ok tokens => rw [run_of_accepted hs hr, (Reading.result_eq_ok hr).1]
  | error d =>
    rw [run_of_refused hs hr] at h
    cases hd : d.render source <;> simp [hd] at h

end Settings

/-- A strict run on a source with an illegal character fails with the diagnostic of strict lexing, which
it puts out behind the log. -/
lemma run_of_illegal {s : Settings} {name source : String}
    {readFile : String → Except ReadFault String} (hs : s.source readFile = .ok (name, source))
    (hstrict : s.strict = true) (hill : .illegal ∈ lex source) (time : String)
    (setting : Option String) :
    ∃ d, lexStrict source (some name) = .error d ∧
      ∀ text, d.render source = .ok text →
        (s.run time setting readFile).exitCode = 1 ∧
          ∃ log, (s.run time setting readFile).stderr = log ++ text := by
  cases herror : lexStrict source (some name) with
  | ok tokens => exact absurd hill (exists_lexStrict_eq_ok_iff.mp ⟨tokens, herror⟩)
  | error d =>
    have hr : (Reading.ofSource s.strict name source).result = .error d := by
      rw [Reading.result_ofSource, if_pos hstrict, herror]
    refine ⟨d, rfl, fun text htext => ?_⟩
    rw [Settings.run_of_refused hs hr, htext]
    exact ⟨rfl, _, rfl⟩

/-- No variable is set. -/
def noVariables : Environment := ⟨none, none, none, none, none⟩

end ScriptLexer.Command
