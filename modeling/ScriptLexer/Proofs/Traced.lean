import ScriptLexer.Proofs.Listing
import ScriptLexer.Proofs.Progress
import ScriptLexer.Proofs.Told
import ScriptLexer.Proofs.Unlogged

/-! The log of a run beside its output. Each step of a run has one event, up to the step that ends
it; so where the log shows everything, it shows the tokens that are put out, as many as it counts,
or the illegal one for which a strict run gives none. -/
namespace ScriptLexer

/-- Whether a run ends with the token. -/
def Token.ends (strict : Bool) (t : Token) : Bool := t == .eof || (strict && t == .illegal)

/-- The step with number `n` over the source is the one that ends a run. -/
structure EndsAt (strict : Bool) (source : String) (n : ℕ) : Prop where
  before : ∀ i < n, (nthLexeme source i).token.ends strict = false
  last : (nthLexeme source n).token.ends strict = true

namespace EndsAt
variable {strict : Bool} {source : String} {m n : ℕ}

lemma le (h : EndsAt strict source n) (h' : EndsAt strict source m) : n ≤ m := by
  by_contra hlt
  have hlast := h'.last
  rw [h.before m (Nat.lt_of_not_le hlt)] at hlast
  cases hlast

lemma eq (h : EndsAt strict source n) (h' : EndsAt strict source m) : n = m :=
  Nat.le_antisymm (h.le h') (h'.le h)

/-- A run that is not refused ends where lenient lexing does, and so has all its lexemes. -/
lemma lexemes_eq (h : EndsAt strict source n) (hill : strict = false ∨ .illegal ∉ lex source) :
    lexemes source = (List.range (n + 1)).map (nthLexeme source) := by
  obtain ⟨k, hall, hbefore, hlast, -⟩ := exists_lexemes_eq_map_range source
  have hends : EndsAt strict source k := by
    refine ⟨fun i hi => ?_, by simp [Token.ends, hlast]⟩
    have hmem : (nthLexeme source i).token ∈ lex source := by
      rw [lex, hall]
      exact List.mem_map_of_mem (List.mem_map_of_mem (List.mem_range.mpr (by omega)))
    rcases hill with rfl | hill
    · simp [Token.ends, hbefore i hi]
    · simp [Token.ends, hbefore i hi, ne_of_mem_of_not_mem hmem hill]
  rw [h.eq hends, hall]

/-- A run that is refused ends with the illegal lexeme that its diagnostic is about. -/
lemma nthLexeme_eq (h : EndsAt true source n) {file : Option String} {d : Diagnostic}
    (herror : lexStrict source file = .error d) :
    nthLexeme source n = ⟨d.position, .illegal⟩ := by
  obtain ⟨l, hfind, rfl⟩ := lexStrict_eq_error_iff.mp herror
  obtain ⟨hl, j, hj, hget, hnot⟩ := List.find?_eq_some_iff_getElem.mp hfind
  have hill : l.token = .illegal := by simpa using hl
  have hstep {i : ℕ} (hi : i < (lexemes source).length) :
      nthLexeme source i = (lexemes source)[i] :=
    nthLexeme_of_getElem? (List.getElem?_eq_getElem hi)
  obtain ⟨k, hall, hbefore, -⟩ := exists_lexemes_eq_map_range source
  have hends : EndsAt true source j := by
    refine ⟨fun i hi => ?_, by simp [Token.ends, hstep hj, hget, hill]⟩
    have hik : i < k := by
      rw [hall, List.length_map, List.length_range] at hj
      omega
    have heof := hbefore i hik
    have hother := hnot i hi
    rw [hstep (hi.trans hj)] at heof ⊢
    simpa [Token.ends, heof] using hother
  rw [h.eq hends, hstep hj, hget, ← hill]
  rfl

/-- The last step is the only one of a refused run that gives an illegal lexeme. -/
lemma token_ne_illegal (h : EndsAt true source n) {i : ℕ} (hi : i < n) :
    (nthLexeme source i).token ≠ .illegal := by
  intro hill
  have hbefore := h.before i hi
  rw [hill] at hbefore
  cases hbefore

end EndsAt

namespace Log

/-- What an event says of the lexeme that a step has given. -/
structure Event.Reports (e : Event) (l : Lexeme) : Prop where
  level_eq : e.level = .trace
  fields_eq : e.fields = [("start", toString l.start), ("token", l.token.listed)]
  word_iff : e.message = "scanned word" ↔
    (∃ k, l.token = .keyword k) ∨ ∃ name, l.token = .identifier name
  number_iff : e.message = "scanned number" ↔ ∃ digits, l.token = .number digits
  other_iff : e.message = "read token" ↔
    (∃ sign, l.token = .sign sign) ∨ l.token = .illegal ∨ l.token = .eof

lemma Event.reports_read (l : Lexeme) : (read l).Reports l := by
  obtain ⟨start, t⟩ := l
  refine ⟨rfl, rfl, ?_, ?_, ?_⟩ <;>
    cases t <;> simp [message, Token.isWord, Token.isNumber]

/-- No step has the message that counts the tokens. -/
lemma Event.message_read_ne (l : Lexeme) : (read l).message ≠ "tokenized source" := by
  simp only [message]
  split_ifs <;> decide

/-- The events of the steps over a source up to the one with number `n`. -/
def steps (source : String) (n : ℕ) : List Event :=
  (List.range (n + 1)).map fun i => .read (nthLexeme source i)

/-- The events of a run: the two of its beginning, those of its steps and the last one. -/
def account (strict : Bool) (name source : String) (n : ℕ) (last : Event) : List Event :=
  .begun name strict :: .opened source.length :: (steps source n ++ [last])

section Steps
variable {strict : Bool} {name source : String} {n : ℕ} {e last : Event}

@[simp] lemma length_steps : (steps source n).length = n + 1 := by simp [steps]

lemma exists_of_mem_steps (h : e ∈ steps source n) : ∃ i, e = .read (nthLexeme source i) := by
  obtain ⟨i, -, rfl⟩ := List.mem_map.mp h
  exact ⟨i, rfl⟩

lemma steps_eq_append : steps source n =
    (List.range n).map (fun i => .read (nthLexeme source i)) ++ [.read (nthLexeme source n)] := by
  rw [steps, List.range_succ, List.map_append]
  rfl

lemma filterMap_token_steps : (steps source n).filterMap (·.fields.lookup "token") =
    (List.range (n + 1)).map fun i => (nthLexeme source i).token.listed := by
  have htoken (i : ℕ) : (Event.read (nthLexeme source i)).fields.lookup "token" =
      some (nthLexeme source i).token.listed := rfl
  simp only [steps, List.filterMap_map, Function.comp_def, htoken, List.filterMap_eq_map']

lemma filter_account {p : Event → Bool} (hbegun : p (.begun name strict) = false)
    (hopened : p (.opened source.length) = false) :
    (account strict name source n last).filter p =
      (steps source n).filter p ++ [last].filter p := by
  simp [account, hbegun, hopened]

/-- The steps are what is told at the finest level. -/
lemma filter_trace_account (h : last.level = .debug) :
    (account strict name source n last).filter (·.level == .trace) = steps source n := by
  have hsteps : (steps source n).filter (·.level == .trace) = steps source n := by
    rw [List.filter_eq_self]
    intro e he
    obtain ⟨i, rfl⟩ := exists_of_mem_steps he
    rfl
  rw [filter_account rfl rfl, hsteps, List.filter_singleton, h]
  exact List.append_nil _

/-- Only the last event can count the tokens. -/
lemma filter_counting_account :
    (account strict name source n last).filter (·.message == "tokenized source") =
      [last].filter (·.message == "tokenized source") := by
  have hsteps : (steps source n).filter (·.message == "tokenized source") = [] := by
    rw [List.filter_eq_nil_iff]
    intro e he
    obtain ⟨i, rfl⟩ := exists_of_mem_steps he
    simpa using Event.message_read_ne _
  rw [filter_account rfl rfl, hsteps, List.nil_append]

lemma getLast?_steps : (steps source n).getLast? = some (.read (nthLexeme source n)) := by
  rw [steps_eq_append, List.getLast?_concat]

/-- A refused run tells of an illegal lexeme in its last step only. -/
lemma token_ne_of_mem_dropLast_steps (h : EndsAt true source n)
    (he : e ∈ (steps source n).dropLast) : e.fields.lookup "token" ≠ some Token.illegal.listed := by
  rw [steps_eq_append, List.dropLast_concat] at he
  obtain ⟨i, hi, rfl⟩ := List.mem_map.mp he
  intro hlisted
  exact h.token_ne_illegal (List.mem_range.mp hi)
    (Token.listed_injective (Option.some.inj hlisted))

end Steps

/-- The filter keeps no event back. -/
def Filter.ShowsAll (f : Filter) : Prop := ∀ e, f.shows e = true

/-- The finest level lets everything through, so it is enough that this is the threshold of
whichever directive decides. -/
lemma Filter.showsAll_of_deciding {f : Filter}
    (h : ∀ e, ∃ d, f.deciding? e = some d ∧ d.threshold = .upTo .trace) : f.ShowsAll := by
  intro e
  obtain ⟨d, hd, hthreshold⟩ := h e
  simp only [shows, hd, hthreshold, Threshold.allows]
  cases e.level <;> rfl

lemma Filter.showsAll_upTo_trace : (upTo .trace).ShowsAll :=
  showsAll_of_deciding fun _ => ⟨.ofThreshold (.upTo .trace), rfl, rfl⟩

end Log

namespace Command

namespace Reading
variable {strict : Bool} {name source : String} {n : ℕ}

/-- The event that a reading ends with, strict or not. -/
def ending (strict : Bool) (name : String) : Except Diagnostic (List Token) → Log.Event
  | .ok tokens => .finished tokens.length (if strict then some name else none)
  | .error d => .refused d.position d.cause.character

/-- The events of a reading: one for each step up to the one that ends it, between the two of its
beginning and the one of its end. -/
lemma exists_events (strict : Bool) (name source : String) : ∃ n, EndsAt strict source n ∧
    (ofSource strict name source).events = Log.account strict name source n
      (ending strict name (ofSource strict name source).result) := by
  cases strict with
  | false =>
    obtain ⟨k, hall, hbefore, hlast, -⟩ := exists_lexemes_eq_map_range source
    refine ⟨k, ⟨fun i hi => by simp [Token.ends, hbefore i hi], by simp [Token.ends, hlast]⟩, ?_⟩
    simp [ofSource, lenient, ending, hall, Log.account, Log.steps, Function.comp_def]
  | true =>
    obtain ⟨j, hall, hbefore, hlast⟩ :=
      StrictReading.exists_lexemes_ofCursor (Cursor.ofString source)
    refine ⟨j, ⟨fun i hi => ?_, ?_⟩, ?_⟩
    · simpa [Token.ends, nthLexeme] using hbefore i hi
    · simpa [Token.ends, nthLexeme] using hlast
    · have hend : strictEnd name (lexStrict source (some name)) =
          ending true name (lexStrict source (some name)) := by
        cases lexStrict source (some name) <;> rfl
      simp [ofSource, Reading.strict, StrictReading.ofString, hall, hend, Log.account, Log.steps,
        nthLexeme, Function.comp_def]

lemma level_ending (strict : Bool) (name : String) (result : Except Diagnostic (List Token)) :
    (ending strict name result).level = .debug := by
  cases result <;> rfl

lemma result_of_accepted (h : strict = false ∨ .illegal ∉ lex source) :
    (ofSource strict name source).result = .ok (lex source) := by
  rw [result_ofSource]
  cases strict with
  | false => rfl
  | true => exact lexStrict_eq_ok_iff.mpr ⟨rfl, h.resolve_left Bool.noConfusion⟩

/-- A reading that is not refused ends with the count of its steps. -/
lemma ending_of_accepted (hends : EndsAt strict source n)
    (h : strict = false ∨ .illegal ∉ lex source) (name : String) :
    ending strict name (ofSource strict name source).result =
      .finished (Log.steps source n).length (if strict then some name else none) := by
  rw [result_of_accepted h, ending, lex, hends.lexemes_eq h]
  simp

lemma ending_of_error {d : Diagnostic} (h : (ofSource strict name source).result = .error d) :
    ending strict name (ofSource strict name source).result =
      .refused d.position d.cause.character := by
  rw [h, ending]

end Reading

namespace Settings
variable {s : Settings} {readFile : String → Except ReadFault String} {name source : String}

lemma log_of_showsAll {setting : Option String} (quiet : s.verbose = false)
    (shows : (Log.Filter.ofSetting setting).ShowsAll) (time : String) (events : List Log.Event) :
    s.log time setting events = String.join (events.map (·.line ⟨time, !s.noColor⟩)) := by
  simp [log, filter, quiet, List.filter_eq_self.mpr fun e _ => shows e]

lemma events_unlogged (hs : s.source readFile = .ok (name, source)) :
    (s.unlogged readFile).events = (Reading.ofSource s.strict name source).events := by
  simp only [unlogged, hs]
  cases (Reading.ofSource s.strict name source).result with
  | ok tokens => rfl
  | error d => cases hd : d.render source <;> simp only [hd]

/-- The lines put out are the tokens that the steps tell. -/
lemma lines_stdout_run {n : ℕ} {time : String} {setting : Option String}
    (hs : s.source readFile = .ok (name, source)) (hends : EndsAt s.strict source n)
    (h : (s.run time setting readFile).exitCode = 0) :
    lines (s.run time setting readFile).stdout.toList =
      ((Log.steps source n).filterMap (·.fields.lookup "token")).map (·.toList ++ ['\n']) := by
  have hplain : ∀ t ∈ lex source, '\n' ∉ t.listed.toList :=
    fun t ht => Token.newline_not_mem_listed (newline_not_mem_payload_of_lex ht)
  have hall := hends.lexemes_eq ((exitCode_run_eq_zero_iff hs).mp h)
  rw [stdout_run_eq_listing hs h, Token.lines_listing hplain, lex, hall, Log.filterMap_token_steps]
  simp only [List.map_map, Function.comp_def]

/-- A run on a source fails only if it is strict, for a character that starts no token. -/
lemma exists_error_of_exitCode {time : String} {setting : Option String}
    (hs : s.source readFile = .ok (name, source))
    (h : (s.run time setting readFile).exitCode ≠ 0) :
    s.strict = true ∧ ∃ p c,
      lexStrict source (some name) = .error ⟨.illegalCharacter c, p, name⟩ := by
  rw [ne_eq, exitCode_run_eq_zero_iff hs, not_or, Bool.not_eq_false, not_not] at h
  obtain ⟨hstrict, hill⟩ := h
  obtain ⟨⟨cause, p, file⟩, herror, -⟩ := run_of_illegal hs hstrict hill time setting
  obtain ⟨c, -, -, hcause, hfile⟩ := exists_illegal_of_error herror
  refine ⟨hstrict, p, c, herror.trans (congrArg Except.error ?_)⟩
  exact congrArg₂ (Diagnostic.mk · p ·) hcause hfile

end Settings

/-- A log that shows everything of a run on a source says first that the run begins and how long
the source is, then what each step has given, up to the step that ends the run, and then how it
ends. All of this is told at the places where the steps are taken. A run that succeeds ends with one
count, of its steps and so of the lines put out, which are the tokens told. A run that fails is
strict; the last of its steps alone is told as illegal, at the place that the diagnostic and the
last event name, and nothing is counted. -/
theorem run_trace_agrees {arguments : List String} {env : Environment} {s : Settings}
    {name source : String} (accepted : asked arguments env = .settled s)
    (quiet : s.verbose = false) (shows : (Log.Filter.ofSetting env.logFilter).ShowsAll)
    (time : String) (readFile : String → Except ReadFault String)
    (readable : s.source readFile = .ok (name, source)) :
    ∃ n last remark, EndsAt s.strict source n ∧
      let outcome := run time arguments env readFile
      let traced := (List.range (n + 1)).map fun i => Log.Event.read (nthLexeme source i)
      let events := .begun name s.strict :: .opened source.length :: (traced ++ [last])
      outcome.stderr = String.join (events.map (·.line ⟨time, !s.noColor⟩)) ++ remark ∧
      Told.reading s.strict name source =
        ⟨if s.strict then lexStrict source (some name) else .ok (lex source),
          events.map Log.Event.entry⟩ ∧
      events.filter (·.level == .trace) = traced ∧
      (∀ i, (Log.Event.read (nthLexeme source i)).Reports (nthLexeme source i)) ∧
      (outcome.exitCode = 0 → remark = "" ∧
        last = .finished traced.length (if s.strict then some name else none) ∧
        events.filter (·.message == "tokenized source") = [last] ∧
        lines outcome.stdout.toList =
          (traced.filterMap (·.fields.lookup "token")).map (·.toList ++ ['\n']) ∧
        (lines outcome.stdout.toList).length = traced.length) ∧
      (outcome.exitCode ≠ 0 → s.strict = true ∧ ∃ p c,
        lexStrict source (some name) = .error ⟨.illegalCharacter c, p, name⟩ ∧
        last = .refused p c ∧ traced.getLast? = some (.read ⟨p, .illegal⟩) ∧
        (∀ e ∈ traced.dropLast, e.fields.lookup "token" ≠ some "Illegal") ∧
        events.filter (·.message == "tokenized source") = [] ∧
        ∀ text, Diagnostic.render ⟨.illegalCharacter c, p, name⟩ source = .ok text →
          remark = text) := by
  obtain ⟨n, hends, hevents⟩ := Reading.exists_events s.strict name source
  have hrun := run_of_settled accepted time readFile
  have hunlogged := hrun.trans (Settings.run_eq_unlogged time env.logFilter)
  refine ⟨n, Reading.ending s.strict name (Reading.ofSource s.strict name source).result,
    (s.unlogged readFile).remark, hends, ?_, ?_, ?_, fun i => Log.Event.reports_read _,
    fun hzero => ?_, fun hfails => ?_⟩
  · rw [hunlogged, Settings.log_of_showsAll quiet shows, Settings.events_unlogged readable, hevents]
    rfl
  · rw [Told.reading_eq, hevents, Reading.result_ofSource]
    rfl
  · exact Log.filter_trace_account (Reading.level_ending _ _ _)
  · rw [hrun] at hzero
    have haccepted := (Settings.exitCode_run_eq_zero_iff readable).mp hzero
    have hlast := Reading.ending_of_accepted hends haccepted name
    have hlines := Settings.lines_stdout_run readable hends hzero
    rw [← hrun] at hlines
    rw [← hrun, hunlogged] at hzero
    refine ⟨Settings.remark_of_exitCode readable hzero, hlast, ?_, hlines, ?_⟩
    · rw [hlast]
      exact Log.filter_counting_account
    · rw [hlines, Log.filterMap_token_steps]
      simp
  · rw [hrun] at hfails
    obtain ⟨hstrict, p, c, herror⟩ := Settings.exists_error_of_exitCode readable hfails
    have hresult : (Reading.ofSource s.strict name source).result =
        .error ⟨.illegalCharacter c, p, name⟩ := by
      rw [Reading.result_ofSource, if_pos hstrict, herror]
    have hlast := Reading.ending_of_error hresult
    rw [hstrict] at hends
    refine ⟨hstrict, p, c, herror, hlast, ?_, ?_, ?_, ?_⟩
    · rw [← hends.nthLexeme_eq herror]
      exact Log.getLast?_steps
    · exact fun e he => Log.token_ne_of_mem_dropLast_steps hends he
    · rw [hlast]
      exact Log.filter_counting_account
    · exact fun text htext => Settings.remark_of_refused readable hresult htext

/-- A lenient and a strict run on a file with an illegal character, logged without colours. -/
theorem run_trace_agrees_at_sign :
    let env : Environment := ⟨none, some "true", some "trace", none, none⟩
    asked ["a"] env = .settled ⟨some "a", false, false, true⟩ ∧
      asked ["--strict", "a"] env = .settled ⟨some "a", true, false, true⟩ ∧
      (Log.Filter.ofSetting env.logFilter).ShowsAll ∧
      (run "1" ["a"] env fun _ => .ok "a=@").stderr =
        "1  INFO tokenizing file=a strict=false\n" ++
        "1 DEBUG created lexer chars=3\n" ++
        "1 TRACE scanned word start=0 token=Identifier(a)\n" ++
        "1 TRACE read token start=1 token=Assign\n" ++
        "1 TRACE read token start=2 token=Illegal\n" ++
        "1 TRACE read token start=3 token=Eof\n" ++
        "1 DEBUG tokenized source count=4\n" ∧
      lines (run "1" ["a"] env fun _ => .ok "a=@").stdout.toList =
        ["Identifier(a)\n".toList, "Assign\n".toList, "Illegal\n".toList, "Eof\n".toList] ∧
      (run "1" ["--strict", "a"] env fun _ => .ok "a=@").stderr =
        "1  INFO tokenizing file=a strict=true\n" ++
        "1 DEBUG created lexer chars=3\n" ++
        "1 TRACE scanned word start=0 token=Identifier(a)\n" ++
        "1 TRACE read token start=1 token=Assign\n" ++
        "1 TRACE read token start=2 token=Illegal\n" ++
        "1 DEBUG illegal character start=2 character=@\n" ++
        "Error: IllegalCharacter (`@` does not start any token)\n-> a\n" ++
        "  |\n1 | a=@\n  | --^\n" := by
  intro env
  have hlenient : asked ["a"] env = .settled ⟨some "a", false, false, true⟩ := by decide +kernel
  have hstrict : asked ["--strict", "a"] env = .settled ⟨some "a", true, false, true⟩ := by
    decide +kernel
  have hfilter : Log.Filter.ofSetting env.logFilter = .upTo .trace := by decide +kernel
  have hshows : (Log.Filter.ofSetting env.logFilter).ShowsAll := by
    rw [hfilter]
    exact Log.Filter.showsAll_upTo_trace
  have hthree : (List.range 3).map (fun i => Log.Event.read (nthLexeme "a=@" i)) =
      [.read ⟨0, .identifier "a"⟩, .read ⟨1, .sign .assign⟩, .read ⟨2, .illegal⟩] := by
    decide +kernel
  have hfour : (List.range 4).map (fun i => Log.Event.read (nthLexeme "a=@" i)) =
      [.read ⟨0, .identifier "a"⟩, .read ⟨1, .sign .assign⟩, .read ⟨2, .illegal⟩,
        .read ⟨3, .eof⟩] := by
    decide +kernel
  have hthird : EndsAt false "a=@" 3 := ⟨by decide +kernel, by decide +kernel⟩
  have hsecond : EndsAt true "a=@" 2 := ⟨by decide +kernel, by decide +kernel⟩
  obtain ⟨n, last, remark, hends, hstderr, -, -, -, hsuccess, -⟩ :=
    run_trace_agrees hlenient rfl hshows "1" (fun _ => .ok "a=@") rfl
  obtain rfl := hends.eq hthird
  have hzero : (run "1" ["a"] env fun _ => .ok "a=@").exitCode = 0 := by
    rw [run_of_settled hlenient]
    exact (Settings.exitCode_run_eq_zero_iff rfl).mpr (.inl rfl)
  obtain ⟨rfl, rfl, -, hlines, -⟩ := hsuccess hzero
  obtain ⟨m, last, remark, hends', hstderr', -, -, -, -, hfailure⟩ :=
    run_trace_agrees hstrict rfl hshows "1" (fun _ => .ok "a=@") rfl
  obtain rfl := hends'.eq hsecond
  have hfails : (run "1" ["--strict", "a"] env fun _ => .ok "a=@").exitCode ≠ 0 := by
    rw [run_of_settled hstrict, ne_eq, Settings.exitCode_run_eq_zero_iff rfl]
    decide +kernel
  obtain ⟨-, p, c, herror, rfl, -, -, -, hremark⟩ := hfailure hfails
  have hat : lexStrict "a=@" (some "a") = .error ⟨.illegalCharacter '@', 2, "a"⟩ := by
    decide +kernel
  rw [hat] at herror
  cases herror
  have hrender : Diagnostic.render ⟨.illegalCharacter '@', 2, "a"⟩ "a=@" =
      .ok ("Error: IllegalCharacter (`@` does not start any token)\n-> a\n" ++
        "  |\n1 | a=@\n  | --^\n") := by
    decide +kernel
  rw [hfour] at hstderr hlines
  rw [hthree, hremark _ hrender] at hstderr'
  refine ⟨hlenient, hstrict, hshows, ?_, ?_, ?_⟩
  · rw [hstderr]
    decide +kernel
  · rw [hlines]
    decide +kernel
  · rw [hstderr']
    decide +kernel

end Command
end ScriptLexer
