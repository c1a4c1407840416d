import ScriptLexer.Proofs.Caret
import ScriptLexer.Proofs.Escape
import ScriptLexer.Proofs.Run

/-! What a run does apart from its log. The settings of the log, its filter and its colours come in
only when events are written as lines, so two runs on the same file, both strict or both not, differ
in these lines and in nothing else. -/
namespace ScriptLexer

namespace Spot

lemma mem_source_of_mem_text {source : String} {p : ℕ} {s : Spot} {c : Char}
    (h : locate? source p = some s) (hc : c ∈ s.text) : c ∈ source.toList := by
  obtain ⟨before, after, hlines, -⟩ := locate?_eq_some_iff.mp h
  rw [eq_of_lines hlines]
  exact List.mem_append_right _ (List.mem_append_left _ hc)

end Spot

namespace Diagnostic
variable {d : Diagnostic} {source text : String} {spot : Spot}

lemma escape_mem_header (h : '\x1b' ∈ d.header.toList) : '\x1b' ∈ d.file.toList := by
  obtain ⟨⟨c⟩, position, file⟩ := d
  have hescape : '\x1b' ∉ Text.escape .either c := by
    intro hmem
    exact absurd (Text.isHidden_eq_false_of_mem_escape hmem) (by decide +kernel)
  simpa [header, Cause.title, Cause.tip, hescape] using h

lemma escape_mem_rows (h : '\x1b' ∈ (rows spot).toList) : '\x1b' ∈ spot.text := by
  have hnumber : '\x1b' ∉ Nat.toDigits 10 spot.line := not_mem_toDigits (by decide) _
  obtain ⟨margin, tail, hparts, -, -⟩ := exists_shown spot.text
  have hshown : '\x1b' ∈ shownText spot.text := by
    simpa [toList_rows, gutterRow, lead, dashes, hnumber] using h
  rw [hparts]
  exact List.mem_append_right _ (List.mem_append_left _ hshown)

/-- A diagnostic has no control sequences but those in the name of the file and in its text. -/
theorem escape_mem_render (h : d.render source = .ok text) (hmem : '\x1b' ∈ text.toList) :
    '\x1b' ∈ d.file.toList ∨ '\x1b' ∈ source.toList := by
  unfold render at h
  split at h
  next =>
    cases h
    exact .inl (escape_mem_header hmem)
  next spot hspot =>
    split at h
    next => cases h
    next =>
      cases h
      rw [String.toList_append, List.mem_append] at hmem
      rcases hmem with hmem | hmem
      · exact .inl (escape_mem_header hmem)
      · exact .inr (Spot.mem_source_of_mem_text hspot (escape_mem_rows hmem))

end Diagnostic

namespace Command

/-- What a run tells the log, and what it puts out besides. -/
structure Unlogged where
  exitCode : ℕ
  stdout : String
  /-- All events in order, whether they are shown or not. -/
  events : List Log.Event
  /-- What stands behind the log. -/
  remark : String

namespace Settings
variable {s t : Settings} {readFile : String → Except ReadFault String} {name source : String}

/-- A run up to the point where the events it has met are written as lines. -/
def unlogged (s : Settings) (readFile : String → Except ReadFault String) : Unlogged :=
  match s.source readFile with
  | .error (path, fault) => ⟨1, "", [], unreadable path fault⟩
  | .ok (name, source) =>
    let reading := Reading.ofSource s.strict name source
    match reading.result with
    | .ok tokens => ⟨0, Token.listing tokens, reading.events, ""⟩
    | .error d =>
      match d.render source with
      | .ok text => ⟨1, "", reading.events, text⟩
      | .error fault => ⟨101, "", reading.events, fault.message ++ "\n"⟩

/-- The file and the strictness are all that a run takes from its settings before it logs. -/
lemma unlogged_congr (file_eq : s.file = t.file) (strict_eq : s.strict = t.strict) :
    s.unlogged readFile = t.unlogged readFile := by
  have hsource : s.source readFile = t.source readFile := by simp only [source, file_eq]
  simp only [unlogged, hsource, strict_eq]

/-- A run is what it does apart from its log, with the lines of the events in front of its remark. -/
theorem run_eq_unlogged (time : String) (setting : Option String) : s.run time setting readFile =
    ⟨(s.unlogged readFile).exitCode, (s.unlogged readFile).stdout,
      s.log time setting (s.unlogged readFile).events ++ (s.unlogged readFile).remark⟩ := by
  fun_cases unlogged s readFile with
  | case1 path fault hs =>
    rw [run_of_unreadable hs]
    simp [log]
  | case2 name source hs reading tokens hr =>
    rw [run_of_accepted hs hr, String.append_empty]
  | case3 name source hs reading d hr text hd => rw [run_of_refused hs hr, hd]
  | case4 name source hs reading d hr fault hd =>
    rw [run_of_refused hs hr, hd]
    simp only [reading, String.append_assoc]

/-- For debugging neither the filter of the log nor its setting counts. -/
lemma log_of_verbose (hs : s.verbose = true) (ht : t.verbose = true)
    (noColor_eq : s.noColor = t.noColor) (time : String) (setting setting' : Option String)
    (events : List Log.Event) : s.log time setting events = t.log time setting' events := by
  simp only [log, filter, hs, ht, noColor_eq, if_true]

lemma unlogged_of_unreadable {path : String} {fault : ReadFault}
    (h : s.source readFile = .error (path, fault)) :
    s.unlogged readFile = ⟨1, "", [], unreadable path fault⟩ := by
  simp only [unlogged, h]

lemma remark_of_refused {d : Diagnostic} {text : String}
    (hs : s.source readFile = .ok (name, source))
    (hr : (Reading.ofSource s.strict name source).result = .error d)
    (hd : d.render source = .ok text) : (s.unlogged readFile).remark = text := by
  simp only [unlogged, hs, hr, hd]

lemma remark_of_exitCode (hs : s.source readFile = .ok (name, source))
    (h : (s.unlogged readFile).exitCode = 0) : (s.unlogged readFile).remark = "" := by
  cases hr : (Reading.ofSource s.strict name source).result with
  | ok tokens => simp only [unlogged, hs, hr]
  | error d =>
    cases hd : d.render source with
    | ok text =>
      simp only [unlogged, hs, hr, hd] at h
      omega
    | error fault =>
      simp only [unlogged, hs, hr, hd] at h
      omega

/-- A text for an unreadable file has no control sequences but those in its name and in the reason. -/
lemma escape_mem_unreadable {path : String} {fault : ReadFault}
    (h : '\x1b' ∈ (unreadable path fault).toList) :
    '\x1b' ∈ path.toList ∨ '\x1b' ∈ fault.message.toList := by
  have hfront : '\x1b' ∉ "Error: failed to read ".toList := by decide
  have hmiddle : '\x1b' ∉ "\n\nCaused by:\n    ".toList := by decide
  have hend : '\x1b' ∉ "\n".toList := by decide
  unfold unreadable at h
  simpa only [String.toList_append, List.mem_append, hfront, hmiddle, hend, false_or, or_false]
    using h

end Settings

/-- Two accepted runs on the same file, both strict or both not, end in the same way and put out the
same, whatever they log and in whatever colours. On the error stream a file that cannot be read has
the same text, without a log; else the lines that each run shows of the same events come first, and
then the same remark: none if the run succeeds, the rendered diagnostic if it fails. Neither text has
control sequences of its own. If both log for debugging, in colours or not, the setting of the filter
does not count. -/
theorem run_apart_from_log {arguments₁ arguments₂ : List String} {env₁ env₂ : Environment}
    {s₁ s₂ : Settings} (accepted₁ : asked arguments₁ env₁ = .settled s₁)
    (accepted₂ : asked arguments₂ env₂ = .settled s₂) (file_eq : s₁.file = s₂.file)
    (strict_eq : s₁.strict = s₂.strict) (time₁ time₂ : String)
    (readFile : String → Except ReadFault String) :
    let first := run time₁ arguments₁ env₁ readFile
    let second := run time₂ arguments₂ env₂ readFile
    first.exitCode = second.exitCode ∧ first.stdout = second.stdout ∧
      (∀ path fault, s₁.source readFile = .error (path, fault) →
        first.stderr = Settings.unreadable path fault ∧ second.stderr = first.stderr ∧
        ('\x1b' ∈ first.stderr.toList →
          '\x1b' ∈ path.toList ∨ '\x1b' ∈ fault.message.toList)) ∧
      (∀ name source, s₁.source readFile = .ok (name, source) → ∃ events remark,
        first.stderr = s₁.log time₁ env₁.logFilter events ++ remark ∧
        second.stderr = s₂.log time₂ env₂.logFilter events ++ remark ∧
        (first.exitCode = 0 → remark = "") ∧
        (∀ d text, s₁.strict = true → lexStrict source (some name) = .error d →
          d.render source = .ok text → remark = text ∧
            ('\x1b' ∈ remark.toList → '\x1b' ∈ name.toList ∨ '\x1b' ∈ source.toList))) ∧
      (s₁.verbose = true → s₂.verbose = true → s₁.noColor = s₂.noColor → ∀ time,
        (run time arguments₁ env₁ readFile).stderr =
          (run time arguments₂ env₂ readFile).stderr) := by
  intro first second
  have hsame : s₁.unlogged readFile = s₂.unlogged readFile :=
    Settings.unlogged_congr file_eq strict_eq
  have hfirst (time : String) := (run_of_settled accepted₁ time readFile).trans
    (Settings.run_eq_unlogged time env₁.logFilter)
  have hsecond (time : String) := (run_of_settled accepted₂ time readFile).trans
    (Settings.run_eq_unlogged time env₂.logFilter)
  rw [← hsame] at hsecond
  refine ⟨?_, ?_, fun path fault hs => ?_, fun name source hs => ?_,
    fun verbose₁ verbose₂ noColor_eq time => ?_⟩
  · exact (congrArg Outcome.exitCode (hfirst time₁)).trans
      (congrArg Outcome.exitCode (hsecond time₂)).symm
  · exact (congrArg Outcome.stdout (hfirst time₁)).trans
      (congrArg Outcome.stdout (hsecond time₂)).symm
  · have hleft : first.stderr = Settings.unreadable path fault := by
      rw [show first = _ from hfirst time₁, Settings.unlogged_of_unreadable hs]
      exact String.empty_append
    have hright : second.stderr = Settings.unreadable path fault := by
      rw [show second = _ from hsecond time₂, Settings.unlogged_of_unreadable hs]
      exact String.empty_append
    refine ⟨hleft, hright.trans hleft.symm, fun hmem => ?_⟩
    rw [hleft] at hmem
    exact Settings.escape_mem_unreadable hmem
  · refine ⟨_, _, congrArg Outcome.stderr (hfirst time₁), congrArg Outcome.stderr (hsecond time₂),
      fun hzero => ?_, fun d text hstrict herror htext => ?_⟩
    · rw [show first = _ from hfirst time₁] at hzero
      exact Settings.remark_of_exitCode hs hzero
    · have hr : (Reading.ofSource s₁.strict name source).result = .error d := by
        rw [Reading.result_ofSource, if_pos hstrict, herror]
      obtain ⟨c, -, -, -, hfile⟩ := exists_illegal_of_error herror
      have hremark := Settings.remark_of_refused hs hr htext
      refine ⟨hremark, fun hmem => ?_⟩
      rw [hremark] at hmem
      have hparts := Diagnostic.escape_mem_render htext hmem
      rwa [hfile] at hparts
  · rw [hfirst, hsecond,
      Settings.log_of_verbose verbose₁ verbose₂ noColor_eq time env₁.logFilter env₂.logFilter]

/-- A plain run and one that logs for debugging without colours, both strict, on a source with an
illegal character and on a file that is missing; and two that log with different filters. -/
theorem run_apart_from_log_debugging :
    let debugging : Environment := ⟨none, some "true", some "trace", none, none⟩
    let silenced : Environment := ⟨none, some "true", some "off", none, none⟩
    (asked ["a", "--strict"] noVariables = .settled ⟨some "a", true, false, false⟩ ∧
      asked ["-v", "--strict", "a"] debugging = .settled ⟨some "a", true, true, true⟩ ∧
      asked ["-v", "--strict", "a"] silenced = .settled ⟨some "a", true, true, true⟩) ∧
    ((run "1" ["a", "--strict"] noVariables fun _ => .ok "x\n  @").exitCode =
        (run "2" ["-v", "--strict", "a"] debugging fun _ => .ok "x\n  @").exitCode ∧
      ∃ text log₁ log₂, Diagnostic.render ⟨.illegalCharacter '@', 4, "a"⟩ "x\n  @" = .ok text ∧
        (run "1" ["a", "--strict"] noVariables fun _ => .ok "x\n  @").stderr = log₁ ++ text ∧
        (run "2" ["-v", "--strict", "a"] debugging fun _ => .ok "x\n  @").stderr =
          log₂ ++ text ∧ '\x1b' ∉ text.toList) ∧
    (run "1" ["a", "--strict"] noVariables fun _ => .error .missing).stderr =
      Settings.unreadable "a" .missing ∧
    (run "1" ["-v", "--strict", "a"] debugging fun _ => .ok "x\n  @").stderr =
      (run "1" ["-v", "--strict", "a"] silenced fun _ => .ok "x\n  @").stderr := by
  intro debugging silenced
  have hplain : asked ["a", "--strict"] noVariables =
      .settled ⟨some "a", true, false, false⟩ := by decide +kernel
  have hdebugging : asked ["-v", "--strict", "a"] debugging =
      .settled ⟨some "a", true, true, true⟩ := by decide +kernel
  have hsilenced : asked ["-v", "--strict", "a"] silenced =
      .settled ⟨some "a", true, true, true⟩ := by decide +kernel
  have herror : lexStrict "x\n  @" (some "a") = .error ⟨.illegalCharacter '@', 4, "a"⟩ := by
    decide +kernel
  refine ⟨⟨hplain, hdebugging, hsilenced⟩, ?_, ?_, ?_⟩
  · obtain ⟨hexit, -, -, hread, -⟩ :=
      run_apart_from_log hplain hdebugging rfl rfl "1" "2" fun _ => .ok "x\n  @"
    obtain ⟨events, remark, hfirst, hsecond, -, hremark⟩ := hread "a" "x\n  @" rfl
    have hrender : ∃ text, Diagnostic.render ⟨.illegalCharacter '@', 4, "a"⟩ "x\n  @" =
        .ok text := ⟨_, rfl⟩
    obtain ⟨text, htext⟩ := hrender
    obtain ⟨rfl, hplainText⟩ := hremark _ text rfl herror htext
    refine ⟨hexit, remark, _, _, htext, hfirst, hsecond, fun hmem => ?_⟩
    exact absurd (hplainText hmem) (by decide)
  · exact ((run_apart_from_log hplain hdebugging rfl rfl "1" "2" fun _ =>
      .error .missing).2.2.1 "a" .missing rfl).1
  · exact (run_apart_from_log hdebugging hsilenced rfl rfl "1" "2" fun _ =>
      .ok "x\n  @").2.2.2.2 rfl rfl rfl "1"

end Command
end ScriptLexer
