import ModemWatch.CommandLine.Run
import ModemWatch.Proofs.Tracking
import ModemWatch.Toml.Writer

/-!
# Checked settings are those that a replay runs with

A settings file is loaded in two ways.  A check is strict and tells what is wrong.  A replay is
lenient: it takes the defaults if the file is of no use, and it looks at the settings only when it
starts.  So there are two readers with different ideas of what is good, and a verdict that comes
later, and they must not part ways: a file that passes the check must not be replaced by the
defaults, and a replay must not run with a file that the check rejects, nor with a part of one.

Both read a file by the same stages: it is there, it can be read, it can be understood, and the
settings make sense.  `Settings.Loads` has a case for each stage at which a file can fail, and one
for a good file, with what either way of loading makes of it.  How TOML is read does not matter for
any of this, so nothing is assumed of the codec.

* `Settings.loads` — every file falls under one of the cases;
* `Replay.exists_start_configured`, `Replay.start_configured_of_invalid` — what a replay makes of
  the settings of a file;
* `Settings.same_reason` — what the two commands print about settings that make no sense;
* `Settings.check_foretells_replay` — what a check says about a replay.
-/

namespace ModemWatch

namespace Settings

/-! ## Two ways of loading -/

/-- What comes of a settings file: what the strict way says, and what the lenient way gives. -/
inductive Loads (toml : Toml.Codec) (path : String) (file : FileContent) :
    Except Failure Settings → Settings → Prop where
  /-- Nothing is there. -/
  | missing (h : file = .missing) : Loads toml path file (.error (.configNotFound path)) {}
  /-- What is there cannot be read, or is no text. -/
  | unreadable {reason : String} (hthere : file ≠ .missing) (h : file.text? = none) :
      Loads toml path file (.error (.io reason)) {}
  /-- The text cannot be understood as settings. -/
  | malformed {text reason : String} (htext : file.text? = some text)
      (h : parse toml text = .error (.config reason)) :
      Loads toml path file (.error (.config reason)) {}
  /-- The settings make no sense. -/
  | invalid {text : String} {s : Settings} {i : InvalidSettings} (htext : file.text? = some text)
      (hparse : parse toml text = .ok s) (h : s.validate = .error i) :
      Loads toml path file (.error i.failure) s
  /-- The settings are good. -/
  | good {text : String} {s : Settings} (htext : file.text? = some text)
      (hparse : parse toml text = .ok s) (h : s.validate = .ok ()) : Loads toml path file (.ok s) s

theorem exists_reason_of_parse {toml : Toml.Codec} {text : String} {f : Failure}
    (h : parse toml text = .error f) : ∃ reason, f = .config reason := by
  unfold parse at h
  split at h
  · cases h; exact ⟨_, rfl⟩
  · split at h
    · cases h; exact ⟨_, rfl⟩
    · cases h

/-- **Every file is loaded in one of five ways.** -/
theorem loads (toml : Toml.Codec) (path : String) (file : FileContent) :
    Loads toml path file (loadStrict toml path file) (load toml file) := by
  unfold loadStrict
  split
  · exact .missing rfl
  · next hthere =>
    unfold load
    cases htext : file.text? with
    | none => exact .unreadable hthere htext
    | some text =>
      simp only
      cases hparse : parse toml text with
      | error f =>
        obtain ⟨reason, rfl⟩ := exists_reason_of_parse hparse
        exact .malformed htext hparse
      | ok s =>
        simp only
        cases h : s.validate with
        | error i => exact .invalid htext hparse h
        | ok _ => exact .good htext hparse h

variable {toml : Toml.Codec} {path : String} {file : FileContent} {s accepted : Settings}

/-- What is accepted is what is loaded, and it makes sense. -/
theorem Loads.of_ok (h : Loads toml path file (.ok accepted) s) :
    s = accepted ∧ s.validate = .ok () := by
  cases h with
  | good htext hparse h => exact ⟨rfl, h⟩

/-- What is found to make no sense is loaded nevertheless. -/
theorem Loads.of_configInvalid {reason : String}
    (h : Loads toml path file (.error (.configInvalid reason)) s) :
    ∃ text i, file.text? = some text ∧ parse toml text = .ok s ∧ s.validate = .error i ∧
      i.failure = .configInvalid reason := by
  cases h with
  | invalid htext hparse h => exact ⟨_, _, htext, hparse, h, rfl⟩

/-- Any other failure leads to the defaults. -/
theorem Loads.of_error {f : Failure} (h : Loads toml path file (.error f) s)
    (hother : ∀ reason, f ≠ .configInvalid reason) : s = {} := by
  cases h with
  | missing h | unreadable hthere h | malformed htext h => rfl
  | invalid htext hparse h => exact absurd rfl (hother _)

/-- The defaults are loaded, or all that a text says. -/
theorem Loads.all_or_nothing {strict : Except Failure Settings}
    (h : Loads toml path file strict s) :
    s = {} ∨ ∃ text, file.text? = some text ∧ parse toml text = .ok s := by
  cases h with
  | missing h | unreadable hthere h | malformed htext h => exact .inl rfl
  | invalid htext hparse h | good htext hparse h => exact .inr ⟨_, htext, hparse⟩

end Settings

/-! ## Replays with a settings file -/

/-- A scenario with the settings of a file, and with other variants to track if any are given. -/
def Scenario.configured (toml : Toml.Codec) (file : FileContent)
    (track : Option (List Variant)) (s : Scenario) : Scenario :=
  let s := { s with settings := Settings.load toml file }
  match track with
  | none => s
  | some l => s.withTracking l

namespace Replay

variable {toml : Toml.Codec} {file : FileContent} (track : Option (List Variant)) (s : Scenario)

/-- Which variants are tracked does not matter for whether settings make sense. -/
theorem validate_configured (toml : Toml.Codec) (file : FileContent) :
    (s.configured toml file track).settings.validate = (Settings.load toml file).validate := by
  cases track <;> rfl

/-- A replay starts with settings that make sense. -/
theorem exists_start_configured (h : (Settings.load toml file).validate = .ok ()) :
    ∃ r, start (s.configured toml file track) = .ok r :=
  ⟨_, start_eq_ok.mpr ⟨by rw [validate_configured, h], rfl⟩⟩

/-- A replay rejects all others, and says why. -/
theorem start_configured_of_invalid {i : InvalidSettings}
    (h : (Settings.load toml file).validate = .error i) :
    start (s.configured toml file track) = .error i := by
  rw [start_eq_error, validate_configured, h]

theorem run_configured_of_invalid {i : InvalidSettings}
    (h : (Settings.load toml file).validate = .error i) :
    run (s.configured toml file track) = .error i.failure := by
  rw [run, start_configured_of_invalid track s h]

end Replay

/-- The command runs the scenario with the settings of the file. -/
theorem replayScenario_configured (toml : Toml.Codec) (file : FileContent) (track : List Variant)
    (pretty : Bool) (s : Scenario) :
    replayScenario track pretty { s with settings := Settings.load toml file } =
      match Replay.run (s.configured toml file (if track.isEmpty then none else some track)) with
      | .error f => f.output
      | .ok reports =>
        { code := 0, stdout := String.join (reports.map (Report.render pretty)) } := by
  unfold replayScenario
  cases track.isEmpty <;> rfl

/-- **Both commands give the same reason**, if a check finds that settings make no sense. -/
theorem Settings.same_reason {toml : Toml.Codec} {path : String} {file : FileContent}
    {reason : String}
    (h : loadStrict toml path file = .error (.configInvalid reason)) (track : List Variant)
    (pretty : Bool) (s : Scenario) :
    let message := (Failure.configInvalid reason).message
    checkConfig toml path file = { code := 2, stderr := s!"{path}: {message}\n" } ∧
    replayScenario track pretty { s with settings := load toml file } =
      { code := 1, stderr := s!"Error: {message}\n" } := by
  intro message
  constructor
  · rw [checkConfig, h]
    rfl
  · have hloads := loads toml path file
    rw [h] at hloads
    obtain ⟨text, i, -, -, hinvalid, hfailure⟩ := hloads.of_configInvalid
    rw [replayScenario_configured, Replay.run_configured_of_invalid _ s hinvalid, hfailure]
    rfl

/-- **A check foretells the replay.**  Take any state of a settings file, any scenario, and any
variants to track in place of those in the file.  The file does not change between the check and
the replay, and both read it with the same codec, whichever it is.

If the check accepts the file then the replay has the settings that the check has seen, and it
starts.  If the check finds that the settings make no sense then the replay has the settings that
the text of the file says, and it fails with the same failure and the same message, before anything
starts.  If the check fails in any other way then the replay has the defaults.  So it never runs
with a part of the settings of a file: it has all that the text says or nothing of it. -/
theorem Settings.check_foretells_replay (toml : Toml.Codec) (path : String) (file : FileContent)
    (scenario : Scenario) (track : Option (List Variant)) :
    let told := scenario.configured toml file track
    (∀ s, loadStrict toml path file = .ok s →
      load toml file = s ∧ ∃ r, Replay.start told = .ok r) ∧
    (∀ reason, loadStrict toml path file = .error (.configInvalid reason) →
      (∃ text, file.text? = some text ∧ parse toml text = .ok (load toml file)) ∧
      ∃ i : InvalidSettings, i.failure = .configInvalid reason ∧
        (load toml file).validate = .error i ∧ Replay.start told = .error i ∧
        Replay.run told = .error (.configInvalid reason)) ∧
    (∀ f, loadStrict toml path file = .error f → (∀ reason, f ≠ .configInvalid reason) →
      load toml file = {}) ∧
    (load toml file = {} ∨
      ∃ text, file.text? = some text ∧ parse toml text = .ok (load toml file)) := by
  intro told
  have hloads := loads toml path file
  refine ⟨?_, ?_, ?_, hloads.all_or_nothing⟩
  · intro s hstrict
    rw [hstrict] at hloads
    obtain ⟨hload, hvalid⟩ := hloads.of_ok
    exact ⟨hload, Replay.exists_start_configured track scenario hvalid⟩
  · intro reason hstrict
    rw [hstrict] at hloads
    obtain ⟨text, i, htext, hparse, hinvalid, hfailure⟩ := hloads.of_configInvalid
    refine ⟨⟨text, htext, hparse⟩, i, hfailure, hinvalid, ?_, ?_⟩
    · exact Replay.start_configured_of_invalid track scenario hinvalid
    · rw [← hfailure]
      exact Replay.run_configured_of_invalid track scenario hinvalid
  · intro f hstrict hother
    rw [hstrict] at hloads
    exact hloads.of_error hother

/-- A file with good settings is checked and a replay starts with them.  A file in which an interval
is zero is rejected by both, with the same message.  A file that is no text is rejected by a check,
and a replay has the defaults. -/
theorem Settings.check_foretells_replay_of_three :
    let good := FileContent.ofText "[devmon]\ntracking = [\"if\"]\n"
    let zero := FileContent.ofText "[devmon]\ncell_info_interval_short_ms = 0\n"
    let garbage := FileContent.bytes [0xff]
    let only (v : Variant) : Option (List Variant) := some [v]
    (load Toml.codec good).devmon.tracking = [.indicationFilter] ∧
    (∃ r, Replay.start (Replay.errand.configured Toml.codec good none) = .ok r) ∧
    (load Toml.codec zero).devmon.short = 0 ∧
    Replay.run (Replay.errand.configured Toml.codec zero (only .deviceState)) =
      .error (.configInvalid "cell info intervals must be non-zero") ∧
    load Toml.codec garbage = {} := by
  intro good zero garbage only
  have hgood : loadStrict Toml.codec "devmon.toml" good =
      .ok { devmon := { tracking := [.indicationFilter] } } := by
    decide +kernel
  have hzero : loadStrict Toml.codec "devmon.toml" zero =
      .error (.configInvalid "cell info intervals must be non-zero") := by
    decide +kernel
  have hgarbage : loadStrict Toml.codec "devmon.toml" garbage =
      .error (.io "the file cannot be read as text") := by
    decide +kernel
  obtain ⟨hstart, -, -, -⟩ :=
    Settings.check_foretells_replay Toml.codec "devmon.toml" good Replay.errand none
  obtain ⟨-, hreject, -, -⟩ :=
    Settings.check_foretells_replay Toml.codec "devmon.toml" zero Replay.errand (only .deviceState)
  obtain ⟨-, -, hdefaults, -⟩ :=
    Settings.check_foretells_replay Toml.codec "devmon.toml" garbage Replay.errand none
  obtain ⟨hload, hstarts⟩ := hstart _ hgood
  obtain ⟨-, i, -, hinvalid, -, hrun⟩ := hreject _ hzero
  refine ⟨by rw [hload], hstarts, by decide +kernel, hrun, hdefaults _ hgarbage ?_⟩
  intro reason h
  cases h

end ModemWatch
