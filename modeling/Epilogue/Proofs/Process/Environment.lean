import Epilogue.Proofs.Log.Torn
import Epilogue.Proofs.Process.ExitHook
import Epilogue.Proofs.Text.RoundTrip

/-!
# Epilogue — processes in different environments

The environment says what is logged and whether there is a report. Whatever it says, a process whose
log can be set up runs its entry on the same thread, and what it leaves behind differs at most on
standard error and in the file of the report. Only a setting of the log that is torn does more: the
process is left by an unwinding before it runs anything.

* `Departure.SeenAlike` — the same output, status and trace;
* `World.runEnd?` — how the run of a process ends.

Main results:

* `environment_unseen` — one process in two environments.
-/

namespace Epilogue

/-- Two processes leave the same but for standard error and files. The output is the same sink in
the same state: it holds the same bytes and has been flushed at the same places. -/
structure Departure.SeenAlike (d d' : Departure) : Prop where
  output : d.output = d'.output
  status : d.status = d'.status
  trace : d.trace = d'.trace

/-! ## Files -/

/-- No file but that at `path?` is changed, and none is treated otherwise. -/
structure FileSystem.SameBut (path? : Option String) (fs fs' : FileSystem) : Prop where
  content : ∀ path, some path ≠ path? → fs'.content path = fs.content path
  admission : fs'.admission = fs.admission

theorem FileSystem.SameBut.refl (path? : Option String) (fs : FileSystem) : fs.SameBut path? fs :=
  ⟨fun _ _ => rfl, rfl⟩

theorem FileSystem.replace_sameBut {fs fs' : FileSystem} {path : String} {bs : Bytes}
    (h : fs.replace path bs = some fs') : fs.SameBut (some path) fs' := by
  unfold replace at h
  split at h
  · cases h
  · obtain rfl := Option.some.inj h
    exact ⟨fun p hp => if_neg fun hpath => hp (congrArg some hpath), rfl⟩

/-- The file that a setting asks for. -/
def ReportSetting.path? (setting : ReportSetting) : Option String :=
  match setting.request? with
  | some ⟨_, .file path⟩ => some path
  | some ⟨_, .stderr⟩ | none => none

/-- A report changes at most the file that was asked for. -/
theorem Report.emitIfRequested_sameBut (r : Report) (setting : ReportSetting) (fs : FileSystem) :
    fs.SameBut setting.path? (r.emitIfRequested setting fs).files := by
  unfold emitIfRequested ReportSetting.path?
  cases setting.request? with
  | none => exact .refl none fs
  | some request =>
    obtain ⟨format, destination⟩ := request
    cases destination with
    | stderr => exact .refl none fs
    | file path =>
      simp only [emit]
      cases hfs : fs.replace path (Utf8.encode (format.text r)) with
      | none => exact .refl (some path) fs
      | some fs' => exact FileSystem.replace_sameBut hfs

/-! ## Processes -/

namespace World

variable (w w' : World) (entry : Computation) (n n' : Nat)

/-- How the run of a process ends; there is no run if the log cannot be set up. -/
def runEnd? : Option RunEnd := w.filter?.map fun _ => (w.drive entry).1

variable {w} in
/-- Where the log is set up the entry is run. -/
theorem start_of_filter {f : Filter} (hf : w.filter? = some f) :
    w.start entry n = w.conclude f n (w.drive entry).1 (w.drive entry).2 ∧
      w.runEnd? entry = some (w.drive entry).1 := by
  rw [start, runEnd?, hf, filter_of_filter? hf]
  exact ⟨rfl, rfl⟩

/-- However the log and the report are set, the end of a process is seen alike. -/
theorem conclude_seenAlike (f f' : Filter) (how : RunEnd) (t : Thread) :
    (w.conclude f n how t).SeenAlike (w'.conclude f' n' how t) := by
  cases how with
  | finished r => exact ⟨rfl, rfl, rfl⟩
  | unwound p => exact ⟨rfl, rfl, rfl⟩
  | exited => exact ⟨rfl, rfl, rfl⟩

/-- The end of a process touches no file but the one of the report. -/
theorem conclude_sameBut (f : Filter) (how : RunEnd) (t : Thread) :
    w.files.SameBut w.config.report.path? (w.conclude f n how t).files := by
  cases how with
  | finished r => exact Report.emitIfRequested_sameBut _ _ _
  | unwound p => exact .refl _ _
  | exited => exact .refl _ _

/-- And neither does the whole of it. -/
theorem start_sameBut : w.files.SameBut w.config.report.path? (w.start entry n).files := by
  cases hf : w.filter? with
  | none =>
    obtain ⟨tear, -, hstart⟩ := start_torn hf entry n
    rw [hstart]
    exact .refl _ _
  | some f =>
    rw [(start_of_filter entry n hf).1]
    exact w.conclude_sameBut n f _ _

variable {w w'}

/-- The entry begins on the same thread in every environment. -/
theorem drive_congr (hin : w.input = w'.input) (hout : w.stdout = w'.stdout) :
    w.drive entry = w'.drive entry := by
  simp only [drive, initial, World.output, hin, hout]

/-- Either both processes run the entry, or neither does. -/
theorem start_seenAlike (hin : w.input = w'.input) (hout : w.stdout = w'.stdout)
    (hlog : w.filter?.isSome = w'.filter?.isSome) :
    (w.start entry n).SeenAlike (w'.start entry n') ∧ w.runEnd? entry = w'.runEnd? entry := by
  match hf : w.filter?, hf' : w'.filter? with
  | some f, some f' =>
    obtain ⟨hstart, hend⟩ := start_of_filter entry n hf
    obtain ⟨hstart', hend'⟩ := start_of_filter entry n' hf'
    rw [hstart, hend, hstart', hend', drive_congr entry hin hout]
    exact ⟨conclude_seenAlike w w' n n' f f' _ _, rfl⟩
  | none, none =>
    -- neither process runs anything
    have houtput : w.output = w'.output := by simp only [World.output, hout]
    obtain ⟨tear, -, hstart⟩ := start_torn hf entry n
    obtain ⟨tear', -, hstart'⟩ := start_torn hf' entry n'
    rw [hstart, hstart', runEnd?, runEnd?, hf, hf', houtput]
    exact ⟨⟨rfl, rfl, rfl⟩, rfl⟩
  | some _, none | none, some _ => simp [hf, hf'] at hlog

/-! ## Torn settings -/

/-- Only a setting that is there, is text and is not blank can be torn. -/
theorem setting_of_torn (h : w.filter? = none) :
    ∃ text tear, w.environment.log.bind Utf8.decode? = some text ∧
      Filter.ofSetting text = .error tear := by
  obtain ⟨tear, htear⟩ := exists_tear h
  have hdefault : Filter.ofSetting Config.defaultLogFilter ≠ .error tear := by
    have hd : Filter.ofSetting Config.defaultLogFilter = .ok Filter.warnings := by rfl
    rw [hd]
    nofun
  have hfilter : Filter.ofSetting (Config.logFilterOf (w.environment.log.bind Utf8.decode?)) =
      .error tear := htear
  cases hset : w.environment.log.bind Utf8.decode? with
  | none =>
    -- nothing is set, or it is no text
    rw [hset] at hfilter
    exact absurd hfilter hdefault
  | some text =>
    rw [hset] at hfilter
    refine ⟨text, tear, rfl, ?_⟩
    unfold Config.logFilterOf at hfilter
    -- a blank setting counts for none
    split at hfilter
    · split at hfilter
      · exact absurd hfilter hdefault
      · next hs _ => rwa [← Option.some.inj hs] at hfilter
    · next hs => cases hs

/-- The configuration where nothing is set but the report. -/
theorem config_of_report {text : String} (hlog : w.environment.log = none)
    (hreport : w.environment.report = some (Utf8.encode text)) :
    w.config = ⟨Config.defaultLogFilter, ReportSetting.parse text⟩ := by
  rw [config, Config.ofEnvironment, hlog, hreport, Option.bind_some, Utf8.decode?_encode]
  rfl

end World

/-! ## Main results -/

/--
**The environment is not seen.** A process leaves the same output, with the same bytes and flushes,
the same status and the same trace in any two environments and on any files, and its run ends in the
same way, if the log can be set up in both or in neither. No file is changed but that of the report.

The log cannot be set up only where its setting is torn. Such a setting has a part with a blank at
the front and with a character of more than one byte, and then the process writes nothing and is
left by an unwinding.
-/
theorem environment_unseen {w w' : World} (hin : w.input = w'.input) (hout : w.stdout = w'.stdout)
    (hlog : w.filter?.isSome = w'.filter?.isSome) (entry : Computation) (n n' : Nat) :
    let d := w.start entry n
    let d' := w'.start entry n'
    (d.SeenAlike d' ∧ w.runEnd? entry = w'.runEnd? entry) ∧
    w.files.SameBut w.config.report.path? d.files ∧
    (w.filter? = none →
      (∃ text, w.environment.log.bind Utf8.decode? = some text ∧
        ∃ part ∈ text.toList.splitOn ',',
          (∃ c ∈ part.head?, Text.isBlankChar c = true) ∧ ∃ c ∈ part, 1 < c.utf8Size) ∧
      d.output = w.output ∧ d.status = unwoundExitCode ∧ d.trace = []) := by
  intro d d'
  refine ⟨World.start_seenAlike entry n n' hin hout hlog, w.start_sameBut entry n, ?_⟩
  intro hf
  obtain ⟨text, tear, hset, htorn⟩ := World.setting_of_torn hf
  obtain ⟨_, -, hstart⟩ := World.start_torn hf entry n
  have hd : d = ⟨unwoundExitCode, w.output, _, w.files, []⟩ := hstart
  rw [hd]
  exact ⟨⟨text, hset, Filter.torn_part htorn⟩, rfl, rfl, rfl⟩

/-- An entry that writes a line and returns a number. -/
def twoLines : Block := .act (.write (Utf8.encode "a\n")) (.act (.return (.int 7)) .done)

/-- With nothing set, and with a full log and a report in a file. -/
theorem twoLines_environment_unseen :
    let quiet : World := ⟨⟨none, none⟩, [], .unlimited, .vacant⟩
    let asked : World := ⟨⟨some (Utf8.encode "debug"), some (Utf8.encode "json:/tmp/r")⟩, [],
      .unlimited, .vacant⟩
    asked.config.report.path? = some "/tmp/r" ∧
    (quiet.start (twoLines.exec .process) 0).SeenAlike
      (asked.start (twoLines.exec .process) 9) := by
  intro quiet asked
  have hquiet : quiet.config = .default := rfl
  -- settings are bytes, so they are decoded before they are read
  have hasked : asked.config = ⟨"debug", .request ⟨.json, .file "/tmp/r"⟩⟩ := by
    show Config.ofEnvironment ⟨some (Utf8.encode "debug"), some (Utf8.encode "json:/tmp/r")⟩ = _
    simp only [Config.ofEnvironment, Option.bind_some, Utf8.decode?_encode]
    rfl
  have hlog : quiet.filter?.isSome = asked.filter?.isSome := by
    rw [World.filter?, World.filter?, World.filter, World.filter, hquiet, hasked]
    rfl
  have hin : quiet.input = asked.input := rfl
  have hout : quiet.stdout = asked.stdout := rfl
  refine ⟨?_, (environment_unseen hin hout hlog _ 0 9).1.1⟩
  rw [hasked]
  rfl

/-- Two environments of which one tears the setting of the log: there the entry does not run, while
in the other it returns a value. -/
theorem torn_log_silences_entry :
    ¬ ∀ (w w' : World) (entry : Computation) (n n' : Nat), w.input = w'.input →
      w.stdout = w'.stdout → (w.start entry n).stdout = (w'.start entry n').stdout ∧
        (w.start entry n).status = (w'.start entry n').status := by
  intro h
  let quiet : World := ⟨⟨none, none⟩, [], .unlimited, .vacant⟩
  let torn : World := ⟨⟨some (Utf8.encode " é=debug"), none⟩, [], .unlimited, .vacant⟩
  let entry := (Block.act (.return (.int 7)) .done).exec .process
  have hquiet : quiet.filter? = some Filter.warnings := World.filter?_of_default rfl
  have hlog : torn.config.logFilter = " é=debug" := by
    show Config.logFilterOf (Utf8.decode? (Utf8.encode " é=debug")) = _
    rw [Utf8.decode?_encode]
    rfl
  have htorn : torn.filter? = none := by
    rw [World.filter?, World.filter, hlog]
    rfl
  -- the entry returns, and the status says so where it has run
  have he : entry quiet.begun = (.returned (.int 7), (entry quiet.begun).2) := rfl
  have hbegun := World.begun_holding (w := quiet) Behaviour.takesAll_unlimited
  have hreturned := (World.start_seen hquiet he (hbegun.congr rfl) 0).2
  have hsame := (h quiet torn entry 0 0 rfl rfl).2
  obtain ⟨_, -, hstart⟩ := World.start_torn htorn entry 0
  rw [hreturned, hstart] at hsame
  have hstatus : 0 = unwoundExitCode := hsame
  exact absurd hstatus (by decide)

end Epilogue
