import Epilogue.Config
import Epilogue.Process.Emission
import Epilogue.Run.Driver

/-!
# Epilogue — processes

A process runs an entry under the driver, on its own standard input and output, and ends with a
status. The environment decides what is logged and whether there is a report, and nothing else,
unless the setting of the log is torn: then reading it panics and no entry is run.

* `World.start` — the driver as the whole of a process;
* `World.startBare` — a program as the whole of a process, with neither driver nor log.
-/

namespace Epilogue

/-- What a process finds around it. -/
structure World where
  environment : Environment
  input : Bytes
  /-- the device behind standard output -/
  stdout : Sink
  files : FileSystem

/-- Standard output as a process finds it. -/
def World.output (w : World) : Output := .lined (.new w.stdout)

/-- What a process leaves behind. -/
structure Departure where
  status : Nat
  output : Output
  notices : List Notice
  files : FileSystem
  trace : List Event

namespace Departure

/-- The bytes that standard output has received in the end. -/
def stdout (d : Departure) : Bytes := d.output.finalContent

/-- The text on standard error. -/
def stderr (d : Departure) (time : String) (handler : PanicHandler) : String :=
  Notice.page time handler d.notices

/-- A process that only writes to standard output, whatever becomes of that. -/
def ofText (s : String) (w : World) : Departure :=
  ⟨0, ((w.output.writeAll (Utf8.encode s)).next Output.flush).state, [], w.files, []⟩

/-- A process that only writes to standard error and leaves with a status. -/
def ofComplaint (s : String) (status : Nat) (w : World) : Departure :=
  ⟨status, w.output, [.text s], w.files, []⟩

end Departure

/-- What the exit hook does to standard output: `err` is written and all is flushed, whatever
becomes of either. -/
def Output.takeLeave (o : Output) : Output := (o.writeAll (Utf8.encode errText)).state.flush.state

/-- The notice of an event: a record that goes to the log, or a panic. -/
def Event.notice? : Event → Option Notice
  | record r => some (.record r)
  | alarm p spawned => some (.alarm (.ofProgram p spawned))
  | note .. | captured _ => none

/-- What a thread tells that has no log. -/
def Thread.alarms (t : Thread) : List Notice :=
  (t.trace.filterMap Event.notice?).filter (Notice.isTold [])

/-- The status of a process that is left by a panic. -/
def unwoundExitCode : Nat := 101

namespace World

/-- The state in which a process starts its entry. -/
def initial (w : World) : Thread := { Thread.fresh with streams := some ⟨w.input, w.output⟩ }

/-- Runs an entry as the whole of a process. -/
def drive (w : World) (entry : Computation) : RunEnd × Thread :=
  w.initial.drive .process .literal entry

/-- The configuration of a process. -/
def config (w : World) : Config := .ofEnvironment w.environment

/-- The filter of the log, or the tear of its setting. -/
def filter (w : World) : Except Tear Filter := Filter.ofSetting w.config.logFilter

/-- The filter of the log, unless its setting is torn. -/
def filter? (w : World) : Option Filter := w.filter.toOption

/-- Where the log is not set, warnings and errors are told. -/
theorem filter_of_default {w : World} (h : w.config.logFilter = Config.defaultLogFilter) :
    w.filter = .ok .warnings := by
  rw [filter, h]
  rfl

theorem filter?_of_default {w : World} (h : w.config.logFilter = Config.defaultLogFilter) :
    w.filter? = some .warnings := by
  rw [filter?, filter_of_default h]
  rfl

/-- What a process tells first: a warning about the configuration. -/
def opening (w : World) : List Notice := (w.config.report.warning.map Notice.text).toList

/-- What a process tells on standard error, in order: its opening, the records and the panics of its
thread, and what is told when the run is over, as far as the filter admits them. -/
def told (w : World) (f : Filter) (t : Thread) (closing : List Notice) : List Notice :=
  (w.opening ++ t.trace.filterMap Event.notice? ++ closing).filter (Notice.isTold f)

/-- What is told of a result: nothing if all went well, else the fault of the output. -/
def resultNotices : RunResult → List Notice
  | .ok _ => []
  | .error f => [.record (.sinkFailed f)]

/-- Ends a process whose run took some nanoseconds. There is a report only if the run came to an end
of its own. -/
def conclude (w : World) (f : Filter) (nanoseconds : Nat) (how : RunEnd) (t : Thread) : Departure :=
  match how with
  | .finished r =>
    let emission := (Report.ofResult r nanoseconds).emitIfRequested w.config.report w.files
    ⟨r.exitCode, t.output, w.told f t (emission.notices ++ resultNotices r), emission.files,
      t.trace⟩
  | .unwound _ => ⟨unwoundExitCode, t.output, w.told f t [], w.files, t.trace⟩
  | .exited => ⟨trapExitCode, t.output.takeLeave, w.told f t [], w.files, t.trace⟩

/-- Runs an entry as a process, in which the run takes some nanoseconds. If the setting of the log
is torn the process panics before it runs anything. -/
def start (w : World) (entry : Computation) (nanoseconds : Nat) : Departure :=
  match w.filter with
  | .ok f =>
    let (how, t) := w.drive entry
    w.conclude f nanoseconds how t
  | .error tear =>
    ⟨unwoundExitCode, w.output, w.opening ++ [.alarm (.ofSetting tear)], w.files, []⟩

/-- Runs a program as a process without streams of its own; `output` is what became of standard
output before. -/
def startBare (w : World) (program : Computation) (output : Output) : Departure :=
  match program .fresh with
  | (.exited, t) => ⟨trapExitCode, output.takeLeave, t.alarms, w.files, t.trace⟩
  | (.unwound _, t) => ⟨unwoundExitCode, output, t.alarms, w.files, t.trace⟩
  | (.next, t) | (.returned _, t) => ⟨0, output, t.alarms, w.files, t.trace⟩

end World

end Epilogue
