import Epilogue.CommandLine.Completion
import Epilogue.CommandLine.Request
import Epilogue.Process
import Epilogue.Program
import Epilogue.Value.Json

/-!
# Epilogue — the command line

A host that stands in for a program: the command line says what the entry is to do, and the entry is
run as a process.

* `Command.execute` — a process that does what a command says;
* `CommandLine.execute` — a process, given its command line.
-/

namespace Epilogue.CommandLine

/-- The status of a command line that cannot be used. -/
def usageExitCode : Nat := 2

namespace RaiseOptions

/-- A block that raises. -/
def raising (o : RaiseOptions) : Block := .act (.raise o.message) .done

/-- The entry that raises: it may write a text and put the exit hook back before. -/
def entry (o : RaiseOptions) : Block :=
  let raising := if o.exitHook then .act (.replaceHook .exit) o.raising else o.raising
  match o.text with
  | some s => .act (.write (Utf8.encode s)) raising
  | none => raising

/-- Writes the text without a driver, whatever becomes of it. -/
def writeText (o : RaiseOptions) (output : Output) : Output :=
  match o.text with
  | some s => (output.writeAll (Utf8.encode s)).state.flush.state
  | none => output

end RaiseOptions

/-- Writes a completion script. It is of no use in part, so a fault of standard output is
a panic. -/
def writeScript (s : Shell) (w : World) : Departure :=
  match w.output.writeAll (Utf8.encode s.script) with
  | ⟨o, none⟩ => ⟨0, o, [], w.files, []⟩
  | ⟨o, some f⟩ =>
    let words := "failed to write completion file: " ++ f.message
    ⟨unwoundExitCode, o, [.alarm (.ofProgram (.words words) false)], w.files, []⟩

/-- Executes a command as a process, in which a run takes some nanoseconds. -/
def Command.execute (c : Command) (w : World) (nanoseconds : Nat) : Departure :=
  match c with
  | value json =>
    match Value.ofJson? json with
    | .ok v => w.start ((Block.act (.return v) .done).exec .process) nanoseconds
    | .error r =>
      .ofComplaint ("Error: invalid value '" ++ json ++ "': " ++ r.message ++ "\n") usageExitCode w
  | raise o =>
    if o.noDriver then w.startBare (o.raising.exec .process) (o.writeText w.output)
    else w.start (o.entry.exec .process) nanoseconds
  | completions s => writeScript s w

/-- Does what is asked for. -/
def Request.execute (r : Request) (w : World) (nanoseconds : Nat) : Departure :=
  match r with
  | run c => c.execute w nanoseconds
  | help t => .ofText t.text w
  | version => .ofText versionText w
  | orient => .ofComplaint Topic.program.text usageExitCode w
  | refuse e => .ofComplaint ("error: " ++ e.message ++ "\n") usageExitCode w

/-- Runs the program with a command line. -/
def execute (args : List Bytes) (w : World) (nanoseconds : Nat) : Departure :=
  (Request.read args).execute w nanoseconds

end Epilogue.CommandLine
