import Epilogue.CommandLine
import Std.Time

/-!
# Epilogue — the program

The outermost layer. What a process does is computed beforehand, on the assumption that standard
output and the file of the report take what they are given. Then it is carried out; where the
assumption fails the rest is computed anew for the answer that was met.
-/

namespace Epilogue.Main

/-- The time, as records show it. -/
def now : IO String := do
  let t ← Std.Time.Timestamp.now
  return (Std.Time.DateTime.ofTimestamp t .UTC).format "uuuu-MM-dd'T'HH:mm:ss.SSSSSS'Z'"

/-- The fault that a failed write to standard output amounts to. -/
def faultOf (e : IO.Error) : FinalFault :=
  match e with
  | .resourceExhausted .. => .deviceFull
  | e => ⟨⟨.other, some (toString e)⟩, nofun⟩

/-- Writes to standard output. -/
def send (bs : Bytes) : IO Behaviour := do
  let stdout ← IO.getStdout
  try
    stdout.write ⟨bs.toArray⟩
    stdout.flush
    return .unlimited
  catch e => return .limited (some (0, .fails (faultOf e))) none none

/-- Writes to a file. -/
def deliver (path : String) (bs : Bytes) : IO Admission := do
  let opened ← (IO.FS.Handle.mk path .write).toBaseIO
  match opened with
  | .error _ => return .refuses
  | .ok h =>
    try h.write ⟨bs.toArray⟩ catch _ => pure ()
    return .takes none

/-- The handler of panics: it tells the process, and that the place is in this program. -/
def panicHandler : IO PanicHandler := do
  let own ← IO.FS.realPath "/proc/self"
  let thread := "'main' (" ++ own.fileName.getD "0" ++ ")"
  return .standard (fun _ => thread) fun _ => CommandLine.programName

/-- The settings of the process. -/
def environment : IO Environment := do
  let setting (name : String) : IO (Option Bytes) := return (← IO.getEnv name).map Utf8.encode
  return ⟨← setting "FRAUD_LOG", ← setting "FRAUD_REPORT"⟩

/-- The file to which a report goes, if one does. -/
def reportPath? (c : Config) : Option String :=
  match c.report with
  | .request ⟨_, .file path⟩ => some path
  | _ => none

end Epilogue.Main

open Epilogue in
/-- Runs the program. -/
def main (args : List String) : IO UInt32 := do
  let started ← IO.monoNanosNow
  let time ← Main.now
  let environment ← Main.environment
  let depart (stdout : Behaviour) (admission : Admission) (nanoseconds : Nat) : Departure :=
    CommandLine.execute (args.map Utf8.encode)
      ⟨environment, [], .new stdout 0, ⟨fun _ => none, fun _ => admission⟩⟩ nanoseconds
  let stdout ← Main.send (depart .unlimited (.takes none) 0).stdout
  let nanoseconds := (← IO.monoNanosNow) - started
  let path? := Main.reportPath? (.ofEnvironment environment)
  let admission ←
    match path?, path?.bind (depart stdout (.takes none) nanoseconds).files.content with
    | some path, some report => Main.deliver path report
    | _, _ => pure (.takes none)
  let departure := depart stdout admission nanoseconds
  (← IO.getStderr).putStr (departure.stderr time (← Main.panicHandler))
  return departure.status.toUInt32
