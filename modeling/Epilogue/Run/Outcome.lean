import Epilogue.Json.Quoted
import Epilogue.Log.Record

/-!
# Epilogue — how a run ends

A run of an entry ends with an outcome, or with the fault of an output that did not take what the
driver had to write. It can also be left by an unwinding that it does not stop, and it can be cut
off by the end of the process.
-/

namespace Epilogue

/-- The outcome of a run. -/
inductive Outcome where
  /-- the entry returned a value of this shape, and it was rendered -/
  | completed (shape : Shape)
  /-- the entry raised; the message is what was stashed -/
  | raised (message : Option String)
  deriving DecidableEq

/-- The exit status after a raise. -/
def trapExitCode : Nat := 1

/-- The exit status when the output itself fails. -/
def sinkFailureExitCode : Nat := 2

/-- What a program that raises leaves on its output. -/
def errText : String := "err\n"

/-- How a caught raise is described. -/
def raisedText : String := "program raised an error"

namespace Outcome

/-- The exit status of an outcome. -/
def exitCode : Outcome → Nat
  | completed _ => 0
  | raised _ => trapExitCode

/-- A text, or `null`. -/
def optionJson : Option String → String
  | some s => Json.quote s
  | none => "null"

/-- The members of an outcome in JSON, each with its key. -/
def members : Outcome → List (String × String)
  | completed s => [("outcome", Json.quote "completed"), ("shape", Json.quote s.tag)]
  | raised m => [("outcome", Json.quote "raised"), ("message", optionJson m)]

/-- A JSON object, given its members. -/
def objectJson (ms : List (String × String)) : String :=
  "\x7b" ++ ",".intercalate (ms.map fun m => Json.quote m.1 ++ ":" ++ m.2) ++ "\x7d"

/-- An outcome as JSON. -/
def toJson (o : Outcome) : String := objectJson o.members

end Outcome

/-- The result of a run that comes to an end. -/
abbrev RunResult := Except Fault Outcome

/-- The exit status of a result. -/
def RunResult.exitCode : RunResult → Nat
  | .ok o => o.exitCode
  | .error _ => sinkFailureExitCode

/-- Every way in which a run can be left. -/
inductive RunEnd where
  | finished (r : RunResult)
  /-- an unwinding passes through -/
  | unwound (p : Payload)
  /-- the process ends inside the run -/
  | exited

end Epilogue
