import Epilogue.Run.Outcome

/-!
# Epilogue — the report of a run

Facts about one run, for a reader or for a program.

* `Report.ofResult` — the report of a result and of the time that the run took;
* `Report.human` — the report in lines of text;
* `Report.json` — the report as one JSON object.
-/

namespace Epilogue

/-- Facts about one run. -/
structure Report where
  /-- nothing if the output failed before the run could finish -/
  outcome : Option Outcome
  exitCode : Nat
  sinkError : Option String
  wallClockMs : UInt64
  deriving DecidableEq

namespace Report

/-- The report of a run that took some nanoseconds. Whole milliseconds are kept, modulo `2 ^ 64`. -/
def ofResult (r : RunResult) (nanoseconds : Nat) : Report where
  outcome := r.toOption
  exitCode := r.exitCode
  sinkError :=
    match r with
    | .ok _ => none
    | .error f => some f.sinkMessage
  wallClockMs := UInt64.ofNat (nanoseconds / 1000000)

/-! ## For a reader -/

/-- The lines that tell the outcome. -/
def outcomeLines : Option Outcome → List String
  | some (.completed s) => ["Outcome:    completed (" ++ s.name ++ ")"]
  | some (.raised none) => ["Outcome:    raised"]
  | some (.raised (some m)) => ["Outcome:    raised", "Message:    " ++ m]
  | none => ["Outcome:    sink failure"]

/-- The line that tells what is wrong with the output. -/
def sinkLines : Option String → List String
  | some e => ["Sink error: " ++ e]
  | none => []

/-- All lines of the report. -/
def lines (r : Report) : List String :=
  ["=== FRAUD REPORT ==="] ++ outcomeLines r.outcome ++ sinkLines r.sinkError ++
    ["Exit code:  " ++ toString r.exitCode,
     "Wall clock: " ++ toString r.wallClockMs.toNat ++ " ms",
     "===================="]

/-- The report in lines of text. -/
def human (r : Report) : String := String.join (r.lines.map (· ++ "\n"))

/-! ## For a program -/

/-- The members of the report, those of the outcome first. -/
def members (r : Report) : List (String × String) :=
  (r.outcome.map Outcome.members).getD [] ++
    [("exit_code", toString r.exitCode),
     ("sink_error", Outcome.optionJson r.sinkError),
     ("wall_clock_ms", toString r.wallClockMs.toNat)]

/-- The report as one JSON object. -/
def json (r : Report) : String := Outcome.objectJson r.members

end Report

end Epilogue
