import Epilogue.Stream.Fault
import Epilogue.Text.Quoted
import Epilogue.Trap.Hook
import Epilogue.Value

/-!
# Epilogue — log records

What the runtime says about itself while a program runs. A record has a level, the module it comes
from, a message and fields; `Record.line` is its one line in the log.
-/

namespace Epilogue

/-- How much a record matters, the most important first. -/
inductive Level where
  | error
  | warn
  | info
  | debug
  | trace
  deriving DecidableEq

namespace Level

/-- The name of a level. -/
def name : Level → String
  | error => "ERROR"
  | warn => "WARN"
  | info => "INFO"
  | debug => "DEBUG"
  | trace => "TRACE"

/-- The rank of a level: a filter that admits one lets through all of lower rank. -/
def rank : Level → Nat
  | error => 1
  | warn => 2
  | info => 3
  | debug => 4
  | trace => 5

end Level

/-- A record of the log. -/
inductive Record where
  | hookReplaced
  | raise
  | entryReturned (shape : Shape)
  | entryRaised (stashed : Option String)
  | entryPanicked (p : Payload)
  | invalidRendered
  | sinkFailed (f : Fault)
  | reportUnwritten (path : String)

/-- The value of a field: words that are shown as they are, or a text that is quoted. -/
inductive FieldValue where
  | plain (s : String)
  | quoted (s : String)

/-- A fault of the output, as it is reported. -/
def Fault.sinkMessage (f : Fault) : String := "output sink error: " ++ f.message

namespace Record

def level : Record → Level
  | hookReplaced | raise | entryReturned _ | entryRaised _ => .debug
  | invalidRendered | reportUnwritten _ => .warn
  | entryPanicked _ | sinkFailed _ => .error

/-- The module that a record comes from. -/
def target : Record → String
  | hookReplaced | raise => "fraud_runtime::trap"
  | entryReturned _ | entryRaised _ | entryPanicked _ | sinkFailed _ => "fraud_runtime::driver"
  | invalidRendered => "fraud_runtime::render"
  | reportUnwritten _ => "fraud_runtime::report"

def message : Record → String
  | hookReplaced => "trap: hook replaced"
  | raise => "trap: raise"
  | entryReturned _ => "driver: entry returned"
  | entryRaised _ => "driver: entry raised"
  | entryPanicked p => "driver: entry panicked: " ++ p.text
  | invalidRendered => "render: invalid value reached the output boundary"
  | sinkFailed f => "driver: " ++ f.sinkMessage
  | reportUnwritten path => "report: could not write report to " ++ path

/-- The fields of a record; a message that was not stashed is no field. -/
def fields : Record → List (String × FieldValue)
  | entryReturned s => [("shape", .plain s.name)]
  | entryRaised (some m) => [("stashed", .quoted m)]
  | _ => []

/-- The names of the fields that a record of its kind may have. The message counts as one of them,
and so does a field that is left out for want of a value. -/
def fieldNames : Record → List String
  | entryReturned _ => ["message", "shape"]
  | entryRaised _ => ["message", "stashed"]
  | _ => ["message"]

/-! ## Lines -/

/-- A character of a message in the log. Controls by which text can steer a terminal are written by
their codes. -/
def messageChar (c : Char) : List Char :=
  let n := c.toNat
  if n = 0x1B ∨ n = 0x07 ∨ n = 0x08 ∨ n = 0x0C ∨ n = 0x7F then
    ['\\', 'x', Nat.digitChar (n / 16), Nat.digitChar (n % 16)]
  else if 0x80 ≤ n ∧ n ≤ 0x9F then ['\\', 'u', '{'] ++ Text.hexDigits n ++ ['}']
  else [c]

/-- A field at the end of a line. -/
def fieldText (f : String × FieldValue) : String :=
  " " ++ f.1 ++ "=" ++
    match f.2 with
    | .plain s => s
    | .quoted s => Text.quote s

/-- A level, aligned to the right of five columns. -/
def levelColumn (l : Level) : String :=
  String.ofList (List.replicate (5 - l.name.length) ' ') ++ l.name

/-- The line of a record that was made at a time. -/
def line (r : Record) (time : String) : String :=
  time ++ " " ++ levelColumn r.level ++ " " ++ r.target ++ ": " ++
    String.ofList (r.message.toList.flatMap messageChar) ++
    String.join (r.fields.map fieldText) ++ "\n"

end Record

end Epilogue
