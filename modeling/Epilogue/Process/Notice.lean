import Epilogue.Log.Filter

/-!
# Epilogue — standard error

What a process tells on its standard error: records of its log, as far as the filter admits them,
panics, and texts. Neither panics nor texts are subject to the filter.

What is said of a panic is up to the handler that is in place where the process runs: the place in
the source, the thread and the wording come from there. So the page of a process is given for a
`PanicHandler`, as it is for a time.

* `Notice` — something that is told;
* `PanicHandler.silent`, `PanicHandler.standard` — the handler that says nothing, and the usual one;
* `Notice.page` — all that appears.
-/

namespace Epilogue

/-- A panic that the handler is told of. -/
inductive Alarm where
  /-- one of the program, or of a thread that it spawned -/
  | ofProgram (p : Payload) (spawned : Bool)
  /-- one of the reader of the log setting -/
  | ofSetting (t : Tear)
  deriving DecidableEq

namespace Alarm

/-- What a panic says. A payload that is no words is called by its kind. -/
def message : Alarm → String
  | ofProgram (.words s) _ => s
  | ofProgram .raised _ | ofProgram (.boxed _) _ | ofProgram (.number _) _ => "Box<dyn Any>"
  | ofSetting t => t.message

end Alarm

/-- What is told of a panic: something each time, and a hint after the first. -/
structure PanicHandler where
  words : Alarm → String
  hint : String

namespace PanicHandler

/-- Tells nothing. -/
def silent : PanicHandler := ⟨fun _ => "", ""⟩

/-- Tells the thread, the place and the message. -/
def standard (thread place : Alarm → String) : PanicHandler where
  words a := "\nthread " ++ thread a ++ " panicked at " ++ place a ++ ":\n" ++ a.message ++ "\n"
  hint := "note: run with `RUST_BACKTRACE=1` environment variable to display a backtrace\n"

end PanicHandler

/-- Something told on standard error. -/
inductive Notice where
  | record (r : Record)
  | alarm (a : Alarm)
  | text (s : String)

namespace Notice

/-- Whether a notice is told at all. -/
def isTold (f : Filter) : Notice → Bool
  | record r => f.admits r
  | alarm _ | text _ => true

variable (time : String) (handler : PanicHandler)

/-- Some notices as they appear, the time of records being given. The hint is `due` until a panic
has been told. -/
def shown : (due : Bool) → List Notice → List String
  | _, [] => []
  | due, record r :: ns => r.line time :: shown due ns
  | due, alarm a :: ns =>
    handler.words a :: (if due then [handler.hint] else []) ++ shown false ns
  | due, text s :: ns => s :: shown due ns

/-- All that appears on standard error. -/
def page (ns : List Notice) : String := String.join (shown time handler true ns)

end Notice

end Epilogue
