/-!
# Epilogue — hooks

A *raise* hands control to the hook in the slot, which must leave the current path of execution for
good: it ends the process or it unwinds with a payload. The first two hooks belong to the trap
itself; the others are ways in which a host's own hook can leave.

They are not all of them. A hook that looks at the stash, takes or clears a message, installs a
guard, makes a run, writes, or ends the process with a status of its own has no shape here, and
neither has one that goes by what it finds. What is said of hooks is said of the six shapes.
-/

namespace Epilogue

/-- What an unwinding carries. Only `raised` is recognised by the trap; every other payload is
foreign to it. -/
inductive Payload where
  /-- a raise on its way to the trap -/
  | raised
  | words (text : String)
  | boxed (text : String)
  | number (n : UInt8)
  deriving DecidableEq

namespace Payload

/-- The text of a payload; only words are readable. -/
def text : Payload → String
  | words s => s
  | raised | boxed _ | number _ => "unknown panic"

/-- Whether the payload is a raise. -/
def isRaised (p : Payload) : Bool := p == raised

end Payload

/-- What the slot can hold. -/
inductive Hook where
  /-- write `err` and end the process: the hook of a fresh thread -/
  | exit
  /-- unwind to the nearest trap: the hook that a trap installs -/
  | unwind
  /-- unwind with a payload -/
  | panics (p : Payload)
  /-- stash a message, then go on as another hook -/
  | stashes (message : String) (next : Hook)
  /-- put another hook into the slot, then raise with a message -/
  | replaces (next : Hook) (message : String)
  /-- raise with a message inside a trap of its own, then unwind with a payload -/
  | recovers (message : String) (p : Payload)
  deriving DecidableEq

end Epilogue
