import Epilogue.Trace

/-!
# Epilogue — the trap

A thread of control has a slot for a hook and a stash for a message. `raise` calls the hook.
`catching` installs the unwinding hook for the extent of a body, so that a raise inside it can be
observed, and puts the displaced hook back on every way out.

* `Thread.replaceHook`, `Thread.setHook` — flat replacement, logged, and the silent one of guards;
* `Thread.raise`, `Thread.raiseWith` — the one way to fail;
* `Thread.catching` — the trap;
* `Thread.sight` — what a program can go by when it decides how to go on.
-/

namespace Epilogue

/-- The state of a thread of control. -/
structure Thread where
  hook : Hook
  stash : Option String
  /-- the streams of the innermost entry, if one is running -/
  streams : Option Streams
  trace : List Event
  /-- what the steps of the program have come to so far, as far as the program is told -/
  told : List Happening

/-- What a program can see of its thread when it decides how to go on. -/
structure Sight where
  hook : Hook
  hasMessage : Bool
  told : List Happening

namespace Thread

/-- A thread that has just started. -/
def fresh : Thread := ⟨.exit, none, none, [], []⟩

/-- What the program sees of its thread. -/
def sight (t : Thread) : Sight := ⟨t.hook, t.stash.isSome, t.told⟩

/-! ## Trace -/

/-- Adds an event. -/
def emit (t : Thread) (e : Event) : Thread := { t with trace := t.trace ++ [e] }

/-- Adds a log record. -/
def log (t : Thread) (r : Record) : Thread := t.emit (.record r)

/-- Adds a panic. -/
def alarm (t : Thread) (p : Payload) : Thread := t.emit (.alarm p false)

/-- Adds a note about what has just happened, and tells the program. -/
def note (t : Thread) (what : Happening) : Thread :=
  { t.emit (.note what t.hook t.stash.isSome) with told := t.told ++ [what] }

/-- Adds the events of a spawned thread. -/
def join (t : Thread) (events : List Event) : Thread :=
  { t with trace := t.trace ++ events.map Event.capture }

/-! ## Stash -/

/-- Stashes a message in the place of any other. -/
def setMessage (t : Thread) (m : String) : Thread := { t with stash := some m }

/-- Empties the stash. -/
def clearMessage (t : Thread) : Thread := { t with stash := none }

/-! ## Slot -/

/-- Puts a hook into the slot. -/
def setHook (t : Thread) (h : Hook) : Thread := { t with hook := h }

/-- Puts a hook into the slot and logs it. -/
def replaceHook (t : Thread) (h : Hook) : Thread := (t.log .hookReplaced).setHook h

/-! ## What an operation leaves alone -/

section Fields

variable (t : Thread) (e : Event) (r : Record) (what : Happening) (m : String) (h : Hook)

@[simp] theorem emit_hook : (t.emit e).hook = t.hook := rfl
@[simp] theorem emit_stash : (t.emit e).stash = t.stash := rfl
@[simp] theorem emit_streams : (t.emit e).streams = t.streams := rfl
@[simp] theorem emit_told : (t.emit e).told = t.told := rfl

@[simp] theorem log_hook : (t.log r).hook = t.hook := rfl
@[simp] theorem log_stash : (t.log r).stash = t.stash := rfl
@[simp] theorem log_streams : (t.log r).streams = t.streams := rfl
@[simp] theorem log_told : (t.log r).told = t.told := rfl

@[simp] theorem alarm_hook (p : Payload) : (t.alarm p).hook = t.hook := rfl
@[simp] theorem alarm_stash (p : Payload) : (t.alarm p).stash = t.stash := rfl
@[simp] theorem alarm_streams (p : Payload) : (t.alarm p).streams = t.streams := rfl
@[simp] theorem alarm_told (p : Payload) : (t.alarm p).told = t.told := rfl

@[simp] theorem note_hook : (t.note what).hook = t.hook := rfl
@[simp] theorem note_stash : (t.note what).stash = t.stash := rfl
@[simp] theorem note_streams : (t.note what).streams = t.streams := rfl
@[simp] theorem note_told : (t.note what).told = t.told ++ [what] := rfl

@[simp] theorem join_hook (es : List Event) : (t.join es).hook = t.hook := rfl
@[simp] theorem join_streams (es : List Event) : (t.join es).streams = t.streams := rfl

@[simp] theorem setMessage_hook : (t.setMessage m).hook = t.hook := rfl
@[simp] theorem setMessage_stash : (t.setMessage m).stash = some m := rfl
@[simp] theorem setMessage_streams : (t.setMessage m).streams = t.streams := rfl
@[simp] theorem setMessage_told : (t.setMessage m).told = t.told := rfl

@[simp] theorem clearMessage_hook : t.clearMessage.hook = t.hook := rfl
@[simp] theorem clearMessage_stash : t.clearMessage.stash = none := rfl
@[simp] theorem clearMessage_streams : t.clearMessage.streams = t.streams := rfl
@[simp] theorem clearMessage_told : t.clearMessage.told = t.told := rfl

@[simp] theorem setHook_hook : (t.setHook h).hook = h := rfl
@[simp] theorem setHook_stash : (t.setHook h).stash = t.stash := rfl
@[simp] theorem setHook_streams : (t.setHook h).streams = t.streams := rfl
@[simp] theorem setHook_told : (t.setHook h).told = t.told := rfl

@[simp] theorem replaceHook_hook : (t.replaceHook h).hook = h := rfl
@[simp] theorem replaceHook_stash : (t.replaceHook h).stash = t.stash := rfl
@[simp] theorem replaceHook_streams : (t.replaceHook h).streams = t.streams := rfl
@[simp] theorem replaceHook_told : (t.replaceHook h).told = t.told := rfl

end Fields

end Thread

/-! ## Raising -/

/-- Calls a hook. -/
def Hook.invoke : Hook → Thread → Ending × Thread
  | exit, t => (.exited, t)
  | unwind, t => (.unwound .raised, t)
  | panics p, t => (.unwound p, t.alarm p)
  | stashes m next, t => next.invoke (t.setMessage m)
  | replaces next m, t => next.invoke (((t.replaceHook next).setMessage m).log .raise)
  | recovers m p, t =>
    -- the inner raise is caught, and the hook that was displaced is back
    (.unwound p, ((((t.replaceHook .unwind).setMessage m).log .raise).setHook t.hook).alarm p)

namespace Thread

/-- Hands control to the hook. -/
def raise (t : Thread) : Ending × Thread := t.hook.invoke (t.log .raise)

/-- Stashes a message and raises. -/
def raiseWith (t : Thread) (m : String) : Ending × Thread := (t.setMessage m).raise

/-- Runs a body under the unwinding hook and puts the displaced hook back, unless the process ends
inside. -/
def catching (t : Thread) (body : Thread → Ending × Thread) : Ending × Thread :=
  match body (t.replaceHook .unwind) with
  | (.exited, t') => (.exited, t')
  | (e, t') => (e, t'.setHook t.hook)

end Thread

/-- Who runs a thread: a process of its own, or a probe that only watches and must not end. -/
inductive Host where
  | process
  | probe
  deriving DecidableEq

namespace Thread

/-- Raises, with a message if one is given. Under a probe a raise that would end the process is not
made: it is noted, and the program goes on. -/
def raiseUnder (host : Host) (message : Option String) (t : Thread) : Ending × Thread :=
  if host = .probe ∧ t.hook = .exit then (.next, t.note .wouldExit)
  else match message with
    | some m => t.raiseWith m
    | none => t.raise

end Thread

end Epilogue
