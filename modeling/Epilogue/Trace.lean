import Epilogue.Run.Outcome
import Epilogue.Stream.Streams

/-!
# Epilogue — traces

The observable history of a thread: a note for each step of its program, with the hook that was
current and whether a message was stashed at that moment, and between them the log records and the
panics, each where it happens. The unwinding of a raise is no panic.
-/

namespace Epilogue

/-- How a body ends. -/
inductive Ending where
  /-- it runs off its end -/
  | next
  | returned (v : Value)
  /-- it is left by an unwinding -/
  | unwound (p : Payload)
  /-- the exit hook was called, so nothing more of the program runs -/
  | exited
  deriving DecidableEq

/-- What a note is about. -/
inductive Happening where
  | looked
  | messageSet
  | messageCleared
  | messageTaken (message : Option String)
  | raising
  /-- a raise that was not made because it would have ended the process -/
  | wouldExit
  | panicking
  | unwrapping
  | unwrapped (v : Value)
  | hookReplaced (old : Hook)
  | guardMade
  | guardDropped (found : Bool)
  | scopeLeft
  | trapLeft (value : Option Value)
  | trapCaught
  | trapPassed
  | panicContained (p : Payload)
  | containLeft (value : Option Value)
  | threadJoined (panic : Option Payload)
  | rendered (text : String)
  | renderFailed (f : Fault)
  | wrote (fault : Option Fault)
  | flushed (fault : Option Fault)
  | hasRead (bytes : Bytes)
  | lineRead (bytes : Bytes)
  | byteReturned (bytes : Bytes)
  | returning
  /-- the end of a run, with a view of the streams that it had to itself -/
  | runLeft (own : Option StreamsView) (how : RunEnd)
  | ended (how : Ending)

/-- An entry of a trace. -/
inductive Event where
  | note (what : Happening) (hook : Hook) (hasMessage : Bool)
  | record (r : Record)
  /-- a record made by a thread that was spawned, which keeps its log to itself -/
  | captured (r : Record)
  /-- a panic, on the thread itself or on one that was spawned -/
  | alarm (p : Payload) (spawned : Bool)

/-- An event of a spawned thread, as it enters the trace of the thread that joins it. -/
def Event.capture : Event → Event
  | record r => captured r
  | alarm p _ => alarm p true
  | e => e

end Epilogue
