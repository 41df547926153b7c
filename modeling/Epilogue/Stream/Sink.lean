import Epilogue.Stream.Fault
import Epilogue.Text.Utf8

/-!
# Epilogue — sinks

A sink takes bytes. One call may take fewer bytes than it is offered, be interrupted, or fail, and a
flush may fail; what a sink does is given by its `Behaviour`, which may depend on all that went
before. Writing *all* of some bytes repeats the call for what is left, and again after an
interruption, until nothing is left or a call fails.

An interruption leaves no trace but that the call is made again. So a sink counts those that are
before it, and `Behaviour` speaks of the calls that are not interrupted; no fault of its calls is an
interruption.

* `Sink.writeAll`, `Sink.flush` — the two operations of a program on its output;
* `Sink.unlimited` — a sink that takes everything, `Behaviour.limited` one with faults set in
  advance.
-/

namespace Epilogue

/-- What a sink answers to an offer of bytes. -/
inductive Answer where
  /-- takes that many of the offered bytes, at most all of them -/
  | takes (n : Nat)
  | fails (f : FinalFault)

/-- How a sink answers. Calls are counted from one. -/
structure Behaviour where
  /-- the answer to the given call, when `held` bytes are in and `offered` more are offered -/
  onWrite : (call held offered : Nat) → Answer
  /-- the fault of the given flush, if it fails -/
  onFlush : (call : Nat) → Option Fault

namespace Behaviour

/-- Takes everything. -/
def unlimited : Behaviour where
  onWrite _ _ offered := .takes offered
  onFlush _ := none

/-- What happens to bytes for which there is no room. -/
inductive AtLimit where
  /-- the call succeeds and takes nothing -/
  | stalls
  | fails (f : FinalFault)

/-- Takes at most `chunk` bytes a call and `limit` bytes in all, and fails the flush whose number is
given. -/
def limited (limit : Option (Nat × AtLimit)) (chunk : Option Nat)
    (flushFault : Option (Nat × Fault)) :
    Behaviour where
  onWrite _ held offered :=
    let size := (chunk.map (min offered)).getD offered
    match limit with
    | none => .takes size
    | some (room, atLimit) =>
      if held < room then .takes (min size (room - held))
      else match atLimit with
        | .stalls => .takes 0
        | .fails f => .fails f
  onFlush call :=
    match flushFault with
    | some (k, f) => if call = k then some f else none
    | none => none

end Behaviour

/-- A sink: its behaviour, and what has happened to it. -/
structure Sink where
  behaviour : Behaviour
  /-- the number of write calls, from now on, that are interrupted -/
  interruptions : Nat
  /-- the bytes taken so far -/
  content : Bytes
  /-- how many bytes had been taken at each flush that succeeded -/
  flushes : List Nat
  writeCalls : Nat
  flushCalls : Nat

/-- Why bytes are left that were to be written. -/
inductive Stop where
  /-- a call took nothing -/
  | stalled
  | failed (f : FinalFault)

/-- The fault that a stop amounts to. -/
def Stop.fault (whenStalled : Fault) : Stop → Fault
  | stalled => whenStalled
  | failed f => f.fault

namespace Sink

/-- An untouched sink. -/
def new (behaviour : Behaviour) (interruptions : Nat) : Sink where
  behaviour := behaviour
  interruptions := interruptions
  content := []
  flushes := []
  writeCalls := 0
  flushCalls := 0

/-- An untouched sink that takes everything. -/
def unlimited : Sink := new .unlimited 0

/-- The sink after a call that took some bytes. -/
def take (s : Sink) (bs : Bytes) : Sink :=
  { s with content := s.content ++ bs, writeCalls := s.writeCalls + 1 }

/-- Offers bytes until all are taken or a call stops it: the sink, the bytes left, and the stop. An
interrupted call is made again. -/
def send (s : Sink) (bs : Bytes) : Sink × Bytes × Option Stop :=
  match bs with
  | [] => (s, [], none)
  | b :: rest =>
    if 0 < s.interruptions then send { s with interruptions := s.interruptions - 1 } (b :: rest)
    else
      match s.behaviour.onWrite (s.writeCalls + 1) s.content.length (rest.length + 1) with
      | .fails f => (s.take [], b :: rest, some (.failed f))
      | .takes 0 => (s.take [], b :: rest, some .stalled)
      | .takes (n + 1) => send (s.take (b :: rest.take n)) (rest.drop n)
  termination_by s.interruptions + bs.length
  decreasing_by
    · simp only [List.length_cons]
      omega
    · simp only [take, List.length_cons, List.length_drop]
      omega

/-- Writes all the bytes. -/
def writeAll (s : Sink) (bs : Bytes) : Attempt Sink :=
  let (s, _, stop) := s.send bs
  ⟨s, stop.map (Stop.fault .writeStalled)⟩

/-- Flushes the sink; a flush that fails is not made again. -/
def flush (s : Sink) : Attempt Sink :=
  let s := { s with flushCalls := s.flushCalls + 1 }
  match s.behaviour.onFlush s.flushCalls with
  | some f => ⟨s, some f⟩
  | none => .done { s with flushes := s.flushes ++ [s.content.length] }

@[simp] theorem writeAll_nil (s : Sink) : s.writeAll [] = .done s := by
  simp [writeAll, send, Attempt.done]

end Sink

end Epilogue
