import Epilogue.Stream.Sink

/-!
# Epilogue — line-buffered output

Output to a device that goes out line by line. Bytes after the last newline wait in a buffer, so a
device that is full goes unnoticed until a line ends, the buffer overflows or the output is flushed.
Bytes that could not go out stay in the buffer.
-/

namespace Epilogue

/-- A device behind a buffer. -/
structure LineBuffer where
  device : Sink
  pending : Bytes

namespace LineBuffer

/-- The byte that ends a line. -/
def newline : UInt8 := 10

/-- The size of the buffer. -/
def capacity : Nat := 1024

/-- An empty buffer before a device. -/
def new (device : Sink) : LineBuffer := ⟨device, []⟩

/-- The room that is left in the buffer. -/
def room (b : LineBuffer) : Nat := capacity - b.pending.length

/-- Sends the pending bytes to the device. -/
def drain (b : LineBuffer) : Attempt LineBuffer :=
  let (device, rest, stop) := b.device.send b.pending
  ⟨⟨device, rest⟩, stop.map (Stop.fault .drainStalled)⟩

/-- Puts bytes behind the pending ones. The buffer is drained first if they do not fit, and bytes
that would fill it alone go past it. -/
def append (b : LineBuffer) (bs : Bytes) : Attempt LineBuffer :=
  let ready := if b.room < bs.length then b.drain else .done b
  ready.next fun b =>
    if capacity ≤ bs.length then (b.device.writeAll bs).lift fun d => { b with device := d }
    else .done { b with pending := b.pending ++ bs }

/-- The complete lines at the front of some bytes, and what follows them. -/
def splitLines (bs : Bytes) : Bytes × Bytes :=
  let tail := (bs.reverse.takeWhile (· != newline)).reverse
  (bs.take (bs.length - tail.length), tail)

/-- Drains the buffer if it ends with a complete line. -/
def drainLine (b : LineBuffer) : Attempt LineBuffer :=
  if b.pending.getLast? = some newline then b.drain else .done b

/-- Writes all the bytes. -/
def writeAll (b : LineBuffer) (bs : Bytes) : Attempt LineBuffer :=
  match splitLines bs with
  | ([], tail) => b.drainLine.next (·.append tail)
  | (lines, tail) =>
    let sent :=
      if b.pending.isEmpty then (b.device.writeAll lines).lift fun d => { b with device := d }
      else (b.append lines).next drain
    sent.next (·.append tail)

/-- Sends out all that is pending. -/
def flush (b : LineBuffer) : Attempt LineBuffer :=
  b.drain.next fun b => b.device.flush.lift fun d => { b with device := d }

/-- What the device holds once the program is over: the rest of the buffer is sent as far as it
goes. -/
def finalContent (b : LineBuffer) : Bytes := b.drain.state.device.content

end LineBuffer

end Epilogue
