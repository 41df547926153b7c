import Epilogue.Stream.LineBuffer

/-!
# Epilogue — the streams of an entry

An entry reads from an input that is given beforehand and writes to an output, which is a sink or a
line-buffered device. Reading never fails; at the end of the input it yields nothing.
-/

namespace Epilogue

/-- Where an entry writes. -/
inductive Output where
  | direct (s : Sink)
  | lined (b : LineBuffer)

namespace Output

/-- Writes all the bytes. -/
def writeAll (o : Output) (bs : Bytes) : Attempt Output :=
  match o with
  | direct s => (s.writeAll bs).lift direct
  | lined b => (b.writeAll bs).lift lined

/-- Flushes the output. -/
def flush (o : Output) : Attempt Output :=
  match o with
  | direct s => s.flush.lift direct
  | lined b => b.flush.lift lined

/-- The sink in which the bytes end up. -/
def sink : Output → Sink
  | direct s => s
  | lined b => b.device

/-- What arrives once the program is over. -/
def finalContent : Output → Bytes
  | direct s => s.content
  | lined b => b.finalContent

end Output

/-- The streams of an entry. -/
structure Streams where
  input : Bytes
  output : Output

namespace Streams

/-- Streams with nothing to read and a sink that takes everything. -/
def detached : Streams := ⟨[], .direct .unlimited⟩

/-- Reads up to `n` bytes. -/
def read (s : Streams) (n : Nat) : Bytes × Streams :=
  (s.input.take n, { s with input := s.input.drop n })

/-- The bytes through the first newline, or all if there is none. -/
def lineLength (bs : Bytes) : Nat :=
  min bs.length ((bs.takeWhile (· != LineBuffer.newline)).length + 1)

/-- Reads through the next newline or to the end. -/
def readLine (s : Streams) : Bytes × Streams := s.read (lineLength s.input)

/-- Writes all the bytes. -/
def writeAll (s : Streams) (bs : Bytes) : Attempt Streams :=
  (s.output.writeAll bs).lift fun o => { s with output := o }

/-- Flushes the output. -/
def flush (s : Streams) : Attempt Streams :=
  s.output.flush.lift fun o => { s with output := o }

end Streams

/-- What can be told of streams from outside: the bytes that arrived, how many there were at each
flush, and the input that is left. -/
structure StreamsView where
  output : Bytes
  flushes : List Nat
  unread : Bytes
  deriving DecidableEq

/-- The view of some streams. -/
def Streams.view (s : Streams) : StreamsView :=
  ⟨s.output.sink.content, s.output.sink.flushes, s.input⟩

end Epilogue
