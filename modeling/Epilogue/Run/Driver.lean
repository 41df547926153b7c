import Epilogue.Render.Write

/-!
# Epilogue — the driver

Runs an entry once inside the trap and frames its output.

* If the entry returns, its value is written, and a newline unless the value is void.
* If it raises, what it wrote so far is flushed, and `err` and a newline follow.
* If it is left by a foreign unwinding, that is logged and goes on; nothing is written.

The output is flushed at the end. The first write or flush of the driver that fails ends the run.
-/

namespace Epilogue

/-- A body, as the thread sees it. -/
abbrev Computation := Thread → Ending × Thread

namespace Thread

/-- The output of the running entry. -/
def output (t : Thread) : Output := (t.streams.getD .detached).output

/-- Replaces the streams of the running entry. -/
def setStreams (t : Thread) (s : Streams) : Thread := { t with streams := t.streams.map fun _ => s }

/-- Replaces the output of the running entry. -/
def setOutput (t : Thread) (o : Output) : Thread :=
  { t with streams := t.streams.map fun s => { s with output := o } }

@[simp] theorem setStreams_hook (t : Thread) (s : Streams) : (t.setStreams s).hook = t.hook := rfl
@[simp] theorem setStreams_stash (t : Thread) (s : Streams) :
    (t.setStreams s).stash = t.stash := rfl
@[simp] theorem setStreams_told (t : Thread) (s : Streams) : (t.setStreams s).told = t.told := rfl

@[simp] theorem setOutput_hook (t : Thread) (o : Output) : (t.setOutput o).hook = t.hook := rfl
@[simp] theorem setOutput_stash (t : Thread) (o : Output) : (t.setOutput o).stash = t.stash := rfl
@[simp] theorem setOutput_told (t : Thread) (o : Output) : (t.setOutput o).told = t.told := rfl

/-! ## The frame -/

/-- Ends a run with an outcome, or with the fault of the attempt to write its frame. -/
def closeRun (t : Thread) (outcome : Outcome) (framed : Attempt Output) : RunEnd × Thread :=
  (.finished (match framed.fault with
    | none => .ok outcome
    | some f => .error f), t.setOutput framed.state)

/-- Writes the frame of an entry that raised: the stashed message is taken and told to the log. -/
def finishRaised (t : Thread) : RunEnd × Thread :=
  (t.clearMessage.log (.entryRaised t.stash)).closeRun (.raised t.stash)
    ((t.output.flush.next (·.writeAll (Utf8.encode errText))).next Output.flush)

/-- The rest of the frame of a value, once it has been printed. -/
def afterPrinting (v : Value) : Printed × Output × Thread → RunEnd × Thread
  | (.failed f, o, t) => (.finished (.error f), t.setOutput o)
  | (.unwound p, o, t) => (.unwound p, t.setOutput o)
  | (.exited, o, t) => (.exited, t.setOutput o)
  | (.done, o, t) =>
    let ended := if v.isVoid then .done o else o.writeAll [LineBuffer.newline]
    t.closeRun (.completed v.shape) (ended.next Output.flush)

@[simp] theorem afterPrinting_hook (v : Value) (r : Printed × Output × Thread) :
    (afterPrinting v r).2.hook = r.2.2.hook := by
  obtain ⟨e, o, t⟩ := r
  cases e <;> rfl

/-- Writes the frame of an entry that returned a value. -/
def finishReturned (host : Host) (printer : Printer) (v : Value) (t : Thread) : RunEnd × Thread :=
  afterPrinting v (v.write host printer t.output (t.log (.entryReturned v.shape)))

/-! ## The run -/

/-- The frame of an entry that ended in the given way. One that runs off its end returns nothing to
print. -/
def afterEntry (host : Host) (printer : Printer) : Ending × Thread → RunEnd × Thread
  | (.exited, t) => (.exited, t)
  | (.unwound .raised, t) => t.finishRaised
  | (.unwound p, t) => (.unwound p, t.log (.entryPanicked p))
  | (.returned v, t) => t.finishReturned host printer v
  | (.next, t) => t.finishReturned host printer .void

/-- Runs an entry on the streams of the thread. A message from before the run is dropped. -/
def drive (host : Host) (printer : Printer) (entry : Computation) (t : Thread) : RunEnd × Thread :=
  afterEntry host printer (t.clearMessage.catching entry)

end Thread

end Epilogue
