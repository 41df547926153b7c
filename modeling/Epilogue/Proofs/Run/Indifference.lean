import Epilogue.Proofs.Run.Lasting

/-!
# Epilogue — changes that go unseen

Hooks and printers work on the slot, the stash and the records of a thread. A change to the rest of
it goes unseen by them, and it is there afterwards as it was before. Another output on the thread is
such a change: a step that neither writes nor flushes hands it on, and so does a run on streams of
its own. The frame of a run takes the output from the thread and puts another one back.

* `Thread.Unseen` — a change to a thread that hooks and printers do not see.

Main results:

* `Hook.invoke_unseen`, `Value.write_unseen`, `Act.perform_unseen` — what does not see such a
  change;
* `Act.perform_setOutput`, `Thread.runWith_setOutput` — what does not use the output;
* `Thread.finishRaised_setOutput`, `Thread.finishReturned_setOutput` — the frame of a run, apart
  from the thread that had the output.
-/

namespace Epilogue

/-! ## Changes that hooks and printers do not see -/

/-- A change to a thread that leaves its slot and its stash alone and is the same before and after
what works on these. -/
structure Thread.Unseen (g : Thread → Thread) : Prop where
  hook : ∀ t, (g t).hook = t.hook
  stash : ∀ t, (g t).stash = t.stash
  emit : ∀ t e, (g t).emit e = g (t.emit e)
  note : ∀ t what, (g t).note what = g (t.note what)
  setMessage : ∀ t m, (g t).setMessage m = g (t.setMessage m)
  clearMessage : ∀ t, (g t).clearMessage = g t.clearMessage
  setHook : ∀ t h, (g t).setHook h = g (t.setHook h)

section

variable {g : Thread → Thread} (hg : Thread.Unseen g)

include hg

theorem Thread.Unseen.log (t : Thread) (r : Record) : (g t).log r = g (t.log r) :=
  hg.emit t (.record r)

theorem Thread.Unseen.alarm (t : Thread) (p : Payload) : (g t).alarm p = g (t.alarm p) :=
  hg.emit t (.alarm p false)

theorem Thread.Unseen.replaceHook (t : Thread) (h : Hook) :
    (g t).replaceHook h = g (t.replaceHook h) := by
  rw [Thread.replaceHook, hg.log, hg.setHook]
  rfl

/-- A hook looks at the slot and sets the stash, and sees nothing else of a thread. -/
theorem Hook.invoke_unseen (h : Hook) (t : Thread) :
    h.invoke (g t) = ((h.invoke t).1, g (h.invoke t).2) := by
  induction h generalizing t with
  | exit | unwind => rfl
  | panics p => rw [invoke, hg.alarm, invoke]
  | stashes m next ih => rw [invoke, hg.setMessage, ih, invoke]
  | replaces next m ih => rw [invoke, hg.replaceHook, hg.setMessage, hg.log, ih, invoke]
  | recovers m p =>
    rw [invoke, hg.replaceHook, hg.setMessage, hg.log, hg.hook, hg.setHook, hg.alarm, invoke]

/-- So a raise sees no more than that. -/
theorem Thread.raiseUnder_unseen (host : Host) (m : Option String) (t : Thread) :
    (g t).raiseUnder host m = ((t.raiseUnder host m).1, g (t.raiseUnder host m).2) := by
  unfold raiseUnder
  rw [hg.hook]
  split
  · rw [hg.note]
  · cases m with
    | none =>
      simp only [raise]
      rw [hg.hook, hg.log, Hook.invoke_unseen hg]
    | some m =>
      simp only [raiseWith, raise]
      rw [hg.setMessage, hg.hook, hg.log, Hook.invoke_unseen hg]

theorem Finish.after_unseen (host : Host) (t : Thread) (finish : Finish) (r : Attempt Output) :
    finish.after host (g t) r =
      ((finish.after host t r).1, (finish.after host t r).2.1, g (finish.after host t r).2.2) := by
  obtain ⟨o, f⟩ := r
  cases f with
  | some f => rfl
  | none => cases finish with
    | done | fails => rfl
    | panics p => simp only [after, hg.alarm]
    | raises m => simp only [after, Thread.raiseUnder_unseen hg]

/-- A value is written alike, and its printer comes to the same end. -/
theorem Value.write_unseen (host : Host) (v : Value) (printer : Printer) (o : Output) (t : Thread) :
    v.write host printer o (g t) =
      ((v.write host printer o t).1, (v.write host printer o t).2.1,
        g (v.write host printer o t).2.2) := by
  simp only [write, Printout.write]
  split
  · rw [hg.log, Finish.after_unseen hg]
  · rw [Finish.after_unseen hg]

theorem Thread.dropGuards_unseen (t : Thread) (gs : List Guard) :
    (g t).dropGuards gs = g (t.dropGuards gs) := by
  unfold dropGuards
  induction gs.reverse generalizing t with
  | nil => rfl
  | cons a gs ih =>
    rw [List.foldl_cons, dropGuard, hg.setHook, ih]
    rfl

/-- A step that reaches the streams of its thread. -/
def Act.UsesStreams : Act → Prop
  | write _ | flush | read _ | readLine | returnByte => True
  | _ => False

/-- The same state with another thread. -/
def Progress.mapThread (g : Thread → Thread) (p : Progress) : Progress :=
  ⟨p.ending, p.guards, g p.thread⟩

/-- A step that does not use the streams does the same, whatever is changed behind its back. -/
theorem Act.perform_unseen {a : Act} (ha : ¬a.UsesStreams) (host : Host) (gs : List Guard)
    (t : Thread) : a.perform host gs (g t) = (a.perform host gs t).mapThread g := by
  cases a with
  | write | flush | read | readLine | returnByte => exact absurd trivial ha
  | look | «return» => simp only [perform, hg.note, Progress.mapThread]
  | panic p => simp only [perform, hg.note, hg.alarm, Progress.mapThread]
  | setMessage m => simp only [perform, hg.setMessage, hg.note, Progress.mapThread]
  | clearMessage => simp only [perform, hg.clearMessage, hg.note, Progress.mapThread]
  | takeMessage => simp only [perform, hg.stash, hg.clearMessage, hg.note, Progress.mapThread]
  | replaceHook h | install h name =>
    simp only [perform, hg.hook, hg.replaceHook, hg.note, Progress.mapThread]
  | raise m => simp only [perform, hg.note, Thread.raiseUnder_unseen hg, Progress.mapThread]
  | unwrap expected v =>
    simp only [perform, hg.note]
    cases WrongShape.find? expected v with
    | none => rfl
    | some w => simp only [hg.alarm, Progress.mapThread]
  -- which guard is dropped is decided by the guards of the block, not by the thread
  | drop name =>
    simp only [perform, Thread.dropGuard]
    cases gs.find? fun g => g.name == name with
    | none => simp only [hg.note, Progress.mapThread]
    | some d => simp only [hg.setHook, hg.note, Progress.mapThread]
  | render v printer =>
    simp only [perform, Value.renderWith, Value.write_unseen hg]
    rcases v.write host printer (.direct .unlimited) t with ⟨_ | _ | _ | _, o, t'⟩
    · simp only [hg.note, Progress.mapThread]
    · simp only [hg.note, Progress.mapThread]
    · rfl
    · rfl

/-- Leaving a block commutes with such a change. -/
theorem Progress.leave_mapThread (p : Progress) :
    (p.mapThread g).leave = (p.leave.1, g p.leave.2) := by
  obtain ⟨e, gs, t⟩ := p
  cases e with
  | exited => rfl
  | next | returned | unwound =>
    simp only [mapThread, leave]
    rw [Thread.dropGuards_unseen hg]

end

/-! ## Another output -/

namespace Thread

/-- Another output is such a change: only the steps that use the streams can tell. -/
theorem setOutput_unseen (o : Output) : Unseen (·.setOutput o) where
  hook _ := rfl
  stash _ := rfl
  emit _ _ := rfl
  note _ _ := rfl
  setMessage _ _ := rfl
  clearMessage _ := rfl
  setHook _ _ := rfl

variable (t : Thread) (o o' : Output)

theorem setOutput_setOutput : (t.setOutput o).setOutput o' = t.setOutput o' := by
  obtain ⟨_, _, streams, _, _⟩ := t
  cases streams <;> rfl

theorem setOutput_isSome : (t.setOutput o).streams.isSome = t.streams.isSome := by
  obtain ⟨_, _, streams, _, _⟩ := t
  cases streams <;> rfl

theorem closeRun_setOutput (outcome : Outcome) (r : Attempt Output) :
    (t.setOutput o).closeRun outcome r = t.closeRun outcome r :=
  congrArg (Prod.mk _) (t.setOutput_setOutput o r.state)

/-- The output that has been taken from the thread gives way to what was printed. -/
theorem afterPrinting_setOutput (v : Value) (e : Printed) :
    afterPrinting v (e, o', t.setOutput o) = afterPrinting v (e, o', t) := by
  cases e with
  | done => exact t.closeRun_setOutput o _ _
  | failed | unwound | exited => exact congrArg (Prod.mk _) (t.setOutput_setOutput o o')

variable {t}

/-- A thread that has streams writes to the output that it has been given. -/
theorem output_setOutput (h : t.streams.isSome = true) : (t.setOutput o).output = o := by
  obtain ⟨_, _, streams, _, _⟩ := t
  cases streams with
  | none => cases h
  | some s => rfl

/-- The frame of a raise depends on the thread and on the output apart. -/
theorem finishRaised_setOutput (ht : t.streams.isSome = true) :
    (t.setOutput o).finishRaised = (t.clearMessage.log (.entryRaised t.stash)).closeRun
      (.raised t.stash) ((o.flush.next (·.writeAll (Utf8.encode errText))).next Output.flush) := by
  have hl : (t.setOutput o).clearMessage.log (.entryRaised (t.setOutput o).stash) =
      (t.clearMessage.log (.entryRaised t.stash)).setOutput o := rfl
  rw [finishRaised, output_setOutput o ht, hl, closeRun_setOutput, setOutput_stash]

/-- And so does the frame of a value. -/
theorem finishReturned_setOutput (ht : t.streams.isSome = true) (host : Host) (printer : Printer)
    (v : Value) : (t.setOutput o).finishReturned host printer v =
      afterPrinting v (v.write host printer o (t.log (.entryReturned v.shape))) := by
  have hl : (t.setOutput o).log (.entryReturned v.shape) =
      (t.log (.entryReturned v.shape)).setOutput o := rfl
  rw [finishReturned, output_setOutput o ht, hl, Value.write_unseen (setOutput_unseen o),
    afterPrinting_setOutput]

end Thread

/-! ## Steps on another output -/

namespace Act

/-- A step that neither writes nor flushes. -/
def Silent : Act → Prop
  | write _ | flush => False
  | _ => True

/-- A step that neither writes nor flushes does the same on every output. -/
theorem perform_setOutput {a : Act} (ha : a.Silent) (host : Host) (gs : List Guard) (t : Thread)
    (o : Output) :
    a.perform host gs (t.setOutput o) = (a.perform host gs t).mapThread (·.setOutput o) := by
  by_cases hs : a.UsesStreams
  · -- a read takes from the input and leaves the output alone
    obtain ⟨_, _, streams, _, _⟩ := t
    cases a with
    | read | readLine | returnByte => cases streams <;> rfl
    | write | flush => exact ha.elim
    | _ => exact hs.elim
  · exact perform_unseen (Thread.setOutput_unseen o) hs host gs t

variable {t : Thread} (ht : t.streams.isSome = true)

include ht

/-- A write is one on the output that the thread has been given. -/
theorem perform_write (bs : Bytes) (host : Host) (gs : List Guard) (o : Output) :
    (write bs).perform host gs (t.setOutput o) =
      ⟨.next, gs, (t.setOutput (o.writeAll bs).state).note (.wrote (o.writeAll bs).fault)⟩ := by
  obtain ⟨_, _, streams, _, _⟩ := t
  cases streams with
  | none => cases ht
  | some s => rfl

theorem perform_flush (host : Host) (gs : List Guard) (o : Output) :
    flush.perform host gs (t.setOutput o) =
      ⟨.next, gs, (t.setOutput o.flush.state).note (.flushed o.flush.fault)⟩ := by
  obtain ⟨_, _, streams, _, _⟩ := t
  cases streams with
  | none => cases ht
  | some s => rfl

end Act

/-- A run on streams of its own does not use those of the entry around it. -/
theorem Thread.runWith_setOutput {setup : RunSetup} (hs : setup.shared = false) (host : Host)
    (entry : Computation) (t : Thread) (o : Output) : (t.setOutput o).runWith host setup entry =
      ((t.runWith host setup entry).1, (t.runWith host setup entry).2.setOutput o) := by
  -- the streams of the entry around it are set aside and put back, with whatever output
  have henter : (t.setOutput o).enterRun setup = t.enterRun setup := by
    unfold enterRun
    rw [hs]
    rfl
  have hleave (after : Thread) :
      (t.setOutput o).leaveRun setup after = (t.leaveRun setup after).setOutput o := by
    unfold leaveRun
    rw [hs]
    rfl
  rw [runWith, runWith, henter]
  rcases (t.enterRun setup).drive host setup.printer entry with ⟨_ | _ | _, after⟩ <;>
    simp only [afterRun, hleave] <;> rfl

end Epilogue
