import Epilogue.Proofs.Run.Invariant

/-!
# Epilogue — what lasts on the output of a run

Of the steps of a program only writes, flushes and runs reach its output, and a run reaches it by
writes and flushes alone. So a property of outputs that no write and no flush ends is not ended by
any program, however it is left.

* `Output.Lasting` — a property that no operation on an output ends;
* `Thread.On` — a thread whose output has a property.

Main results:

* `Thread.runWith_shared`, `Thread.runWith_own` — which streams a run reaches;
* `Act.perform_lasting`, `Thread.drive_lasting` — a step and a run end nothing that lasts;
* `Block.steps_lasting` — nor do any steps.
-/

namespace Epilogue

/-! ## Steps that leave the streams alone -/

/-- No hook touches the streams. -/
theorem Hook.invoke_streams (h : Hook) (t : Thread) : (h.invoke t).2.streams = t.streams := by
  induction h generalizing t with
  | exit | unwind | panics | recovers => rfl
  | stashes m next ih =>
    rw [Hook.invoke, ih]
    rfl
  | replaces next m ih =>
    rw [Hook.invoke, ih]
    rfl

/-- So no raise does. -/
theorem Thread.raiseUnder_streams (host : Host) (m : Option String) (t : Thread) :
    (t.raiseUnder host m).2.streams = t.streams := by
  unfold raiseUnder
  split
  · rfl
  · cases m with
    | none => exact Hook.invoke_streams t.hook (t.log .raise)
    | some m => exact Hook.invoke_streams t.hook ((t.setMessage m).log .raise)

/-- A printer writes to the output that it is given, not to that of the thread. -/
theorem Finish.after_streams (host : Host) (t : Thread) (finish : Finish) (r : Attempt Output) :
    (finish.after host t r).2.2.streams = t.streams := by
  obtain ⟨o, f⟩ := r
  cases f with
  | some f => rfl
  | none => cases finish with
    | done | fails | panics => rfl
    | raises m => exact Thread.raiseUnder_streams host (some m) t

/-- A value is written to the output that it is given, and the thread keeps its streams. -/
theorem Value.write_streams (host : Host) (v : Value) (printer : Printer) (o : Output)
    (t : Thread) : (v.write host printer o t).2.2.streams = t.streams := by
  have ht : (if v = .invalid then t.log .invalidRendered else t).streams = t.streams := by
    split <;> rfl
  rw [write, Printout.write, Finish.after_streams, ht]

theorem Value.renderWith_streams (host : Host) (v : Value) (printer : Printer) (t : Thread) :
    (v.renderWith host printer t).2.2.streams = t.streams :=
  v.write_streams host printer (.direct .unlimited) t

theorem Thread.dropGuards_streams (t : Thread) (gs : List Guard) :
    (t.dropGuards gs).streams = t.streams := by
  unfold dropGuards
  induction gs.reverse generalizing t with
  | nil => rfl
  | cons g gs ih => exact ih (t.dropGuard g)

/-- Leaving a block puts hooks back, and the streams stay as they are. -/
theorem Progress.leave_streams (p : Progress) : p.leave.2.streams = p.thread.streams := by
  unfold leave
  split
  · rfl
  · exact Thread.dropGuards_streams p.thread p.guards

/-- A trap leaves the streams as its body does. -/
theorem Thread.catching_streams (t : Thread) (body : Computation) :
    (t.catching body).2.streams = (body (t.replaceHook .unwind)).2.streams := by
  unfold catching
  split
  · next heq => rw [heq]
  · next heq =>
    rw [heq]
    rfl

/-! ## The streams of a run -/

namespace Thread

variable {t : Thread}

/-- After a run the thread has the streams of the run or those from before, however the
run ended. -/
theorem afterRun_streams (t : Thread) (setup : RunSetup) (r : RunEnd × Thread) :
    (t.afterRun setup r).2.streams = (t.leaveRun setup r.2).streams := by
  obtain ⟨e, after⟩ := r
  cases e <;> rfl

theorem runWith_streams (host : Host) (setup : RunSetup) (entry : Computation) (t : Thread) :
    (t.runWith host setup entry).2.streams =
      (t.leaveRun setup ((t.enterRun setup).drive host setup.printer entry).2).streams := by
  rw [runWith, afterRun_streams]

/-- A run that shares the streams begins on the thread as it is. -/
theorem enterRun_shared {setup : RunSetup} (hs : setup.shared = true)
    (ht : t.streams.isSome = true) : t.enterRun setup = t := by
  rw [enterRun, hs, ht]
  rfl

/-- And the thread goes on with what the run has left of them. -/
theorem leaveRun_shared {setup : RunSetup} (hs : setup.shared = true)
    (ht : t.streams.isSome = true) (after : Thread) : t.leaveRun setup after = after := by
  rw [leaveRun, hs, ht]
  rfl

/-- A run on the streams of the entry around it leaves them as the driver did. -/
theorem runWith_shared {setup : RunSetup} (hs : setup.shared = true) (ht : t.streams.isSome = true)
    (host : Host) (entry : Computation) :
    (t.runWith host setup entry).2.streams = (t.drive host setup.printer entry).2.streams := by
  rw [runWith_streams, enterRun_shared hs ht, leaveRun_shared hs ht]

/-- A run on streams of its own leaves those of the entry around it alone. -/
theorem runWith_own {setup : RunSetup} (hs : setup.shared = false) (host : Host)
    (entry : Computation) (t : Thread) : (t.runWith host setup entry).2.streams = t.streams := by
  have hnot : ¬(setup.shared && t.streams.isSome) = true := by simp [hs]
  have hleave (after : Thread) : t.leaveRun setup after = { after with streams := t.streams } :=
    if_neg hnot
  rw [runWith_streams, hleave]

end Thread

/-! ## What lasts -/

/-- A property of outputs that no operation on an output ends. -/
structure Output.Lasting (P : Output → Prop) : Prop where
  writeAll {o : Output} (h : P o) (bs : Bytes) : P (o.writeAll bs).state
  flush {o : Output} (h : P o) : P o.flush.state

/-- The thread has streams, and their output has the property. -/
def Thread.On (P : Output → Prop) (t : Thread) : Prop := ∃ s, t.streams = some s ∧ P s.output

namespace Thread.On

variable {P : Output → Prop} {t t' : Thread}

theorem congr (h : t.On P) (hs : t'.streams = t.streams) : t'.On P := by
  obtain ⟨s, ht, hP⟩ := h
  exact ⟨s, hs.trans ht, hP⟩

theorem currentStreams (h : t.On P) : P t.currentStreams.output := by
  obtain ⟨s, ht, hP⟩ := h
  rw [Thread.currentStreams, ht]
  exact hP

theorem output (h : t.On P) : P t.output := h.currentStreams

theorem setStreams {Q : Output → Prop} (h : t.On P) {s : Streams} (hs : Q s.output) :
    (t.setStreams s).On Q := by
  obtain ⟨s₀, ht, -⟩ := h
  exact ⟨s, by rw [Thread.setStreams, ht]; rfl, hs⟩

theorem setOutput {Q : Output → Prop} (h : t.On P) {o : Output} (ho : Q o) :
    (t.setOutput o).On Q := by
  obtain ⟨s, ht, -⟩ := h
  exact ⟨{ s with output := o }, by rw [Thread.setOutput, ht]; rfl, ho⟩

theorem isSome (h : t.On P) : t.streams.isSome = true := by
  obtain ⟨s, ht, -⟩ := h
  rw [ht]
  rfl

end Thread.On

section

variable {P : Output → Prop} (hP : Output.Lasting P)

include hP

/-! ## Steps -/

/-- A step keeps what lasts: it writes to the output, flushes it or leaves it alone. -/
theorem Act.perform_lasting (a : Act) (host : Host) (gs : List Guard) {t : Thread} (h : t.On P) :
    (a.perform host gs t).thread.On P := by
  have ho := h.currentStreams
  cases a with
  | look | setMessage | clearMessage | takeMessage | panic | replaceHook | install | «return» =>
    exact h
  | raise m => exact h.congr (Thread.raiseUnder_streams host m (t.note .raising))
  | unwrap expected v =>
    simp only [perform]
    split <;> exact h
  | drop name =>
    simp only [perform]
    split <;> exact h
  | render v printer =>
    have hs := v.renderWith_streams host printer t
    simp only [perform]
    split <;> next heq => rw [heq] at hs; exact h.congr hs
  | write bs => exact h.setStreams (s := (t.currentStreams.writeAll bs).state) (hP.writeAll ho bs)
  | flush => exact h.setStreams (s := t.currentStreams.flush.state) (hP.flush ho)
  -- reads take from the input of the streams and hand their output on
  | read n => exact h.setStreams (s := (t.currentStreams.read n).2) ho
  | readLine => exact h.setStreams (s := t.currentStreams.readLine.2) ho
  | returnByte => exact h.setStreams (s := (t.currentStreams.read 1).2) ho

/-! ## Runs -/

namespace Output

omit hP in
/-- The state after two operations has what the second one does not end. -/
theorem next_lasting {r : Attempt Output} (h : P r.state) {op : Output → Attempt Output}
    (hop : ∀ o, P o → P (op o).state) : P (r.next op).state := by
  obtain ⟨o, f⟩ := r
  cases f with
  | none => exact hop o h
  | some f => exact h

/-- Pieces in a row keep what lasts, however far they get. -/
theorem writePieces_lasting {o : Output} (h : P o) (pieces : List Bytes) :
    P (o.writePieces pieces).state := by
  have hfold (r : Attempt Output) (hr : P r.state) :
      P (pieces.foldl (fun r bs => r.next (·.writeAll bs)) r).state := by
    induction pieces generalizing r with
    | nil => exact hr
    | cons bs pieces ih => exact ih _ (next_lasting hr fun o ho => hP.writeAll ho bs)
  exact hfold (.done o) h

end Output

omit hP in
/-- How a printer ends does not reach the output to which it has written. -/
theorem Finish.after_lasting (host : Host) (t : Thread) (finish : Finish) {r : Attempt Output}
    (h : P r.state) : P (finish.after host t r).2.1 := by
  obtain ⟨o, f⟩ := r
  cases f with
  | some f => exact h
  | none => cases finish with
    | done | fails | panics | raises => exact h

/-- A value keeps what lasts, whatever its printer does at the end. -/
theorem Value.write_lasting (host : Host) (v : Value) (printer : Printer) {o : Output} (h : P o)
    (t : Thread) : P (v.write host printer o t).2.1 := by
  rw [write, Printout.write]
  exact Finish.after_lasting host _ _ (Output.writePieces_lasting hP h _)

namespace Thread

variable {t : Thread}

/-- The frame of a raise keeps what lasts. -/
theorem finishRaised_lasting (h : t.On P) : t.finishRaised.2.On P := by
  have hl : (t.clearMessage.log (.entryRaised t.stash)).On P := h
  rw [finishRaised]
  refine hl.setOutput ?_
  -- flushed, written to and flushed again, each only if what is before it succeeded
  refine Output.next_lasting ?_ fun o ho => hP.flush ho
  exact Output.next_lasting (hP.flush hl.output) fun o ho => hP.writeAll ho (Utf8.encode errText)

/-- The output has been taken from the thread and is put back with what was printed. -/
theorem afterPrinting_lasting (v : Value) {r : Printed × Output × Thread}
    (hs : r.2.2.streams.isSome = true) (h : P r.2.1) : (afterPrinting v r).2.On P := by
  obtain ⟨e, o, t'⟩ := r
  obtain ⟨s, ht⟩ := Option.isSome_iff_exists.mp hs
  have hon : t'.On fun _ => True := ⟨s, ht, trivial⟩
  cases e with
  | failed | unwound | exited => exact hon.setOutput h
  | done =>
    have hend : P (if v.isVoid then .done o else o.writeAll [LineBuffer.newline]).state := by
      split
      · exact h
      · exact hP.writeAll h [LineBuffer.newline]
    exact hon.setOutput (Output.next_lasting hend fun o ho => hP.flush ho)

/-- The frame of a value keeps what lasts. -/
theorem finishReturned_lasting (host : Host) (printer : Printer) (v : Value) (h : t.On P) :
    (t.finishReturned host printer v).2.On P := by
  have hs := v.write_streams host printer t.output (t.log (.entryReturned v.shape))
  rw [finishReturned]
  refine afterPrinting_lasting hP v ?_ (v.write_lasting hP host printer h.output _)
  rw [hs]
  exact h.isSome

/-- So every frame does. -/
theorem afterEntry_lasting (host : Host) (printer : Printer) {r : Ending × Thread}
    (h : r.2.On P) : (afterEntry host printer r).2.On P := by
  obtain ⟨e, t'⟩ := r
  cases e with
  | exited => exact h
  | next => exact finishReturned_lasting hP host printer .void h
  | returned v => exact finishReturned_lasting hP host printer v h
  | unwound p =>
    cases p with
    | raised => exact finishRaised_lasting hP h
    | words | boxed | number => exact h

/-- A run ends nothing that its entry does not end. -/
theorem drive_lasting (host : Host) (printer : Printer) {entry : Computation}
    (h : (entry (t.clearMessage.replaceHook .unwind)).2.On P) :
    (t.drive host printer entry).2.On P := by
  rw [drive]
  exact afterEntry_lasting hP host printer (h.congr (t.clearMessage.catching_streams entry))

/-- A run within a program keeps what lasts if its entry does: on streams of its own it does not
touch the output at all. -/
theorem runWith_lasting (host : Host) (setup : RunSetup) {entry : Computation}
    (he : ∀ t : Thread, t.On P → (entry t).2.On P) (h : t.On P) :
    (t.runWith host setup entry).2.On P := by
  cases hs : setup.shared with
  | false => exact h.congr (runWith_own hs host entry t)
  | true =>
    have hbegun : (t.clearMessage.replaceHook .unwind).On P := h
    exact (drive_lasting hP host setup.printer (he _ hbegun)).congr
      (runWith_shared hs h.isSome host entry)

end Thread

/-! ## Any steps -/

omit hP

/-- What follows a block ends nothing if neither the steps behind it do. -/
def Progress.Keeps (P : Output → Prop) (next : List Guard → Thread → Progress) : Prop :=
  ∀ gs t, t.On P → (next gs t).thread.On P

theorem Thread.On.note {t : Thread} (h : t.On P) (what : Happening) : (t.note what).On P := h

include hP

/-- Neither a hook nor a note reaches the streams, and a thread that is joined has its own. -/
theorem Thread.on_invariant : Thread.Invariant (Thread.On P) where
  note h what := h.note what
  setHook h _ := h
  enterTrap h := h
  act h a host gs := a.perform_lasting hP host gs h
  join h _ := h
  run h host setup he := Thread.runWith_lasting hP host setup he h

/-- What lasts is ended by no steps, however they end. -/
theorem Block.steps_lasting (b : Block) (host : Host) : Progress.Keeps P (b.steps host) :=
  b.steps_maintain (Thread.on_invariant hP) host

/-- A block from end to end keeps what lasts. -/
theorem Block.exec_lasting (b : Block) (host : Host) {t : Thread} (h : t.On P) :
    (b.exec host t).2.On P := b.exec_maintains (Thread.on_invariant hP) host h

end

end Epilogue
