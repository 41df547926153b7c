import Epilogue.Program

/-!
# Epilogue — the unwinding hook and the exit hook side by side

The same program runs on two threads that differ in their slots: one holds the unwinding hook, the
other that hook or the exit hook. As long as the program leaves the slot to its traps and runs, the
two do the same, up to a raise outside any trap under the exit hook. There the second thread is at
its end, and the first unwinds with a raise, which nothing stops before the trap around the program.
At that point the two have the same streams.

* `Alike` — two threads that differ in their slots, their traces and in what they were told of
  hooks;
* `Parallel` — two outcomes, the same or cut off by the exit hook;
* `Block.KeepsHook` — the programs that leave the slot to their traps and runs, on one thread.

Main results:

* `Thread.drive_parallel` — runs of an entry on two such threads end side by side;
* `Block.steps_parallel` — the steps of such a program do.
-/

namespace Epilogue

/-! ## Programs that keep the hook -/

/-- Whether a program is told of a hook. -/
def Happening.tellsHook : Happening → Bool
  | hookReplaced _ => true
  | _ => false

/-- What a program sees that does not look at hooks. -/
def Sight.unhooked (s : Sight) : Bool × List Happening :=
  (s.hasMessage, s.told.filter (!·.tellsHook))

/-- A step that does not change the slot. -/
def Act.KeepsHook : Act → Prop
  | replaceHook _ | install _ _ | drop _ => False
  | _ => True

/-- A program that leaves the slot to its traps and runs and does not look into it, with no
containment and no thread of its own. -/
def Block.KeepsHook : Block → Prop
  | done => True
  | act a rest => a.KeepsHook ∧ rest.KeepsHook
  | scope body rest => body.KeepsHook ∧ rest.KeepsHook
  | trap body handler rest => body.KeepsHook ∧ handler.KeepsHook ∧ rest.KeepsHook
  | run _ entry rest => entry.KeepsHook ∧ rest.KeepsHook
  | choose next =>
    (∀ s s' : Sight, s.unhooked = s'.unhooked → next s = next s') ∧ ∀ s, (next s).KeepsHook
  | contain _ _ | spawn _ _ _ => False

/-! ## Threads side by side -/

/-- Two threads that differ in their slots, of which the first holds the unwinding hook and the
second `h`, in their traces, and in what they were told of hooks. -/
structure Alike (h : Hook) (s t : Thread) : Prop where
  either : h = .unwind ∨ h = .exit
  first : s.hook = .unwind
  second : t.hook = h
  stash : s.stash = t.stash
  streams : s.streams = t.streams
  told : s.told.filter (!·.tellsHook) = t.told.filter (!·.tellsHook)

/-- Two outcomes: the same on two threads that are alike, or the first is a raise where the second
has come to its end. -/
inductive Parallel {ε : Type} (raised exited : ε) (h : Hook) : ε × Thread → ε × Thread → Prop
  | same {e : ε} {s t : Thread} (he : e ≠ exited) (hst : Alike h s t) :
    Parallel raised exited h (e, s) (e, t)
  | cut {s t : Thread} (hh : h = .exit) (hst : s.streams = t.streams) :
    Parallel raised exited h (raised, s) (exited, t)

namespace Alike

variable {h : Hook} {s t s' t' : Thread}

theorem note (hst : Alike h s t) (what : Happening) : Alike h (s.note what) (t.note what) where
  either := hst.either
  first := hst.first
  second := hst.second
  stash := hst.stash
  streams := hst.streams
  told := by
    rw [Thread.note_told, Thread.note_told, List.filter_append, List.filter_append, hst.told]

/-- The log tells the program nothing. -/
theorem log (hst : Alike h s t) (r : Record) : Alike h (s.log r) (t.log r) :=
  ⟨hst.either, hst.first, hst.second, hst.stash, hst.streams, hst.told⟩

/-- Neither does the handler of panics. -/
theorem alarm (hst : Alike h s t) (p : Payload) : Alike h (s.alarm p) (t.alarm p) :=
  ⟨hst.either, hst.first, hst.second, hst.stash, hst.streams, hst.told⟩

theorem setMessage (hst : Alike h s t) (m : String) : Alike h (s.setMessage m) (t.setMessage m) :=
  ⟨hst.either, hst.first, hst.second, rfl, hst.streams, hst.told⟩

theorem clearMessage (hst : Alike h s t) : Alike h s.clearMessage t.clearMessage :=
  ⟨hst.either, hst.first, hst.second, rfl, hst.streams, hst.told⟩

theorem setStreams (hst : Alike h s t) (r : Streams) :
    Alike h (s.setStreams r) (t.setStreams r) := by
  have hs : (s.setStreams r).streams = (t.setStreams r).streams := by
    rw [Thread.setStreams, Thread.setStreams, hst.streams]
  exact ⟨hst.either, hst.first, hst.second, hst.stash, hs, hst.told⟩

theorem setOutput (hst : Alike h s t) (o : Output) :
    Alike h (s.setOutput o) (t.setOutput o) := by
  have hs : (s.setOutput o).streams = (t.setOutput o).streams := by
    rw [Thread.setOutput, Thread.setOutput, hst.streams]
  exact ⟨hst.either, hst.first, hst.second, hst.stash, hs, hst.told⟩

/-- A trap on both threads makes the slots equal. -/
theorem enterTrap (hst : Alike h s t) :
    Alike .unwind (s.replaceHook .unwind) (t.replaceHook .unwind) :=
  ⟨.inl rfl, rfl, rfl, hst.stash, hst.streams, hst.told⟩

/-- The displaced hooks are back after it. -/
theorem leaveTrap (hst : Alike h s t) (hin : Alike .unwind s' t') :
    Alike h (s'.setHook s.hook) (t'.setHook t.hook) :=
  ⟨hst.either, hst.first, hst.second, hin.stash, hin.streams, hin.told⟩

theorem currentStreams (hst : Alike h s t) : s.currentStreams = t.currentStreams := by
  rw [Thread.currentStreams, Thread.currentStreams, hst.streams]

theorem output (hst : Alike h s t) : s.output = t.output := by
  rw [Thread.output, Thread.output, hst.streams]

/-- Two such programs see the same, but for the hook. -/
theorem unhooked (hst : Alike h s t) : s.sight.unhooked = t.sight.unhooked := by
  show (s.stash.isSome, s.told.filter (!·.tellsHook)) = (t.stash.isSome, _)
  rw [hst.stash, hst.told]
  rfl

end Alike

/-- Where both slots hold the unwinding hook nothing is cut off. -/
theorem Parallel.of_unwind {ε : Type} {raised exited : ε} {r r' : ε × Thread}
    (h : Parallel raised exited .unwind r r') :
    ∃ e s t, r = (e, s) ∧ r' = (e, t) ∧ e ≠ exited ∧ Alike .unwind s t := by
  cases h with
  | same he hst => exact ⟨_, _, _, rfl, rfl, he, hst⟩
  | cut hh _ => cases hh

/-! ## Raises and printers -/

section

variable {h : Hook} {s t : Thread}

/-- A raise under the two hooks: it unwinds on both sides, or ends the process on one of them. -/
theorem Alike.raise (hst : Alike h s t) :
    Parallel (Ending.unwound .raised) .exited h s.raise t.raise := by
  have hs : s.raise = (.unwound .raised, s.log .raise) := by rw [Thread.raise, hst.first]; rfl
  rw [hs, Thread.raise, hst.second]
  -- this is the only place where the two threads part
  rcases hst.either with rfl | rfl
  · exact .same nofun (hst.log .raise)
  · exact .cut rfl hst.streams

theorem Alike.raiseUnder (hst : Alike h s t) (m : Option String) :
    Parallel (Ending.unwound .raised) .exited h (s.raiseUnder .process m)
      (t.raiseUnder .process m) := by
  cases m with
  | none => exact hst.raise
  | some m => exact (hst.setMessage m).raise

/-- Printing is cut off where the printer raises; the same was written till then. -/
theorem Printout.write_parallel (p : Printout) (o : Output) (hst : Alike h s t) :
    (p.write .process o s).2.1 = (p.write .process o t).2.1 ∧
    Parallel (Printed.unwound .raised) .exited h
      ((p.write .process o s).1, (p.write .process o s).2.2)
      ((p.write .process o t).1, (p.write .process o t).2.2) := by
  unfold write
  rcases o.writePieces p.writes with ⟨o, _ | f⟩
  · cases p.finish with
    | done | fails => exact ⟨rfl, .same nofun hst⟩
    | panics payload => exact ⟨rfl, .same nofun (hst.alarm payload)⟩
    | raises m =>
      have hr := hst.raiseUnder (some m)
      simp only [Finish.after]
      generalize s.raiseUnder .process (some m) = r at hr ⊢
      generalize t.raiseUnder .process (some m) = r' at hr ⊢
      -- the output is no part of the thread, and a raise does not touch it
      refine ⟨trivial, ?_⟩
      cases hr with
      | cut hh hst => exact .cut hh hst
      | same he hst =>
        next e _ _ =>
        refine .same ?_ hst
        cases e with
        | exited => exact absurd rfl he
        | next | returned | unwound => exact nofun
  · exact ⟨rfl, .same nofun hst⟩

/-- A value is written alike on both sides, up to a raise of its printer. -/
theorem Value.write_parallel (v : Value) (printer : Printer) (o : Output) (hst : Alike h s t) :
    (v.write .process printer o s).2.1 = (v.write .process printer o t).2.1 ∧
    Parallel (Printed.unwound .raised) .exited h
      ((v.write .process printer o s).1, (v.write .process printer o s).2.2)
      ((v.write .process printer o t).1, (v.write .process printer o t).2.2) := by
  unfold write
  split
  · exact Printout.write_parallel _ o (hst.log .invalidRendered)
  · exact Printout.write_parallel _ o hst

end

/-! ## Steps -/

/-- Two states within a block, neither with a guard, with parallel outcomes. -/
structure Progress.Parallel (h : Hook) (p q : Progress) : Prop where
  first : p.guards = []
  second : q.guards = []
  outcome :
    Epilogue.Parallel (Ending.unwound .raised) .exited h (p.ending, p.thread) (q.ending, q.thread)

namespace Progress.Parallel

variable {h : Hook} {p q : Progress}

/-- Without guards, leaving a block leaves the sides side by side. -/
theorem leave (hpq : p.Parallel h q) :
    Epilogue.Parallel (Ending.unwound .raised) .exited h p.leave q.leave := by
  rw [leave_of_no_guards hpq.first, leave_of_no_guards hpq.second]
  exact hpq.outcome

theorem same {e : Ending} {s t : Thread} (he : e ≠ .exited) (hst : Alike h s t) :
    Progress.Parallel h ⟨e, [], s⟩ ⟨e, [], t⟩ := ⟨rfl, rfl, .same he hst⟩

theorem cut {s t : Thread} (hh : h = .exit) (hst : s.streams = t.streams) :
    Progress.Parallel h ⟨.unwound .raised, [], s⟩ ⟨.exited, [], t⟩ := ⟨rfl, rfl, .cut hh hst⟩

/-- What follows is done on both sides, or on neither, since a raise and the end of the process both
cut it off. -/
theorem andThen (hpq : p.Parallel h q) {next : List Guard → Thread → Progress}
    (hn : ∀ s t, Alike h s t → (next [] s).Parallel h (next [] t)) :
    (p.andThen next).Parallel h (q.andThen next) := by
  obtain ⟨e, gs, s⟩ := p
  obtain ⟨e', gs', t⟩ := q
  obtain ⟨hg, hg', ho⟩ := hpq
  simp only at hg hg' ho
  subst hg hg'
  cases ho with
  | cut hh hst => exact cut hh hst
  | same he hst =>
    cases e with
    | next => exact hn s t hst
    | returned | unwound | exited => exact same he hst

end Progress.Parallel

/-- A step that leaves the slot alone does the same on both sides, up to a raise. -/
theorem Act.perform_parallel {a : Act} (ha : a.KeepsHook) {h : Hook} {s t : Thread}
    (hst : Alike h s t) : (a.perform .process [] s).Parallel h (a.perform .process [] t) := by
  have hcur := hst.currentStreams
  cases a with
  -- the program has no step that puts a hook into the slot
  | replaceHook | install | drop => exact ha.elim
  | look => exact .same nofun (hst.note .looked)
  | setMessage m => exact .same nofun ((hst.setMessage m).note .messageSet)
  | clearMessage => exact .same nofun (hst.clearMessage.note .messageCleared)
  | takeMessage =>
    simp only [perform]
    rw [hst.stash]
    exact .same nofun (hst.clearMessage.note _)
  | raise m =>
    exact ⟨rfl, rfl, (hst.note .raising).raiseUnder m⟩
  | panic p => exact .same nofun ((hst.note .panicking).alarm p)
  | unwrap expected v =>
    simp only [perform]
    cases WrongShape.find? expected v with
    | none => exact .same nofun ((hst.note .unwrapping).note (.unwrapped v))
    | some w => exact .same nofun ((hst.note .unwrapping).alarm _)
  | render v printer =>
    have hw := v.write_parallel printer (.direct .unlimited) hst
    simp only [perform, Value.renderWith]
    generalize v.write .process printer (.direct .unlimited) s = r at hw ⊢
    generalize v.write .process printer (.direct .unlimited) t = r' at hw ⊢
    obtain ⟨e, o, s'⟩ := r
    obtain ⟨e', o', t'⟩ := r'
    obtain ⟨ho, hp⟩ := hw
    simp only at ho hp
    subst ho
    -- a printer that raises is cut off on one side and unwinds on the other
    cases hp with
    | cut hh hst => exact .cut hh hst
    | same he hst =>
      cases e with
      | done | failed => exact .same nofun (hst.note _)
      | unwound => exact .same nofun hst
      | exited => exact absurd rfl he
  | write | flush | read | readLine | returnByte =>
    simp only [perform]
    rw [hcur]
    exact .same nofun ((hst.setStreams _).note _)
  | «return» v => exact .same nofun (hst.note .returning)

/-! ## Runs -/

section

variable {h : Hook} {s t : Thread}

/-- The frame of a raise does not look into the slot. -/
theorem Alike.finishRaised (hst : Alike h s t) :
    Parallel (RunEnd.unwound .raised) .exited h s.finishRaised t.finishRaised := by
  unfold Thread.finishRaised Thread.closeRun
  rw [hst.stash, hst.output]
  exact .same nofun ((hst.clearMessage.log (.entryRaised t.stash)).setOutput _)

/-- The frame of a value looks into the slot only where the printer raises. -/
theorem Alike.finishReturned (hst : Alike h s t) (printer : Printer) (v : Value) :
    Parallel (RunEnd.unwound .raised) .exited h (s.finishReturned .process printer v)
      (t.finishReturned .process printer v) := by
  have hw := v.write_parallel printer t.output (hst.log (.entryReturned v.shape))
  unfold Thread.finishReturned
  rw [hst.output]
  generalize v.write .process printer t.output (s.log (.entryReturned v.shape)) = r at hw ⊢
  generalize v.write .process printer t.output (t.log (.entryReturned v.shape)) = r' at hw ⊢
  obtain ⟨e, o, s'⟩ := r
  obtain ⟨e', o', t'⟩ := r'
  obtain ⟨ho, hp⟩ := hw
  simp only at ho hp
  subst ho
  cases hp with
  | cut hh hs =>
    have ho : (s'.setOutput o).streams = (t'.setOutput o).streams := by
      rw [Thread.setOutput, Thread.setOutput, hs]
    exact .cut hh ho
  | same he hst =>
    cases e with
    | done | failed | unwound => exact .same nofun (hst.setOutput _)
    | exited => exact absurd rfl he

variable {entry : Computation}

/-- The entry runs inside a trap, where nothing is cut off; what is left is the frame. -/
theorem Thread.drive_parallel (hst : Alike h s t) (printer : Printer)
    (he : ∀ s t, Alike .unwind s t →
      Parallel (Ending.unwound .raised) .exited .unwind (entry s) (entry t)) :
    Parallel (RunEnd.unwound .raised) .exited h (s.drive .process printer entry)
      (t.drive .process printer entry) := by
  -- under the unwinding hook on both sides the entry comes to the same end
  obtain ⟨e, s', t', hs, ht, hne, hin⟩ := (he _ _ hst.clearMessage.enterTrap).of_unwind
  have hout := hst.clearMessage.leaveTrap hin
  unfold drive catching
  rw [hs, ht]
  cases e with
  | exited => exact absurd rfl hne
  | next => exact hout.finishReturned printer .void
  | returned v => exact hout.finishReturned printer v
  | unwound p =>
    cases p with
    | raised => exact hout.finishRaised
    | words | boxed | number => exact .same nofun (hout.log _)

/-- A run begins on the same streams on both sides. -/
theorem Alike.enterRun (hst : Alike h s t) (setup : RunSetup) :
    Alike h (s.enterRun setup) (t.enterRun setup) := by
  unfold Thread.enterRun
  rw [hst.streams]
  split
  · exact hst
  · exact ⟨hst.either, hst.first, hst.second, hst.stash, rfl, hst.told⟩

/-- Behind a run both sides have the same streams, also where one has come to its end within it. -/
theorem Alike.leaveRun_streams (hst : Alike h s t) (setup : RunSetup) {s' t' : Thread}
    (hs : s'.streams = t'.streams) :
    (s.leaveRun setup s').streams = (t.leaveRun setup t').streams := by
  unfold Thread.leaveRun
  rw [hst.streams]
  split
  · exact hs
  · rfl

/-- Behind a run both sides are alike again. -/
theorem Alike.leaveRun (hst : Alike h s t) (setup : RunSetup) {s' t' : Thread}
    (hafter : Alike h s' t') : Alike h (s.leaveRun setup s') (t.leaveRun setup t') := by
  refine ⟨hafter.either, ?_, ?_, ?_, hst.leaveRun_streams setup hafter.streams, ?_⟩
  · rw [Thread.leaveRun_hook, hafter.first]
  · rw [Thread.leaveRun_hook, hafter.second]
  · rw [Thread.leaveRun_stash, Thread.leaveRun_stash, hafter.stash]
  · rw [Thread.leaveRun_told, Thread.leaveRun_told, hafter.told]

/-- A run within a program goes side by side if its entry does under the unwinding hook, which is in
both slots there. -/
theorem Thread.runWith_parallel (hst : Alike h s t) (setup : RunSetup)
    (he : ∀ s t, Alike .unwind s t →
      Parallel (Ending.unwound .raised) .exited .unwind (entry s) (entry t)) :
    Parallel (Ending.unwound .raised) .exited h (s.runWith .process setup entry)
      (t.runWith .process setup entry) := by
  have hd := drive_parallel (hst.enterRun setup) setup.printer he
  unfold runWith
  generalize (s.enterRun setup).drive .process setup.printer entry = r at hd ⊢
  generalize (t.enterRun setup).drive .process setup.printer entry = r' at hd ⊢
  cases hd with
  -- the printer of the run has raised, behind the trap of its entry
  | cut hh hs => exact .cut hh (hst.leaveRun_streams setup hs)
  | same hne hafter =>
    next e s' t' =>
    have hl := hst.leaveRun setup hafter
    cases e with
    | finished | unwound =>
      simp only [afterRun, hafter.streams]
      exact .same nofun (hl.note _)
    | exited => exact absurd rfl hne

end

/-! ## Blocks -/

/-- By induction on the program: every trap and every run makes the slots equal for what is inside,
so that only a raise outside of them tells the two threads apart. -/
theorem Block.steps_parallel {b : Block} (hb : b.KeepsHook) {h : Hook} {s t : Thread}
    (hst : Alike h s t) : (b.steps .process [] s).Parallel h (b.steps .process [] t) := by
  induction b generalizing h s t with
  | done => exact .same nofun hst
  | act a rest ih =>
    obtain ⟨ha, hr⟩ := hb
    exact (Act.perform_parallel ha hst).andThen fun s t hst => ih hr hst
  | scope body rest ihb ihr =>
    obtain ⟨hbody, hrest⟩ := hb
    have hl := (ihb hbody hst).leave
    simp only [steps]
    generalize (body.steps .process [] s).leave = r at hl ⊢
    generalize (body.steps .process [] t).leave = r' at hl ⊢
    cases hl with
    | cut hh hs => exact .cut hh hs
    | same hne hin =>
      next e s' t' =>
      cases e with
      | next => exact ihr hrest (hin.note .scopeLeft)
      | returned v => exact .same nofun (hin.note .scopeLeft)
      | unwound p => exact .same nofun hin
      | exited => exact absurd rfl hne
  | trap body handler rest ihb ihh ihr =>
    obtain ⟨hbody, hhandler, hrest⟩ := hb
    -- in the trap both slots hold the unwinding hook, so the body is not cut off
    obtain ⟨e, s', t', hs, ht, hne, hin⟩ := (ihb hbody hst.enterTrap).leave.of_unwind
    have hout := hst.leaveTrap hin
    simp only [steps, Thread.catching]
    rw [hs, ht]
    cases e with
    | next | returned => exact ihr hrest (hout.note _)
    | exited => exact absurd rfl hne
    | unwound p =>
      cases p with
      | words | boxed | number => exact .same nofun (hout.note .trapPassed)
      | raised =>
        -- the handler runs under the hooks from before, and may be cut off again
        have hh := (ihh hhandler (hout.note .trapCaught)).leave
        simp only [afterTrap]
        generalize (handler.steps .process [] ((s'.setHook s.hook).note .trapCaught)).leave = r
          at hh ⊢
        generalize (handler.steps .process [] ((t'.setHook t.hook).note .trapCaught)).leave = r'
          at hh ⊢
        cases hh with
        | cut hh hs => exact .cut hh hs
        | same hne hin =>
          next e _ _ =>
          cases e with
          | next => exact ihr hrest hin
          | returned | unwound => exact .same nofun hin
          | exited => exact absurd rfl hne
  | run setup entry rest ihe ihr =>
    obtain ⟨hentry, hrest⟩ := hb
    have hin (s t : Thread) (hst : Alike .unwind s t) :
        Parallel (Ending.unwound .raised) .exited .unwind (entry.exec .process s)
          (entry.exec .process t) := (ihe hentry hst).leave
    have hr := Thread.runWith_parallel hst setup hin
    have hexec : (fun t => (entry.steps .process [] t).leave) = entry.exec .process := rfl
    simp only [steps]
    rw [hexec]
    generalize s.runWith .process setup (entry.exec .process) = r at hr ⊢
    generalize t.runWith .process setup (entry.exec .process) = r' at hr ⊢
    -- a run is cut off where its printer raises, which it does outside the trap of the run
    cases hr with
    | cut hh hs => exact .cut hh hs
    | same hne hafter =>
      next e _ _ =>
      cases e with
      | next => exact ihr hrest hafter
      | returned | unwound => exact .same nofun hafter
      | exited => exact absurd rfl hne
  | choose next ih =>
    obtain ⟨hblind, hnext⟩ := hb
    -- the two see the same but for hooks, so they go on as the same program
    simp only [steps]
    rw [hblind s.sight t.sight hst.unhooked]
    exact ih t.sight (hnext t.sight) hst
  | contain | spawn => exact hb.elim

end Epilogue
