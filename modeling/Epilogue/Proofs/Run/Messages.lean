import Epilogue.Proofs.Run.Transcript

/-!
# Epilogue — the message of a run

The stash is one slot that a program shares with its hooks, its printers and the runs within it. All
that can happen to it is that a message is put into it, that its message is taken, and that it is
cleared. A block makes these *stash steps* in an order that its execution determines, and the stash
is at any time what is left by those made so far. A run clears the stash before its entry, so that
what it reports is what the stash steps of its entry leave, and nothing from before.

* `StashStep`, `stashAfter` — a stash step, and what a list of them leaves;
* `Hook.stashSteps`, `Act.stashSteps`, `Block.stashSteps` — the stash steps that are made, in order.

Main results:

* `Block.steps_stash` — the stash after the steps of a block;
* `Thread.drive_stash` — the stash after a run;
* `message_of_run` — the message that a run reports.
-/

namespace Epilogue

/-! ## Stash steps -/

/-- What happens to the stash. -/
inductive StashStep where
  /-- a message takes the place of any other -/
  | set (m : String)
  /-- the message is taken out -/
  | take
  /-- the stash is cleared -/
  | clear
  deriving DecidableEq

/-- The stash after a step. -/
def StashStep.apply : Option String → StashStep → Option String
  | _, set m => some m
  | _, take | _, clear => none

/-- The stash after some steps, in the order in which they are made. -/
def stashAfter (stash : Option String) (ops : List StashStep) : Option String :=
  ops.foldl StashStep.apply stash

theorem stashAfter_append (stash : Option String) (ops ops' : List StashStep) :
    stashAfter stash (ops ++ ops') = stashAfter (stashAfter stash ops) ops' :=
  List.foldl_append

/-- A message is left if it was the last step to put it there. -/
theorem stashAfter_none_eq_some {ops : List StashStep} {m : String} :
    stashAfter none ops = some m ↔ ops.getLast? = some (.set m) := by
  rcases List.eq_nil_or_concat ops with rfl | ⟨before, op, rfl⟩
  · exact ⟨nofun, nofun⟩
  · rw [List.concat_eq_append, stashAfter_append, List.getLast?_concat]
    cases op with
    | set m' => exact ⟨fun h => by cases h; rfl, fun h => by cases h; rfl⟩
    | take | clear => exact ⟨nofun, nofun⟩

/-! ## Hooks and printers -/

/-- The stash steps of a hook that is called. -/
def Hook.stashSteps : Hook → List StashStep
  | exit | unwind | panics _ => []
  | stashes m next | replaces next m => .set m :: next.stashSteps
  | recovers m _ => [.set m]

/-- The stash steps of a raise under a hook. A raise that a probe does not make has none. -/
def Hook.raiseSteps (host : Host) (message : Option String) (h : Hook) : List StashStep :=
  if host = .probe ∧ h = .exit then []
  else (message.map StashStep.set).toList ++ h.stashSteps

/-- The stash steps of a printer that ends after an attempt to write its pieces. -/
def Finish.stashSteps (host : Host) (h : Hook) : Finish → Option Fault → List StashStep
  | raises m, none => h.raiseSteps host (some m)
  | _, _ => []

/-- The stash steps of printing a value to an output. -/
def Value.stashSteps (host : Host) (printer : Printer) (o : Output) (h : Hook) (v : Value) :
    List StashStep :=
  (v.printout printer).finish.stashSteps host h (o.writePieces (v.printout printer).writes).fault

/-- A hook does to the stash what its listing says. -/
theorem Hook.invoke_stash (h : Hook) (t : Thread) :
    (h.invoke t).2.stash = stashAfter t.stash h.stashSteps := by
  induction h generalizing t with
  | exit | unwind | panics | recovers => rfl
  | stashes m next ih => exact ih (t.setMessage m)
  | replaces next m ih => exact ih (((t.replaceHook next).setMessage m).log .raise)

/-- A raise stashes its message, if it has one, before the hook does its part. -/
theorem Thread.raiseUnder_stash (host : Host) (m : Option String) (t : Thread) :
    (t.raiseUnder host m).2.stash = stashAfter t.stash (t.hook.raiseSteps host m) := by
  unfold raiseUnder Hook.raiseSteps
  split
  · rfl
  · cases m with
    | none => exact Hook.invoke_stash t.hook (t.log .raise)
    | some m => exact Hook.invoke_stash t.hook ((t.setMessage m).log .raise)

/-- A printer that is at its end touches the stash only by a raise. -/
theorem Finish.after_stash (host : Host) (t : Thread) (finish : Finish) (r : Attempt Output) :
    (finish.after host t r).2.2.stash =
      stashAfter t.stash (finish.stashSteps host t.hook r.fault) := by
  obtain ⟨o, f⟩ := r
  cases f with
  | some f => cases finish <;> rfl
  | none => cases finish with
    | done | fails | panics => rfl
    | raises m => exact t.raiseUnder_stash host (some m)

/-- So the writing of a value does what its printer's end does. -/
theorem Value.write_stash (host : Host) (v : Value) (printer : Printer) (o : Output) (t : Thread) :
    (v.write host printer o t).2.2.stash =
      stashAfter t.stash (v.stashSteps host printer o t.hook) := by
  rw [write, Printout.write, Finish.after_stash]
  split <;> rfl

/-! ## Steps and runs -/

/-- The stash steps of a step that holds no block. -/
def Act.stashSteps (host : Host) (t : Thread) : Act → List StashStep
  | setMessage m => [.set m]
  | clearMessage => [.clear]
  | takeMessage => [.take]
  | raise m => t.hook.raiseSteps host m
  | render v printer => v.stashSteps host printer (.direct .unlimited) t.hook
  | _ => []

/-- A step does to the stash what its listing says. -/
theorem Act.perform_stash (a : Act) (host : Host) (gs : List Guard) (t : Thread) :
    (a.perform host gs t).thread.stash = stashAfter t.stash (a.stashSteps host t) := by
  cases a with
  | raise m => exact (t.note .raising).raiseUnder_stash host m
  | unwrap expected v =>
    simp only [perform]
    split <;> rfl
  | drop name =>
    simp only [perform]
    split <;> rfl
  | render v printer =>
    -- only a raise of the printer touches the stash
    have hw := v.write_stash host printer (.direct .unlimited) t
    simp only [perform, Value.renderWith]
    generalize v.write host printer (.direct .unlimited) t = r at hw ⊢
    rcases r with ⟨_ | _ | _ | _, o, t'⟩ <;> exact hw
  | _ => rfl

namespace Thread

/-- The stash steps of the frame of a run: the message of an entry that raised is taken. -/
def frameSteps (host : Host) (printer : Printer) : Ending × Thread → List StashStep
  | (.unwound .raised, _) => [.take]
  | (.returned v, t) => v.stashSteps host printer t.output t.hook
  | _ => []

theorem dropGuards_stash (t : Thread) (gs : List Guard) : (t.dropGuards gs).stash = t.stash := by
  unfold dropGuards
  induction gs.reverse generalizing t with
  | nil => rfl
  | cons g gs ih => exact ih (t.dropGuard g)

/-- A trap leaves the stash as its body does: the message of a raise survives the recovery. -/
theorem catching_stash (t : Thread) (body : Computation) :
    (t.catching body).2.stash = (body (t.replaceHook .unwind)).2.stash := by
  unfold catching
  rcases body (t.replaceHook .unwind) with ⟨e, t'⟩
  cases e <;> rfl

/-- The frame of a value touches the stash only where the printer raises. -/
theorem finishReturned_stash (host : Host) (printer : Printer) (v : Value) (t : Thread) :
    (t.finishReturned host printer v).2.stash =
      stashAfter t.stash (v.stashSteps host printer t.output t.hook) := by
  have hw := v.write_stash host printer t.output (t.log (.entryReturned v.shape))
  rw [finishReturned]
  generalize v.write host printer t.output (t.log (.entryReturned v.shape)) = r at hw ⊢
  rcases r with ⟨_ | _ | _ | _, o, t'⟩ <;> exact hw

/-- The frame of a raise takes the message, and the frame of a value leaves it. -/
theorem afterEntry_stash (host : Host) (printer : Printer) (r : Ending × Thread) :
    (afterEntry host printer r).2.stash = stashAfter r.2.stash (frameSteps host printer r) := by
  obtain ⟨e, t⟩ := r
  cases e with
  | exited => rfl
  | next => exact t.finishReturned_stash host printer .void
  | returned v => exact t.finishReturned_stash host printer v
  | unwound p => cases p <;> rfl

/-- The stash after a run: what its entry left, and the stash steps of its frame. -/
theorem drive_stash (host : Host) (printer : Printer) (entry : Computation) (t : Thread) :
    (t.drive host printer entry).2.stash =
      stashAfter (entry (t.clearMessage.replaceHook .unwind)).2.stash
        (frameSteps host printer (t.clearMessage.catching entry)) := by
  rw [drive, afterEntry_stash, catching_stash]

/-- Behind a run within a program the stash is what the run left. -/
theorem runWith_stash (host : Host) (setup : RunSetup) (entry : Computation) (t : Thread) :
    (t.runWith host setup entry).2.stash =
      ((t.enterRun setup).drive host setup.printer entry).2.stash := by
  rw [runWith]
  rcases (t.enterRun setup).drive host setup.printer entry with ⟨_ | _ | _, after⟩ <;>
    exact t.leaveRun_stash setup after

end Thread

/-- Leaving a block puts hooks back, and the stash stays as it is. -/
theorem Progress.leave_stash (p : Progress) : p.leave.2.stash = p.thread.stash := by
  obtain ⟨e, gs, t⟩ := p
  cases e with
  | exited => rfl
  | next | returned | unwound => exact t.dropGuards_stash gs

/-! ## Blocks -/

/-- The stash steps of a block, in the order of its execution. A trap, a guard and an unwinding make
none, and a spawned thread has a stash of its own. -/
def Block.stashSteps : Block → Host → List Guard → Thread → List StashStep
  | done, _, _, _ => []
  | act a rest, host, gs, t =>
    a.stashSteps host t ++
      match a.perform host gs t with
      | ⟨.next, gs, t⟩ => rest.stashSteps host gs t
      | _ => []
  | scope body rest, host, gs, t =>
    body.stashSteps host [] t ++
      match body.exec host t with
      | (.next, t) => rest.stashSteps host gs (t.note .scopeLeft)
      | _ => []
  | trap body handler rest, host, gs, t =>
    body.stashSteps host [] (t.replaceHook .unwind) ++
      match t.catching (body.exec host) with
      | (.unwound .raised, t) =>
        handler.stashSteps host [] (t.note .trapCaught) ++
          match handler.exec host (t.note .trapCaught) with
          | (.next, t) => rest.stashSteps host gs t
          | _ => []
      | (.unwound _, _) | (.exited, _) => []
      | (e, t) => rest.stashSteps host gs (t.note (.trapLeft e.value?))
  | contain body rest, host, gs, t =>
    body.stashSteps host [] t ++
      match body.exec host t with
      | (.unwound p, t) => rest.stashSteps host gs (t.note (.panicContained p))
      | (.exited, _) => []
      | (e, t) => rest.stashSteps host gs (t.note (.containLeft e.value?))
  | spawn own body rest, host, gs, t =>
    let (e, s) := body.exec own .fresh
    let t := t.join s.trace
    match e with
    | .unwound p => rest.stashSteps host gs (t.note (.threadJoined (some p)))
    | .exited => []
    | _ => rest.stashSteps host gs (t.note (.threadJoined none))
  | run setup entry rest, host, gs, t =>
    -- a run clears the stash before its entry, and takes the message of an entry that raised
    let begun := (t.enterRun setup).clearMessage
    .clear :: entry.stashSteps host [] (begun.replaceHook .unwind) ++
      Thread.frameSteps host setup.printer (begun.catching (entry.exec host)) ++
      match t.runWith host setup (entry.exec host) with
      | (.next, t) => rest.stashSteps host gs t
      | _ => []
  | choose next, host, gs, t => (next t.sight).stashSteps host gs t

/-- The stash after the steps of a block. By induction on the block; each case follows its steps as
far as they get. -/
theorem Block.steps_stash (b : Block) (host : Host) (gs : List Guard) (t : Thread) :
    (b.steps host gs t).thread.stash = stashAfter t.stash (b.stashSteps host gs t) := by
  -- dropping the guards of a block that is left does not touch the stash
  have hexec {b : Block} (hb : ∀ gs t, (b.steps host gs t).thread.stash =
      stashAfter t.stash (b.stashSteps host gs t)) (t : Thread) :
      (b.exec host t).2.stash = stashAfter t.stash (b.stashSteps host [] t) :=
    (Progress.leave_stash _).trans (hb [] t)
  induction b generalizing gs t with
  | done => rfl
  | act a rest ih =>
    have ha := a.perform_stash host gs t
    -- the rest of the block goes on from what the step has left
    simp only [steps, stashSteps, stashAfter_append]
    rw [← ha]
    rcases a.perform host gs t with ⟨e, gs', t'⟩
    cases e with
    | next => exact ih gs' t'
    | returned | unwound | exited => rfl
  | scope body rest ihb ihr =>
    rw [steps_scope, stashSteps, stashAfter_append, ← hexec ihb]
    rcases body.exec host t with ⟨e, t'⟩
    cases e with
    | next => exact ihr gs (t'.note .scopeLeft)
    | returned | unwound | exited => rfl
  | trap body handler rest ihb ihh ihr =>
    -- the trap changes the slot at both of its ends, and leaves the stash to its body
    have hbody := hexec ihb (t.replaceHook .unwind)
    rw [← t.catching_stash, Thread.replaceHook_stash] at hbody
    rw [steps_trap, stashSteps, stashAfter_append, ← hbody]
    rcases t.catching (body.exec host) with ⟨e, t'⟩
    cases e with
    | next | returned => exact ihr gs (t'.note _)
    | exited => rfl
    | unwound p =>
      cases p with
      | words | boxed | number => rfl
      | raised =>
        simp only [afterTrap, stashAfter_append]
        have hhandler := hexec ihh (t'.note .trapCaught)
        rw [Thread.note_stash] at hhandler
        rw [← hhandler]
        rcases handler.exec host (t'.note .trapCaught) with ⟨e, t''⟩
        cases e with
        | next => exact ihr gs t''
        | returned | unwound | exited => rfl
  | contain body rest ihb ihr =>
    rw [steps_contain, stashSteps, stashAfter_append, ← hexec ihb]
    rcases body.exec host t with ⟨e, t'⟩
    cases e with
    | next | returned | unwound => exact ihr gs (t'.note _)
    | exited => rfl
  | spawn own body rest _ ihr =>
    -- the thread works on a stash of its own, and only its trace comes back
    rw [steps_spawn, stashSteps]
    rcases body.exec own .fresh with ⟨e, s⟩
    cases e with
    | next | returned | unwound => exact ihr gs ((t.join s.trace).note _)
    | exited => rfl
  | run setup entry rest ihe ihr =>
    -- the run has cleared the stash before its entry, so nothing is left of the one before it
    have hrun := t.runWith_stash host setup (entry.exec host)
    rw [Thread.drive_stash, hexec ihe, ← stashAfter_append] at hrun
    rw [steps_run, stashSteps, stashAfter_append]
    refine Eq.trans ?_ (congrArg (stashAfter · _) hrun)
    rcases t.runWith host setup (entry.exec host) with ⟨e, t'⟩
    cases e with
    | next => exact ihr gs t'
    | returned | unwound | exited => rfl
  | choose next ih => exact ih t.sight gs t

/-- A block from end to end does to the stash what its listing says. -/
theorem Block.exec_stash (b : Block) (host : Host) (t : Thread) :
    (b.exec host t).2.stash = stashAfter t.stash (b.stashSteps host [] t) :=
  (Progress.leave_stash _).trans (b.steps_stash host [] t)

/-! ## Reports -/

namespace Thread

variable {host : Host} {printer : Printer} {entry : Computation} {t : Thread}

/-- A run that is ended has its outcome, or the fault of its frame. -/
theorem closeRun_end (t : Thread) (outcome : Outcome) (r : Attempt Output) :
    (t.closeRun outcome r).1 = .finished (.ok outcome) ∨
      ∃ f, (t.closeRun outcome r).1 = .finished (.error f) := by
  unfold closeRun
  cases r.fault with
  | none => exact .inl rfl
  | some f => exact .inr ⟨f, rfl⟩

theorem closeRun_ok {outcome outcome' : Outcome} {r : Attempt Output}
    (h : (t.closeRun outcome r).1 = .finished (.ok outcome')) : outcome' = outcome := by
  rcases t.closeRun_end outcome r with hok | ⟨f, hf⟩
  · rw [hok] at h
    cases h
    rfl
  · rw [hf] at h
    cases h

/-- An entry that returned has a completed run, if the run has an outcome. -/
theorem finishReturned_ok {v : Value} {outcome : Outcome}
    (h : (t.finishReturned host printer v).1 = .finished (.ok outcome)) :
    outcome = .completed v.shape := by
  rw [finishReturned] at h
  -- a value that was not printed ends the run in another way, so the frame was written
  generalize v.write host printer t.output (t.log (.entryReturned v.shape)) = r at h
  rcases r with ⟨_ | _ | _ | _, o, t'⟩
  · exact closeRun_ok h
  · cases h
  · cases h
  · cases h

/-- Only an entry that raised makes its run report a raise, and the report has what is then in the
stash. -/
theorem drive_reports {e : Ending} {t' : Thread}
    (he : entry (t.clearMessage.replaceHook .unwind) = (e, t')) {m : Option String}
    (h : (t.drive host printer entry).1 = .finished (.ok (.raised m))) :
    e = .unwound .raised ∧ m = t'.stash := by
  rw [drive, catching, he] at h
  cases e with
  | exited => cases h
  | next => cases finishReturned_ok h
  | returned v => cases finishReturned_ok h
  | unwound p =>
    cases p with
    | words | boxed | number => cases h
    | raised =>
      -- the message is taken before the frame is written
      cases closeRun_ok (t := t'.clearMessage.log (.entryRaised t'.stash)) h
      exact ⟨rfl, rfl⟩

/-- An entry that raised makes its run report a raise, or the fault of the output that did not take
the frame. Either way its message has been taken. -/
theorem drive_of_raised {t' : Thread}
    (he : entry (t.clearMessage.replaceHook .unwind) = (.unwound .raised, t')) :
    (t.drive host printer entry).2.stash = none ∧
    ((t.drive host printer entry).1 = .finished (.ok (.raised t'.stash)) ∨
      ∃ f, (t.drive host printer entry).1 = .finished (.error f)) := by
  rw [drive, catching, he]
  exact ⟨rfl, closeRun_end (t'.clearMessage.log (.entryRaised t'.stash)) (.raised t'.stash) _⟩

end Thread

/-- A plain raise that follows a recovered one reports what the body of the trap has left. -/
theorem Block.raise_after_recovery {body : Block} {host : Host} {t : Thread}
    (ht : t.hook = .unwind)
    (h : (body.exec host (t.replaceHook .unwind)).1 = .unwound .raised) :
    ((trap body .done (.act (.raise none) .done)).exec host t).1 = .unwound .raised ∧
    (trap body .done (.act (.raise none) .done)).stashSteps host [] t =
      body.stashSteps host [] (t.replaceHook .unwind) := by
  rcases hbody : body.exec host (t.replaceHook .unwind) with ⟨e, t'⟩
  rw [hbody] at h
  have hcaught : t.catching (body.exec host) = (.unwound .raised, t'.setHook .unwind) := by
    rw [Thread.catching, hbody, ht]
    cases h
    rfl
  -- the hook from before the trap is back, and the raise goes on to the trap around it
  refine ⟨?_, ?_⟩
  · show ((trap body .done (.act (.raise none) .done)).steps host [] t).leave.1 = _
    rw [steps_trap, hcaught]
    cases host <;> rfl
  · rw [stashSteps, hcaught]
    cases host <;> exact List.append_nil _

/-! ## Main results -/

/--
**The message that a run reports.** The stash is, when the entry of a run is over, what the stash
steps of the entry leave of an empty one: a message if the last of them has put it there, and
nothing otherwise. The run reports a raise only if its entry raised, and with that message; and if
its entry raised, then the message has been taken even where the output does not take the frame.
What was stashed before the run makes no difference to it. A raise that was recovered from, and
whose message nobody took, leaves its message to a later plain raise.
-/
theorem message_of_run (host : Host) (printer : Printer) (entry : Block) (t : Thread) :
    let begun := t.clearMessage.replaceHook .unwind
    let left := entry.exec host begun
    let ops := entry.stashSteps host [] begun
    let run := t.drive host printer (entry.exec host)
    left.2.stash = stashAfter none ops ∧
    (∀ m, stashAfter none ops = some m ↔ ops.getLast? = some (.set m)) ∧
    (∀ m, run.1 = .finished (.ok (.raised m)) →
      left.1 = .unwound .raised ∧ m = stashAfter none ops) ∧
    (left.1 = .unwound .raised → run.2.stash = none ∧
      (run.1 = .finished (.ok (.raised (stashAfter none ops))) ∨
        ∃ f, run.1 = .finished (.error f))) ∧
    (∀ stale, Thread.drive host printer (entry.exec host) { t with stash := stale } = run) ∧
    (∀ body : Block, entry = .trap body .done (.act (.raise none) .done) →
      (body.exec host (begun.replaceHook .unwind)).1 = .unwound .raised →
      left.1 = .unwound .raised ∧
      ops = body.stashSteps host [] (begun.replaceHook .unwind)) := by
  intro begun left ops run
  have hstash : left.2.stash = stashAfter none ops := entry.exec_stash host begun
  -- a stale message makes no difference by computation, as the run clears the stash first
  refine ⟨hstash, fun m => stashAfter_none_eq_some, ?_, ?_, fun stale => rfl, ?_⟩
  · intro m hm
    have hexec : entry.exec host (t.clearMessage.replaceHook .unwind) = (left.1, left.2) := rfl
    have hrun := Thread.drive_reports hexec hm
    exact ⟨hrun.1, hrun.2.trans hstash⟩
  · intro hraised
    have he : entry.exec host begun = (.unwound .raised, left.2) := Prod.ext hraised rfl
    rw [← hstash]
    exact Thread.drive_of_raised he
  · intro body hentry hbody
    subst hentry
    exact Block.raise_after_recovery rfl hbody

/-- An entry that makes a run, whose entry raises, then recovers from a raise and raises again. -/
def raisesAgain : Block :=
  .run ⟨.literal, true, .detached⟩ (.act (.raise (some "inner")) .done) <|
    .trap (.act (.raise (some "kept")) .done) .done <| .act (.raise none) .done

/-- The stale message is gone, and the one of the recovered raise is reported for the raise without
a message. -/
theorem raisesAgain_reports_kept :
    let t : Thread := { Thread.fresh with stash := some "stale", streams := some .detached }
    let run := t.drive .process .literal (raisesAgain.exec .process)
    run.1 = .finished (.ok (.raised (some "kept"))) ∧ run.2.stash = none := by
  intro t run
  obtain ⟨hstash, -, -, hraised, -, -⟩ := message_of_run .process .literal raisesAgain t
  have hexec : raisesAgain.exec .process (t.clearMessage.replaceHook .unwind) =
      (.unwound .raised, (raisesAgain.exec .process (t.clearMessage.replaceHook .unwind)).2) := rfl
  refine ⟨?_, (hraised rfl).1⟩
  -- the output takes everything, and so the frame does not fail
  have hp : Printer.literal.Returns := fun _ => rfl
  have hb : raisesAgain.PrintersReturn := ⟨fun _ => ⟨hp, trivial⟩, trivial, trivial, trivial⟩
  have hbegun : (t.clearMessage.replaceHook .unwind).Holding [] :=
    ⟨_, rfl, Output.received_unlimited⟩
  have hleft : (raisesAgain.exec .process (t.clearMessage.replaceHook .unwind)).2.Holding _ :=
    (Block.steps_holding hb .process [] hbegun).congr (Progress.leave_streams _)
  obtain ⟨hend, -⟩ := Thread.drive_frames hp .process hexec hleft
  rw [hstash] at hend
  exact hend

end Epilogue
