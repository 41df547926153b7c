import Epilogue.Process
import Epilogue.Proofs.Run.Transcript
import Epilogue.Proofs.Trap.Extent
import Epilogue.Proofs.Trap.Wording

/-!
# Epilogue — messages do not reach the output

Nothing that a program does is decided by how its messages are worded. Two programs that differ in
these texts alone take the same steps side by side: they write and read the same, and they see the
same of the slot and of the stash. What differs is told to the log, to the report and to a program
that takes a message.

* `Computation.Reworded`, `Progress.Accord` — computations and steps that go side by side.

Main results:

* `Block.steps_reworded` — the steps of two such blocks do;
* `Thread.drive_reworded` — and so do two runs;
* `texts_make_no_difference` — output, input, control, hooks and status of two runs.
-/

namespace Epilogue

variable {W : String → String → Prop}

/-! ## Steps -/

namespace Progress.Reworded

variable {p q : Progress}

/-- The guards of two blocks put back hooks that correspond. -/
theorem leave (h : p.Reworded W q) : SideBySide W Eq p.leave q.leave := by
  obtain ⟨e, gs, s⟩ := p
  obtain ⟨e', gs', t⟩ := q
  obtain ⟨he, hgs, hst⟩ := h
  obtain rfl : e = e' := he
  cases e with
  | exited => exact ⟨rfl, hst⟩
  | next | returned | unwound => exact ⟨rfl, hst.dropGuards hgs⟩

end Progress.Reworded

/-- Steps that differ in texts go side by side. -/
theorem Act.perform_reworded {a a' : Act} (ha : a.Reworded W a') (host : Host) {gs gs' : List Guard}
    (hgs : List.Forall₂ (Guard.Reworded W) gs gs') {s t : Thread} (hst : s.Reworded W t) :
    (a.perform host gs s).Reworded W (a'.perform host gs' t) := by
  cases ha with
  | setMessage m m' => exact ⟨rfl, hgs, (hst.setMessage m m').note (.same _)⟩
  | raise hm =>
    have hraise := Thread.raiseUnder_reworded (hst.note (.same .raising)) host hm
    exact ⟨hraise.ending, hgs, hraise.thread⟩
  | replaceHook hh => exact ⟨rfl, hgs, (hst.replaceHook hh).note (.hookReplaced hst.hook)⟩
  | install hh name =>
    -- the new guards have saved what was in the two slots
    have hnew : Guard.Reworded W ⟨name, s.hook⟩ ⟨name, t.hook⟩ := ⟨rfl, hst.hook⟩
    have hmade := List.rel_append hgs (.cons hnew .nil)
    exact ⟨rfl, hmade, (hst.replaceHook hh).note (.same _)⟩
  | render v hp =>
    obtain ⟨e, o, s', t', hs, ht, hst'⟩ := v.write_reworded hp hst host (.direct .unlimited)
    simp only [perform, Value.renderWith, hs, ht]
    cases e with
    | done | failed => exact ⟨rfl, hgs, hst'.note (.same _)⟩
    | unwound | exited => exact ⟨rfl, hgs, hst'⟩
  | same hnone =>
    cases a with
    | setMessage | raise | replaceHook | install | render => exact absurd trivial hnone
    | look | «return» => exact ⟨rfl, hgs, hst.note (.same _)⟩
    | panic p => exact ⟨rfl, hgs, (hst.note (.same _)).alarm p⟩
    | clearMessage => exact ⟨rfl, hgs, hst.clearMessage.note (.same _)⟩
    -- the two messages that are taken may differ, but there are two or none
    | takeMessage => exact ⟨rfl, hgs, hst.clearMessage.note (.messageTaken hst.stash)⟩
    | unwrap expected v =>
      simp only [perform]
      cases WrongShape.find? expected v with
      | some w => exact ⟨rfl, hgs, (hst.note (.same _)).alarm _⟩
      | none => exact ⟨rfl, hgs, (hst.note (.same _)).note (.same _)⟩
    | drop name =>
      obtain ⟨hfind, herase⟩ := Guard.find_reworded hgs name
      simp only [perform]
      generalize gs.find? (fun g => g.name == name) = found at hfind ⊢
      generalize gs'.find? (fun g => g.name == name) = found' at hfind ⊢
      cases hfind with
      | none => exact ⟨rfl, hgs, hst.note (.same _)⟩
      | some hg => exact ⟨rfl, herase, (hst.setHook hg.displaced).note (.same _)⟩
    -- both act on the same streams, and leave the same behind
    | write | flush | read | readLine | returnByte =>
      simp only [perform]
      rw [hst.currentStreams]
      exact ⟨rfl, hgs, (hst.setStreams _).note (.same _)⟩

/-! ## Runs -/

/-- Two computations that go side by side. -/
def Computation.Reworded (W : String → String → Prop) (f f' : Computation) : Prop :=
  ∀ s t : Thread, s.Reworded W t → SideBySide W Eq (f s) (f' t)

namespace Thread

variable {s t : Thread}

/-- A frame ends in the same way on both sides, with the fault of the output or with the outcome. -/
theorem closeRun_reworded {outcome outcome' : Outcome}
    (ho : RunEnd.Reworded (.finished (.ok outcome)) (.finished (.ok outcome')))
    (hst : s.Reworded W t) (framed : Attempt Output) :
    SideBySide W RunEnd.Reworded (s.closeRun outcome framed) (t.closeRun outcome' framed) := by
  refine ⟨?_, hst.setOutput framed.state⟩
  unfold closeRun
  cases framed.fault with
  | none => exact ho
  | some f => exact .same _

/-- The frame of a raise is `err` and a newline, whatever the message is. -/
theorem finishRaised_reworded (hst : s.Reworded W t) :
    SideBySide W RunEnd.Reworded s.finishRaised t.finishRaised := by
  rw [finishRaised, finishRaised, hst.output]
  exact closeRun_reworded (.raised hst.stash) (hst.clearMessage.log (.entryRaised hst.stash)) _

/-- Traps around bodies that go side by side do so too. -/
theorem catching_reworded {body body' : Computation} (hst : s.Reworded W t)
    (hb : body.Reworded W body') : SideBySide W Eq (s.catching body) (t.catching body') := by
  obtain ⟨e, s', t', hs, ht, hst'⟩ := (hb _ _ (hst.replaceHook .unwind)).elim
  simp only [catching, hs, ht]
  cases e with
  | exited => exact ⟨rfl, hst'⟩
  | next | returned | unwound => exact ⟨rfl, hst'.setHook hst.hook⟩

theorem enterRun_reworded (setup setup' : RunSetup) (hshared : setup.shared = setup'.shared)
    (hstreams : setup.streams = setup'.streams) (hst : s.Reworded W t) :
    (s.enterRun setup).Reworded W (t.enterRun setup') := by
  unfold enterRun
  rw [hshared, hstreams, hst.streams]
  split
  · exact hst
  · exact { hst with streams := rfl }

theorem leaveRun_reworded (setup setup' : RunSetup) (hshared : setup.shared = setup'.shared)
    (hst : s.Reworded W t) {s' t' : Thread} (hafter : s'.Reworded W t') :
    (s.leaveRun setup s').Reworded W (t.leaveRun setup' t') := by
  unfold leaveRun
  rw [hshared, hst.streams]
  split
  · exact hafter
  · exact { hafter with streams := rfl }

variable {printer printer' : Printer} (hp : printer.Reworded printer') (host : Host)

include hp

/-- The frame of a value is the same, up to a message with which the printers raise. -/
theorem finishReturned_reworded (v : Value) (hst : s.Reworded W t) : SideBySide W RunEnd.Reworded
    (s.finishReturned host printer v) (t.finishReturned host printer' v) := by
  obtain ⟨e, o, s', t', hs, ht, hst'⟩ :=
    v.write_reworded hp (hst.log (.same (.entryReturned v.shape))) host t.output
  rw [finishReturned, finishReturned, hst.output, hs, ht]
  cases e with
  | done => exact closeRun_reworded (.same _) hst' _
  | failed | unwound | exited => exact ⟨.same _, hst'.setOutput o⟩

/-- The frames of two runs that ended in the same way are the same, up to the message that
is reported. -/
theorem afterEntry_reworded (e : Ending) (hst : s.Reworded W t) : SideBySide W RunEnd.Reworded
    (afterEntry host printer (e, s)) (afterEntry host printer' (e, t)) := by
  cases e with
  | exited => exact ⟨.same _, hst⟩
  | next => exact finishReturned_reworded hp host .void hst
  | returned v => exact finishReturned_reworded hp host v hst
  | unwound p =>
    cases p with
    | raised => exact finishRaised_reworded hst
    | words | boxed | number => exact ⟨.same _, hst.log (.same _)⟩

/-- Two runs go side by side if their entries do. -/
theorem drive_reworded {entry entry' : Computation} (he : entry.Reworded W entry')
    (hst : s.Reworded W t) : SideBySide W RunEnd.Reworded (s.drive host printer entry)
      (t.drive host printer' entry') := by
  obtain ⟨e, s', t', hs, ht, hst'⟩ := (catching_reworded hst.clearMessage he).elim
  rw [drive, drive, hs, ht]
  exact afterEntry_reworded hp host e hst'

/-- Runs within programs go side by side if their entries do. -/
theorem runWith_reworded (shared : Bool) (streams : Streams) {entry entry' : Computation}
    (he : entry.Reworded W entry') (hst : s.Reworded W t) :
    SideBySide W Eq (s.runWith host ⟨printer, shared, streams⟩ entry)
      (t.runWith host ⟨printer', shared, streams⟩ entry') := by
  let setup : RunSetup := ⟨printer, shared, streams⟩
  let setup' : RunSetup := ⟨printer', shared, streams⟩
  obtain ⟨hhow, hafter⟩ := drive_reworded hp host he
    (enterRun_reworded setup setup' rfl rfl hst)
  rw [runWith, runWith]
  generalize (s.enterRun setup).drive host printer entry = r at hhow hafter ⊢
  generalize (t.enterRun setup').drive host printer' entry' = r' at hhow hafter ⊢
  obtain ⟨how, s'⟩ := r
  obtain ⟨how', t'⟩ := r'
  have hleft := leaveRun_reworded setup setup' rfl hst hafter
  have hview : s'.streams = t'.streams := hafter.streams
  -- a run that has come to an end lets both programs go on, and tells them of it
  cases hhow with
  | raised hm =>
    simp only [afterRun, hview]
    exact ⟨rfl, hleft.note (.runLeft _ (.raised hm))⟩
  | same =>
    cases how with
    | finished | unwound =>
      simp only [afterRun, hview]
      exact ⟨rfl, hleft.note (.runLeft _ (.same _))⟩
    | exited => exact ⟨rfl, hleft⟩

end Thread

/-! ## Blocks -/

/-- Steps that go side by side, whatever guards are alive. -/
def Progress.Accord (W : String → String → Prop) (next next' : List Guard → Thread → Progress) :
    Prop :=
  ∀ gs gs' s t, List.Forall₂ (Guard.Reworded W) gs gs' → s.Reworded W t →
    (next gs s).Reworded W (next' gs' t)

namespace Block

variable {next next' : List Guard → Thread → Progress} (hn : Progress.Accord W next next')
  {gs gs' : List Guard} (hgs : List.Forall₂ (Guard.Reworded W) gs gs') {s t : Thread}

include hn hgs

/-- What follows handlers or runs goes side by side if the rests of the blocks do. -/
theorem afterPlain_reworded (e : Ending) (hst : s.Reworded W t) :
    (afterPlain next gs (e, s)).Reworded W (afterPlain next' gs' (e, t)) := by
  cases e with
  | next => exact hn gs gs' s t hgs hst
  | returned | unwound | exited => exact ⟨rfl, hgs, hst⟩

/-- The same behind blocks with guards of their own. -/
theorem afterScope_reworded (e : Ending) (hst : s.Reworded W t) :
    (afterScope next gs (e, s)).Reworded W (afterScope next' gs' (e, t)) := by
  cases e with
  | next => exact hn gs gs' _ _ hgs (hst.note (.same _))
  | returned => exact ⟨rfl, hgs, hst.note (.same _)⟩
  | unwound | exited => exact ⟨rfl, hgs, hst⟩

/-- The same behind the bodies of traps, if the handlers go side by side. -/
theorem afterTrap_reworded {handler handler' : Computation} (hh : handler.Reworded W handler')
    (e : Ending) (hst : s.Reworded W t) :
    (afterTrap next gs handler (e, s)).Reworded W (afterTrap next' gs' handler' (e, t)) := by
  cases e with
  | next | returned => exact hn gs gs' _ _ hgs (hst.note (.same _))
  | exited => exact ⟨rfl, hgs, hst⟩
  | unwound p =>
    cases p with
    | words | boxed | number => exact ⟨rfl, hgs, hst.note (.same _)⟩
    | raised =>
      -- both raises are caught here, and both handlers begin
      obtain ⟨e, s', t', hs, ht, hst'⟩ := (hh _ _ (hst.note (.same .trapCaught))).elim
      simp only [afterTrap, hs, ht]
      exact afterPlain_reworded hn hgs e hst'

/-- The same behind blocks in which every unwinding is stopped. -/
theorem afterContain_reworded (e : Ending) (hst : s.Reworded W t) :
    (afterContain next gs (e, s)).Reworded W (afterContain next' gs' (e, t)) := by
  cases e with
  | next | returned | unwound => exact hn gs gs' _ _ hgs (hst.note (.same _))
  | exited => exact ⟨rfl, hgs, hst⟩

/-- The same behind the joins of threads. -/
theorem afterSpawn_reworded (e : Ending) (hst : s.Reworded W t) :
    (afterSpawn next gs s e).Reworded W (afterSpawn next' gs' t e) := by
  cases e with
  | next | returned | unwound => exact hn gs gs' _ _ hgs (hst.note (.same _))
  | exited => exact ⟨rfl, hgs, hst⟩

omit hn hgs in
/-- By induction on how the two programs correspond: no step is decided by a text, so the second
program goes on wherever the first one does, and with what corresponds to it. -/
theorem steps_reworded {b b' : Block} (hb : b.Reworded W b') (host : Host) :
    Progress.Accord W (b.steps host) (b'.steps host) := by
  have hexec {b b' : Block} {host : Host} (h : Progress.Accord W (b.steps host) (b'.steps host)) :
      Computation.Reworded W (b.exec host) (b'.exec host) :=
    fun s t hst => (h [] [] s t .nil hst).leave
  induction hb generalizing host with
  | done => exact fun _ _ _ _ hgs hst => ⟨rfl, hgs, hst⟩
  | choose _ ih =>
    -- what the two see differs in texts alone, so the choice is one of the same kind
    exact fun gs gs' s t hgs hst => ih s.sight t.sight hst.sight host gs gs' s t hgs hst
  | @act a a' rest rest' ha _ ih =>
    intro gs gs' s t hgs hst
    obtain ⟨hending, hguards, hthread⟩ := Act.perform_reworded ha host hgs hst
    simp only [steps]
    generalize a.perform host gs s = p at hending hguards hthread ⊢
    generalize a'.perform host gs' t = q at hending hguards hthread ⊢
    obtain ⟨e, gs, s⟩ := p
    obtain ⟨e', gs', t⟩ := q
    obtain rfl : e = e' := hending
    cases e with
    | next => exact ih host gs gs' s t hguards hthread
    | returned | unwound | exited => exact ⟨rfl, hguards, hthread⟩
  | scope _ _ ihb ihr =>
    intro gs gs' s t hgs hst
    obtain ⟨e, s', t', hs, ht, hst'⟩ := (hexec (ihb host) s t hst).elim
    rw [steps_scope, steps_scope, hs, ht]
    exact afterScope_reworded (ihr host) hgs e hst'
  | trap _ _ _ ihb ihh ihr =>
    intro gs gs' s t hgs hst
    obtain ⟨e, s', t', hs, ht, hst'⟩ := (Thread.catching_reworded hst (hexec (ihb host))).elim
    rw [steps_trap, steps_trap, hs, ht]
    exact afterTrap_reworded (ihr host) hgs (hexec (ihh host)) e hst'
  | contain _ _ ihb ihr =>
    intro gs gs' s t hgs hst
    obtain ⟨e, s', t', hs, ht, hst'⟩ := (hexec (ihb host) s t hst).elim
    rw [steps_contain, steps_contain, hs, ht]
    exact afterContain_reworded (ihr host) hgs e hst'
  | @spawn own _ _ _ _ _ _ ihb ihr =>
    intro gs gs' s t hgs hst
    -- the threads that are spawned begin as every thread does, and only their traces come back
    have hfresh : Thread.fresh.Reworded W .fresh := ⟨.exit, rfl, rfl, .nil, .nil⟩
    obtain ⟨e, s', t', hs, ht, hst'⟩ := (hexec (ihb own) _ _ hfresh).elim
    rw [steps_spawn, steps_spawn, hs, ht]
    exact afterSpawn_reworded (ihr host) hgs e (hst.join hst'.trace)
  | run shared streams hp _ _ ihe ihr =>
    intro gs gs' s t hgs hst
    obtain ⟨e, s', t', hs, ht, hst'⟩ :=
      (Thread.runWith_reworded hp host shared streams (hexec (ihe host)) hst).elim
    rw [steps_run, steps_run, hs, ht]
    exact afterPlain_reworded (ihr host) hgs e hst'

omit hn hgs in
/-- So blocks from end to end go side by side. -/
theorem exec_reworded {b b' : Block} (hb : b.Reworded W b') (host : Host) :
    Computation.Reworded W (b.exec host) (b'.exec host) :=
  fun s t hst => (steps_reworded hb host [] [] s t .nil hst).leave

end Block

/-! ## The hook that a run leaves -/

section

variable {s t : Thread} (hst : s.hook = t.hook)

include hst

/-- Two printers that correspond leave the same hook, if they have found the same. -/
theorem Finish.after_left {finish finish' : Finish} (hf : finish.Reworded finish') (host : Host)
    (r : Attempt Output) :
    (finish.after host s r).2.2.hook = (finish'.after host t r).2.2.hook := by
  obtain ⟨o, fault⟩ := r
  -- what a raise leaves depends on the hook alone, not on the text of its message
  have hraise (m m' : String) : (s.raiseUnder host (some m)).2.hook =
      (t.raiseUnder host (some m')).2.hook := by
    rw [Thread.raiseUnder_left, Thread.raiseUnder_left, hst]
  cases fault with
  | some f => cases hf <;> exact hst
  | none =>
    cases hf with
    | raises m m' => exact hraise m m'
    | same =>
      cases finish with
      | raises m => exact hraise m m
      | done | fails | panics => exact hst

variable {printer printer' : Printer} (hp : printer.Reworded printer') (host : Host)

include hp

theorem Value.write_left (v : Value) (o : Output) :
    (v.write host printer o s).2.2.hook = (v.write host printer' o t).2.2.hook := by
  obtain ⟨hwrites, hfinish⟩ := v.printout_reworded hp
  simp only [write, Printout.write, hwrites]
  split
  · have hlog : (s.log .invalidRendered).hook = (t.log .invalidRendered).hook := hst
    exact Finish.after_left hlog hfinish host _
  · exact Finish.after_left hst hfinish host _

namespace Thread

theorem finishReturned_left (ho : s.output = t.output) (v : Value) :
    (s.finishReturned host printer v).2.hook = (t.finishReturned host printer' v).2.hook := by
  rw [finishReturned, finishReturned, afterPrinting_hook, afterPrinting_hook, ho]
  have hlog : (s.log (.entryReturned v.shape)).hook = (t.log (.entryReturned v.shape)).hook := hst
  exact Value.write_left hlog hp host v t.output

/-- Frames of two runs that ended in the same way leave the same hook. -/
theorem afterEntry_left (ho : s.output = t.output) (e : Ending) :
    (afterEntry host printer (e, s)).2.hook = (afterEntry host printer' (e, t)).2.hook := by
  cases e with
  | exited => exact hst
  | next => exact finishReturned_left hst hp host ho .void
  | returned v => exact finishReturned_left hst hp host ho v
  | unwound p => cases p <;> exact hst

omit hst in
/-- Two runs that begin on one thread leave one hook. The slot is that from before when the frames
begin, and a printer that raises leaves in it what this hook leaves. -/
theorem drive_left {entry entry' : Computation} (he : entry.Reworded W entry') {t : Thread}
    (ht : t.Reworded W t) (hne : (t.drive host printer entry).1 ≠ .exited) :
    (t.drive host printer entry).2.hook = (t.drive host printer' entry').2.hook := by
  obtain ⟨e, s, s', hs, hs', hst⟩ := (catching_reworded ht.clearMessage he).elim
  rw [drive, hs] at hne
  have hentered : e ≠ .exited := by
    rintro rfl
    exact hne rfl
  -- the trap around the entry has put the one hook from before back on both sides
  have hhook : s.hook = s'.hook :=
    (hook_of_catching hs hentered).trans (hook_of_catching hs' hentered).symm
  rw [drive, drive, hs, hs']
  exact afterEntry_left hhook hp host hst.output e

end Thread

end

/-! ## Processes -/

/-- Two processes that run entries which go side by side leave the same output and the
same status. -/
theorem World.start_reworded {entry entry' : Computation} (he : entry.Reworded W entry') (w : World)
    (n n' : Nat) : (w.start entry n).output = (w.start entry' n').output ∧
      (w.start entry n).status = (w.start entry' n').status := by
  have hp : Printer.literal.Reworded Printer.literal := fun _ => ⟨rfl, .same _⟩
  have hinitial : w.initial.Reworded W w.initial := ⟨.exit, rfl, rfl, .nil, .nil⟩
  obtain ⟨hhow, hthread⟩ := Thread.drive_reworded hp .process he hinitial
  unfold start drive
  cases w.filter with
  | error tear => exact ⟨rfl, rfl⟩
  | ok f =>
    simp only
    generalize w.initial.drive .process .literal entry = r at hhow hthread ⊢
    generalize w.initial.drive .process .literal entry' = r' at hhow hthread ⊢
    obtain ⟨how, t⟩ := r
    obtain ⟨how', t'⟩ := r'
    have ho : t.output = t'.output := hthread.output
    -- a raise has status 1 whatever its message is
    cases hhow with
    | raised => exact ⟨ho, rfl⟩
    | same =>
      cases how with
      | finished | unwound => exact ⟨ho, rfl⟩
      | exited => exact ⟨congrArg Output.takeLeave ho, rfl⟩

/-! ## Main results -/

/--
**Texts make no difference.** Take two entries that differ in the texts of their messages, and two
printers that differ so. On any thread and any streams their runs write the same, with the same
flushes, and read the same; they take the same steps, note by note and record by record, and at each
note the slots correspond and both or neither have a message stashed; and they come to the same kind
of end, with the same shape or the same fault, and leave the same hook. What may differ is a message
that is taken, that a run reports or that the log is told. With hooks that stash the same texts,
where `W` is equality, the slots are the same at each note. So a process leaves the same output and
the same status.
-/
theorem texts_make_no_difference (hW : ∀ m, W m m) {printer printer' : Printer}
    (hp : printer.Reworded printer') {entry entry' : Block} (he : entry.Reworded W entry') :
    (∀ (host : Host) (t : Thread),
      let first := t.drive host printer (entry.exec host)
      let second := t.drive host printer' (entry'.exec host)
      first.2.streams = second.2.streams ∧
      List.Forall₂ (Event.Reworded W) first.2.trace second.2.trace ∧
      List.Forall₂ (Happening.Reworded W) first.2.told second.2.told ∧
      first.1.Reworded second.1 ∧ first.2.stash.isSome = second.2.stash.isSome ∧
      first.2.hook.Reworded W second.2.hook ∧
      (first.1 ≠ .exited → first.2.hook = second.2.hook) ∧
      (W = Eq → first.2.trace.filterMap Event.slot? = second.2.trace.filterMap Event.slot?)) ∧
    (∀ (w : World) (n n' : Nat),
      let d := w.start (entry.exec .process) n
      let d' := w.start (entry'.exec .process) n'
      d.output = d'.output ∧ d.status = d'.status) := by
  refine ⟨?_, fun w n n' => w.start_reworded (Block.exec_reworded he .process) n n'⟩
  intro host t first second
  have ht : t.Reworded W t := .refl hW t
  have hexec := Block.exec_reworded he host
  obtain ⟨hend, hthread⟩ := Thread.drive_reworded hp host hexec ht
  refine ⟨hthread.streams, hthread.trace, hthread.told, hend, hthread.stash, hthread.hook,
    fun hne => Thread.drive_left hp host hexec ht hne, ?_⟩
  rintro rfl
  exact Event.slots_reworded hthread.trace

/-- An entry that stashes a message, recovers from a raise with it, installs a hook that stashes it,
makes a run that reports it, and goes on by whether one is stashed. At last it returns a character
whose printer raises with it. -/
def confides (m : String) : Block :=
  .act (.setMessage m) <| .trap (.act (.raise (some m)) .done) .done <|
    .act (.install (.stashes m .unwind) "guard") <|
      .run ⟨fun _ => ⟨[Printer.sign], .raises m⟩, true, .detached⟩ (.act (.raise (some m)) .done) <|
        .choose fun s =>
          if s.hasMessage then .act .takeMessage .done
          else .act (.write (Utf8.encode "none")) (.act (.raise (some m)) .done)

/-- With an open and with a secret message the entries write the same and end in the same way. -/
theorem confides_alike :
    let t : Thread := { Thread.fresh with streams := some .detached }
    let printer (m : String) : Printer := fun _ => ⟨[Printer.sign], .raises m⟩
    let first := t.drive .process (printer "open") ((confides "open").exec .process)
    let second := t.drive .process (printer "secret") ((confides "secret").exec .process)
    first.2.streams = second.2.streams ∧ first.1.Reworded second.1 ∧
      first.2.hook = second.2.hook := by
  intro t printer first second
  have hp (m m' : String) : (printer m).Reworded (printer m') := fun _ => ⟨rfl, .raises m m'⟩
  have he : (confides "open").Reworded (fun _ _ => True) (confides "secret") := by
    refine .act (.setMessage _ _) <| .trap (.act (.raise rfl) .done) .done <|
      .act (.install (.stashes trivial .unwind) _) <|
        .run true .detached (hp _ _) (.act (.raise rfl) .done) <| .choose fun s s' hs => ?_
    -- whether a message is stashed is the same on both sides
    rw [hs.hasMessage]
    split
    · exact .act (.same (by simp [Act.MayStash])) .done
    · exact .act (.same (by simp [Act.MayStash])) (.act (.raise rfl) .done)
  have hleft : first.1 ≠ .exited := nofun
  obtain ⟨hstreams, -, -, hend, -, -, hhook, -⟩ :=
    (texts_make_no_difference (fun _ => trivial) (hp "open" "secret") he).1 .process t
  exact ⟨hstreams, hend, hhook hleft⟩

/-- An entry that stashes a message, takes it back and writes what it has taken. -/
def discloses (m : String) : Block :=
  .act (.setMessage m) <| .act .takeMessage <| .choose fun s =>
    match s.told.getLast? with
    | some (.messageTaken (some text)) => .act (.write (Utf8.encode text)) .done
    | _ => .done

/-- Such an entry leaves its message on the output. -/
theorem discloses_holding (m : String) :
    let t : Thread := { Thread.fresh with streams := some .detached }
    (t.drive .process .literal ((discloses m).exec .process)).2.Holding (Utf8.encode m) := by
  intro t
  let taken : Thread := (((t.clearMessage.replaceHook .unwind).setMessage m).note
    .messageSet).clearMessage.note (.messageTaken (some m))
  have htaken : taken.Holding [] := ⟨_, rfl, Output.received_unlimited⟩
  have hwritten := (Act.write (Utf8.encode m)).perform_holding .process [] htaken
  -- the entry runs off its end, and that adds nothing
  have he : (discloses m).exec .process (t.clearMessage.replaceHook .unwind) = (.next, _) := rfl
  have hp : Printer.literal.Returns := fun _ => rfl
  have hframe := (Thread.drive_frames hp .process he hwritten).2
  have hbytes : [] ++ Utf8.encode m ++ (Offer.frame .literal .next).bytes = Utf8.encode m :=
    List.append_nil _
  exact hbytes ▸ hframe

/-- A choice that goes by a message that was taken carries its text to the output. -/
theorem discloses_apart :
    let t : Thread := { Thread.fresh with streams := some .detached }
    let left (m : String) := (t.drive .process .literal ((discloses m).exec .process)).2
    (left "a").output.finalContent = Utf8.encode "a" ∧
      (left "b").output.finalContent = Utf8.encode "b" ∧
      (left "a").streams ≠ (left "b").streams := by
  intro t left
  have hcontent (m : String) : (left m).output.finalContent = Utf8.encode m :=
    Output.finalContent_of_received (discloses_holding m).output
  refine ⟨hcontent "a", hcontent "b", fun h => ?_⟩
  -- the same streams would hold the same bytes
  have hsame : (left "a").output.finalContent = (left "b").output.finalContent := by
    rw [Thread.output, Thread.output, h]
  rw [hcontent "a", hcontent "b"] at hsame
  exact absurd hsame (by decide)

end Epilogue
