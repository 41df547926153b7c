import Epilogue.Proofs.Run.Indifference

/-!
# Epilogue — runs do not see what was before them

A run begins by emptying the stash and installing a hook, so that its entry finds the same slot and
the same stash on every thread. Of what was before, the thread still carries the hook that the run
puts back at its end, and the trace and the memory of its program, which only grow. So two runs of
an entry on the same streams take the same steps, whatever came before either of them.

* `Past`, `History` — what a thread has behind it, and what it has been left with;
* `Thread.behind` — a thread with more behind it;
* `Block.SameAfter` — a block that chooses alike after two pasts;
* `Uniform`, `Progress.Uniform` — what does the same after two pasts;
* `Thread.runAll`, `runAlone` — runs of programs one after another, and the same runs each on a
  fresh thread.

Main results:

* `Block.steps_uniform` — the steps of a block do the same after two pasts;
* `Thread.drive_uniform` — and so does a run, whatever the stash and the hook;
* `run_independent_of_history` — two runs after two histories, and runs in sequence.
-/

namespace Epilogue

/-! ## Pasts -/

/-- What a thread has behind it. -/
structure Past where
  trace : List Event
  told : List Happening

/-- What a thread has been left with: its past, the hook in its slot and its stash. -/
structure History extends Past where
  hook : Hook
  stash : Option String

/-- A thread with that history on the given streams. -/
def History.thread (a : History) (streams : Option Streams) : Thread :=
  ⟨a.hook, a.stash, streams, a.trace, a.told⟩

namespace Thread

/-- The thread with more behind it. -/
def behind (t : Thread) (a : Past) : Thread :=
  { t with trace := a.trace ++ t.trace, told := a.told ++ t.told }

/-- Traces and memories only grow, so that what is behind them stays behind them. -/
theorem behind_unseen (a : Past) : Unseen (·.behind a) where
  hook _ := rfl
  stash _ := rfl
  emit t e := by simp only [behind, emit, List.append_assoc]
  note t what := by simp only [behind, note, emit, List.append_assoc]
  setMessage _ _ := rfl
  clearMessage _ := rfl
  setHook _ _ := rfl

theorem join_behind (t : Thread) (a : Past) (es : List Event) :
    (t.behind a).join es = (t.join es).behind a := by
  simp only [behind, join, List.append_assoc]

end Thread

/-- After either past the block chooses to go on in the same way. -/
def Block.SameAfter (a b : Past) : Block → Prop
  | done => True
  | act _ rest | spawn _ _ rest => rest.SameAfter a b
  | scope body rest | contain body rest | run _ body rest => body.SameAfter a b ∧ rest.SameAfter a b
  | trap body handler rest => body.SameAfter a b ∧ handler.SameAfter a b ∧ rest.SameAfter a b
  | choose next => ∀ hook hasMessage told,
    next ⟨hook, hasMessage, a.told ++ told⟩ = next ⟨hook, hasMessage, b.told ++ told⟩ ∧
    (next ⟨hook, hasMessage, b.told ++ told⟩).SameAfter a b

/-- A block that has been told the same before goes on in the same way. -/
theorem Block.sameAfter_of_told {a b : Past} (h : a.told = b.told) (x : Block) :
    x.SameAfter a b := by
  induction x with
  | done => trivial
  | act _ rest ih | spawn _ _ rest _ ih => exact ih
  | scope body rest ihb ihr | contain body rest ihb ihr | run _ body rest ihb ihr =>
    exact ⟨ihb, ihr⟩
  | trap body handler rest ihb ihh ihr => exact ⟨ihb, ihh, ihr⟩
  | choose next ih =>
    intro hook hasMessage told
    rw [h]
    exact ⟨rfl, ih _⟩

/-! ## The same after two pasts -/

/-- Two outcomes that differ only in what their threads have behind them. -/
def Matched (a b : Past) {ε : Type} (r r' : ε × Thread) : Prop :=
  ∃ (e : ε) (t : Thread), r = (e, t.behind a) ∧ r' = (e, t.behind b)

/-- Two states within a block that differ only in what their threads have behind them. -/
def Progress.Matched (a b : Past) (p q : Progress) : Prop :=
  ∃ x : Progress, p = x.mapThread (·.behind a) ∧ q = x.mapThread (·.behind b)

/-- What comes to the same after either past. -/
def Uniform (a b : Past) {ε : Type} (f : Thread → ε × Thread) : Prop :=
  ∀ t : Thread, Matched a b (f (t.behind a)) (f (t.behind b))

/-- Steps that come to the same after either past. -/
def Progress.Uniform (a b : Past) (next : List Guard → Thread → Progress) : Prop :=
  ∀ gs (t : Thread), Progress.Matched a b (next gs (t.behind a)) (next gs (t.behind b))

/-! ## Steps -/

/-- A step does the same whatever is behind: it looks at the slot, the stash and the
streams only. -/
theorem Act.perform_behind (x : Act) (host : Host) (gs : List Guard) (t : Thread) (a : Past) :
    x.perform host gs (t.behind a) = (x.perform host gs t).mapThread (·.behind a) := by
  have hn := (Thread.behind_unseen a).note
  by_cases hs : x.UsesStreams
  · -- the streams are those of the thread, whatever it has behind it
    cases x with
    | write bs => exact congrArg (Progress.mk .next gs) (hn (t.setStreams _) _)
    | flush => exact congrArg (Progress.mk .next gs) (hn (t.setStreams _) _)
    | read n => exact congrArg (Progress.mk .next gs) (hn (t.setStreams _) _)
    | readLine => exact congrArg (Progress.mk .next gs) (hn (t.setStreams _) _)
    | returnByte => exact congrArg (Progress.mk _ gs) (hn (t.setStreams _) _)
    | _ => exact hs.elim
  · exact perform_unseen (Thread.behind_unseen a) hs host gs t

/-! ## Runs -/

namespace Thread

variable (t : Thread) (a : Past)

/-- The frame of a raise does not look behind. -/
theorem finishRaised_behind :
    (t.behind a).finishRaised = (t.finishRaised.1, t.finishRaised.2.behind a) := by
  have hl : (t.behind a).clearMessage.log (.entryRaised (t.behind a).stash) =
      (t.clearMessage.log (.entryRaised t.stash)).behind a :=
    (behind_unseen a).log t.clearMessage (.entryRaised t.stash)
  rw [finishRaised, hl]
  rfl

theorem afterPrinting_behind (v : Value) (e : Printed) (o : Output) :
    afterPrinting v (e, o, t.behind a) =
      ((afterPrinting v (e, o, t)).1, (afterPrinting v (e, o, t)).2.behind a) := by
  cases e <;> rfl

/-- The frame of a value does not look behind, be it printed or not. -/
theorem finishReturned_behind (host : Host) (printer : Printer) (v : Value) :
    (t.behind a).finishReturned host printer v =
      ((t.finishReturned host printer v).1, (t.finishReturned host printer v).2.behind a) := by
  have hl := (behind_unseen a).log t (.entryReturned v.shape)
  have hw := Value.write_unseen (behind_unseen a) host v printer t.output
    (t.log (.entryReturned v.shape))
  rw [finishReturned, hl]
  exact (congrArg (afterPrinting v) hw).trans (afterPrinting_behind _ a v _ _)

/-- So no frame looks behind. -/
theorem afterEntry_behind (host : Host) (printer : Printer) (e : Ending) :
    afterEntry host printer (e, t.behind a) =
      ((afterEntry host printer (e, t)).1, (afterEntry host printer (e, t)).2.behind a) := by
  cases e with
  | exited => rfl
  | next => exact t.finishReturned_behind a host printer .void
  | returned v => exact t.finishReturned_behind a host printer v
  | unwound p =>
    cases p with
    | raised => exact t.finishRaised_behind a
    | words | boxed | number => exact congrArg (Prod.mk _) ((behind_unseen a).log t _)

variable {a} {b : Past}

/-- A trap around a body that does the same after two pasts does the same. -/
theorem catching_uniform {body : Computation} (h : Uniform a b body) :
    Uniform a b fun t => t.catching body := by
  intro t
  obtain ⟨e, t', ha, hb⟩ := h (t.replaceHook .unwind)
  -- the body begins under the same hook, and the one that is put back is the same as well
  have hin (c : Past) : (t.behind c).replaceHook .unwind = (t.replaceHook .unwind).behind c :=
    (behind_unseen c).replaceHook t .unwind
  simp only [catching, hin, ha, hb]
  cases e with
  | exited => exact ⟨.exited, t', rfl, rfl⟩
  | next | returned | unwound => exact ⟨_, t'.setHook t.hook, rfl, rfl⟩

/-- A run does the same after two pasts if its entry does. -/
theorem drive_uniform (host : Host) (printer : Printer) {entry : Computation}
    (h : Uniform a b entry) : Uniform a b (Thread.drive host printer entry) := by
  intro t
  obtain ⟨e, t', ha, hb⟩ := catching_uniform h t.clearMessage
  have hclear (c : Past) : (t.behind c).clearMessage = t.clearMessage.behind c := rfl
  simp only [drive, hclear, ha, hb]
  exact ⟨_, _, t'.afterEntry_behind a host printer e, t'.afterEntry_behind b host printer e⟩

theorem enterRun_behind (setup : RunSetup) :
    (t.behind a).enterRun setup = (t.enterRun setup).behind a := by
  unfold enterRun
  have hs : (t.behind a).streams = t.streams := rfl
  rw [hs]
  split <;> rfl

/-- What the program is told of a run comes on top of what is behind. -/
theorem afterRun_behind (after : Thread) (setup : RunSetup) (r : RunEnd) :
    (t.behind a).afterRun setup (r, after.behind a) =
      ((t.afterRun setup (r, after)).1, (t.afterRun setup (r, after)).2.behind a) := by
  -- the streams that come back are not part of what is behind
  have hleave : (t.behind a).leaveRun setup (after.behind a) =
      (t.leaveRun setup after).behind a := by
    unfold leaveRun
    have hs : (t.behind a).streams = t.streams := rfl
    rw [hs]
    split <;> rfl
  have hn := (behind_unseen a).note (t.leaveRun setup after)
  cases r with
  | finished | unwound =>
    simp only [afterRun, hleave, hn]
    rfl
  | exited => simp only [afterRun, hleave]

/-- A run within a program does the same after two pasts if its entry does. -/
theorem runWith_uniform (host : Host) (setup : RunSetup) {entry : Computation}
    (h : Uniform a b entry) : Uniform a b (Thread.runWith host setup entry) := by
  intro t
  obtain ⟨r, after, ha, hb⟩ := drive_uniform host setup.printer h (t.enterRun setup)
  simp only [runWith, enterRun_behind, ha, hb]
  exact ⟨_, _, t.afterRun_behind after setup r, t.afterRun_behind after setup r⟩

end Thread

/-! ## Blocks -/

namespace Block

variable {a b : Past} {next : List Guard → Thread → Progress}
  (hn : Progress.Uniform a b next) (gs : List Guard) {r r' : Ending × Thread}

include hn

/-- What follows a handler or a run does the same after two pasts if the rest of the block does. -/
theorem afterPlain_uniform (h : Matched a b r r') :
    (afterPlain next gs r).Matched a b (afterPlain next gs r') := by
  obtain ⟨e, t, rfl, rfl⟩ := h
  cases e with
  | next => exact hn gs t
  | returned | unwound | exited => exact ⟨⟨_, gs, t⟩, rfl, rfl⟩

/-- The steps go on after what has been noted. -/
theorem noted_uniform (t : Thread) (what : Happening) :
    (next gs ((t.behind a).note what)).Matched a b (next gs ((t.behind b).note what)) := by
  have hnote := hn gs (t.note what)
  rwa [← (Thread.behind_unseen a).note, ← (Thread.behind_unseen b).note] at hnote

omit hn in
/-- A note that ends the block is the same after two pasts. -/
theorem noted_matched (e : Ending) (t : Thread) (what : Happening) :
    Progress.Matched a b ⟨e, gs, (t.behind a).note what⟩ ⟨e, gs, (t.behind b).note what⟩ := by
  rw [(Thread.behind_unseen a).note, (Thread.behind_unseen b).note]
  exact ⟨⟨e, gs, t.note what⟩, rfl, rfl⟩

/-- What follows a block with guards of its own does the same after two pasts. -/
theorem afterScope_uniform (h : Matched a b r r') :
    (afterScope next gs r).Matched a b (afterScope next gs r') := by
  obtain ⟨e, t, rfl, rfl⟩ := h
  cases e with
  | next => exact noted_uniform hn gs t .scopeLeft
  | returned v => exact noted_matched gs (.returned v) t .scopeLeft
  | unwound | exited => exact ⟨⟨_, gs, t⟩, rfl, rfl⟩

/-- The same for what follows the body of a trap, the handler included. -/
theorem afterTrap_uniform {handler : Computation} (hh : Uniform a b handler)
    (h : Matched a b r r') :
    (afterTrap next gs handler r).Matched a b (afterTrap next gs handler r') := by
  obtain ⟨e, t, rfl, rfl⟩ := h
  cases e with
  | next | returned => exact noted_uniform hn gs t _
  | exited => exact ⟨⟨.exited, gs, t⟩, rfl, rfl⟩
  | unwound p =>
    cases p with
    | raised =>
      -- the handler begins behind one more note on both sides
      refine afterPlain_uniform hn gs ?_
      have hhandler := hh (t.note .trapCaught)
      rwa [← (Thread.behind_unseen a).note, ← (Thread.behind_unseen b).note] at hhandler
    | words | boxed | number => exact noted_matched gs _ t .trapPassed

/-- The same for what follows a block in which every unwinding is stopped. -/
theorem afterContain_uniform (h : Matched a b r r') :
    (afterContain next gs r).Matched a b (afterContain next gs r') := by
  obtain ⟨e, t, rfl, rfl⟩ := h
  cases e with
  | next | returned | unwound => exact noted_uniform hn gs t _
  | exited => exact ⟨⟨.exited, gs, t⟩, rfl, rfl⟩

/-- The same for what follows the join of a thread. -/
theorem afterSpawn_uniform (t : Thread) (e : Ending) :
    (afterSpawn next gs (t.behind a) e).Matched a b (afterSpawn next gs (t.behind b) e) := by
  cases e with
  | next | returned | unwound => exact noted_uniform hn gs t _
  | exited => exact ⟨⟨.exited, gs, t⟩, rfl, rfl⟩

end Block

theorem Progress.Matched.leave {a b : Past} {p q : Progress} (h : p.Matched a b q) :
    Epilogue.Matched a b p.leave q.leave := by
  obtain ⟨x, rfl, rfl⟩ := h
  exact ⟨_, _, leave_mapThread (Thread.behind_unseen a) x,
    leave_mapThread (Thread.behind_unseen b) x⟩

/-- By induction on the program: what it chooses by is what it has been told, and of that it has the
same before it and behind it something after which it chooses alike. -/
theorem Block.steps_uniform {a b : Past} {x : Block} (hx : x.SameAfter a b) (host : Host) :
    Progress.Uniform a b (x.steps host) := by
  have hexec {x : Block} (h : Progress.Uniform a b (x.steps host)) : Uniform a b (x.exec host) :=
    fun t => (h [] t).leave
  induction x with
  | done => exact fun gs t => ⟨⟨.next, gs, t⟩, rfl, rfl⟩
  | act s rest ih =>
    intro gs t
    simp only [steps, Act.perform_behind]
    rcases s.perform host gs t with ⟨e, gs', t'⟩
    cases e with
    | next => exact ih hx gs' t'
    | returned | unwound | exited => exact ⟨⟨_, gs', t'⟩, rfl, rfl⟩
  | scope body rest ihb ihr =>
    intro gs t
    rw [steps_scope, steps_scope]
    exact afterScope_uniform (ihr hx.2) gs (hexec (ihb hx.1) t)
  | trap body handler rest ihb ihh ihr =>
    intro gs t
    obtain ⟨hbody, hhandler, hrest⟩ := hx
    rw [steps_trap, steps_trap]
    exact afterTrap_uniform (ihr hrest) gs (hexec (ihh hhandler))
      (Thread.catching_uniform (hexec (ihb hbody)) t)
  | contain body rest ihb ihr =>
    intro gs t
    rw [steps_contain, steps_contain]
    exact afterContain_uniform (ihr hx.2) gs (hexec (ihb hx.1) t)
  | spawn own body rest _ ihr =>
    intro gs t
    -- the thread begins with nothing behind it, whatever is behind the one that spawns it
    rw [steps_spawn, steps_spawn, Thread.join_behind, Thread.join_behind]
    exact afterSpawn_uniform (ihr hx) gs _ _
  | run setup entry rest ihe ihr =>
    intro gs t
    rw [steps_run, steps_run]
    exact afterPlain_uniform (ihr hx.2) gs (Thread.runWith_uniform host setup (hexec (ihe hx.1)) t)
  | choose next ih =>
    intro gs t
    obtain ⟨hsame, hnext⟩ := hx t.hook t.stash.isSome t.told
    -- what it has been told begins with one of the two pasts and goes on in the same way
    have hchosen := ih _ hnext gs t
    show ((next ⟨t.hook, t.stash.isSome, a.told ++ t.told⟩).steps host gs (t.behind a)).Matched a b
      ((next ⟨t.hook, t.stash.isSome, b.told ++ t.told⟩).steps host gs (t.behind b))
    rwa [hsame]

/-- So a block from end to end does the same after two pasts. -/
theorem Block.exec_uniform {a b : Past} {x : Block} (hx : x.SameAfter a b) (host : Host) :
    Uniform a b (x.exec host) := fun t => (steps_uniform hx host [] t).leave

/-! ## Runs after a history -/

/-- A printer that never raises. -/
def Printer.NeverRaises (printer : Printer) : Prop := ∀ c m, (printer c).finish ≠ .raises m

/-- Only characters are handed to the printer. -/
theorem Printer.NeverRaises.printout {printer : Printer} (hp : printer.NeverRaises) (v : Value)
    (m : String) : (v.printout printer).finish ≠ .raises m := by
  cases v with
  | char c => exact hp c m
  | bool b => cases b <;> exact nofun
  | int | eof | void | invalid => exact nofun

/-- What does not raise does not see the hook. -/
theorem Finish.after_setHook {finish : Finish} (hf : ∀ m, finish ≠ .raises m) (host : Host)
    (t : Thread) (h : Hook) (r : Attempt Output) : finish.after host (t.setHook h) r =
      ((finish.after host t r).1, (finish.after host t r).2.1,
        (finish.after host t r).2.2.setHook h) := by
  obtain ⟨o, f⟩ := r
  cases f with
  | some f => rfl
  | none => cases finish with
    | done | fails | panics => rfl
    | raises m => exact absurd rfl (hf m)

namespace Thread

variable {printer : Printer} (hp : printer.NeverRaises) (host : Host) (t : Thread) (h : Hook)

include hp

/-- Without a raise of the printer the frame of a value does not look into the slot. -/
theorem finishReturned_setHook (v : Value) : (t.setHook h).finishReturned host printer v =
    ((t.finishReturned host printer v).1, (t.finishReturned host printer v).2.setHook h) := by
  have hf := hp.printout v
  -- what is written is the same, and the slot is carried through
  have hw : v.write host printer t.output ((t.setHook h).log (.entryReturned v.shape)) =
      ((v.write host printer t.output (t.log (.entryReturned v.shape))).1,
        (v.write host printer t.output (t.log (.entryReturned v.shape))).2.1,
        (v.write host printer t.output (t.log (.entryReturned v.shape))).2.2.setHook h) := by
    simp only [Value.write, Printout.write]
    split
    · exact Finish.after_setHook hf host ((t.log _).log .invalidRendered) h _
    · exact Finish.after_setHook hf host (t.log _) h _
  rw [finishReturned, finishReturned]
  refine (congrArg (afterPrinting v) hw).trans ?_
  rcases v.write host printer t.output (t.log (.entryReturned v.shape)) with ⟨_ | _ | _ | _, o, t'⟩
    <;> rfl

/-- So no frame does. -/
theorem afterEntry_setHook (e : Ending) : afterEntry host printer (e, t.setHook h) =
    ((afterEntry host printer (e, t)).1, (afterEntry host printer (e, t)).2.setHook h) := by
  cases e with
  | exited => rfl
  | next => exact finishReturned_setHook hp host t h .void
  | returned v => exact finishReturned_setHook hp host t h v
  | unwound p => cases p <;> rfl

/-- Two runs of an entry after two histories: the same but for what is behind them, and for the hook
that each of them puts back. -/
theorem drive_after {entry : Block} {a b : History} (he : entry.SameAfter a.toPast b.toPast)
    (streams : Option Streams) : ∃ (r : RunEnd) (z : Thread) (ka kb : Hook),
      (a.thread streams).drive host printer (entry.exec host) =
        (r, (z.behind a.toPast).setHook ka) ∧
      (b.thread streams).drive host printer (entry.exec host) =
        (r, (z.behind b.toPast).setHook kb) ∧
      (r ≠ .exited → ka = a.hook ∧ kb = b.hook) := by
  -- the entry begins on a thread on which nothing is left of the history but what is behind it
  have hbegun (c : History) : (c.thread streams).clearMessage.replaceHook .unwind =
      behind ⟨.unwind, none, streams, [.record .hookReplaced], []⟩ c.toPast := by
    simp only [behind, List.append_nil]
    rfl
  obtain ⟨e, y, ha, hb⟩ :=
    Block.exec_uniform he host ⟨.unwind, none, streams, [.record .hookReplaced], []⟩
  rw [← hbegun a] at ha
  rw [← hbegun b] at hb
  by_cases hexit : e = .exited
  · -- the process ends inside the entry, under the hook that was current there
    subst hexit
    refine ⟨.exited, y, y.hook, y.hook, ?_, ?_, fun hne => absurd rfl hne⟩
    · rw [drive, catching, ha]
      rfl
    · rw [drive, catching, hb]
      rfl
  · have hdrive (c : History) (hc : entry.exec host ((c.thread streams).clearMessage.replaceHook
        .unwind) = (e, y.behind c.toPast)) :
        (c.thread streams).drive host printer (entry.exec host) =
          ((afterEntry host printer (e, y)).1,
            ((afterEntry host printer (e, y)).2.behind c.toPast).setHook c.hook) := by
      have hcatch : (c.thread streams).clearMessage.catching (entry.exec host) =
          (e, (y.behind c.toPast).setHook c.hook) := by
        rw [catching, hc]
        cases e with
        | exited => exact absurd rfl hexit
        | next | returned | unwound => rfl
      rw [drive, hcatch, afterEntry_setHook hp, afterEntry_behind]
    exact ⟨_, _, a.hook, b.hook, hdrive a ha, hdrive b hb, fun _ => ⟨rfl, rfl⟩⟩

end Thread

/-! ## Runs in sequence -/

/-- A run in a sequence of runs. -/
structure Turn where
  printer : Printer
  entry : Block

/-- The thread as the next program finds it, which has been told nothing yet. -/
def Thread.forget (t : Thread) : Thread := { t with told := [] }

/-- Makes runs one after another on a thread, until there are no more or the process ends, with the
end of each run and the streams that it leaves. A run that is left by an unwinding is one of them.
Each entry is a program of its own: its memory begins with its run. -/
def Thread.runAll (host : Host) : List Turn → Thread → List (RunEnd × Option Streams)
  | [], _ => []
  | x :: rest, t =>
    match t.forget.drive host x.printer (x.entry.exec host) with
    | (.exited, t) => [(.exited, t.streams)]
    | (r, t) => (r, t.streams) :: t.runAll host rest

/-- Makes each of the runs on a fresh thread, to which only the streams are handed on. -/
def runAlone (host : Host) : List Turn → Option Streams → List (RunEnd × Option Streams)
  | [], _ => []
  | x :: rest, streams =>
    match Thread.drive host x.printer (x.entry.exec host) { Thread.fresh with streams } with
    | (.exited, t) => [(.exited, t.streams)]
    | (r, t) => (r, t.streams) :: runAlone host rest t.streams

/-- Runs in sequence hand on the streams, and nothing else that makes a difference. -/
theorem Thread.runAll_eq_alone (host : Host) {turns : List Turn}
    (h : ∀ x ∈ turns, x.printer.NeverRaises) (t : Thread) :
    t.runAll host turns = runAlone host turns t.streams := by
  induction turns generalizing t with
  | nil => rfl
  | cons x rest ih =>
    obtain ⟨hx, hrest⟩ := List.forall_mem_cons.mp h
    -- the thread and a fresh one are two histories on the same streams, and with the same memory
    let a : History := ⟨⟨t.trace, []⟩, t.hook, t.stash⟩
    let b : History := ⟨⟨[], []⟩, .exit, none⟩
    have htold : a.told = b.told := rfl
    have hsame : x.entry.SameAfter a.toPast b.toPast := x.entry.sameAfter_of_told htold
    obtain ⟨r, z, ka, kb, ha, hb, -⟩ := drive_after hx host hsame t.streams
    have ht : t.forget.drive host x.printer (x.entry.exec host) = _ := ha
    have hfresh : Thread.drive host x.printer (x.entry.exec host)
      { Thread.fresh with streams := t.streams } = _ := hb
    simp only [runAll, runAlone, ht, hfresh]
    cases r with
    | exited => rfl
    | finished | unwound => exact congrArg _ (ih hrest _)

/-! ## Main results -/

/--
**A run does not depend on what was before it on its thread.** Take two histories, with any hooks,
stashes and traces, a printer that never raises, and an entry: any entry at all if the program has
the same memory in both, and else one that goes on in the same way after both memories. On the same
streams the two runs have the same end and leave the same streams and the same stash, they add the
same to the trace and to what the program has been told, and unless the process ends within them
each of them leaves the hook that it found. So runs of any entries in sequence come to what each of
them comes to on a fresh thread, if that is given the streams which the one before has left.
-/
theorem run_independent_of_history (host : Host) :
    (∀ (printer : Printer) (entry : Block) (a b : History) (streams : Option Streams),
      printer.NeverRaises → (a.told = b.told ∨ entry.SameAfter a.toPast b.toPast) →
      let first := (a.thread streams).drive host printer (entry.exec host)
      let second := (b.thread streams).drive host printer (entry.exec host)
      first.1 = second.1 ∧ first.2.streams = second.2.streams ∧ first.2.stash = second.2.stash ∧
      (∃ es, first.2.trace = a.trace ++ es ∧ second.2.trace = b.trace ++ es) ∧
      (∃ hs, first.2.told = a.told ++ hs ∧ second.2.told = b.told ++ hs) ∧
      (first.1 ≠ .exited → first.2.hook = a.hook ∧ second.2.hook = b.hook)) ∧
    (∀ (turns : List Turn) (t : Thread), (∀ x ∈ turns, x.printer.NeverRaises) →
      t.runAll host turns = runAlone host turns t.streams) := by
  refine ⟨?_, fun turns t h => t.runAll_eq_alone host h⟩
  intro printer entry a b streams hp he first second
  have hsame : entry.SameAfter a.toPast b.toPast := he.elim entry.sameAfter_of_told id
  obtain ⟨r, z, ka, kb, ha, hb, hhook⟩ := Thread.drive_after hp host hsame streams
  have hfirst : first = _ := ha
  have hsecond : second = _ := hb
  rw [hfirst, hsecond]
  exact ⟨rfl, rfl, rfl, ⟨z.trace, rfl, rfl⟩, ⟨z.told, rfl, rfl⟩, hhook⟩

/-- An entry that recovers from a raise, takes its message, and goes on by what it sees. -/
def recovery : Block :=
  .trap (.act (.raise (some "inner")) .done) (.act .takeMessage .done) <|
    .choose fun s => if s.hasMessage then .act .clearMessage .done else .act .look .done

/-- An entry that reads a line and writes it back. -/
def echoing : Block :=
  .act .readLine <| .choose fun s =>
    match s.told.getLast? with
    | some (.lineRead line) => .act (.write line) .done
    | _ => .done

/-- Under another hook and with a stale message the runs are the same, and a run that writes back
the line it has read may stand among them. -/
theorem recovery_after_stale :
    let a : History := ⟨⟨[], []⟩, .exit, none⟩
    let b : History := ⟨⟨[.record .raise], [.raising]⟩, .panics (.number 1), some "stale"⟩
    let run (c : History) :=
      (c.thread (some .detached)).drive .process .literal (recovery.exec .process)
    let turns : List Turn := [⟨.literal, recovery⟩, ⟨.literal, echoing⟩, ⟨.literal, recovery⟩]
    ((run a).1 = (run b).1 ∧ (run a).2.stash = (run b).2.stash ∧
      (run b).2.hook = .panics (.number 1)) ∧
    (b.thread (some .detached)).runAll .process turns =
      runAlone .process turns (some .detached) := by
  intro a b run turns
  have hp : Printer.literal.NeverRaises := fun _ _ => nofun
  -- the entry goes by the stash, which a run empties, and not by what was told
  have hsame : recovery.SameAfter a.toPast b.toPast := by
    refine ⟨trivial, trivial, fun hook hasMessage told => ⟨rfl, ?_⟩⟩
    cases hasMessage <;> trivial
  obtain ⟨hruns, hturns⟩ := run_independent_of_history .process
  obtain ⟨hend, -, hstash, -, -, hhook⟩ :=
    hruns .literal recovery a b (some .detached) hp (.inr hsame)
  have hfinished : (run a).1 = .finished (.ok (.completed .void)) := rfl
  have hne : (run a).1 ≠ .exited := by
    rw [hfinished]
    exact nofun
  refine ⟨⟨hend, hstash, (hhook hne).2⟩, hturns turns (b.thread (some .detached)) ?_⟩
  intro x hx
  simp only [turns, List.mem_cons, List.not_mem_nil, or_false] at hx
  rcases hx with rfl | rfl | rfl <;> exact hp

end Epilogue
