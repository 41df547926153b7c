import Epilogue.Program

/-!
# Epilogue — traps as structured exceptions

A second meaning of programs that leave the slot alone, in which there is no slot at all. A raise is
an exception: it abandons the steps that follow it and travels outwards through the program text to
the nearest trap or containment. A trap stops raises and nothing else, a containment stops every
exception.

The trap of the runtime works differently. It puts the unwinding hook into the slot, a raise calls
whatever the slot holds, and each trap has to put the displaced hook back however it is left. The
two meanings agree inside any trap: at every point of the program the slot holds the unwinding hook,
whatever traps have been entered and left before.

* `Slotless` — the state of a thread without the slot, with its effects in their order;
* `Block.attempt` — a block as a program with structured exceptions;
* `Block.LeavesSlot` — the programs that never name the slot.

Main results:

* `Block.steps_mirrors` — under the unwinding hook the steps of a block do what exceptions do;
* `trap_is_structured` — a trap around a block does, under any hook.
-/

namespace Epilogue

/-! ## States without a slot -/

/-- What a program does as far as it can be observed, with whether a message is stashed then. -/
inductive Effect where
  | note (what : Happening) (hasMessage : Bool)
  | record (r : Record)
  | alarm (p : Payload)

/-- The state of a thread without the slot. -/
structure Slotless where
  stash : Option String
  streams : Option Streams
  effects : List Effect
  told : List Happening

/-- An event without the slot: notes do not tell the hook, and no record tells of
its replacement. -/
def Event.effect? : Event → Option Effect
  | note what _ hasMessage => some (.note what hasMessage)
  | record .hookReplaced | captured .hookReplaced => none
  | record r | captured r => some (.record r)
  | alarm p _ => some (.alarm p)

/-- A thread without its slot. -/
def Thread.slotless (t : Thread) : Slotless where
  stash := t.stash
  streams := t.streams
  effects := t.trace.filterMap Event.effect?
  told := t.told

namespace Slotless

/-- Notes what has just happened, and tells the program. -/
def note (s : Slotless) (what : Happening) : Slotless :=
  { s with
    effects := s.effects ++ [.note what s.stash.isSome]
    told := s.told ++ [what] }

/-- Logs a record. -/
def log (s : Slotless) (r : Record) : Slotless := { s with effects := s.effects ++ [.record r] }

/-- Tells of a panic. -/
def alarm (s : Slotless) (p : Payload) : Slotless := { s with effects := s.effects ++ [.alarm p] }

/-- Sets or empties the stash. -/
def setStash (s : Slotless) (m : Option String) : Slotless := { s with stash := m }

/-- The streams on which a program acts. -/
def currentStreams (s : Slotless) : Streams := s.streams.getD .detached

/-- Replaces the streams of the running entry. -/
def setStreams (s : Slotless) (r : Streams) : Slotless :=
  { s with streams := s.streams.map fun _ => r }

/-- What the program sees. There is no slot to look into, so it is told of the one hook that a
trap would have in it. -/
def sight (s : Slotless) : Sight := ⟨.unwind, s.stash.isSome, s.told⟩

end Slotless

/-! ## Structured exceptions -/

/-- How a body ends where nothing can end the process. -/
inductive Completion where
  | next
  | returned (v : Value)
  | thrown (p : Payload)

namespace Completion

/-- The ending that a completion amounts to. -/
def ending : Completion → Ending
  | next => .next
  | returned v => .returned v
  | thrown p => .unwound p

/-- The value that a body yields to what contains it. -/
def value? : Completion → Option Value
  | returned v => some v
  | next | thrown _ => none

end Completion

/-- The outcome of a computation with structured exceptions. -/
abbrev Attempted := Completion × Slotless

/-- Goes on where a body ran off its end; otherwise the rest is abandoned. -/
def Attempted.andThen (r : Attempted) (next : Slotless → Attempted) : Attempted :=
  match r.1 with
  | .next => next r.2
  | .returned _ | .thrown _ => r

/-- Performs a step. Steps on the slot are no part of such programs, nor are those that call a
printer. -/
def Act.attempt (a : Act) (s : Slotless) : Attempted :=
  match a with
  | look => (.next, s.note .looked)
  | setMessage m => (.next, (s.setStash (some m)).note .messageSet)
  | clearMessage => (.next, (s.setStash none).note .messageCleared)
  | takeMessage => (.next, (s.setStash none).note (.messageTaken s.stash))
  | raise none => (.thrown .raised, (s.note .raising).log .raise)
  | raise (some m) => (.thrown .raised, ((s.note .raising).setStash (some m)).log .raise)
  | panic p => (.thrown p, (s.note .panicking).alarm p)
  | unwrap expected v =>
    match WrongShape.find? expected v with
    | some w => (.thrown (.words w.message), (s.note .unwrapping).alarm (.words w.message))
    | none => (.next, (s.note .unwrapping).note (.unwrapped v))
  | write bs =>
    let r := s.currentStreams.writeAll bs
    (.next, (s.setStreams r.state).note (.wrote r.fault))
  | flush =>
    let r := s.currentStreams.flush
    (.next, (s.setStreams r.state).note (.flushed r.fault))
  | read n =>
    let (bs, r) := s.currentStreams.read n
    (.next, (s.setStreams r).note (.hasRead bs))
  | readLine =>
    let (bs, r) := s.currentStreams.readLine
    (.next, (s.setStreams r).note (.lineRead bs))
  | returnByte =>
    let (bs, r) := s.currentStreams.read 1
    (.returned (Thread.byteValue bs), (s.setStreams r).note (.byteReturned bs))
  | Act.return v => (.returned v, s.note .returning)
  | replaceHook _ | install _ _ | drop _ | render _ _ => (.next, s)

/-- Performs a block. A raise or a panic abandons all up to the nearest trap or containment around
it; a trap lets everything but a raise pass. -/
def Block.attempt : Block → Slotless → Attempted
  | done, s => (.next, s)
  | act a rest, s => (a.attempt s).andThen rest.attempt
  | scope body rest, s =>
    match body.attempt s with
    | (.next, s) => rest.attempt (s.note .scopeLeft)
    | (.returned v, s) => (.returned v, s.note .scopeLeft)
    | (.thrown p, s) => (.thrown p, s)
  | trap body handler rest, s =>
    match body.attempt s with
    -- the exception of a raise ends here; all others go on outwards
    | (.thrown .raised, s) => (handler.attempt (s.note .trapCaught)).andThen rest.attempt
    | (.thrown p, s) => (.thrown p, s.note .trapPassed)
    | (c, s) => rest.attempt (s.note (.trapLeft c.value?))
  | contain body rest, s =>
    match body.attempt s with
    | (.thrown p, s) => rest.attempt (s.note (.panicContained p))
    | (c, s) => rest.attempt (s.note (.containLeft c.value?))
  | choose next, s => (next s.sight).attempt s
  | spawn _ _ _, s | run _ _ _, s => (.next, s)

/-! ## Programs that leave the slot alone -/

/-- A step that neither changes the slot nor calls a printer. -/
def Act.LeavesSlot : Act → Prop
  | replaceHook _ | install _ _ | drop _ | render _ _ => False
  | _ => True

/-- A program of raises, panics, operations on the stash and the streams, traps, containments and
scopes, nested to any depth. -/
def Block.LeavesSlot : Block → Prop
  | done => True
  | act a rest => a.LeavesSlot ∧ rest.LeavesSlot
  | scope body rest | contain body rest => body.LeavesSlot ∧ rest.LeavesSlot
  | trap body handler rest => body.LeavesSlot ∧ handler.LeavesSlot ∧ rest.LeavesSlot
  | choose next => ∀ s, (next s).LeavesSlot
  | spawn _ _ _ | run _ _ _ => False

/-! ## Threads and their states without a slot -/

namespace Thread

@[simp] theorem note_slotless (t : Thread) (what : Happening) :
    (t.note what).slotless = t.slotless.note what := by
  simp [slotless, Slotless.note, note, emit, Event.effect?]

@[simp] theorem log_raise_slotless (t : Thread) :
    (t.log .raise).slotless = t.slotless.log .raise := by
  simp [slotless, Slotless.log, log, emit, Event.effect?]

@[simp] theorem alarm_slotless (t : Thread) (p : Payload) :
    (t.alarm p).slotless = t.slotless.alarm p := by
  simp [slotless, Slotless.alarm, alarm, emit, Event.effect?]

@[simp] theorem setMessage_slotless (t : Thread) (m : String) :
    (t.setMessage m).slotless = t.slotless.setStash (some m) := rfl

@[simp] theorem clearMessage_slotless (t : Thread) :
    t.clearMessage.slotless = t.slotless.setStash none := rfl

@[simp] theorem setStreams_slotless (t : Thread) (s : Streams) :
    (t.setStreams s).slotless = t.slotless.setStreams s := rfl

@[simp] theorem setHook_slotless (t : Thread) (h : Hook) :
    (t.setHook h).slotless = t.slotless := rfl

@[simp] theorem replaceHook_slotless (t : Thread) (h : Hook) :
    (t.replaceHook h).slotless = t.slotless := by
  simp [slotless, replaceHook, log, emit, setHook, Event.effect?]

end Thread

/-! ## Agreement -/

/-- A state within a block agrees with an outcome: it has no guards, and the slot holds the
unwinding hook. -/
structure Progress.Mirrors (p : Progress) (r : Attempted) : Prop where
  ending : p.ending = r.1.ending
  guards : p.guards = []
  hook : p.thread.hook = .unwind
  state : p.thread.slotless = r.2

namespace Progress.Mirrors

variable {p : Progress} {r : Attempted}

/-- Leaving the block changes nothing, since there are no guards to drop. -/
theorem leave (h : p.Mirrors r) :
    ∃ (c : Completion) (t : Thread),
      p.leave = (c.ending, t) ∧ r = (c, t.slotless) ∧ t.hook = .unwind := by
  obtain ⟨c, s⟩ := r
  refine ⟨c, p.thread, ?_, by rw [h.state], h.hook⟩
  rw [Progress.leave_of_no_guards h.guards, h.ending]

/-- Sequencing agrees if what comes next does. -/
theorem andThen (h : p.Mirrors r) {next : List Guard → Thread → Progress}
    {next' : Slotless → Attempted}
    (hn : ∀ t : Thread, t.hook = .unwind → (next [] t).Mirrors (next' t.slotless)) :
    (p.andThen next).Mirrors (r.andThen next') := by
  obtain ⟨c, s⟩ := r
  obtain ⟨e, gs, t⟩ := p
  obtain ⟨he, hg, hh, hs⟩ := h
  simp only at he hg hh hs
  subst he hg hs
  cases c with
  | next => exact hn t hh
  | returned v => exact ⟨rfl, rfl, hh, rfl⟩
  | thrown p => exact ⟨rfl, rfl, hh, rfl⟩

end Progress.Mirrors

namespace Thread

/-- Under the unwinding hook every raise is made, and it unwinds. -/
theorem raiseUnder_unwind {t : Thread} (ht : t.hook = .unwind) (host : Host) (m : Option String) :
    t.raiseUnder host m = (.unwound .raised, (m.elim t t.setMessage).log .raise) := by
  have hx : ¬(host = .probe ∧ t.hook = .exit) := by simp [ht]
  unfold raiseUnder
  rw [if_neg hx]
  cases m with
  | none => simp [raise, ht, Hook.invoke]
  | some m => simp [raiseWith, raise, ht, Hook.invoke]

/-- A trap around a body that does not end the process ends as the body does. -/
theorem catching_completed {t t' : Thread} {body : Computation} {c : Completion}
    (h : body (t.replaceHook .unwind) = (c.ending, t')) :
    t.catching body = (c.ending, t'.setHook t.hook) := by
  unfold catching
  rw [h]
  cases c <;> rfl

theorem slotless_currentStreams (t : Thread) : t.slotless.currentStreams = t.currentStreams := rfl

end Thread

/-! ## Steps -/

/-- Under the unwinding hook a step does what it does with exceptions. -/
theorem Act.perform_mirrors {a : Act} (ha : a.LeavesSlot) (host : Host) {t : Thread}
    (ht : t.hook = .unwind) : (a.perform host [] t).Mirrors (a.attempt t.slotless) := by
  cases a with
  | replaceHook | install | drop | render => exact ha.elim
  | look | setMessage | clearMessage | panic | «return» =>
    exact ⟨rfl, rfl, ht, by simp [perform, attempt]⟩
  | takeMessage =>
    have hs : t.slotless.stash = t.stash := rfl
    exact ⟨rfl, rfl, ht, by simp [perform, attempt, hs]⟩
  | raise m =>
    -- a probe holds back raises under the exit hook only, so this one is made
    have hr := Thread.raiseUnder_unwind (t := t.note .raising) ht host m
    simp only [perform]
    rw [hr]
    cases m with
    | none => exact ⟨rfl, rfl, ht, by simp [attempt]⟩
    | some m => exact ⟨rfl, rfl, ht, by simp [attempt]⟩
  | unwrap expected v =>
    simp only [perform, attempt]
    cases WrongShape.find? expected v with
    | none => exact ⟨rfl, rfl, ht, by simp⟩
    | some w => exact ⟨rfl, rfl, ht, by simp⟩
  | write | flush | read | readLine | returnByte =>
    exact ⟨rfl, rfl, ht, by simp [perform, attempt, Thread.slotless_currentStreams]⟩

/-- By induction on the program: whatever it does, the slot holds the unwinding hook again at each
point between two steps. -/
theorem Block.steps_mirrors {b : Block} (hb : b.LeavesSlot) (host : Host) {t : Thread}
    (ht : t.hook = .unwind) : (b.steps host [] t).Mirrors (b.attempt t.slotless) := by
  induction b generalizing t with
  | done => exact ⟨rfl, rfl, ht, rfl⟩
  | act a rest ih =>
    obtain ⟨ha, hr⟩ := hb
    exact (Act.perform_mirrors ha host ht).andThen fun t ht => ih hr ht
  | scope body rest ihb ihr =>
    obtain ⟨hb, hr⟩ := hb
    obtain ⟨c, t', hl, ha, ht'⟩ := (ihb hb ht).leave
    simp only [steps, attempt]
    rw [hl, ha]
    -- a scope is no place where an exception stops
    cases c with
    | next =>
      show (rest.steps host [] (t'.note .scopeLeft)).Mirrors _
      have h := ihr hr (t := t'.note .scopeLeft) ht'
      rwa [Thread.note_slotless] at h
    | returned v => exact ⟨rfl, rfl, ht', t'.note_slotless _⟩
    | thrown p => exact ⟨rfl, rfl, ht', rfl⟩
  | trap body handler rest ihb ihh ihr =>
    obtain ⟨hb, hh, hr⟩ := hb
    -- the trap inside puts the unwinding hook in the place of the unwinding hook
    have hin : (t.replaceHook .unwind).hook = .unwind := rfl
    obtain ⟨c, t', hl, ha, ht'⟩ := (ihb hb hin).leave
    rw [Thread.replaceHook_slotless] at ha
    have hc : t.catching (fun t => (body.steps host [] t).leave) =
        (c.ending, t'.setHook t.hook) := Thread.catching_completed hl
    have hu : (t'.setHook t.hook).hook = .unwind := ht
    have hs : t'.slotless = (t'.setHook t.hook).slotless := rfl
    simp only [steps, attempt]
    rw [hc, ha, hs]
    generalize t'.setHook t.hook = t₁ at hu
    have hn (what : Happening) :
        (rest.steps host [] (t₁.note what)).Mirrors (rest.attempt (t₁.slotless.note what)) := by
      rw [← Thread.note_slotless]
      exact ihr hr hu
    cases c with
    | next | returned => exact hn _
    | thrown p =>
      cases p with
      | words | boxed | number => exact ⟨rfl, rfl, hu, t₁.note_slotless _⟩
      | raised =>
        -- the handler is outside this trap, though within the one around the program
        obtain ⟨c, t₂, hl, ha, ht₂⟩ := (ihh hh (t := t₁.note .trapCaught) hu).leave
        rw [Thread.note_slotless] at ha
        simp only [afterTrap, Completion.ending]
        rw [hl, ha]
        cases c with
        | next => exact ihr hr ht₂
        | returned | thrown => exact ⟨rfl, rfl, ht₂, rfl⟩
  | contain body rest ihb ihr =>
    obtain ⟨hb, hr⟩ := hb
    obtain ⟨c, t', hl, ha, ht'⟩ := (ihb hb ht).leave
    simp only [steps, attempt]
    rw [hl, ha]
    have hn (what : Happening) :
        (rest.steps host [] (t'.note what)).Mirrors (rest.attempt (t'.slotless.note what)) := by
      rw [← Thread.note_slotless]
      exact ihr hr ht'
    cases c with
    | next | returned | thrown => exact hn _
  | choose next ih =>
    -- what the program sees of the slot is the same at each of its points
    have hs : t.slotless.sight = t.sight := by
      rw [Thread.sight, ht]
      rfl
    simp only [steps, attempt]
    rw [hs]
    exact ih t.sight (hb t.sight) ht
  | spawn | run => exact hb.elim

/-! ## Main results -/

/-- Whatever the body does, a raise is no way out of a trap whose handler does nothing. -/
theorem Block.trap_keeps_raised (body : Block) (host : Host) (t : Thread) :
    ((Block.trap body .done .done).exec host t).1 ≠ .unwound .raised := by
  intro h
  simp only [exec, steps] at h
  rcases hc : t.catching fun t => (body.steps host [] t).leave with ⟨e, t'⟩
  rw [hc] at h
  cases e with
  | next | returned | exited => cases h
  | unwound p => cases p <;> cases h

/--
**A trap is a structured handler.** Under whatever hook it is entered, a trap around a program that
leaves the slot alone ends as the program does with structured exceptions, with the same stash, the
same streams, the same effects in the same order and the same answers to the program. The slot holds
the hook from before, and no raise gets past the trap.
-/
theorem trap_is_structured (host : Host) {b : Block} (hb : b.LeavesSlot) (t : Thread) :
    (t.catching (b.exec host)).1 = (b.attempt t.slotless).1.ending ∧
    (t.catching (b.exec host)).2.slotless = (b.attempt t.slotless).2 ∧
    (t.catching (b.exec host)).2.hook = t.hook ∧
    ((Block.trap b .done .done).exec host t).1 ≠ .unwound .raised := by
  have hin : (t.replaceHook .unwind).hook = .unwind := rfl
  -- inside the trap the machine and the semantics without a slot go abreast
  obtain ⟨c, t', hl, ha, -⟩ := (Block.steps_mirrors hb host hin).leave
  have hc : t.catching (b.exec host) = (c.ending, t'.setHook t.hook) :=
    Thread.catching_completed hl
  rw [Thread.replaceHook_slotless] at ha
  rw [hc, ha]
  exact ⟨rfl, rfl, rfl, b.trap_keeps_raised host t⟩

/-- A trap inside a containment: the handler of the inner raise empties the stash, the foreign panic
that follows stops at the containment, and a raise goes to what is around it. -/
def nested : Block :=
  .contain
    (.trap (.act (.raise (some "inner")) .done) (.act .takeMessage .done)
      (.act (.panic (.number 7)) .done))
    (.act (.raise (some "outer")) .done)

/-- The raise is caught within, the panic is contained further out, and the last raise is left to
the trap around the whole. -/
theorem nested_is_structured :
    nested.LeavesSlot ∧
    (Thread.fresh.catching (nested.exec .process)).1 = .unwound .raised ∧
    (Thread.fresh.catching (nested.exec .process)).2.stash = some "outer" ∧
    (Thread.fresh.catching (nested.exec .process)).2.told =
      [.raising, .trapCaught, .messageTaken (some "inner"), .panicking,
        .panicContained (.number 7), .raising] := by
  have hl : nested.LeavesSlot := by simp [nested, Block.LeavesSlot, Act.LeavesSlot]
  obtain ⟨he, hs, -, -⟩ := trap_is_structured .process hl .fresh
  refine ⟨hl, he, ?_, ?_⟩
  · exact congrArg Slotless.stash hs
  · exact congrArg Slotless.told hs

end Epilogue
