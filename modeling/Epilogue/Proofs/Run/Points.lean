import Epilogue.Program
import Mathlib.Logic.Relation

/-!
# Epilogue — the points of an execution

The steps of a block are given from end to end, block by block. A *point* is what goes on in
between: a block that is about to be performed, a run that is about to begin or a value that is
about to be printed, with the thread as it is then, the guards that are alive, and the layers around
it: the blocks, traps and runs that have begun and are not over.

* `Task`, `Layer`, `Point` — what goes on, what is around it, and a point;
* `Point.Step`, `Point.Reaches` — from one point to the next;
* `Point.result` — what comes of a point;
* `Point.Breaks` — the step at a point leaves the path of execution.

Main results:

* `Block.steps_first` — a block is its first part, followed by the rest;
* `Point.origin` — an execution is cut off, or left by a foreign unwinding, at one of its points.
-/

namespace Epilogue

/-! ## Parts of a block -/

namespace Block

/-- The first part of a block. What is chosen is one part. -/
def first : Block → Block
  | done => done
  | act a _ => act a done
  | scope body _ => scope body done
  | trap body handler _ => trap body handler done
  | contain body _ => contain body done
  | spawn own body _ => spawn own body done
  | run setup entry _ => run setup entry done
  | choose next => choose next

/-- What follows the first part. -/
def rest : Block → Block
  | done | choose _ => done
  | act _ rest | scope _ rest | trap _ _ rest | contain _ rest | spawn _ _ rest | run _ _ rest =>
    rest

end Block

namespace Progress

theorem andThen_done (host : Host) (p : Progress) : p.andThen (Block.done.steps host) = p := by
  obtain ⟨e, gs, t⟩ := p
  cases e <;> rfl

end Progress

namespace Block

variable (host : Host) (gs : List Guard)

/-- What follows a handler or a run can be split off and done afterwards. -/
theorem afterPlain_first (rest : Block) (r : Ending × Thread) : afterPlain (rest.steps host) gs r =
    (afterPlain (done.steps host) gs r).andThen (rest.steps host) := by
  obtain ⟨e, t⟩ := r
  cases e <;> rfl

/-- Where nothing follows, the ending is that of the handler or of the run. -/
theorem afterPlain_done (r : Ending × Thread) :
    (afterPlain (done.steps host) gs r).ending = r.1 := by
  obtain ⟨e, t⟩ := r
  cases e <;> rfl

/-- A block is its first part, followed by the rest. -/
theorem steps_first (b : Block) (t : Thread) :
    b.steps host gs t = (b.first.steps host gs t).andThen (b.rest.steps host) := by
  cases b with
  | done => rfl
  | choose next => exact (Progress.andThen_done host _).symm
  | act a rest =>
    -- a block of one step is that step
    show _ = ((a.perform host gs t).andThen (done.steps host)).andThen _
    rw [Progress.andThen_done]
    rfl
  | scope body rest =>
    simp only [first, steps_scope]
    rcases body.exec host t with ⟨_ | _ | _ | _, t'⟩ <;> rfl
  | trap body handler rest =>
    simp only [first, steps_trap]
    rcases t.catching (body.exec host) with ⟨_ | _ | ⟨_ | _ | _ | _⟩ | _, t'⟩
    case unwound.raised => exact afterPlain_first host gs rest _
    all_goals rfl
  | contain body rest =>
    simp only [first, steps_contain]
    rcases body.exec host t with ⟨_ | _ | _ | _, t'⟩ <;> rfl
  | spawn own body rest =>
    simp only [first, steps_spawn]
    cases (body.exec own .fresh).1 <;> rfl
  | run setup entry rest =>
    simp only [first, steps_run]
    exact afterPlain_first host gs rest _

end Block

/-! ## Points -/

/-- What is about to go on. -/
inductive Task where
  | block (b : Block)
  /-- a run of the driver, on the streams of the thread -/
  | run (printer : Printer) (entry : Block)
  /-- the frame of a value that an entry returned -/
  | print (v : Value) (printer : Printer)

/-- What has begun around a point and is not over: with the guards of the block that it is part of,
if it is part of one, and with what is needed to leave it. -/
inductive Layer where
  /-- a block within another one, or the handler of a trap -/
  | scope (guards : List Guard)
  /-- the body of a trap that displaced a hook -/
  | trap (guards : List Guard) (displaced : Hook)
  | contain (guards : List Guard)
  /-- a thread of its own -/
  | spawn (guards : List Guard)
  /-- a run, and the thread that came to it -/
  | run (guards : List Guard) (setup : RunSetup) (outer : Thread)
  /-- the entry of a run that displaced a hook -/
  | entry (displaced : Hook)

/-- A point of an execution, with the layers around it, the innermost first. -/
structure Point where
  host : Host
  layers : List Layer
  guards : List Guard
  thread : Thread
  task : Task

namespace Point

/-- A point that nothing is around, and no guard alive. -/
def start (host : Host) (t : Thread) (task : Task) : Point := ⟨host, [], [], t, task⟩

/-- The value that a run prints after its entry. -/
def printed? : Ending → Option Value
  | .next => some .void
  | .returned v => some v
  | .unwound _ | .exited => none

/-- How an execution comes from one point to the next: into a part of it, or on behind it. -/
inductive Step : Point → Point → Prop where
  | later {host ls gs t gs' t' b} (h : Block.steps (Block.first b) host gs t = ⟨.next, gs', t'⟩) :
    Step ⟨host, ls, gs, t, .block b⟩ ⟨host, ls, gs', t', .block b.rest⟩
  | choose {host ls gs t next} :
    Step ⟨host, ls, gs, t, .block (.choose next)⟩ ⟨host, ls, gs, t, .block (next t.sight)⟩
  | scope {host ls gs t body rest} :
    Step ⟨host, ls, gs, t, .block (.scope body rest)⟩ ⟨host, .scope gs :: ls, [], t, .block body⟩
  | trap {host ls gs t body handler rest} :
    Step ⟨host, ls, gs, t, .block (.trap body handler rest)⟩
      ⟨host, .trap gs t.hook :: ls, [], t.replaceHook .unwind, .block body⟩
  | handler {host ls gs t t' body handler rest}
      (h : t.catching (Block.exec body host) = (.unwound .raised, t')) :
    Step ⟨host, ls, gs, t, .block (.trap body handler rest)⟩
      ⟨host, .scope gs :: ls, [], t'.note .trapCaught, .block handler⟩
  | contain {host ls gs t body rest} :
    Step ⟨host, ls, gs, t, .block (.contain body rest)⟩
      ⟨host, .contain gs :: ls, [], t, .block body⟩
  | spawn {host own ls gs t body rest} :
    Step ⟨host, ls, gs, t, .block (.spawn own body rest)⟩
      ⟨own, .spawn gs :: ls, [], .fresh, .block body⟩
  | run {host ls gs t setup entry rest} :
    Step ⟨host, ls, gs, t, .block (.run setup entry rest)⟩
      ⟨host, .run gs setup t :: ls, [], t.enterRun setup, .run setup.printer entry⟩
  | entry {host ls gs t printer entry} :
    Step ⟨host, ls, gs, t, .run printer entry⟩
      ⟨host, .entry t.hook :: ls, [], t.clearMessage.replaceHook .unwind, .block entry⟩
  | print {host ls gs t t' printer entry e v}
      (h : t.clearMessage.catching (Block.exec entry host) = (e, t')) (hv : printed? e = some v) :
    Step ⟨host, ls, gs, t, .run printer entry⟩ ⟨host, ls, [], t', .print v printer⟩

/-- From one point to any later one. -/
abbrev Reaches : Point → Point → Prop := Relation.ReflTransGen Step

end Point

/-! ## What comes of a point -/

/-- How a program goes on after a run. -/
def RunEnd.toEnding : RunEnd → Ending
  | finished _ => .next
  | unwound p => .unwound p
  | exited => .exited

namespace Point

/-- What comes of a point, once its task is over and the guards of its block are dropped. -/
def result (x : Point) : Ending × Thread :=
  match x.task with
  | .block b => (b.steps x.host x.guards x.thread).leave
  | .run printer entry =>
    let r := x.thread.drive x.host printer (entry.exec x.host)
    (r.1.toEnding, r.2)
  | .print v printer =>
    let r := x.thread.finishReturned x.host printer v
    (r.1.toEnding, r.2)

section

variable (host : Host) (ls : List Layer) (gs : List Guard) (t : Thread)

theorem result_block (b : Block) :
    (⟨host, ls, gs, t, .block b⟩ : Point).result = (b.steps host gs t).leave := rfl

theorem result_run (printer : Printer) (entry : Block) :
    (⟨host, ls, gs, t, .run printer entry⟩ : Point).result =
      ((t.drive host printer (entry.exec host)).1.toEnding,
        (t.drive host printer (entry.exec host)).2) := rfl

theorem result_print (v : Value) (printer : Printer) :
    (⟨host, ls, gs, t, .print v printer⟩ : Point).result =
      ((t.finishReturned host printer v).1.toEnding, (t.finishReturned host printer v).2) := rfl

end

/-- The step at a point ends in the given way, and leaves these guards and this thread. -/
inductive Breaks : Point → Ending → List Guard → Thread → Prop where
  | act {host ls gs t a rest e gs' t'} (h : Act.perform host a gs t = ⟨e, gs', t'⟩) :
    Breaks ⟨host, ls, gs, t, .block (.act a rest)⟩ e gs' t'
  | print {host ls gs t v printer r t'} (h : t.finishReturned host printer v = (r, t')) :
    Breaks ⟨host, ls, gs, t, .print v printer⟩ r.toEnding [] t'

end Point

/-! ## Where an execution is left -/

/-- Nothing of the program is performed after such an end until the unwinding is stopped, if ever:
the process has ended, or something foreign to the trap is on its way. -/
def Ending.Abrupt : Ending → Prop
  | exited => True
  | unwound p => p ≠ .raised
  | next | returned _ => False

/-- The layers through which such an end goes on outwards. -/
def Layer.Lets (e : Ending) : Layer → Prop
  | contain _ | spawn _ => e = .exited
  | scope _ | trap _ _ | run _ _ _ | entry _ => True

namespace Point

/-- A point is left in a way because the step at some later point ends so, and all layers in between
let it pass. -/
def Origin (x : Point) (e : Ending) : Prop :=
  ∃ y gs t inner, x.Reaches y ∧ y.Breaks e gs t ∧ y.layers = inner ++ x.layers ∧
    ∀ l ∈ inner, l.Lets e

namespace Origin

variable {x y : Point} {e : Ending}

/-- A point has an origin if the next one on the same layers has. -/
theorem on (h : Step x y) (hl : y.layers = x.layers) (hy : y.Origin e) : x.Origin e := by
  obtain ⟨z, gs, t, inner, hreach, hbreak, hinner, hlets⟩ := hy
  exact ⟨z, gs, t, inner, .head h hreach, hbreak, by rw [hinner, hl], hlets⟩

/-- And if the next one within a further layer has, which lets the ending through. -/
theorem into {l : Layer} (h : Step x y) (hl : y.layers = l :: x.layers) (hlet : l.Lets e)
    (hy : y.Origin e) : x.Origin e := by
  obtain ⟨z, gs, t, inner, hreach, hbreak, hinner, hlets⟩ := hy
  refine ⟨z, gs, t, inner ++ [l], .head h hreach, hbreak, ?_, ?_⟩
  · rw [hinner, hl, List.append_assoc, List.singleton_append]
  · intro l' hl'
    rcases List.mem_append.mp hl' with hl' | hl'
    · exact hlets l' hl'
    · rwa [List.mem_singleton.mp hl']

theorem here {gs : List Guard} {t : Thread} (h : x.Breaks e gs t) : x.Origin e :=
  ⟨x, gs, t, [], .refl, h, rfl, nofun⟩

end Origin

end Point

/-- Leaving a block does not change how it ended. -/
theorem Progress.leave_ending (p : Progress) : p.leave.1 = p.ending := by
  obtain ⟨e, gs, t⟩ := p
  cases e <;> rfl

/-- And neither does leaving a trap. -/
theorem Thread.catching_ending (t : Thread) (body : Computation) :
    (t.catching body).1 = (body (t.replaceHook .unwind)).1 := by
  unfold catching
  split <;> next heq => rw [heq]

/-- A run within a program ends as the run of the driver does. -/
theorem Thread.runWith_ending (host : Host) (setup : RunSetup) (entry : Computation) (t : Thread) :
    (t.runWith host setup entry).1 =
      ((t.enterRun setup).drive host setup.printer entry).1.toEnding := by
  rw [runWith]
  rcases (t.enterRun setup).drive host setup.printer entry with ⟨_ | _ | _, after⟩ <;> rfl

section

open Point

variable {e : Ending} {host : Host} {ls : List Layer} {gs : List Guard} {t : Thread}

/-- Every end of the block that is such has an origin, wherever the block stands. -/
def Block.HasOrigins (e : Ending) (b : Block) : Prop :=
  ∀ host ls gs t, (b.steps host gs t).ending = e → Origin ⟨host, ls, gs, t, .block b⟩ e

/-- A block from end to end that ended so has an origin within it. -/
theorem Block.HasOrigins.exec {b : Block} (hb : b.HasOrigins e) (h : (b.exec host t).1 = e) :
    Origin ⟨host, ls, [], t, .block b⟩ e :=
  hb host ls [] t ((Progress.leave_ending _).symm.trans h)

/-- An end comes from the first part of a block or from the rest. -/
theorem Block.origin_of_parts {b : Block} (hrest : b.rest.HasOrigins e)
    (hfirst : (b.first.steps host gs t).ending = e → Origin ⟨host, ls, gs, t, .block b⟩ e)
    (h : (b.steps host gs t).ending = e) : Origin ⟨host, ls, gs, t, .block b⟩ e := by
  rw [b.steps_first] at h
  rcases hf : b.first.steps host gs t with ⟨e', gs', t'⟩
  rw [hf] at h hfirst
  cases e' with
  | next => exact (hrest host ls gs' t' h).on (.later hf) rfl
  | returned | unwound | exited => exact hfirst h

variable (he : e.Abrupt)

include he

/-- A run is left by the end of its entry, or by the printing of its value. -/
theorem Point.origin_run {printer : Printer} {entry : Block} (hentry : entry.HasOrigins e)
    (h : (t.drive host printer (entry.exec host)).1.toEnding = e) :
    Origin ⟨host, ls, gs, t, .run printer entry⟩ e := by
  rw [Thread.drive] at h
  have hending := t.clearMessage.catching_ending (entry.exec host)
  rcases hc : t.clearMessage.catching (entry.exec host) with ⟨e', t'⟩
  rw [hc] at h hending
  -- the end of the entry, where it is that of the run
  have hinto (h : e' = e) : Origin ⟨host, ls, gs, t, .run printer entry⟩ e :=
    (hentry.exec (hending.symm.trans h)).into .entry rfl trivial
  cases e' with
  | exited => exact hinto h
  | next =>
    subst h
    exact (Origin.here (.print rfl)).on (.print hc rfl) rfl
  | returned v =>
    subst h
    exact (Origin.here (.print rfl)).on (.print hc rfl) rfl
  | unwound p =>
    cases p with
    | raised =>
      -- a raise is reported, and that is no abrupt end
      subst h
      exact he.elim
    | words | boxed | number => exact hinto h

/-- Every abrupt end of a block has an origin. By induction on the block: its first part either goes
on, or ends so by itself or by a block within it. -/
theorem Block.hasOrigins (b : Block) : b.HasOrigins e := by
  intro host ls gs t
  have hne : e ≠ .next := by
    rintro rfl
    exact he
  have hnr (v : Value) : e ≠ .returned v := by
    rintro rfl
    exact he
  induction b generalizing host ls gs t with
  | done => exact fun h => absurd h.symm hne
  | choose next ih =>
    intro h
    exact (ih t.sight host ls gs t h).on .choose rfl
  | act a rest ih =>
    refine origin_of_parts ih fun h => ?_
    rw [first, steps, Progress.andThen_done] at h
    subst h
    exact .here (.act rfl)
  | scope body rest ihb ihr =>
    refine origin_of_parts ihr fun h => ?_
    rw [first, steps_scope] at h
    rcases hb : body.exec host t with ⟨e', t'⟩
    rw [hb] at h
    have hinto (h : e' = e) : Origin ⟨host, ls, gs, t, .block (.scope body rest)⟩ e :=
      (HasOrigins.exec ihb (by rw [hb, h])).into .scope rfl trivial
    cases e' with
    | next => exact absurd h.symm hne
    | returned | unwound | exited => exact hinto h
  | trap body handler rest ihb ihh ihr =>
    refine origin_of_parts ihr fun h => ?_
    rw [first, steps_trap] at h
    have hending := t.catching_ending (body.exec host)
    rcases hc : t.catching (body.exec host) with ⟨e', t'⟩
    rw [hc] at h hending
    have hinto (h : e' = e) : Origin ⟨host, ls, gs, t, .block (.trap body handler rest)⟩ e :=
      (HasOrigins.exec ihb (hending.symm.trans h)).into .trap rfl trivial
    cases e' with
    | next | returned => exact absurd h.symm hne
    | exited => exact hinto h
    | unwound p =>
      cases p with
      | words | boxed | number => exact hinto h
      | raised =>
        -- the raise is over, and the end is that of the handler
        rw [afterTrap, afterPlain_done] at h
        exact (HasOrigins.exec ihh h).into (.handler hc) rfl trivial
  | contain body rest ihb ihr =>
    refine origin_of_parts ihr fun h => ?_
    rw [first, steps_contain] at h
    rcases hb : body.exec host t with ⟨e', t'⟩
    rw [hb] at h
    cases e' with
    | next | returned | unwound => exact absurd h.symm hne
    | exited => exact (HasOrigins.exec ihb (by rw [hb]; exact h)).into .contain rfl h.symm
  | spawn own body rest ihb ihr =>
    refine origin_of_parts ihr fun h => ?_
    rw [first, steps_spawn] at h
    cases hb : (body.exec own .fresh).1 with
    | next | returned | unwound =>
      rw [hb] at h
      exact absurd h.symm hne
    | exited =>
      rw [hb] at h
      exact (HasOrigins.exec ihb (hb.trans h)).into .spawn rfl h.symm
  | run setup entry rest ihe ihr =>
    refine origin_of_parts ihr fun h => ?_
    rw [first, steps_run, afterPlain_done, Thread.runWith_ending] at h
    exact (origin_run he ihe h).into .run rfl trivial

/-- Every abrupt end of a point has an origin: an execution is cut off, or left by an unwinding that
is foreign to the trap, at one of its points. -/
theorem Point.origin (x : Point) (h : x.result.1 = e) : x.Origin e := by
  obtain ⟨host, ls, gs, t, task⟩ := x
  cases task with
  | block b => exact b.hasOrigins he host ls gs t ((Progress.leave_ending _).symm.trans h)
  | run printer entry => exact origin_run he (entry.hasOrigins he) h
  | print v printer =>
    subst h
    exact .here (.print rfl)

end

end Epilogue
