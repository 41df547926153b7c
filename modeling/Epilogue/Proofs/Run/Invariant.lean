import Epilogue.Program

/-!
# Epilogue — what every step keeps

A property of threads that is kept by each step that holds no block, by the bounds of traps and
scopes and by a run whose entry keeps it, is kept by any steps, however they end.

* `Progress.Maintains` — steps that keep a property of threads;
* `Thread.Invariant` — what a property has to be kept by.

Main result:

* `Block.steps_maintain` — the steps of a block keep it.
-/

namespace Epilogue

variable {I : Thread → Prop}

/-- Steps that keep a property of threads. -/
def Progress.Maintains (I : Thread → Prop) (next : List Guard → Thread → Progress) : Prop :=
  ∀ gs t, I t → I (next gs t).thread

/-- A property of threads that is kept by everything of which the steps of a block are made. A
thread that is joined leaves a trace that begins with that of a fresh thread. -/
structure Thread.Invariant (I : Thread → Prop) : Prop where
  note {t : Thread} (h : I t) (what : Happening) : I (t.note what)
  setHook {t : Thread} (h : I t) (hook : Hook) : I (t.setHook hook)
  enterTrap {t : Thread} (h : I t) : I (t.replaceHook .unwind)
  act {t : Thread} (h : I t) (a : Act) (host : Host) (gs : List Guard) :
    I (a.perform host gs t).thread
  join {t s : Thread} (h : I t) (hs : I .fresh → I s) : I (t.join s.trace)
  run {t : Thread} {entry : Computation} (h : I t) (host : Host) (setup : RunSetup)
    (he : ∀ t, I t → I (entry t).2) : I (t.runWith host setup entry).2

namespace Progress

/-- Steps in sequence maintain what each of them does. -/
theorem andThen_maintains {next : List Guard → Thread → Progress} (hn : Maintains I next)
    {p : Progress} (h : I p.thread) : I (p.andThen next).thread := by
  obtain ⟨e, gs, t⟩ := p
  cases e with
  | next => exact hn gs t h
  | returned | unwound | exited => exact h

/-- The guards that a block leaves behind only change the slot. -/
theorem leave_maintains (hset : ∀ {t : Thread}, I t → ∀ h, I (t.setHook h)) {p : Progress}
    (h : I p.thread) : I p.leave.2 := by
  have hfold (gs : List Guard) (t : Thread) (ht : I t) : I (gs.foldl Thread.dropGuard t) := by
    induction gs generalizing t with
    | nil => exact ht
    | cons g rest ih => exact ih (t.dropGuard g) (hset ht g.displaced)
  obtain ⟨e, gs, t⟩ := p
  cases e with
  | exited => exact h
  | next | returned | unwound => exact hfold gs.reverse t h

end Progress

/-- A trap maintains what its body does, as long as setting the hook does. -/
theorem Thread.catching_maintains (hset : ∀ {t : Thread}, I t → ∀ h, I (t.setHook h)) {t : Thread}
    {body : Computation} (h : I (body (t.replaceHook .unwind)).2) : I (t.catching body).2 := by
  unfold catching
  generalize body (t.replaceHook .unwind) = r at h ⊢
  obtain ⟨e, t'⟩ := r
  cases e with
  | exited => exact h
  | next | returned | unwound => exact hset h t.hook

namespace Block

section

variable (hnote : ∀ {t : Thread}, I t → ∀ what, I (t.note what))
  {next : List Guard → Thread → Progress} (hn : Progress.Maintains I next) (gs : List Guard)
  {r : Ending × Thread}

include hn

/-- What follows a handler or a run maintains what the rest of the block does. -/
theorem afterPlain_maintains (h : I r.2) : I (afterPlain next gs r).thread := by
  obtain ⟨e, t⟩ := r
  cases e with
  | next => exact hn gs t h
  | returned | unwound | exited => exact h

include hnote

/-- The same behind a block with guards of its own. -/
theorem afterScope_maintains (h : I r.2) : I (afterScope next gs r).thread := by
  obtain ⟨e, t⟩ := r
  cases e with
  | next => exact hn gs _ (hnote h _)
  | returned => exact hnote h _
  | unwound | exited => exact h

/-- The same behind the body of a trap, if the handler maintains it too. -/
theorem afterTrap_maintains {handler : Computation} (hh : ∀ t : Thread, I t → I (handler t).2)
    (h : I r.2) : I (afterTrap next gs handler r).thread := by
  obtain ⟨e, t⟩ := r
  cases e with
  | next | returned => exact hn gs _ (hnote h _)
  | exited => exact h
  | unwound p =>
    cases p with
    | raised => exact afterPlain_maintains hn gs (hh _ (hnote h .trapCaught))
    | words | boxed | number => exact hnote h _

/-- The same behind a block in which every unwinding is stopped. -/
theorem afterContain_maintains (h : I r.2) : I (afterContain next gs r).thread := by
  obtain ⟨e, t⟩ := r
  cases e with
  | next | returned | unwound => exact hn gs _ (hnote h _)
  | exited => exact h

/-- The same behind the join of a thread. -/
theorem afterSpawn_maintains {t : Thread} (h : I t) (e : Ending) :
    I (afterSpawn next gs t e).thread := by
  cases e with
  | next | returned | unwound => exact hn gs _ (hnote h _)
  | exited => exact h

end

/-- The steps of a block keep what each of them keeps. -/
theorem steps_maintain (hI : Thread.Invariant I) (b : Block) (host : Host) :
    Progress.Maintains I (b.steps host) := by
  have hexec {b : Block} {host : Host} (hb : Progress.Maintains I (b.steps host)) (t : Thread)
      (h : I t) : I (b.exec host t).2 := Progress.leave_maintains hI.setHook (hb [] t h)
  induction b generalizing host with
  | done => exact fun _ _ h => h
  | choose next ih => exact fun gs t h => ih t.sight host gs t h
  | act a rest ih =>
    exact fun gs t h => Progress.andThen_maintains (ih host) (hI.act h a host gs)
  | scope body rest ihb ihr =>
    exact fun gs t h => afterScope_maintains hI.note (ihr host) gs (hexec (ihb host) t h)
  | trap body handler rest ihb ihh ihr =>
    -- the slot is changed twice around the body, on the way in and on the way out
    intro gs t h
    rw [steps_trap]
    exact afterTrap_maintains hI.note (ihr host) gs (hexec (ihh host))
      (Thread.catching_maintains hI.setHook (hexec (ihb host) _ (hI.enterTrap h)))
  | contain body rest ihb ihr =>
    exact fun gs t h => afterContain_maintains hI.note (ihr host) gs (hexec (ihb host) t h)
  | spawn own body rest ihb ihr =>
    intro gs t h
    rw [steps_spawn]
    exact afterSpawn_maintains hI.note (ihr host) gs (hI.join h (hexec (ihb own) .fresh)) _
  | run setup entry rest ihe ihr =>
    intro gs t h
    rw [steps_run]
    exact afterPlain_maintains (ihr host) gs (hI.run h host setup (hexec (ihe host)))

/-- Dropping the guards at the end of a block maintains it too. -/
theorem leave_maintains (hI : Thread.Invariant I) (b : Block) (host : Host) (gs : List Guard)
    {t : Thread} (h : I t) : I (b.steps host gs t).leave.2 :=
  Progress.leave_maintains hI.setHook (b.steps_maintain hI host gs t h)

/-- A block from end to end maintains an invariant of threads. -/
theorem exec_maintains (hI : Thread.Invariant I) (b : Block) (host : Host) {t : Thread} (h : I t) :
    I (b.exec host t).2 := b.leave_maintains hI host [] h

end Block

end Epilogue
