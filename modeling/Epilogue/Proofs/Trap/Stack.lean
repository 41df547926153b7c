import Epilogue.Proofs.Trap.Raise
import Epilogue.Proofs.Trap.Restoration

/-!
# Epilogue — the slot as a stack of hooks

A thread has one slot for its hook, which guards and plain replacements write alike, and each guard
keeps the hook that it displaced. A program that drops its guards in the reverse order of their
making can do without both: it can be run on a stack of hooks. Installing a hook pushes it, dropping
a guard pops, a replacement overwrites the top, and a trap pushes the unwinding hook for its extent.
A raise calls the hook at the top.

* `HookStack` — stacks of hooks that are never empty;
* `Block.InOrder` — only the latest guard of a block is dropped;
* `Block.onStack` — the steps of a block on a stack, without slot and guards.

Main results:

* `Block.steps_onStack` — the slot and the guards after the steps of a block are the stack after
  them.
-/

namespace Epilogue

/-! ## Stacks -/

/-- A stack of hooks with at least one level. -/
structure HookStack where
  top : Hook
  /-- the levels below, the next one first -/
  below : List Hook
  deriving DecidableEq

namespace HookStack

def push (S : HookStack) (h : Hook) : HookStack := ⟨h, S.top :: S.below⟩

def overwrite (S : HookStack) (h : Hook) : HookStack := ⟨h, S.below⟩

/-- The last level stays. -/
def pop (S : HookStack) : HookStack :=
  match S.below with
  | [] => S
  | h :: hs => ⟨h, hs⟩

def popMany : Nat → HookStack → HookStack
  | 0, S => S
  | n + 1, S => S.pop.popMany n

/-- Runs a body one level up, unless the process ends inside. -/
def catching (S : HookStack) (body : HookStack → Ending × HookStack) : Ending × HookStack :=
  match body (S.push .unwind) with
  | (.exited, S') => (.exited, S')
  | (e, S') => (e, S'.pop)

end HookStack

/-- What a hook does to the stack on which it is called. One that recovers does so one level up. -/
def Hook.onStack : Hook → HookStack → HookStack
  | exit, S | unwind, S | panics _, S => S
  | stashes _ next, S => next.onStack S
  | replaces next _, S => next.onStack (S.overwrite next)
  | recovers _ _, S => (S.push .unwind).pop

/-- No hook reaches further than to the top. -/
theorem Hook.onStack_eq (h : Hook) (S : HookStack) : h.onStack S = S.overwrite (h.left S.top) := by
  induction h generalizing S with
  | exit | unwind | panics | recovers => rfl
  | stashes m next ih => exact ih S
  | replaces next m ih => exact ih (S.overwrite next)

/-! ## Programs in order -/

/-- Of the guards that are alive, the latest last, a step drops none but the latest. Steps whose end
depends on a printer or on the input are left out. -/
def Act.InOrder (live : List String) : Act → Prop
  | drop name => name ∈ live → ∃ older, live = older ++ [name] ∧ name ∉ older
  | render _ _ | returnByte => False
  | _ => True

/-- The guards that are alive after a step. -/
def Act.liveAfter (live : List String) : Act → List String
  | install _ name => live ++ [name]
  | drop name => if name ∈ live then live.dropLast else live
  | _ => live

/-- A block on one thread and without runs, in which only the latest guard is dropped. It may go on
by the hook that it finds in the slot. -/
def Block.InOrder : Block → List String → Prop
  | done, _ => True
  | act a rest, live => a.InOrder live ∧ rest.InOrder (a.liveAfter live)
  | scope body rest, live | contain body rest, live => body.InOrder [] ∧ rest.InOrder live
  | trap body handler rest, live => body.InOrder [] ∧ handler.InOrder [] ∧ rest.InOrder live
  | spawn _ _ _, _ | run _ _ _, _ => False
  | choose next, live =>
    (∀ s s' : Sight, s.hook = s'.hook → next s = next s') ∧ ∀ s, (next s).InOrder live

/-! ## Programs on a stack -/

/-- A state within a block that runs on a stack: how the steps so far ended, the guards that are
alive, and the stack. -/
structure StackProgress where
  ending : Ending
  live : List String
  stack : HookStack

namespace StackProgress

/-- Goes on while the steps run off their end. -/
def andThen (p : StackProgress) (next : List String → HookStack → StackProgress) : StackProgress :=
  match p.ending with
  | .next => next p.live p.stack
  | _ => p

/-- Leaves the block: the levels of its guards are popped. -/
def leave (p : StackProgress) : Ending × HookStack :=
  match p.ending with
  | .exited => (.exited, p.stack)
  | e => (e, p.stack.popMany p.live.length)

variable (next : List String → HookStack → StackProgress) (live : List String)

/-- After a block within a block, or a handler. -/
def after : Ending × HookStack → StackProgress
  | (.next, S) => next live S
  | (e, S) => ⟨e, live, S⟩

/-- After the body of a trap. -/
def afterTrap (handler : HookStack → Ending × HookStack) : Ending × HookStack → StackProgress
  | (.unwound .raised, S) => after next live (handler S)
  | (.unwound p, S) => ⟨.unwound p, live, S⟩
  | (.exited, S) => ⟨.exited, live, S⟩
  | (_, S) => next live S

/-- After a block in which every unwinding is stopped. -/
def afterContain : Ending × HookStack → StackProgress
  | (.exited, S) => ⟨.exited, live, S⟩
  | (_, S) => next live S

end StackProgress

/-- Performs a step on a stack. -/
def Act.onStack (host : Host) (a : Act) (live : List String) (S : HookStack) : StackProgress :=
  match a with
  | raise _ => ⟨S.top.raiseEnding host, live, S.top.onStack S⟩
  | panic p => ⟨.unwound p, live, S⟩
  | unwrap expected v =>
    match WrongShape.find? expected v with
    | some w => ⟨.unwound (.words w.message), live, S⟩
    | none => ⟨.next, live, S⟩
  | replaceHook h => ⟨.next, live, S.overwrite h⟩
  | install h name => ⟨.next, live ++ [name], S.push h⟩
  | drop name => if name ∈ live then ⟨.next, live.dropLast, S.pop⟩ else ⟨.next, live, S⟩
  | Act.return v => ⟨.returned v, live, S⟩
  | _ => ⟨.next, live, S⟩

/-- Performs the steps of a block on a stack, given the guards that are alive. What the block sees
is the top. -/
def Block.onStack (host : Host) : Block → List String → HookStack → StackProgress
  | done, live, S => ⟨.next, live, S⟩
  | act a rest, live, S => (a.onStack host live S).andThen (rest.onStack host)
  | scope body rest, live, S => .after (rest.onStack host) live (body.onStack host [] S).leave
  | trap body handler rest, live, S =>
    .afterTrap (rest.onStack host) live (fun S => (handler.onStack host [] S).leave)
      (S.catching fun S => (body.onStack host [] S).leave)
  | contain body rest, live, S =>
    .afterContain (rest.onStack host) live (body.onStack host [] S).leave
  | spawn _ _ rest, live, S | run _ _ rest, live, S => rest.onStack host live S
  | choose next, live, S => (next ⟨S.top, false, []⟩).onStack host live S

/-- Runs a block on a stack from end to end. -/
def Block.execOnStack (b : Block) (host : Host) (S : HookStack) : Ending × HookStack :=
  (b.onStack host [] S).leave

/-! ## Slot and guards as a stack -/

/-- The hooks that guards have saved, that of the latest first. -/
def Guard.saved (gs : List Guard) : List Hook := (gs.map Guard.displaced).reverse

theorem Guard.saved_concat (gs : List Guard) (g : Guard) :
    saved (gs ++ [g]) = g.displaced :: saved gs := by simp [saved]

/-- The slot at the top, and below it what the guards have saved and what was there before. -/
def HookStack.of (h : Hook) (gs : List Guard) (base : List Hook) : HookStack :=
  ⟨h, Guard.saved gs ++ base⟩

/-- A block that is left on a thread and on a stack: the slot is the top, on the levels
from before. -/
structure Thread.OnStack (base : List Hook) (r : Ending × Thread) (r' : Ending × HookStack) :
    Prop where
  ending : r.1 = r'.1
  stack : r.1 ≠ .exited → r'.2 = ⟨r.2.hook, base⟩

/-- A state within a block on a thread and on a stack. -/
structure Progress.OnStack (base : List Hook) (p : Progress) (q : StackProgress) : Prop where
  ending : p.ending = q.ending
  live : p.guards.map Guard.name = q.live
  stack : p.ending ≠ .exited → q.stack = .of p.thread.hook p.guards base

variable {base : List Hook}

/-- Each guard that is dropped puts back what the level below it holds. -/
theorem HookStack.popMany_of (t : Thread) (gs : List Guard) :
    (HookStack.of t.hook gs base).popMany gs.length = ⟨(t.dropGuards gs).hook, base⟩ := by
  have hfold (rs : List Guard) (t : Thread) :
      HookStack.popMany rs.length ⟨t.hook, rs.map Guard.displaced ++ base⟩ =
        ⟨(rs.foldl Thread.dropGuard t).hook, base⟩ := by
    induction rs generalizing t with
    | nil => rfl
    | cons g rs ih => exact ih (t.dropGuard g)
  have hrev := hfold gs.reverse t
  rwa [List.length_reverse, List.map_reverse] at hrev

/-- What is left is the levels from before under the slot, unless the process has ended. -/
theorem Thread.OnStack.exited_or {r : Ending × Thread} {r' : Ending × HookStack}
    (h : Thread.OnStack base r r') :
    (∃ t S, r = (.exited, t) ∧ r' = (.exited, S)) ∨
      ∃ e t, e ≠ .exited ∧ r = (e, t) ∧ r' = (e, ⟨t.hook, base⟩) := by
  obtain ⟨e, t⟩ := r
  obtain ⟨e', S⟩ := r'
  obtain rfl : e = e' := h.ending
  -- the end of the process leaves the stack as it may be
  by_cases he : e = .exited
  · subst he
    exact .inl ⟨t, S, rfl, rfl⟩
  · obtain rfl : S = ⟨t.hook, base⟩ := h.stack he
    exact .inr ⟨e, t, he, rfl, rfl⟩

theorem Progress.OnStack.of_exited {gs : List Guard} (t : Thread) (S : HookStack) :
    OnStack base ⟨.exited, gs, t⟩ ⟨.exited, gs.map Guard.name, S⟩ :=
  ⟨rfl, rfl, fun hne => absurd rfl hne⟩

/-- Leaving a block pops what its guards have pushed. -/
theorem Progress.OnStack.leave {p : Progress} {q : StackProgress} (h : p.OnStack base q) :
    Thread.OnStack base p.leave q.leave := by
  obtain ⟨e, gs, t⟩ := p
  obtain ⟨e', live, S⟩ := q
  obtain ⟨he, hlive, hstack⟩ := h
  obtain rfl : e = e' := he
  obtain rfl : gs.map Guard.name = live := hlive
  -- each guard that is dropped pops the level that it has pushed
  cases e with
  | exited => exact ⟨rfl, fun hne => absurd rfl hne⟩
  | next | returned | unwound =>
    obtain rfl : S = .of t.hook gs base := hstack nofun
    refine ⟨rfl, fun _ => ?_⟩
    simp only [StackProgress.leave, List.length_map]
    exact HookStack.popMany_of t gs

/-! ## Steps -/

/-- The latest guard is the one that its name finds. -/
theorem Guard.find_latest {gs : List Guard} {older : List String} {name : String}
    (h : gs.map Guard.name = older ++ [name]) (hname : name ∉ older) :
    ∃ gs' g, gs = gs' ++ [g] ∧ gs'.map Guard.name = older ∧
      (gs.find? fun g => g.name == name) = some g ∧
      (gs.eraseP fun g => g.name == name) = gs' := by
  obtain ⟨gs', last, rfl, rfl, hlast⟩ := List.map_eq_append_iff.mp h
  obtain ⟨g, rfl, rfl⟩ : ∃ g, last = [g] ∧ g.name = name := by
    simpa [List.map_eq_cons_iff] using hlast
  -- the older guards have other names, so the search gets to the last one
  have hnone : ∀ g' ∈ gs', ¬(g'.name == g.name) = true := by
    intro g' hg' heq
    exact hname (List.mem_map.mpr ⟨g', hg', beq_iff_eq.mp heq⟩)
  refine ⟨gs', g, rfl, rfl, ?_, ?_⟩
  · simp [List.find?_append, List.find?_eq_none.mpr hnone]
  · rw [List.eraseP_append_right _ hnone]
    simp

/-- The stack machine has the guards alive that the listing says. -/
theorem Act.onStack_live (a : Act) (host : Host) (live : List String) (S : HookStack) :
    (a.onStack host live S).live = a.liveAfter live := by
  cases a with
  | unwrap expected v =>
    simp only [onStack]
    split <;> rfl
  | drop name =>
    simp only [onStack, liveAfter]
    split <;> rfl
  | _ => rfl

/-- One step on a thread and on the stack that its slot and guards make. Even a step that ends the
process leaves the slot at the top. -/
theorem Act.perform_onStack {a : Act} {gs : List Guard} (ha : a.InOrder (gs.map Guard.name))
    (host : Host) (base : List Hook) (t : Thread) :
    let p := a.perform host gs t
    let q := a.onStack host (gs.map Guard.name) (.of t.hook gs base)
    p.ending = q.ending ∧ p.guards.map Guard.name = q.live ∧
      q.stack = .of p.thread.hook p.guards base := by
  cases a with
  | render | returnByte => exact ha.elim
  | look | setMessage | clearMessage | takeMessage | panic | replaceHook | write | flush | read
    | readLine | «return» => exact ⟨rfl, rfl, rfl⟩
  | raise m =>
    refine ⟨(t.note .raising).raiseUnder_ending host m, rfl, ?_⟩
    simp only [perform, onStack, Hook.onStack_eq, Thread.raiseUnder_left]
    rfl
  | unwrap expected v =>
    simp only [perform, onStack]
    cases WrongShape.find? expected v with
    | some w => exact ⟨rfl, rfl, rfl⟩
    | none => exact ⟨rfl, rfl, rfl⟩
  | install h name =>
    -- the new guard saves the hook that was the top
    refine ⟨rfl, by simp [perform, onStack], ?_⟩
    simp only [perform, onStack, HookStack.of, HookStack.push, Guard.saved_concat]
    rfl
  | drop name =>
    by_cases hmem : name ∈ gs.map Guard.name
    · obtain ⟨older, hlive, hname⟩ := ha hmem
      obtain ⟨gs', g, rfl, hgs', hfind, herase⟩ := Guard.find_latest hlive hname
      have hp : (drop name).perform host (gs' ++ [g]) t =
          ⟨.next, gs', (t.dropGuard g).note (.guardDropped true)⟩ := by
        simp only [perform, hfind, herase]
      have hq (S : HookStack) : (drop name).onStack host ((gs' ++ [g]).map Guard.name) S =
          ⟨.next, older, S.pop⟩ := by
        show (if name ∈ _ then _ else _) = _
        rw [if_pos hmem, hlive, List.dropLast_concat]
      -- the level below the guard's own is the hook that it saved
      have hpop : (HookStack.of t.hook (gs' ++ [g]) base).pop = .of g.displaced gs' base := by
        simp only [HookStack.of, Guard.saved_concat]
        rfl
      rw [hp, hq, hpop]
      exact ⟨rfl, hgs', rfl⟩
    · have hfind : (gs.find? fun g => g.name == name) = none := by
        refine List.find?_eq_none.mpr fun g hg heq => ?_
        exact hmem (List.mem_map.mpr ⟨g, hg, beq_iff_eq.mp heq⟩)
      have hp : (drop name).perform host gs t = ⟨.next, gs, t.note (.guardDropped false)⟩ := by
        simp only [perform, hfind]
      have hq (S : HookStack) : (drop name).onStack host (gs.map Guard.name) S =
          ⟨.next, gs.map Guard.name, S⟩ := if_neg hmem
      rw [hp, hq]
      exact ⟨rfl, rfl, rfl⟩

/-! ## Blocks -/

/-- Steps that go on alike on a thread and on a stack. -/
def Progress.GoesOn (base : List Hook) (gs : List Guard)
    (next : List Guard → Thread → Progress) (next' : List String → HookStack → StackProgress) :
    Prop :=
  ∀ t : Thread, (next gs t).OnStack base (next' (gs.map Guard.name) (.of t.hook gs base))

namespace Block

variable {next : List Guard → Thread → Progress} {next' : List String → HookStack → StackProgress}
  {gs : List Guard} (hn : Progress.GoesOn base gs next next') {r : Ending × Thread}
  {r' : Ending × HookStack} (hr : Thread.OnStack (Guard.saved gs ++ base) r r')

include hn hr

/-- What follows a handler or a run follows the stack machine if the rest of the block does. -/
theorem afterPlain_onStack :
    (afterPlain next gs r).OnStack base (.after next' (gs.map Guard.name) r') := by
  obtain ⟨t, S, rfl, rfl⟩ | ⟨e, t, hne, rfl, rfl⟩ := hr.exited_or
  · exact .of_exited t S
  cases e with
  | exited => exact absurd rfl hne
  | next => exact hn t
  | returned | unwound => exact ⟨rfl, rfl, fun _ => rfl⟩

/-- The same behind a block with guards of its own. -/
theorem afterScope_onStack :
    (afterScope next gs r).OnStack base (.after next' (gs.map Guard.name) r') := by
  obtain ⟨t, S, rfl, rfl⟩ | ⟨e, t, hne, rfl, rfl⟩ := hr.exited_or
  · exact .of_exited t S
  cases e with
  | exited => exact absurd rfl hne
  | next => exact hn (t.note .scopeLeft)
  | returned | unwound => exact ⟨rfl, rfl, fun _ => rfl⟩

/-- The same behind a block in which every unwinding is stopped. -/
theorem afterContain_onStack :
    (afterContain next gs r).OnStack base (.afterContain next' (gs.map Guard.name) r') := by
  obtain ⟨t, S, rfl, rfl⟩ | ⟨e, t, hne, rfl, rfl⟩ := hr.exited_or
  · exact .of_exited t S
  cases e with
  | exited => exact absurd rfl hne
  | next | returned | unwound => exact hn (t.note _)

/-- The same behind the body of a trap, if the handler follows the machine above the guards of the
block. -/
theorem afterTrap_onStack {handler : Computation} {handler' : HookStack → Ending × HookStack}
    (hh : ∀ t : Thread, Thread.OnStack (Guard.saved gs ++ base) (handler t)
      (handler' (.of t.hook gs base))) :
    (afterTrap next gs handler r).OnStack base
      (.afterTrap next' (gs.map Guard.name) handler' r') := by
  obtain ⟨t, S, rfl, rfl⟩ | ⟨e, t, hne, rfl, rfl⟩ := hr.exited_or
  · exact .of_exited t S
  cases e with
  | exited => exact absurd rfl hne
  | next | returned => exact hn (t.note _)
  | unwound p =>
    cases p with
    | raised => exact afterPlain_onStack hn (hh (t.note .trapCaught))
    | words | boxed | number => exact ⟨rfl, rfl, fun _ => rfl⟩

end Block

/-- The extent of a trap is one level up, and the hook that it displaced is the level below. -/
theorem Thread.catching_onStack {body : Computation} {body' : HookStack → Ending × HookStack}
    {t : Thread} (hb : Thread.OnStack (t.hook :: base) (body (t.replaceHook .unwind))
      (body' ⟨.unwind, t.hook :: base⟩)) :
    Thread.OnStack base (t.catching body) (HookStack.catching ⟨t.hook, base⟩ body') := by
  unfold catching HookStack.catching HookStack.push
  obtain ⟨t', S, hr, hr'⟩ | ⟨e, t', hne, hr, hr'⟩ := hb.exited_or
  · rw [hr, hr']
    exact ⟨rfl, fun hne => absurd rfl hne⟩
  rw [hr, hr']
  cases e with
  | exited => exact absurd rfl hne
  | next | returned | unwound => exact ⟨rfl, fun _ => rfl⟩

/-- A block from end to end, on a thread and on the stack that its slot and some levels make. -/
theorem Block.exec_of_steps {b : Block} {host : Host}
    (h : Progress.GoesOn base [] (b.steps host) (b.onStack host)) (t : Thread) :
    Thread.OnStack base (b.exec host t) (b.execOnStack host ⟨t.hook, base⟩) :=
  (h t).leave

/-- The same in a trap, one level up. -/
theorem Block.catching_of_steps {b : Block} {host : Host} {t : Thread}
    (h : Progress.GoesOn (t.hook :: base) [] (b.steps host) (b.onStack host)) :
    Thread.OnStack base (t.catching (b.exec host))
      (HookStack.catching ⟨t.hook, base⟩ (b.execOnStack host)) :=
  Thread.catching_onStack (exec_of_steps h (t.replaceHook .unwind))

/-- The steps of a block in order, on a thread and on the stack that its slot and guards make. By
induction on the block: a block within it begins on the levels of the guards around it, and the one
of a trap also on that of the hook that the trap displaced. -/
theorem Block.steps_onStack {b : Block} (gs : List Guard) (hb : b.InOrder (gs.map Guard.name))
    (host : Host) (base : List Hook) :
    Progress.GoesOn base gs (b.steps host) (b.onStack host) := by
  induction b generalizing gs base with
  | done => exact fun t => ⟨rfl, rfl, fun _ => rfl⟩
  | spawn | run => exact hb.elim
  | choose next ih =>
    intro t
    -- the choice goes by the hook alone
    have hnext : next t.sight = next ⟨t.hook, false, []⟩ := hb.1 _ _ rfl
    show ((next t.sight).steps host gs t).OnStack base ((next ⟨t.hook, false, []⟩).onStack host _ _)
    rw [← hnext]
    exact ih t.sight gs (hb.2 t.sight) base t
  | act a rest ih =>
    intro t
    obtain ⟨hending, hlive, hstack⟩ := Act.perform_onStack hb.1 host base t
    have hrest := hb.2
    rw [← a.onStack_live host _ (.of t.hook gs base)] at hrest
    simp only [steps, onStack]
    generalize a.perform host gs t = p at hending hlive hstack ⊢
    generalize a.onStack host (gs.map Guard.name) (.of t.hook gs base) = q at *
    obtain ⟨e, gs', t'⟩ := p
    obtain ⟨e', live, S⟩ := q
    obtain rfl : e = e' := hending
    obtain rfl : gs'.map Guard.name = live := hlive
    obtain rfl : S = .of t'.hook gs' base := hstack
    cases e with
    | next => exact ih gs' hrest base t'
    | returned | unwound | exited => exact ⟨rfl, rfl, fun _ => rfl⟩
  | scope body rest ihb ihr =>
    intro t
    have hbody := exec_of_steps (ihb [] hb.1 (Guard.saved gs ++ base)) t
    exact afterScope_onStack (ihr gs hb.2 base) hbody
  | contain body rest ihb ihr =>
    intro t
    have hbody := exec_of_steps (ihb [] hb.1 (Guard.saved gs ++ base)) t
    exact afterContain_onStack (ihr gs hb.2 base) hbody
  | trap body handler rest ihb ihh ihr =>
    intro t
    have hcaught := catching_of_steps (ihb [] hb.1 (t.hook :: (Guard.saved gs ++ base)))
    exact afterTrap_onStack (ihr gs hb.2.2 base) hcaught
      (exec_of_steps (ihh [] hb.2.1 (Guard.saved gs ++ base)))

namespace Block

variable {b : Block} (hb : b.InOrder []) (host : Host) (base : List Hook) (t : Thread)

include hb

/-- A block from end to end follows the stack machine. -/
theorem exec_onStack : Thread.OnStack base (b.exec host t) (b.execOnStack host ⟨t.hook, base⟩) :=
  exec_of_steps (steps_onStack [] hb host base) t

/-- And so does a trap around it. -/
theorem catching_onStack : Thread.OnStack base (t.catching (b.exec host))
    (HookStack.catching ⟨t.hook, base⟩ (b.execOnStack host)) :=
  catching_of_steps (steps_onStack [] hb host (t.hook :: base))

end Block

end Epilogue
