import Epilogue.Proofs.Run.Points
import Epilogue.Proofs.Trap.Stack

/-!
# Epilogue — levels of hooks at every point

A program whose guards are dropped in order is followed from point to point, and beside it the same
program on a stack of hooks, which knows neither slot nor guards. Wherever the one comes the other
comes too, and there the slot holds the top of the stack and each guard that is alive, the ones of
traps included, has saved the level below the one that it pushed.

* `StackPoint`, `StackPoint.Step` — the points of an execution on a stack, and how it comes from one
  to the next;
* `Point.saves` — the hooks that are saved at a point;
* `Point.OnStack` — a point of a thread and one on a stack are the same.

Main results:

* `Point.Step.onStack`, `Point.Reaches.onStack` — one step, and all steps, are matched on the stack;
* `slot_refines_stack` — the slot with its guards is a stack of hooks.
-/

namespace Epilogue

/-! ## Parts of a block -/

namespace StackProgress

variable {next : List String → HookStack → StackProgress} {live : List String}
  (hn : ∀ S, (next live S).live = live)

include hn

theorem after_live (r : Ending × HookStack) : (after next live r).live = live := by
  obtain ⟨e, S⟩ := r
  cases e with
  | next => exact hn S
  | returned | unwound | exited => rfl

theorem afterContain_live (r : Ending × HookStack) : (afterContain next live r).live = live := by
  obtain ⟨e, S⟩ := r
  cases e with
  | next | returned | unwound => exact hn S
  | exited => rfl

theorem afterTrap_live (handler : HookStack → Ending × HookStack) (r : Ending × HookStack) :
    (afterTrap next live handler r).live = live := by
  obtain ⟨e, S⟩ := r
  cases e with
  | next | returned => exact hn S
  | exited => rfl
  | unwound p =>
    cases p with
    | raised => exact after_live hn (handler S)
    | words | boxed | number => rfl

end StackProgress

namespace Block

variable {b : Block} {live : List String}

theorem InOrder.first (h : b.InOrder live) : b.first.InOrder live := by
  cases b with
  | done | choose => exact h
  | act | scope | contain => exact ⟨h.1, trivial⟩
  | trap => exact ⟨h.1, h.2.1, trivial⟩
  | spawn | run => exact h.elim

/-- The first part of a block leaves the guards with which the rest is in order. -/
theorem InOrder.rest (h : b.InOrder live) (host : Host) (S : HookStack) :
    b.rest.InOrder (b.first.onStack host live S).live := by
  -- nothing follows the first part, so the guards behind it are its own doing
  have hdone (S : HookStack) : (done.onStack host live S).live = live := rfl
  cases b with
  | done | choose => trivial
  | spawn | run => exact h.elim
  | act a rest =>
    have hlive : ((act a rest).first.onStack host live S).live = a.liveAfter live := by
      rw [← a.onStack_live host live S]
      simp only [Block.first, onStack, StackProgress.andThen]
      split <;> rfl
    rw [hlive]
    exact h.2
  | scope body rest =>
    have hlive : ((scope body rest).first.onStack host live S).live = live :=
      StackProgress.after_live hdone _
    rw [hlive]
    exact h.2
  | contain body rest =>
    have hlive : ((contain body rest).first.onStack host live S).live = live :=
      StackProgress.afterContain_live hdone _
    rw [hlive]
    exact h.2
  | trap body handler rest =>
    have hlive : ((trap body handler rest).first.onStack host live S).live = live :=
      StackProgress.afterTrap_live hdone _ _
    rw [hlive]
    exact h.2.2

end Block

/-! ## Points on a stack -/

/-- A point of an execution on a stack: a block that is about to be performed, with the guards of
its block that are alive. -/
structure StackPoint where
  host : Host
  live : List String
  stack : HookStack
  block : Block

namespace StackPoint

/-- How an execution on a stack comes from one point to the next. -/
inductive Step : StackPoint → StackPoint → Prop where
  | later {host live S live' S' b}
    (h : Block.onStack host (Block.first b) live S = ⟨.next, live', S'⟩) :
    Step ⟨host, live, S, b⟩ ⟨host, live', S', b.rest⟩
  | choose {host live S next} :
    Step ⟨host, live, S, .choose next⟩ ⟨host, live, S, next ⟨S.top, false, []⟩⟩
  | scope {host live S body rest} : Step ⟨host, live, S, .scope body rest⟩ ⟨host, [], S, body⟩
  | contain {host live S body rest} : Step ⟨host, live, S, .contain body rest⟩ ⟨host, [], S, body⟩
  | trap {host live S body handler rest} :
    Step ⟨host, live, S, .trap body handler rest⟩ ⟨host, [], S.push .unwind, body⟩
  | handler {host live S S' body handler rest}
      (h : S.catching (Block.execOnStack body host) = (.unwound .raised, S')) :
    Step ⟨host, live, S, .trap body handler rest⟩ ⟨host, [], S', handler⟩

/-- From one point to any later one. -/
abbrev Reaches : StackPoint → StackPoint → Prop := Relation.ReflTransGen Step

end StackPoint

/-! ## Points of a thread -/

/-- The hooks that are saved in a layer, the latest first. A trap and the entry of a run have saved
the hook that they displaced. -/
def Layer.saved : Layer → List Hook
  | scope gs | contain gs | spawn gs | run gs _ _ => Guard.saved gs
  | trap gs h => h :: Guard.saved gs
  | entry h => [h]

/-- The hooks that are saved at a point, the latest first. -/
def Point.saves (x : Point) : List Hook := Guard.saved x.guards ++ x.layers.flatMap Layer.saved

/-- A point of a thread and a point on a stack: the same block is about to be performed, with the
same guards, and what is in the slot and saved are the levels of the stack. -/
structure Point.OnStack (x : Point) (z : StackPoint) : Prop where
  host : x.host = z.host
  task : x.task = .block z.block
  live : x.guards.map Guard.name = z.live
  stack : z.stack = ⟨x.thread.hook, x.saves⟩
  inOrder : z.block.InOrder z.live

namespace Point

variable {x y : Point} {z : StackPoint}

/-- One step of a thread is matched by one on the stack. Into a trap a level is pushed; into its
handler, and to what is later, the whole of what is in between has been matched. -/
theorem Step.onStack (h : Step x y) (hx : x.OnStack z) : ∃ z', z.Step z' ∧ y.OnStack z' := by
  obtain ⟨xhost, ls, gs, t, task⟩ := x
  obtain ⟨host, live, S, b⟩ := z
  obtain ⟨hhost, htask, hlive, hstack, hb⟩ := hx
  obtain rfl : xhost = host := hhost
  obtain rfl : task = .block b := htask
  obtain rfl : gs.map Guard.name = live := hlive
  obtain rfl : S = .of t.hook gs (ls.flatMap Layer.saved) := hstack
  cases h with
  | run | spawn => exact hb.elim
  | @choose _ _ _ _ next =>
    -- what is seen is the same but for what the choice does not go by
    have hnext : next t.sight = next ⟨t.hook, false, []⟩ := hb.1 _ _ rfl
    exact ⟨_, .choose, rfl, congrArg Task.block hnext, rfl, rfl, hb.2 _⟩
  | scope => exact ⟨_, .scope, rfl, rfl, rfl, rfl, hb.1⟩
  | contain => exact ⟨_, .contain, rfl, rfl, rfl, rfl, hb.1⟩
  | trap => exact ⟨_, .trap, rfl, rfl, rfl, rfl, hb.1⟩
  | @handler _ _ _ _ t' body handler rest h =>
    have hcaught := Block.catching_onStack hb.1 xhost (Guard.saved gs ++ ls.flatMap Layer.saved) t
    rw [h] at hcaught
    exact ⟨_, .handler (Prod.ext hcaught.ending.symm (hcaught.stack nofun)), rfl, rfl, rfl, rfl,
      hb.2.1⟩
  | @later _ _ _ _ gs' t' _ h =>
    have hfirst := Block.steps_onStack gs hb.first xhost (ls.flatMap Layer.saved) t
    have hrest := hb.rest xhost (.of t.hook gs (ls.flatMap Layer.saved))
    rw [h] at hfirst
    generalize hq : Block.onStack xhost b.first (gs.map Guard.name) _ = q at hfirst hrest
    obtain ⟨e, live, S⟩ := q
    obtain ⟨hending, hlive, hstack⟩ := hfirst
    obtain rfl : .next = e := hending
    exact ⟨_, .later hq, rfl, rfl, hlive, hstack nofun, hrest⟩

/-- And so are all steps. -/
theorem Reaches.onStack (h : x.Reaches y) (hx : x.OnStack z) :
    ∃ z', z.Reaches z' ∧ y.OnStack z' := by
  induction h with
  | refl => exact ⟨z, .refl, hx⟩
  | tail _ hstep ih =>
    obtain ⟨z', hreach, hz'⟩ := ih
    obtain ⟨z'', hstep', hz''⟩ := hstep.onStack hz'
    exact ⟨z'', hreach.tail hstep', hz''⟩

namespace OnStack

variable (hx : x.OnStack z)

include hx

/-- The slot holds the top of the stack. -/
theorem top : x.thread.hook = z.stack.top := by rw [hx.stack]

/-- The guards have saved what is below it. -/
theorem below : x.saves = z.stack.below := by rw [hx.stack]

/-- Above the level that a guard pushed there are those of the guards made after it. The level below
is what the guard has saved. -/
theorem displaced {older younger : List Guard} {g : Guard} (h : x.guards = older ++ g :: younger) :
    z.stack.below[younger.length]? = some g.displaced := by
  have hlen : younger.length = (Guard.saved younger).length := by simp [Guard.saved]
  have hsaves : x.saves = Guard.saved younger ++
      (g.displaced :: (Guard.saved older ++ x.layers.flatMap Layer.saved)) := by
    rw [saves, h]
    simp [Guard.saved]
  rw [← hx.below, hsaves, hlen, List.getElem?_append_right (Nat.le_refl _), Nat.sub_self]
  rfl

/-- The step at a point, on the thread and on the stack. -/
theorem perform {a : Act} {rest : Block} (h : z.block = .act a rest) :
    let p := a.perform x.host x.guards x.thread
    let q := a.onStack x.host z.live z.stack
    p.ending = q.ending ∧ q.stack = .of p.thread.hook p.guards (x.layers.flatMap Layer.saved) := by
  -- the block that goes on there is in order with the guards that are alive
  have ha : a.InOrder (x.guards.map Guard.name) := by
    have hb := hx.inOrder
    rw [h, ← hx.live] at hb
    exact hb.1
  have hstep := Act.perform_onStack ha x.host (x.layers.flatMap Layer.saved) x.thread
  rw [hx.stack, ← hx.live]
  exact ⟨hstep.1, hstep.2.2⟩

/-- A guard that is dropped puts the level below its own back. -/
theorem drop {name : String} {rest : Block} (h : z.block = .act (.drop name) rest)
    (hname : name ∈ z.live) : z.stack.below.head? =
      some ((Act.drop name).perform x.host x.guards x.thread).thread.hook := by
  have hstack := (hx.perform h).2
  have hpop : ((Act.drop name).onStack x.host z.live z.stack).stack = z.stack.pop := by
    simp only [Act.onStack, if_pos hname]
  rw [hpop] at hstack
  -- the guard that is dropped has saved a level, so there is one below the top
  have hne : z.stack.below ≠ [] := by
    rw [← hx.live] at hname
    obtain ⟨g, hg, -⟩ := List.mem_map.mp hname
    rw [← hx.below, saves, Guard.saved]
    exact List.append_ne_nil_of_left_ne_nil
      (List.reverse_ne_nil_iff.mpr (List.ne_nil_of_mem (List.mem_map_of_mem hg))) _
  obtain ⟨below, hs, hbelow⟩ := List.exists_cons_of_ne_nil hne
  rw [HookStack.pop, hbelow] at hstack
  rw [hbelow]
  exact congrArg (fun S : HookStack => some S.top) hstack

end OnStack

end Point

/-! ## Main results -/

/--
**The slot is a stack of hooks.** Take any hook in the slot, and a block in which only the latest
guard is dropped, also in the bodies and handlers of its traps. The block ends as it does on a stack
whose one level is that hook, and leaves the top of the stack in the slot.

Every point of its execution is one of the execution on the stack. There the slot is the top, and
the hooks saved by the guards that are alive are the levels below, each guard's under the one that
it pushed. The step at such a point ends and leaves the slot as on the stack: a raise ends as the
hook at the top does, a replacement tells the program what was the top, and a guard that is dropped
puts back what the level below has come to hold.
-/
theorem slot_refines_stack (host : Host) (t : Thread) {b : Block} (hb : b.InOrder []) :
    let S : HookStack := ⟨t.hook, []⟩
    ((b.exec host t).1 = (b.execOnStack host S).1 ∧
      ((b.exec host t).1 ≠ .exited → (b.execOnStack host S).2 = ⟨(b.exec host t).2.hook, []⟩)) ∧
    ∀ x, (Point.start host t (.block b)).Reaches x →
      ∃ z, (StackPoint.mk host [] S b).Reaches z ∧ x.task = .block z.block ∧
        x.thread.hook = z.stack.top ∧ x.saves = z.stack.below ∧
        (∀ older g younger, x.guards = older ++ g :: younger →
          z.stack.below[younger.length]? = some g.displaced) ∧
        ∀ a rest, z.block = .act a rest →
          let p := a.perform x.host x.guards x.thread
          let q := a.onStack x.host z.live z.stack
          p.ending = q.ending ∧ p.thread.hook = q.stack.top ∧
          (∀ m, a = .raise m → p.ending = z.stack.top.raiseEnding x.host) ∧
          (∀ h, a = .replaceHook h → p.thread.told = x.thread.told ++ [.hookReplaced z.stack.top]) ∧
          (∀ name, a = .drop name → name ∈ z.live →
            z.stack.below.head? = some p.thread.hook) := by
  intro S
  have hexec := Block.exec_onStack hb host [] t
  refine ⟨⟨hexec.ending, hexec.stack⟩, fun x hreach => ?_⟩
  have hstart : (Point.start host t (.block b)).OnStack ⟨host, [], S, b⟩ := ⟨rfl, rfl, rfl, rfl, hb⟩
  obtain ⟨z, hz, hx⟩ := hreach.onStack hstart
  refine ⟨z, hz, hx.task, hx.top, hx.below, fun _ _ _ => hx.displaced, ?_⟩
  intro a rest hact p q
  obtain ⟨hending, hstack⟩ := hx.perform hact
  refine ⟨hending, by rw [hstack]; rfl, ?_, ?_, ?_⟩
  · -- a raise on the stack ends as the hook at the top by definition
    rintro m rfl
    exact hending
  · -- the program is told what the slot held, which was the top
    rintro h rfl
    rw [← hx.top]
    rfl
  · rintro name rfl hname
    exact hx.drop hact hname

/-- A block that installs two hooks with a replacement between them, recovers from a raise in a trap
whose body installs and replaces in turn, and drops the later guard. -/
def layered : Block :=
  .act (.install (.panics (.words "first")) "a") <| .act (.replaceHook (.panics (.words "flat"))) <|
    .act (.install (.stashes "kept" .unwind) "b") <|
      .trap (.act (.install (.panics .raised) "c") <| .act (.replaceHook .unwind) <|
          .act (.raise none) .done) .done <|
        .act (.drop "b") <| .act .look .done

/-- Behind the drop the flat replacement is in the slot again, and on top of the stack. -/
theorem layered_on_stack :
    ∃ x, (Point.start .process .fresh (.block layered)).Reaches x ∧
      x.task = .block (.act .look .done) ∧ x.thread.hook = .panics (.words "flat") ∧
      ∃ z, (StackPoint.mk .process [] ⟨.exit, []⟩ layered).Reaches z ∧
        z.stack.top = .panics (.words "flat") ∧ z.stack.below = [.exit] := by
  have hb : layered.InOrder [] := by
    simp only [layered, Block.InOrder, Act.InOrder, Act.liveAfter]
    refine ⟨trivial, trivial, trivial, ⟨trivial, trivial, trivial, trivial⟩, trivial, ?_⟩
    exact ⟨fun _ => ⟨["a"], rfl, by decide⟩, trivial, trivial⟩
  -- the trap and what is around it are passed step by step, up to the look
  obtain ⟨x, hreach, htask, hhook, hsaves⟩ : ∃ x,
      (Point.start .process .fresh (.block layered)).Reaches x ∧
        x.task = .block (.act .look .done) ∧ x.thread.hook = .panics (.words "flat") ∧
        x.saves = [.exit] :=
    ⟨_, .head (.later rfl) <| .head (.later rfl) <| .head (.later rfl) <| .head (.later rfl) <|
      .head (.later rfl) .refl, rfl, rfl, rfl⟩
  obtain ⟨z, hz, -, htop, hbelow, -⟩ := (slot_refines_stack .process .fresh hb).2 x hreach
  exact ⟨x, hreach, htask, hhook, z, hz, htop.symm.trans hhook, hbelow.symm.trans hsaves⟩

end Epilogue
