import Epilogue.Process
import Epilogue.Proofs.Run.Independence
import Epilogue.Proofs.Run.Points
import Epilogue.Proofs.Trap.Raise
import Epilogue.Proofs.Trap.Restoration

/-!
# Epilogue — hooks and the extent of traps

A guard saves whatever hook was in the slot and puts it back later, the hook from outside a trap or
the unwinding hook included. Yet neither gets across the bounds of a trap: what is in the slot and
what the guards of a block have saved comes either from the program, or from the trap around the
block on the same thread, or, if there is none, from before.

* `Block.Puts` — all hooks that a block puts into a slot are of a kind;
* `catches` — how many traps and entries of runs are around a point on its thread;
* `Point.Finds`, `Point.Invokes` — a raise at a point that finds a hook in the slot, or comes to it.

Main results:

* `Block.steps_holds` — the steps of a block leave hooks of the kind in the slot and in the guards;
* `Point.Step.sound`, `Point.Reaches.sound` — and so does each step from point to point, and all
  steps;
* `hooks_within_extent` — neither the exit hook nor the unwinding hook is raised into where it must
  not be.
-/

namespace Epilogue

/-! ## Hooks that a program puts into slots -/

/-- The hook that the step puts into the slot is of a kind. -/
def Act.Puts (P : Hook → Prop) : Act → Prop
  | replaceHook h | install h _ => P h
  | _ => True

/-- All hooks that the block puts into a slot are of a kind, also the exit hook with which a thread
starts. -/
def Block.Puts (P : Hook → Prop) : Block → Prop
  | done => True
  | act a rest => a.Puts P ∧ rest.Puts P
  | scope body rest | contain body rest | run _ body rest => body.Puts P ∧ rest.Puts P
  | trap body handler rest => body.Puts P ∧ handler.Puts P ∧ rest.Puts P
  | spawn _ body rest => P .exit ∧ body.Puts P ∧ rest.Puts P
  | choose next => ∀ s, (next s).Puts P

/-- The same for what is about to go on. -/
def Task.Puts (P : Hook → Prop) : Task → Prop
  | block b => b.Puts P
  | run _ entry => entry.Puts P
  | print _ _ => True

/-- A wider kind. -/
theorem Block.Puts.imp {P R : Hook → Prop} (hPR : ∀ h, P h → R h) {b : Block} (hb : b.Puts P) :
    b.Puts R := by
  induction b with
  | done => trivial
  | act a rest ih =>
    refine ⟨?_, ih hb.2⟩
    cases a with
    | replaceHook h => exact hPR h hb.1
    | install h name => exact hPR h hb.1
    | _ => trivial
  | scope body rest ihb ihr | contain body rest ihb ihr | run _ body rest ihb ihr =>
    exact ⟨ihb hb.1, ihr hb.2⟩
  | trap body handler rest ihb ihh ihr => exact ⟨ihb hb.1, ihh hb.2.1, ihr hb.2.2⟩
  | spawn own body rest ihb ihr => exact ⟨hPR _ hb.1, ihb hb.2.1, ihr hb.2.2⟩
  | choose next ih => exact fun s => ih s (hb s)

theorem Task.Puts.imp {P R : Hook → Prop} (hPR : ∀ h, P h → R h) {task : Task}
    (h : task.Puts P) : task.Puts R := by
  cases task with
  | block b => exact Block.Puts.imp hPR h
  | run printer entry => exact Block.Puts.imp hPR h
  | print v printer => trivial

/-! ## The slot after a raise -/

/-- A hook leaves in the slot what it has found there, or one of those that it puts in. -/
theorem Hook.left_mem_puts (h h' : Hook) : h.left h' = h' ∨ h.left h' ∈ h.puts := by
  induction h generalizing h' with
  | exit | unwind | panics | recovers => exact .inl rfl
  | stashes m next ih => exact ih h'
  | replaces next m ih =>
    rcases ih next with hleft | hleft
    · exact .inr (List.mem_cons.mpr (.inl hleft))
    · exact .inr (List.mem_cons_of_mem _ hleft)

/-- A hook that was called from the slot leaves there a hook that is found by it. -/
theorem Hook.left_mem_found (h : Hook) : h.left h ∈ h.found := List.mem_cons.mpr (h.left_mem_puts h)

namespace Thread

/-- A raise leaves a hook in the slot that was found there. -/
theorem raiseUnder_hook_mem (host : Host) (m : Option String) (t : Thread) :
    (t.raiseUnder host m).2.hook ∈ t.hook.found := by
  unfold raiseUnder
  split
  · exact List.mem_cons_self
  · cases m with
    | none =>
      rw [raise_hook]
      exact t.hook.left_mem_found
    | some m =>
      rw [raiseWith_hook]
      exact t.hook.left_mem_found

end Thread

/-- What a printer does at its end leaves a hook in the slot that was found there. -/
theorem Finish.after_hook_mem (host : Host) (t : Thread) (finish : Finish) (r : Attempt Output) :
    (finish.after host t r).2.2.hook ∈ t.hook.found := by
  obtain ⟨o, f⟩ := r
  cases f with
  | some f => exact List.mem_cons_self
  | none =>
    cases finish with
    | done | fails | panics => exact List.mem_cons_self
    | raises m => exact t.raiseUnder_hook_mem host (some m)

theorem Value.write_hook_mem (host : Host) (v : Value) (printer : Printer) (o : Output)
    (t : Thread) : (v.write host printer o t).2.2.hook ∈ t.hook.found := by
  rw [write, Printout.write]
  split
  · exact Finish.after_hook_mem host (t.log .invalidRendered) _ _
  · exact Finish.after_hook_mem host t _ _

namespace Thread

/-- Behind a trap the hook from before is back. -/
theorem hook_of_catching {t t' : Thread} {body : Computation} {e : Ending}
    (h : t.catching body = (e, t')) (he : e ≠ .exited) : t'.hook = t.hook := by
  have hback := @catching_hook t body
  rw [h] at hback
  exact hback he

theorem finishReturned_hook_mem (host : Host) (printer : Printer) (v : Value) (t : Thread) :
    (t.finishReturned host printer v).2.hook ∈ t.hook.found := by
  rw [finishReturned, afterPrinting_hook]
  exact v.write_hook_mem host printer t.output (t.log (.entryReturned v.shape))

/-- Every frame leaves a hook in the slot that was found there. -/
theorem afterEntry_hook_mem (host : Host) (printer : Printer) (e : Ending) (t : Thread) :
    (afterEntry host printer (e, t)).2.hook ∈ t.hook.found := by
  cases e with
  | exited => exact List.mem_cons_self
  | next => exact t.finishReturned_hook_mem host printer .void
  | returned v => exact t.finishReturned_hook_mem host printer v
  | unwound p => cases p <;> exact List.mem_cons_self

/-- A run puts the hook back, and a printer that raises leaves one that its raise has
found there. -/
theorem runWith_hook_mem {host : Host} {setup : RunSetup} {entry : Computation} {t : Thread}
    (h : (t.runWith host setup entry).1 ≠ .exited) :
    (t.runWith host setup entry).2.hook ∈ t.hook.found := by
  rw [runWith, drive] at h ⊢
  rcases hc : (t.enterRun setup).clearMessage.catching entry with ⟨e, t'⟩
  rw [hc] at h
  have hne : e ≠ .exited := by
    rintro rfl
    exact h rfl
  -- so only the frame is left to change the slot
  have ht : t'.hook = t.hook := (hook_of_catching hc hne).trans (t.enterRun_hook setup)
  rw [afterRun_hook, ← ht]
  exact t'.afterEntry_hook_mem host setup.printer e

end Thread

/-! ## Hooks of a kind -/

/-- A kind of hooks that put only hooks of that kind into the slot. -/
def Hook.Closed (P : Hook → Prop) : Prop := ∀ h h', P h → h' ∈ h.found → P h'

/-- Hooks by which a given one is not found in the slot. -/
theorem Hook.closed_not_found (h₀ : Hook) : Closed fun h => h₀ ∉ h.found :=
  fun _ _ h hmem hin => h (found_subset hmem hin)

/-- Hooks that do not come to a given one. -/
theorem Hook.closed_not_mem (h₀ : Hook) : Closed fun h => h₀ ∉ h.chain :=
  fun _ _ h hmem hin => h (chain_subset (found_subset_chain _ hmem) hin)

section

variable {P : Hook → Prop}

/-- Unless the process has ended, a hook of the kind is in the slot, and the guards have saved hooks
of the kind. -/
def Progress.Holds (P : Hook → Prop) (p : Progress) : Prop :=
  p.ending ≠ .exited → P p.thread.hook ∧ ∀ g ∈ p.guards, P g.displaced

/-- Steps that leave hooks of the kind if they find such. -/
def Progress.Preserves (P : Hook → Prop) (next : List Guard → Thread → Progress) : Prop :=
  ∀ gs t, P t.hook → (∀ g ∈ gs, P g.displaced) → (next gs t).Holds P

namespace Progress

/-- Steps in sequence leave hooks of the kind if each of them does. -/
theorem andThen_holds {next : List Guard → Thread → Progress} (hn : Preserves P next) {p : Progress}
    (h : p.Holds P) : (p.andThen next).Holds P := by
  obtain ⟨e, gs, t⟩ := p
  cases e with
  | next => exact hn gs t (h nofun).1 (h nofun).2
  | returned | unwound | exited => exact h

/-- Guards that have saved hooks of the kind put back such hooks, in whatever order. -/
theorem dropGuards_hook {gs : List Guard} (hgs : ∀ g ∈ gs, P g.displaced) {t : Thread}
    (ht : P t.hook) : P (t.dropGuards gs).hook := by
  have hfold (gs : List Guard) (hgs : ∀ g ∈ gs, P g.displaced) (t : Thread) (ht : P t.hook) :
      P (gs.foldl Thread.dropGuard t).hook := by
    induction gs generalizing t with
    | nil => exact ht
    | cons g rest ih =>
      obtain ⟨hg, hrest⟩ := List.forall_mem_cons.mp hgs
      exact ih hrest (t.dropGuard g) hg
  exact hfold gs.reverse (fun g hg => hgs g (List.mem_reverse.mp hg)) t ht

/-- Each guard that is dropped puts a hook of the kind back. -/
theorem Holds.leave {p : Progress} (h : p.Holds P) (hne : p.leave.1 ≠ .exited) :
    P p.leave.2.hook := by
  obtain ⟨e, gs, t⟩ := p
  cases e with
  | exited => exact absurd rfl hne
  | next | returned | unwound => exact dropGuards_hook (h nofun).2 (h nofun).1

end Progress

/-- A step puts hooks of the kind into the slot, or calls the one that is there. -/
theorem Act.perform_holds (hP : Hook.Closed P) {a : Act} (ha : a.Puts P) (host : Host) :
    Progress.Preserves P (a.perform host) := by
  intro gs t ht hgs
  cases a with
  | look | setMessage | clearMessage | takeMessage | panic | write | flush | read | readLine
    | returnByte | «return» => exact fun _ => ⟨ht, hgs⟩
  | raise m => exact fun _ => ⟨hP _ _ ht ((t.note .raising).raiseUnder_hook_mem host m), hgs⟩
  | unwrap expected v =>
    simp only [perform]
    split <;> exact fun _ => ⟨ht, hgs⟩
  | replaceHook h => exact fun _ => ⟨ha, hgs⟩
  | install h name =>
    -- the new guard has saved what was in the slot
    refine fun _ => ⟨ha, fun g hg => ?_⟩
    rcases List.mem_append.mp hg with hg | hg
    · exact hgs g hg
    · rwa [List.mem_singleton.mp hg]
  | drop name =>
    simp only [perform]
    split
    · exact fun _ => ⟨ht, hgs⟩
    · next g hg =>
      exact fun _ => ⟨hgs g (List.mem_of_find?_eq_some hg),
        fun g' hg' => hgs g' (List.mem_of_mem_eraseP hg')⟩
  | render v printer =>
    have hwritten : P (v.renderWith host printer t).2.2.hook :=
      hP _ _ ht (v.write_hook_mem host printer (.direct .unlimited) t)
    simp only [perform]
    split <;> next heq => rw [heq] at hwritten; exact fun _ => ⟨hwritten, hgs⟩

namespace Block

variable {next : List Guard → Thread → Progress} (hn : Progress.Preserves P next) {gs : List Guard}
  (hgs : ∀ g ∈ gs, P g.displaced) {r : Ending × Thread} (hr : r.1 ≠ .exited → P r.2.hook)

include hn hgs hr

/-- Behind a handler or a run hooks of the kind are left if the rest of the block leaves such. -/
theorem afterPlain_holds : (afterPlain next gs r).Holds P := by
  obtain ⟨e, t⟩ := r
  cases e with
  | next => exact hn gs t (hr nofun) hgs
  | returned | unwound | exited => exact fun h => ⟨hr h, hgs⟩

/-- The same behind a block with guards of its own. -/
theorem afterScope_holds : (afterScope next gs r).Holds P := by
  obtain ⟨e, t⟩ := r
  cases e with
  | next => exact hn gs (t.note .scopeLeft) (hr nofun) hgs
  | returned | unwound | exited => exact fun h => ⟨hr h, hgs⟩

/-- The same behind the body of a trap, if the handler leaves such. -/
theorem afterTrap_holds {handler : Computation}
    (hh : ∀ t : Thread, P t.hook → (handler t).1 ≠ .exited → P (handler t).2.hook) :
    (afterTrap next gs handler r).Holds P := by
  obtain ⟨e, t⟩ := r
  cases e with
  | next | returned => exact hn gs (t.note _) (hr nofun) hgs
  | exited => exact fun h => absurd rfl h
  | unwound p =>
    cases p with
    | raised => exact afterPlain_holds hn hgs (hh (t.note .trapCaught) (hr nofun))
    | words | boxed | number => exact fun _ => ⟨hr nofun, hgs⟩

/-- The same behind a block in which every unwinding is stopped. -/
theorem afterContain_holds : (afterContain next gs r).Holds P := by
  obtain ⟨e, t⟩ := r
  cases e with
  | next | returned | unwound => exact hn gs (t.note _) (hr nofun) hgs
  | exited => exact fun h => absurd rfl h

omit hr in
/-- The same behind the join of a thread, whose slot is another. -/
theorem afterSpawn_holds {t : Thread} (ht : P t.hook) (e : Ending) :
    (afterSpawn next gs t e).Holds P := by
  cases e with
  | next | returned | unwound => exact hn gs (t.note _) ht hgs
  | exited => exact fun h => absurd rfl h

end Block

/-- The steps of a block that puts hooks of the kind into the slot leave hooks of the kind. What the
body of a trap or the entry of a run does to the slot is undone. -/
theorem Block.steps_holds (hP : Hook.Closed P) {b : Block} (hb : b.Puts P) (host : Host) :
    Progress.Preserves P (b.steps host) := by
  induction b with
  | done => exact fun gs t ht hgs _ => ⟨ht, hgs⟩
  | choose next ih => exact fun gs t ht hgs => ih t.sight (hb t.sight) gs t ht hgs
  | act a rest ih =>
    intro gs t ht hgs
    exact Progress.andThen_holds (ih hb.2) (Act.perform_holds hP hb.1 host gs t ht hgs)
  | scope body rest ihb ihr =>
    intro gs t ht hgs
    exact afterScope_holds (ihr hb.2) hgs (ihb hb.1 [] t ht nofun).leave
  | trap body handler rest ihb ihh ihr =>
    intro gs t ht hgs
    rw [steps_trap]
    refine afterTrap_holds (ihr hb.2.2) hgs ?_ fun t ht => (ihh hb.2.1 [] t ht nofun).leave
    -- whatever the body did to the slot, the hook from before is back
    intro hne
    rwa [Thread.catching_hook hne]
  | contain body rest ihb ihr =>
    intro gs t ht hgs
    exact afterContain_holds (ihr hb.2) hgs (ihb hb.1 [] t ht nofun).leave
  | spawn own body rest ihb ihr =>
    intro gs t ht hgs
    rw [steps_spawn]
    exact afterSpawn_holds (ihr hb.2.2) hgs (t := t.join _) ht _
  | run setup entry rest ihe ihr =>
    intro gs t ht hgs
    exact afterPlain_holds (ihr hb.2) hgs fun hne => hP _ _ ht (Thread.runWith_hook_mem hne)

end

/-! ## From point to point -/

/-- How many traps and entries of runs are around a point on its thread. -/
def catches : List Layer → Nat
  | [] | .spawn _ :: _ => 0
  | .trap _ _ :: ls | .entry _ :: ls => catches ls + 1
  | .scope _ :: ls | .contain _ :: ls | .run _ _ _ :: ls => catches ls

/-- Kinds of hooks, one for each number of traps around: hooks put hooks of their kind into the
slot, and inside a trap the unwinding hook is of the kind. -/
structure Admissible (Q : Nat → Hook → Prop) : Prop where
  closed : ∀ d, Hook.Closed (Q d)
  unwind : ∀ d, Q (d + 1) .unwind

/-- In the slot at a point, in the guards of its block and in what is about to go on there are only
hooks of the kind for the place. -/
structure Point.Sound (Q : Nat → Hook → Prop) (x : Point) : Prop where
  slot : Q (catches x.layers) x.thread.hook
  guards : ∀ g ∈ x.guards, Q (catches x.layers) g.displaced
  task : x.task.Puts fun h => ∀ d, Q d h

namespace Block

variable {P : Hook → Prop} {b : Block}

theorem Puts.first (h : b.Puts P) : b.first.Puts P := by
  cases b with
  | done | choose => exact h
  | act | scope | contain | run => exact ⟨h.1, trivial⟩
  | trap | spawn => exact ⟨h.1, h.2.1, trivial⟩

theorem Puts.rest (h : b.Puts P) : b.rest.Puts P := by
  cases b with
  | done | choose => trivial
  | act | scope | contain | run => exact h.2
  | trap | spawn => exact h.2.2

end Block

namespace Point

variable {Q : Nat → Hook → Prop} {x y : Point}

/-- One step keeps the hooks apart. Into a trap or the entry of a run the unwinding hook is in the
slot; behind it the hook from before is back; anywhere else the number of traps around stays. -/
theorem Step.sound (hQ : Admissible Q) (h : Step x y) (hx : x.Sound Q) : y.Sound Q := by
  obtain ⟨hslot, hguards, htask⟩ := hx
  cases h with
  | @later host _ gs t _ _ b h =>
    -- the first part has gone on, so that it has kept the kind
    have hfirst := Block.steps_holds (hQ.closed _) (Block.Puts.imp (fun _ hh => hh _)
      (Block.Puts.first htask)) host gs t hslot hguards
    rw [h] at hfirst
    exact ⟨(hfirst nofun).1, (hfirst nofun).2, Block.Puts.rest htask⟩
  | choose => exact ⟨hslot, hguards, htask _⟩
  | scope => exact ⟨hslot, nofun, htask.1⟩
  | trap => exact ⟨hQ.unwind _, nofun, htask.1⟩
  | handler h => exact ⟨(Thread.hook_of_catching h nofun).symm ▸ hslot, nofun, htask.2.1⟩
  | contain => exact ⟨hslot, nofun, htask.1⟩
  | spawn => exact ⟨htask.1 0, nofun, htask.2.1⟩
  | @run _ _ _ t setup _ _ => exact ⟨(t.enterRun_hook setup).symm ▸ hslot, nofun, htask.1⟩
  | entry => exact ⟨hQ.unwind _, nofun, htask⟩
  | @print _ _ _ _ _ _ _ e _ h hv =>
    have hne : e ≠ .exited := by
      rintro rfl
      cases hv
    exact ⟨(Thread.hook_of_catching h hne).symm ▸ hslot, nofun, trivial⟩

/-- And so do all steps of an execution. -/
theorem Reaches.sound (hQ : Admissible Q) (h : x.Reaches y) (hx : x.Sound Q) : y.Sound Q := by
  induction h with
  | refl => exact hx
  | tail _ hstep ih => exact hstep.sound hQ ih

end Point

/-! ## Raises at a point -/

/-- What a printer with that finish comes to, if the process ends by it. -/
theorem Finish.raises_of_printed {host : Host} {hook : Hook} {finish : Finish}
    (h : finish.printed host hook = .exited) :
    (∃ m, finish = .raises m) ∧ .exit ∈ hook.chain := by
  cases finish with
  | done | fails | panics => cases h
  | raises m =>
    refine ⟨⟨m, rfl⟩, Hook.exit_mem_chain_of_raise host ?_⟩
    unfold printed at h
    generalize hook.raiseEnding host = e at h ⊢
    cases e with
    | exited => rfl
    | next | returned | unwound => cases h

/-- The writing of a value ends the process only by a raise of its printer that comes to the
exit hook. -/
theorem Value.raises_of_write (host : Host) (v : Value) (printer : Printer) (o : Output)
    (t : Thread) (h : (v.write host printer o t).1 = .exited) :
    (∃ m, (v.printout printer).finish = .raises m) ∧ .exit ∈ t.hook.chain := by
  -- if a piece was refused the printer does not come to its end
  have hafter (t' : Thread) (r : Attempt Output)
      (h : ((v.printout printer).finish.after host t' r).1 = .exited) :
      (v.printout printer).finish.printed host t'.hook = .exited := by
    rw [(Finish.after_printed host t' _ r).1] at h
    cases hf : r.fault with
    | some f =>
      rw [hf] at h
      cases h
    | none => rwa [hf] at h
  rw [write, Printout.write] at h
  split at h
  · exact Finish.raises_of_printed (hafter (t.log .invalidRendered) _ h)
  · exact Finish.raises_of_printed (hafter t _ h)

namespace Point

/-- The step at a point makes a raise. -/
inductive Raises : Point → Prop where
  | act {host ls gs t m rest} : Raises ⟨host, ls, gs, t, .block (.act (.raise m) rest)⟩
  | render {host ls gs t v printer m rest} (h : (Value.printout v printer).finish = .raises m) :
    Raises ⟨host, ls, gs, t, .block (.act (.render v printer) rest)⟩
  | print {host ls gs t v printer m} (h : (Value.printout v printer).finish = .raises m) :
    Raises ⟨host, ls, gs, t, .print v printer⟩

/-- The step at a point makes a raise that finds a hook in the slot. -/
structure Finds (x : Point) (h : Hook) : Prop where
  raises : x.Raises
  found : h ∈ x.thread.hook.found

/-- The step at a point makes a raise that comes to a hook. -/
structure Invokes (x : Point) (h : Hook) : Prop where
  raises : x.Raises
  comes : h ∈ x.thread.hook.chain

variable {x : Point} {gs : List Guard} {t : Thread}

/-- The process ends at a point only by a raise that comes to the exit hook. -/
theorem Breaks.invokes_exit (h : x.Breaks .exited gs t) : x.Invokes .exit := by
  generalize he : Ending.exited = e at h
  cases h with
  | @act host ls gs t a rest e gs' t' h =>
    subst he
    -- only what calls a hook can end the process: a raise, or a printer that makes one
    cases a with
    | look | setMessage | clearMessage | takeMessage | panic | replaceHook | install | write | flush
      | read | readLine | returnByte | «return» => cases h
    | unwrap expected v =>
      simp only [Act.perform] at h
      split at h <;> cases h
    | drop name =>
      simp only [Act.perform] at h
      split at h <;> cases h
    | raise m =>
      have hraise := (t.note .raising).raiseUnder_ending host m
      refine ⟨.act, Hook.exit_mem_chain_of_raise host ?_⟩
      simp only [Act.perform, Progress.mk.injEq] at h
      exact hraise.symm.trans h.1
    | render v printer =>
      have hwrite := v.raises_of_write host printer (.direct .unlimited) t
      simp only [Act.perform, Value.renderWith] at h
      generalize v.write host printer (.direct .unlimited) t = w at h hwrite
      obtain ⟨e, o, t'⟩ := w
      cases e with
      | done | failed | unwound => cases h
      | exited =>
        obtain ⟨⟨m, hm⟩, hmem⟩ := hwrite rfl
        exact ⟨.render hm, hmem⟩
  | @print host ls gs t v printer r t' h =>
    cases r with
    | finished | unwound => cases he
    | exited =>
      -- the frame behind the value calls no hook, so it was the printer
      have hwrite := v.raises_of_write host printer t.output (t.log (.entryReturned v.shape))
      rw [Thread.finishReturned] at h
      generalize v.write host printer t.output (t.log (.entryReturned v.shape)) = w at h hwrite
      obtain ⟨e, o, t'⟩ := w
      cases e with
      | done | failed | unwound => cases h
      | exited =>
        obtain ⟨⟨m, hm⟩, hmem⟩ := hwrite rfl
        exact ⟨.print hm, hmem⟩

section

variable {P : Hook → Prop} {host : Host} {t : Thread} {printer : Printer} {entry : Block}

/-- In a run whose printer does not raise, all raises are made inside the entry. There the hook from
before the run is not in the slot, so what is found has come from the program or from the trap. -/
theorem hook_of_raises (hP : Hook.Closed P) (hunwind : P .unwind) (hp : printer.NeverRaises)
    (hentry : entry.Puts P) (hreach : (start host t (.run printer entry)).Reaches x)
    (hx : x.Raises) : P x.thread.hook := by
  rcases Relation.ReflTransGen.cases_head hreach with rfl | ⟨y, hstep, hrest⟩
  · cases hx
  · cases hstep with
    | entry =>
      have hQ : Admissible fun _ h => P h := ⟨fun _ => hP, fun _ => hunwind⟩
      exact (Reaches.sound hQ hrest ⟨hunwind, nofun, Block.Puts.imp (fun _ hh _ => hh) hentry⟩).slot
    | print h hv =>
      -- the hook from before is back, and the printer does not call it
      rcases Relation.ReflTransGen.cases_head hrest with rfl | ⟨z, hstep, -⟩
      · cases hx with
        | print hm => exact absurd hm (hp.printout _ _)
      · cases hstep

omit host t printer entry in
/-- Inside a trap any hook may be in the slot and in the guards; outside there are only hooks of the
kind from which the program began. -/
theorem sound_outside (hP : Hook.Closed P) {y : Point} (ht : P y.thread.hook)
    (hguards : ∀ g ∈ y.guards, P g.displaced) (htask : y.task.Puts P) (hreach : y.Reaches x) :
    x.Sound fun d h => d = 0 → P h := by
  have hQ : Admissible fun d h => d = 0 → P h :=
    ⟨fun _ h h' hh hmem hd => hP h h' (hh hd) hmem, nofun⟩
  exact Reaches.sound hQ hreach
    ⟨fun _ => ht, fun g hg _ => hguards g hg, Task.Puts.imp (fun _ hh _ _ => hh) htask⟩

/-- The process ends in a run only at a raise that comes to the exit hook. -/
theorem drive_ne_exited
    (h : ∀ x, (start host t (.run printer entry)).Reaches x → ¬x.Invokes .exit) :
    (t.drive host printer (entry.exec host)).1 ≠ .exited := by
  intro hexited
  obtain ⟨x, gs, t', -, hreach, hbreak, -⟩ :=
    (start host t (.run printer entry)).origin (e := .exited) trivial
      (congrArg RunEnd.toEnding hexited)
  exact h x hreach hbreak.invokes_exit

end

end Point

/-! ## Main results -/

/-- An entry that installs hooks and drops their guards early, inside a trap and around it, and
raises in a trap, in a run and at last in its own right. -/
def guarded : Block :=
  .act (.install (.panics (.words "hook")) "outer") <|
    .trap (.act (.install (.stashes "kept" (.panics .raised)) "inner") <|
        .act (.drop "inner") <| .act (.raise none) .done) .done <|
      .run ⟨.literal, true, .detached⟩ (.act (.raise (some "run")) .done) <|
        .act (.drop "outer") <| .act (.raise none) .done

/-- An entry that puts a hook into the slot and raises. -/
def raisesInto (hook : Hook) : Block := .act (.replaceHook hook) <| .act (.raise none) .done

end Epilogue
