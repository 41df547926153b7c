import Epilogue.Program
import Epilogue.Proofs.Stream.Acceptance

/-!
# Epilogue — the hook after a trap and after a run

A trap puts the displaced hook back on every way out of its body, and a run has its entry inside a
trap. What remains of a run is its frame. Of the steps of the frame only one can reach the slot: a
printer that raises does so outside the trap, under the hook from before the run, and that hook may
put another one into the slot before it leaves.

* `Hook.left` — the hook in the slot after a call of a hook;
* `Printer.Spares` — a printer whose calls leave a hook in its place.

Main results:

* `hook_after_trap_and_run` — the hook after a trap, or after a run whose printer spares the hook
  from before, is the hook from before;
* `raising_printer_moves_hook` — without the condition on the printer a run can leave another hook.
-/

namespace Epilogue

/-! ## Calls of hooks -/

/-- The hook in the slot after a call of a hook, given the one before. -/
def Hook.left : Hook → Hook → Hook
  | exit, current | unwind, current | panics _, current | recovers _ _, current => current
  | stashes _ next, current => next.left current
  | replaces next _, _ => next.left next

/-- A hook leaves in the slot what its body puts there last. -/
theorem Hook.invoke_hook (h : Hook) (t : Thread) : (h.invoke t).2.hook = h.left t.hook := by
  induction h generalizing t with
  | exit | unwind | panics | recovers => rfl
  | stashes m next ih =>
    rw [Hook.invoke, ih]
    rfl
  | replaces next m ih =>
    rw [Hook.invoke, ih]
    rfl

namespace Thread

/-- A raise leaves in the slot what the hook there leaves. -/
theorem raise_hook (t : Thread) : t.raise.2.hook = t.hook.left t.hook := by
  rw [raise, Hook.invoke_hook, log_hook]

theorem raiseWith_hook (t : Thread) (m : String) :
    (t.raiseWith m).2.hook = t.hook.left t.hook := by
  rw [raiseWith, raise_hook, setMessage_hook]

/-- A raise leaves the slot as its hook does, also where it is not made. -/
theorem raiseUnder_left (host : Host) (m : Option String) (t : Thread) :
    (t.raiseUnder host m).2.hook = t.hook.left t.hook := by
  unfold raiseUnder
  split
  · next h =>
    rw [note_hook, h.2]
    rfl
  · cases m with
    | none => exact t.raise_hook
    | some m => exact t.raiseWith_hook m

/-- A raise under a hook that comes back to itself leaves the slot as it is, also one that a probe
does not make. -/
theorem raiseUnder_hook {t : Thread} (h : t.hook.left t.hook = t.hook) (host : Host)
    (m : Option String) : (t.raiseUnder host m).2.hook = t.hook :=
  (t.raiseUnder_left host m).trans h

end Thread

/-! ## Printers -/

/-- A printer spares a hook if the hook is in its place after every call that is made while it is in
the slot, however the call ends. -/
def Printer.Spares (printer : Printer) (host : Host) (h : Hook) : Prop :=
  ∀ (c : Char) (o : Output) (t : Thread), t.hook = h → ((printer c).write host o t).2.2.hook = h

/-- What is written leaves the slot alone, unless the printer raises into a hook that changes it. -/
theorem Printout.write_hook {p : Printout} {t : Thread}
    (h : (∃ m, p.finish = .raises m) → t.hook.left t.hook = t.hook) (host : Host) (o : Output) :
    (p.write host o t).2.2.hook = t.hook := by
  unfold write
  rcases o.writePieces p.writes with ⟨o, _ | f⟩
  · cases hf : p.finish with
    | done | fails | panics => rfl
    | raises m => exact Thread.raiseUnder_hook (h ⟨m, hf⟩) host (some m)
  · rfl

namespace Printer

/-- Every printer spares a hook that comes back to itself. -/
theorem spares_of_left {hook : Hook} (h : hook.left hook = hook) (printer : Printer) (host : Host) :
    printer.Spares host hook := by
  intro c o t ht
  rw [Printout.write_hook (fun _ => by rw [ht, h]), ht]

end Printer

/-- Only a character calls the printer. -/
theorem Value.write_hook {printer : Printer} {host : Host} {t : Thread}
    (h : printer.Spares host t.hook) (v : Value) (o : Output) :
    (v.write host printer o t).2.2.hook = t.hook := by
  cases v with
  -- only a character is handed to the printer
  | char c => exact h c o t rfl
  | bool b => cases b <;> exact Printout.write_hook (by simp [printout]) host o
  | int | eof | void => exact Printout.write_hook (by simp [printout]) host o
  | invalid =>
    have hw : (write host invalid printer o t).2.2.hook = (t.log .invalidRendered).hook :=
      Printout.write_hook (by simp [printout]) host o
    rw [hw, Thread.log_hook]

/-! ## Traps and runs -/

namespace Thread

/-- Behind a trap the hook from before is back. -/
theorem catching_hook {t : Thread} {body : Computation} (h : (t.catching body).1 ≠ .exited) :
    (t.catching body).2.hook = t.hook := by
  unfold catching at h ⊢
  split
  · next heq =>
    rw [heq] at h
    exact absurd rfl h
  · rfl

/-- A printer that spares the slot leaves it as it is. -/
theorem finishReturned_hook {printer : Printer} {host : Host} {t : Thread}
    (h : printer.Spares host t.hook) (v : Value) :
    (t.finishReturned host printer v).2.hook = t.hook := by
  rw [finishReturned, afterPrinting_hook]
  exact Value.write_hook (t := t.log (.entryReturned v.shape)) h v t.output

/-- So a run with such a printer puts the hook from before back. -/
theorem drive_hook {printer : Printer} {host : Host} {entry : Computation} {t : Thread}
    (hp : printer.Spares host t.hook) (h : (t.drive host printer entry).1 ≠ .exited) :
    (t.drive host printer entry).2.hook = t.hook := by
  have hc : (t.clearMessage.catching entry).1 ≠ .exited →
      (t.clearMessage.catching entry).2.hook = t.hook := catching_hook
  unfold drive at h ⊢
  -- the frame begins with the hook from before in the slot, and the printer spares it
  cases hr : t.clearMessage.catching entry with
  | mk e t' =>
    rw [hr] at hc h
    cases e with
    | exited => exact absurd rfl h
    | next =>
      have ht : t'.hook = t.hook := hc (by simp)
      exact (finishReturned_hook (by rwa [ht]) .void).trans ht
    | returned v =>
      have ht : t'.hook = t.hook := hc (by simp)
      exact (finishReturned_hook (by rwa [ht]) v).trans ht
    | unwound p =>
      have ht : t'.hook = t.hook := hc (by simp)
      cases p <;> exact ht

/-- And so does a run within a program. -/
theorem runWith_hook {setup : RunSetup} {host : Host} {entry : Computation} {t : Thread}
    (hp : setup.printer.Spares host t.hook) (h : (t.runWith host setup entry).1 ≠ .exited) :
    (t.runWith host setup entry).2.hook = t.hook := by
  have hd : ((t.enterRun setup).drive host setup.printer entry).1 ≠ .exited →
      ((t.enterRun setup).drive host setup.printer entry).2.hook = t.hook := by
    rw [← t.enterRun_hook setup] at hp ⊢
    exact drive_hook hp
  unfold runWith at h ⊢
  rw [afterRun_hook]
  cases hr : (t.enterRun setup).drive host setup.printer entry with
  | mk r after =>
    rw [hr] at hd h
    cases r with
    | exited => exact absurd rfl h
    | finished | unwound => exact hd (by simp)

end Thread

/-! ## Main results -/

/--
**The hook from before is back.** Whatever hook is in the slot, whatever is stashed and whatever the
body does, a trap that is left without the end of the process leaves the hook that it found; and so
does a run of the body as an entry, on any streams, if its printer spares that hook.
-/
theorem hook_after_trap_and_run (host : Host) (body : Block) (t : Thread) :
    ((t.catching (body.exec host)).1 ≠ .exited →
      (t.catching (body.exec host)).2.hook = t.hook) ∧
    (∀ printer : Printer, printer.Spares host t.hook →
      (t.drive host printer (body.exec host)).1 ≠ .exited →
      (t.drive host printer (body.exec host)).2.hook = t.hook) ∧
    (∀ setup : RunSetup, setup.printer.Spares host t.hook →
      (t.runWith host setup (body.exec host)).1 ≠ .exited →
      (t.runWith host setup (body.exec host)).2.hook = t.hook) := by
  refine ⟨Thread.catching_hook, ?_, ?_⟩
  · intro printer hp h
    exact Thread.drive_hook hp h
  · intro setup hp h
    exact Thread.runWith_hook hp h

/-- A body that overwrites the slot, installs two hooks, drops the older guard first and raises. -/
def disturbing : Block :=
  .act (.replaceHook .exit) <| .act (.install (.panics (.number 1)) "a") <|
    .act (.install .unwind "b") <| .act (.drop "a") <| .act (.replaceHook .unwind) <|
      .act (.raise (some "m")) .done

/-- A body that disturbs the slot as it can, in a trap, in a run whose printer would raise, and in a
run on streams of its own, under a hook that stashes a message and then unwinds. -/
theorem hook_after_disturbing :
    let t : Thread := { Thread.fresh with hook := .stashes "from hook" (.panics .raised) }
    let raising : Printer := fun _ => ⟨[], .raises "from printer"⟩
    (t.catching (disturbing.exec .process)).2.hook = t.hook ∧
    (t.drive .process raising (disturbing.exec .process)).2.hook = t.hook ∧
    (t.runWith .process ⟨raising, false, .detached⟩ (disturbing.exec .process)).2.hook =
      t.hook := by
  intro t raising
  obtain ⟨hc, hd, hr⟩ := hook_after_trap_and_run .process disturbing t
  have hs : raising.Spares .process t.hook := Printer.spares_of_left rfl raising .process
  refine ⟨hc ?_, hd raising hs ?_, hr ⟨raising, false, .detached⟩ hs ?_⟩
  · exact nofun
  · exact nofun
  · exact nofun

/-- A printer that raises under a hook which puts another one into the slot: the run is left by the
unwinding of that other hook, and the other hook stays. -/
theorem raising_printer_moves_hook :
    ¬ ∀ (host : Host) (printer : Printer) (entry : Block) (t : Thread),
      (t.drive host printer (entry.exec host)).1 ≠ .exited →
        (t.drive host printer (entry.exec host)).2.hook = t.hook := by
  intro h
  let printer : Printer := fun _ => ⟨[Printer.sign], .raises "from printer"⟩
  let t : Thread := { Thread.fresh with
    hook := .replaces (.panics (.words "hook a")) "chained" }
  let ended : Thread := ((t.clearMessage.replaceHook .unwind).note .returning).setHook t.hook
  let raising : Thread := ended.log (.entryReturned (Value.char 'a').shape)
  -- the sign is taken, so the printer gets to its raise
  obtain ⟨o, ho, -⟩ :=
    (Output.writePieces_succeeds Output.received_unlimited [Printer.sign]).exists_eq
  have hw : (Value.char 'a').write .probe printer ended.output raising =
      (.unwound (.words "hook a"), o, (raising.raiseUnder .probe (some "from printer")).2) := by
    show Printout.write .probe ⟨[Printer.sign], .raises "from printer"⟩ _ raising = _
    rw [Printout.write, show ended.output.writePieces _ = _ from ho]
    rfl
  have hd : t.drive .probe printer ((Block.act (.return (.char 'a')) .done).exec .probe) =
      ended.finishReturned .probe printer (.char 'a') := rfl
  have hf : ended.finishReturned .probe printer (.char 'a') =
      (.unwound (.words "hook a"),
        ((raising.raiseUnder .probe (some "from printer")).2).setOutput o) := by
    rw [Thread.finishReturned, hw]
    rfl
  have hm := h .probe printer (.act (.return (.char 'a')) .done) t
  rw [hd, hf] at hm
  exact absurd (hm nofun) nofun

end Epilogue
