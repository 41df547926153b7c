import Epilogue.Render.Write

/-!
# Epilogue — how a raise ends

A raise ends as the hook does that is in the slot, and a hook ends in one way, whatever the state of
the thread that calls it: it goes on as other hooks until one of them ends the process or unwinds.
Under a probe the raise that would end the process is not made.

* `Hook.chain` — the hooks that a call of a hook comes to;
* `Hook.found` — those of them that a raise finds in the slot;
* `Hook.ending`, `Hook.raiseEnding` — how a call of a hook, and a raise into it, ends;
* `Finish.printed` — how a printer ends whose pieces were all taken.

Main results:

* `Thread.raiseUnder_ending` — a raise ends as its hook does;
* `Finish.after_printed` — a printer that raises ends as that raise does.
-/

namespace Epilogue

/-! ## Calls of hooks -/

namespace Hook

/-- The hooks that a call of a hook comes to, one after another, outside a trap of its own. -/
def chain : Hook → List Hook
  | stashes m next => stashes m next :: next.chain
  | replaces next m => replaces next m :: next.chain
  | h => [h]

theorem mem_chain_self (h : Hook) : h ∈ h.chain := by
  cases h <;> exact List.mem_cons_self

/-- The chain of a hook goes on as that of each hook in it. -/
theorem chain_subset {h h' : Hook} (hmem : h' ∈ h.chain) : h'.chain ⊆ h.chain := by
  induction h with
  | exit | unwind | panics | recovers =>
    obtain rfl := List.mem_singleton.mp hmem
    exact List.Subset.refl _
  | stashes m next ih | replaces next m ih =>
    rcases List.mem_cons.mp hmem with rfl | hnext
    · exact List.Subset.refl _
    · exact List.subset_cons_of_subset _ (ih hnext)

/-- The hooks that a call of a hook puts into the slot, one after another, outside a trap of its
own. Behind each of them it raises again. -/
def puts : Hook → List Hook
  | replaces next _ => next :: next.puts
  | stashes _ next => next.puts
  | exit | unwind | panics _ | recovers _ _ => []

/-- The hooks that a raise into a hook, and those that this hook makes in turn, find in the slot. -/
def found (h : Hook) : List Hook := h :: h.puts

/-- What is found by a hook that is put in is put in too, or was. -/
theorem found_subset_puts {h h' : Hook} (hmem : h' ∈ h.puts) : h'.found ⊆ h.puts := by
  induction h with
  | exit | unwind | panics | recovers => cases hmem
  | stashes m next ih => exact ih hmem
  | replaces next m ih =>
    rcases List.mem_cons.mp hmem with rfl | hnext
    · exact List.Subset.refl _
    · exact List.subset_cons_of_subset _ (ih hnext)

/-- The hooks that are found go on as the first of them. -/
theorem found_subset {h h' : Hook} (hmem : h' ∈ h.found) : h'.found ⊆ h.found := by
  rcases List.mem_cons.mp hmem with rfl | hput
  · exact List.Subset.refl _
  · exact List.subset_cons_of_subset _ (found_subset_puts hput)

/-- A hook that is put into the slot by another is one that it comes to. -/
theorem puts_subset_chain (h : Hook) : h.puts ⊆ h.chain := by
  induction h with
  | exit | unwind | panics | recovers => exact List.nil_subset _
  | stashes m next ih => exact List.subset_cons_of_subset _ ih
  | replaces next m ih =>
    exact List.subset_cons_of_subset _ (List.cons_subset.mpr ⟨next.mem_chain_self, ih⟩)

/-- A hook that is found in the slot is called. -/
theorem found_subset_chain (h : Hook) : h.found ⊆ h.chain :=
  List.cons_subset.mpr ⟨h.mem_chain_self, h.puts_subset_chain⟩

/-- How a call of a hook ends. -/
def ending : Hook → Ending
  | exit => .exited
  | unwind => .unwound .raised
  | panics p | recovers _ p => .unwound p
  | stashes _ next | replaces next _ => next.ending

/-- A hook ends in the same way for every thread. -/
theorem invoke_ending (h : Hook) (t : Thread) : (h.invoke t).1 = h.ending := by
  induction h generalizing t with
  | exit | unwind | panics | recovers => rfl
  | stashes m next ih => exact ih (t.setMessage m)
  | replaces next m ih => exact ih (((t.replaceHook next).setMessage m).log .raise)

/-- Only the exit hook ends the process. -/
theorem exit_mem_chain {h : Hook} (hending : h.ending = .exited) : .exit ∈ h.chain := by
  induction h with
  | exit => exact List.mem_singleton_self _
  | unwind | panics | recovers => cases hending
  | stashes m next ih | replaces next m ih => exact List.mem_cons_of_mem _ (ih hending)

end Hook

/-! ## Raises -/

/-- How a raise into a hook ends. -/
def Hook.raiseEnding (host : Host) (h : Hook) : Ending :=
  if host = .probe ∧ h = .exit then .next else h.ending

/-- A raise ends the process only if the hook comes to the exit hook. -/
theorem Hook.exit_mem_chain_of_raise (host : Host) {h : Hook}
    (hending : h.raiseEnding host = .exited) : .exit ∈ h.chain := by
  unfold raiseEnding at hending
  split at hending
  · cases hending
  · exact exit_mem_chain hending

/-- A raise ends as its hook does. -/
theorem Thread.raiseUnder_ending (host : Host) (m : Option String) (t : Thread) :
    (t.raiseUnder host m).1 = t.hook.raiseEnding host := by
  unfold raiseUnder Hook.raiseEnding
  split
  · rfl
  · cases m with
    | none => exact t.hook.invoke_ending (t.log .raise)
    | some m => exact t.hook.invoke_ending ((t.setMessage m).log .raise)

/-- How a printer ends whose pieces were all taken. -/
def Finish.printed (host : Host) (hook : Hook) : Finish → Printed
  | done => .done
  | fails f => .failed f
  | panics p => .unwound p
  | raises _ => .ofRaise (hook.raiseEnding host)

/-- The printing ends with the fault of the output, or as the printer does. -/
theorem Finish.after_printed (host : Host) (t : Thread) (finish : Finish) (r : Attempt Output) :
    (finish.after host t r).1 = r.fault.elim (finish.printed host t.hook) .failed ∧
    (finish.after host t r).2.1 = r.state := by
  obtain ⟨o, f⟩ := r
  cases f with
  | some f => exact ⟨rfl, rfl⟩
  | none =>
    cases finish with
    | done | fails | panics => exact ⟨rfl, rfl⟩
    | raises m => exact ⟨congrArg Printed.ofRaise (t.raiseUnder_ending host (some m)), rfl⟩

end Epilogue
