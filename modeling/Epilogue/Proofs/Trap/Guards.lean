import Epilogue.Proofs.Run.Points

/-!
# Epilogue — the hook after a block

A block owns the guards that it makes. It may drop them early and in any order, and a guard that is
dropped before a younger one puts an old hook back while the younger one is alive, so in between the
slot can hold whatever hook it likes. Once the block is left the guards that are still alive are
dropped, the latest first, and it is the oldest of them that is dropped last.

A *journal* tells what the parts of a block do to the slot: which guards are made and which hooks
they displace, which of them are dropped, and where the slot comes to hold another hook in some
other way. A nested block, a trap or a run is one part. Guards are numbered in the order in which
they are made.

* `SlotStep`, `Journal` — an entry, and the entries so far;
* `Journal.Alive`, `Journal.Oldest` — a guard that was made and not dropped, and the oldest such;
* `Block.journal` — the journal of a block.

Main results:

* `Block.journal_tells` — the guards that a block has left are those that its journal tells;
* `Block.displaced_of_journal` — a guard that comes first in the journal has displaced the hook from
  before the block;
* `hook_after_block` — the hook after a block.
-/

namespace Epilogue

/-! ## Journals -/

/-- What a part of a block does to the slot. -/
inductive SlotStep where
  /-- a guard is made, and displaces a hook -/
  | made (g : Guard)
  /-- the guard of that number is dropped -/
  | dropped (number : Nat)
  /-- the slot is left with another hook than it had, by something else -/
  | moved
  deriving DecidableEq

/-- The guard that is made. -/
def SlotStep.guard? : SlotStep → Option Guard
  | made g => some g
  | dropped _ | moved => none

/-- What the parts of a block have done to the slot, in order. -/
abbrev Journal := List SlotStep

namespace Journal

/-- All guards that were made, each at the place of its number. -/
def guards (j : Journal) : List Guard := j.filterMap SlotStep.guard?

/-- A guard that was made under a number, and that was not dropped. -/
def Alive (j : Journal) (number : Nat) (g : Guard) : Prop :=
  j.guards[number]? = some g ∧ .dropped number ∉ j

/-- The guard that is alive and was made before all others that are. -/
def Oldest (j : Journal) (number : Nat) (g : Guard) : Prop :=
  j.Alive number g ∧ ∀ i g', j.Alive i g' → number ≤ i

/-- The guards that are alive, with their numbers, the oldest first. -/
def alive (j : Journal) : List (Guard × Nat) :=
  j.guards.zipIdx.filter fun x => decide (.dropped x.2 ∉ j)

/-- The number of the first guard of that name that is alive. -/
def number? (j : Journal) (name : String) : Option Nat :=
  (j.alive.find? fun x => x.1.name == name).map Prod.snd

/-- The guards that a block has are those that the journal tells, in the order in which they were
made. Only guards that were made have been dropped. -/
structure Tells (j : Journal) (gs : List Guard) : Prop where
  alive : j.alive.map Prod.fst = gs
  made : ∀ number, .dropped number ∈ j → number < j.guards.length

end Journal

/-- The entry about a part that neither makes nor drops a guard of the block: it counts only if the
slot is left with another hook. -/
def SlotStep.between (t t' : Thread) : Journal := if t'.hook = t.hook then [] else [.moved]

/-- The entries about a step, behind those so far. -/
def Act.entries (host : Host) (gs : List Guard) (t : Thread) (j : Journal) : Act → Journal
  | install _ name => [.made ⟨name, t.hook⟩]
  | drop name => ((j.number? name).map SlotStep.dropped).toList
  | a => SlotStep.between t (a.perform host gs t).thread

/-- The entries about a part of a block, behind those so far. -/
def Block.entries (host : Host) (gs : List Guard) (t : Thread) (j : Journal) (part : Block) :
    Journal :=
  match part with
  | act a _ => a.entries host gs t j
  | part => SlotStep.between t (part.steps host gs t).thread

/-- The journal goes on while the parts of the block run off their end. -/
def Progress.goOn (p : Progress) (j : Journal) (next : List Guard → Thread → Journal → Journal) :
    Journal :=
  match p.ending with
  | .next => next p.guards p.thread j
  | _ => j

/-- The journal of a block, behind the entries so far. -/
def Block.journal : Block → Host → List Guard → Thread → Journal → Journal
  | done, _, _, _, j => j
  | act a rest, host, gs, t, j =>
    ((act a done).steps host gs t).goOn (j ++ (act a done).entries host gs t j) (rest.journal host)
  | scope body rest, host, gs, t, j =>
    ((scope body done).steps host gs t).goOn (j ++ (scope body done).entries host gs t j)
      (rest.journal host)
  | trap body handler rest, host, gs, t, j =>
    ((trap body handler done).steps host gs t).goOn
      (j ++ (trap body handler done).entries host gs t j) (rest.journal host)
  | contain body rest, host, gs, t, j =>
    ((contain body done).steps host gs t).goOn (j ++ (contain body done).entries host gs t j)
      (rest.journal host)
  | spawn own body rest, host, gs, t, j =>
    ((spawn own body done).steps host gs t).goOn (j ++ (spawn own body done).entries host gs t j)
      (rest.journal host)
  | run setup entry rest, host, gs, t, j =>
    ((run setup entry done).steps host gs t).goOn (j ++ (run setup entry done).entries host gs t j)
      (rest.journal host)
  | choose next, host, gs, t, j => (next t.sight).journal host gs t j

/-! ## Guards by their numbers -/

namespace Journal

variable {j : Journal} {gs : List Guard} {g : Guard} {number : Nat}

theorem guards_concat (j : Journal) (s : SlotStep) :
    (j ++ [s]).guards = j.guards ++ s.guard?.toList := by
  cases s <;> simp [guards, SlotStep.guard?]

/-- The guards that are listed as alive are those that have been made and not been dropped. -/
theorem mem_alive : (g, number) ∈ j.alive ↔ j.Alive number g := by
  simp only [alive, Alive, List.mem_filter, List.mem_zipIdx_iff_getElem?, decide_eq_true_eq]

/-- Numbers grow from each guard that is alive to the next. -/
theorem alive_pairwise (j : Journal) : j.alive.Pairwise fun x y => x.2 < y.2 := by
  have hall : j.guards.zipIdx.Pairwise fun x y => x.2 < y.2 := by
    rw [← List.pairwise_map (f := Prod.snd), List.zipIdx_map_snd]
    exact List.pairwise_lt_range'
  exact hall.filter _

/-- Of guards whose numbers differ, to erase the first one of a kind is to keep all
other numbers. -/
theorem eraseP_eq_filter {l : List (Guard × Nat)} (hl : l.Pairwise fun x y => x.2 < y.2)
    {p : Guard × Nat → Bool} {x : Guard × Nat} (h : l.find? p = some x) :
    l.eraseP p = l.filter fun y => decide (y.2 ≠ x.2) := by
  induction l with
  | nil => simp at h
  | cons y rest ih =>
    obtain ⟨hy, hrest⟩ := List.pairwise_cons.mp hl
    by_cases hp : p y = true
    · -- the first one is it, and no other has its number
      obtain rfl : y = x := by simpa [hp] using h
      have hkeep : rest.filter (fun z => decide (z.2 ≠ y.2)) = rest := by
        rw [List.filter_eq_self]
        intro z hz
        have := hy z hz
        rw [decide_eq_true_eq]
        omega
      rw [List.eraseP_cons_of_pos hp, List.filter_cons_of_neg (by simp), hkeep]
    · have hx : rest.find? p = some x := by simpa [hp] using h
      have hne : y.2 ≠ x.2 := by
        have := hy x (List.mem_of_find?_eq_some hx)
        omega
      simp [hp, hne, ih hrest hx]

theorem tells_nil : Tells [] [] := ⟨rfl, nofun⟩

/-- Whatever happens to the slot between two steps makes and drops no guard. -/
theorem Tells.between (h : j.Tells gs) (t t' : Thread) : (j ++ SlotStep.between t t').Tells gs := by
  unfold SlotStep.between
  split
  · rwa [List.append_nil]
  · -- the entry is about no guard
    have hguards : Journal.guards (j ++ [SlotStep.moved]) = j.guards := by
      simp [guards_concat, SlotStep.guard?]
    constructor
    · rw [← h.alive, Journal.alive, Journal.alive, hguards]
      simp
    · intro number hn
      rw [hguards]
      exact h.made number (by simpa using hn)

/-- The same for a part that has left the guards of its block alone. -/
theorem Tells.part {p : Progress} (h : j.Tells gs) (hp : p.guards = gs) (t : Thread) :
    (j ++ SlotStep.between t p.thread).Tells p.guards := by
  rw [hp]
  exact h.between t p.thread

/-- A guard that is made gets the next number, under which none was dropped. -/
theorem Tells.made_guard (h : j.Tells gs) (g : Guard) :
    Tells (j ++ [.made g]) (gs ++ [g]) := by
  have hguards : Journal.guards (j ++ [SlotStep.made g]) = j.guards ++ [g] := by
    simp [guards_concat, SlotStep.guard?]
  -- what was dropped had been made, so the next number is not among it
  have hfresh : SlotStep.dropped j.guards.length ∉ j := by
    intro hn
    exact absurd (h.made _ hn) (Nat.lt_irrefl _)
  constructor
  · have halive : Journal.alive (j ++ [SlotStep.made g]) = j.alive ++ [(g, j.guards.length)] := by
      rw [Journal.alive, Journal.alive, hguards, List.zipIdx_append, List.filter_append]
      simp [hfresh]
    rw [halive, List.map_append, h.alive]
    rfl
  · intro number hn
    rw [hguards, List.length_append]
    have := h.made number (by simpa using hn)
    omega

/-- A drop takes the first guard of the name out of those that the block has, and its number out of
those that are alive. -/
theorem Tells.dropped_guard (h : j.Tells gs) {p : Guard → Bool} {x : Guard × Nat}
    (hx : (j.alive.find? fun y => p y.1) = some x) :
    Tells (j ++ [.dropped x.2]) (gs.eraseP p) := by
  have hguards : Journal.guards (j ++ [SlotStep.dropped x.2]) = j.guards := by
    simp [guards_concat, SlotStep.guard?]
  constructor
  · -- numbers are never used twice, so dropping one is erasing the first of its name
    have halive : Journal.alive (j ++ [SlotStep.dropped x.2]) =
        j.alive.filter fun y => decide (y.2 ≠ x.2) := by
      rw [Journal.alive, Journal.alive, hguards, List.filter_filter]
      refine List.filter_congr fun y _ => ?_
      simp [and_comm]
    rw [halive, ← eraseP_eq_filter j.alive_pairwise hx, ← h.alive, List.eraseP_map]
    rfl
  · intro number hn
    rw [hguards]
    rcases List.mem_append.mp hn with hn | hn
    · exact h.made number hn
    · -- it is alive, so it was made
      have hmem : (x.1, x.2) ∈ j.alive := List.mem_of_find?_eq_some hx
      have hmade := (List.getElem?_eq_some_iff.mp (mem_alive.mp hmem).1).1
      obtain rfl : number = x.2 := by simpa using hn
      exact hmade

/-- The first guard of a kind is the same by the journal and among those that the block has. -/
theorem Tells.find? (h : j.Tells gs) (p : Guard → Bool) :
    gs.find? p = (j.alive.find? fun y => p y.1).map Prod.fst := by
  rw [← h.alive, List.find?_map]
  rfl

/-- The first of the guards that a block has is the oldest that is alive. -/
theorem Tells.oldest {rest : List Guard} (h : j.Tells (g :: rest)) :
    ∃ number, j.Oldest number g := by
  obtain ⟨x, more, hl, rfl, -⟩ := List.map_eq_cons_iff.mp h.alive
  have hsorted := j.alive_pairwise
  rw [hl] at hsorted
  refine ⟨x.2, ?_, fun i g' hi => ?_⟩
  · rw [← mem_alive, hl]
    exact List.mem_cons_self
  · -- whatever else is alive comes later, and under a greater number
    rw [← mem_alive, hl] at hi
    rcases List.mem_cons.mp hi with rfl | hmore
    · exact Nat.le_refl i
    · exact Nat.le_of_lt ((List.pairwise_cons.mp hsorted).1 _ hmore)

/-- If the block has no guard, then none is alive. -/
theorem Tells.not_alive (h : j.Tells []) (number : Nat) (g : Guard) : ¬j.Alive number g := by
  intro halive
  have hmem := mem_alive.mpr halive
  rw [List.map_eq_nil_iff.mp h.alive] at hmem
  cases hmem

/-- No two guards are the oldest. -/
theorem Oldest.unique {i : Nat} {g' : Guard} (h : j.Oldest number g) (h' : j.Oldest i g') :
    g' = g := by
  obtain rfl : i = number := Nat.le_antisymm (h'.2 _ _ h.1) (h.2 _ _ h'.1)
  exact Option.some.inj (h'.1.1.symm.trans h.1.1)

end Journal

/-! ## Parts of a block -/

/-- The entries about a step tell what it does to the guards. -/
theorem Act.entries_tells {j : Journal} {gs : List Guard} (h : j.Tells gs) (a : Act) (host : Host)
    (t : Thread) : Journal.Tells (j ++ a.entries host gs t j) (a.perform host gs t).guards := by
  -- all steps but an installation and a drop leave the guards of the block alone
  have hkept {gs' : List Guard} (hgs : gs' = gs) (t' : Thread) :
      Journal.Tells (j ++ SlotStep.between t t') gs' := by
    rw [hgs]
    exact h.between t t'
  cases a with
  | install hook name => exact h.made_guard ⟨name, t.hook⟩
  | drop name =>
    have hfind := h.find? fun g => g.name == name
    simp only [entries, perform, Journal.number?]
    cases hx : j.alive.find? fun y => y.1.name == name with
    | none =>
      simp only [hx, Option.map_none] at hfind
      simpa [hfind] using h
    | some x =>
      simp only [hx, Option.map_some] at hfind
      simpa [hfind] using h.dropped_guard hx
  | unwrap expected v =>
    refine hkept ?_ _
    simp only [perform]
    split <;> rfl
  | render v printer =>
    refine hkept ?_ _
    simp only [perform]
    split <;> rfl
  | look | setMessage | clearMessage | takeMessage | raise | panic | replaceHook | write | flush
    | read | readLine | returnByte | «return» => exact hkept rfl _

namespace Block

/-- A block of one part, with nothing behind it. -/
def Single : Block → Prop
  | done | choose _ => False
  | act _ rest | scope _ rest | trap _ _ rest | contain _ rest | spawn _ _ rest | run _ _ rest =>
    rest = done

theorem afterPlain_guards (host : Host) (gs : List Guard) (r : Ending × Thread) :
    (afterPlain (done.steps host) gs r).guards = gs := by
  obtain ⟨e, t⟩ := r
  cases e <;> rfl

/-- A part is a step, or it has blocks within it. The guards of those are their own, so that it
leaves the guards of the block around it alone. -/
theorem part_cases {part : Block} (hpart : part.Single) (host : Host) (gs : List Guard) (t : Thread)
    (j : Journal) :
    (∃ a, part = act a done) ∨ ((part.steps host gs t).guards = gs ∧
      part.entries host gs t j = SlotStep.between t (part.steps host gs t).thread) := by
  cases part with
  | done | choose => exact hpart.elim
  | act a rest =>
    obtain rfl : rest = done := hpart
    exact .inl ⟨a, rfl⟩
  | scope body rest =>
    obtain rfl : rest = done := hpart
    refine .inr ⟨?_, rfl⟩
    rw [steps_scope]
    rcases body.exec host t with ⟨_ | _ | _ | _, t'⟩ <;> rfl
  | trap body handler rest =>
    obtain rfl : rest = done := hpart
    refine .inr ⟨?_, rfl⟩
    rw [steps_trap]
    -- only a raise leads to a step with guards in it, which is that of the handler
    rcases t.catching (body.exec host) with ⟨_ | _ | ⟨_ | _ | _ | _⟩ | _, t'⟩
    case unwound.raised => exact afterPlain_guards host gs _
    all_goals rfl
  | contain body rest =>
    obtain rfl : rest = done := hpart
    refine .inr ⟨?_, rfl⟩
    rw [steps_contain]
    rcases body.exec host t with ⟨_ | _ | _ | _, t'⟩ <;> rfl
  | spawn own body rest =>
    obtain rfl : rest = done := hpart
    refine .inr ⟨?_, rfl⟩
    rw [steps_spawn]
    cases (body.exec own .fresh).1 <;> rfl
  | run setup entry rest =>
    obtain rfl : rest = done := hpart
    refine .inr ⟨?_, rfl⟩
    rw [steps_run]
    exact afterPlain_guards host gs _

theorem steps_act_done (a : Act) (host : Host) (gs : List Guard) (t : Thread) :
    (act a done).steps host gs t = a.perform host gs t := Progress.andThen_done host _

/-- The entries about a part tell what it does to the guards. -/
theorem entries_tells {j : Journal} {gs : List Guard} (h : j.Tells gs) {part : Block}
    (hpart : part.Single) (host : Host) (t : Thread) :
    Journal.Tells (j ++ part.entries host gs t j) (part.steps host gs t).guards := by
  rcases part_cases hpart host gs t j with ⟨a, rfl⟩ | ⟨hgs, hentries⟩
  · rw [steps_act_done]
    exact Act.entries_tells h a host t
  · rw [hentries]
    exact h.part hgs t

end Block

/-- What the journal tells of a part, it goes on to tell of the rest. -/
theorem Progress.goOn_tells {p : Progress} {j : Journal}
    {next : List Guard → Thread → Progress} {later : List Guard → Thread → Journal → Journal}
    (hp : j.Tells p.guards) (hn : ∀ gs t j, j.Tells gs → (later gs t j).Tells (next gs t).guards) :
    (p.goOn j later).Tells (p.andThen next).guards := by
  obtain ⟨e, gs, t⟩ := p
  cases e with
  | next => exact hn gs t j hp
  | returned | unwound | exited => exact hp

/-- **The journal tells the guards.** Behind entries that tell the guards of a block before some
steps, the journal of the steps tells those after. By induction on the block: its first part adds
the entries about itself, and the rest of the block goes on from there. -/
theorem Block.journal_tells (b : Block) (host : Host) (gs : List Guard) (t : Thread) (j : Journal)
    (h : j.Tells gs) : (b.journal host gs t j).Tells (b.steps host gs t).guards := by
  induction b generalizing gs t j with
  | done => exact h
  | choose next ih => exact ih t.sight gs t j h
  | act _ _ ih | scope _ _ _ ih | contain _ _ _ ih | spawn _ _ _ _ ih | run _ _ _ _ ih
    | trap _ _ _ _ _ ih =>
    rw [steps_first]
    refine Progress.goOn_tells (entries_tells h ?_ host t) ih
    rfl

/-! ## The first entry -/

namespace SlotStep

/-- If nothing is entered for the slot between two steps, it has not changed. -/
theorem between_eq_nil {t t' : Thread} (h : between t t' = []) : t'.hook = t.hook := by
  unfold between at h
  split at h
  · assumption
  · cases h

theorem between_ne_made {t t' : Thread} {g : Guard} {rest : Journal} :
    between t t' ≠ .made g :: rest := by
  unfold between
  split <;> simp

end SlotStep

/-- What comes first in the entries about a part that finds no guards: nothing, and then the part
leaves the hook that it found; or a guard, and then it is that hook that the guard displaces. -/
structure Progress.Opens (p : Progress) (t : Thread) (entries : Journal) : Prop where
  tells : entries.Tells p.guards
  kept : entries = [] → p.thread.hook = t.hook
  displaced : ∀ g rest, entries = .made g :: rest → g.displaced = t.hook

/-- The first entry of a step says what it found in the slot. -/
theorem Act.perform_opens (a : Act) (host : Host) (t : Thread) :
    (a.perform host [] t).Opens t (a.entries host [] t []) := by
  have htells := Act.entries_tells Journal.tells_nil a host t
  cases a with
  | install hook name =>
    refine ⟨htells, nofun, fun g rest h => ?_⟩
    simp only [entries, List.cons.injEq, SlotStep.made.injEq] at h
    rw [← h.1]
  | drop name => exact ⟨htells, fun _ => rfl, nofun⟩
  | look | setMessage | clearMessage | takeMessage | raise | panic | replaceHook | unwrap | render
    | write | flush | read | readLine | returnByte | «return» =>
    exact ⟨htells, SlotStep.between_eq_nil, fun _ _ h => absurd h SlotStep.between_ne_made⟩

/-- And so does the first entry of a part of a block. -/
theorem Block.steps_opens {part : Block} (hpart : part.Single) (host : Host) (t : Thread) :
    (part.steps host [] t).Opens t (part.entries host [] t []) := by
  have htells := entries_tells Journal.tells_nil hpart host t
  rcases part_cases hpart host [] t [] with ⟨a, rfl⟩ | ⟨-, hentries⟩
  · rw [steps_act_done]
    exact a.perform_opens host t
  · rw [hentries] at htells ⊢
    exact ⟨htells, SlotStep.between_eq_nil, fun _ _ h => absurd h SlotStep.between_ne_made⟩

section

variable {later : List Guard → Thread → Journal → Journal}
  (hlater : ∀ gs t j, j <+: later gs t j)

include hlater

/-- Entries are only added behind those that are there. -/
theorem Progress.goOn_extends (p : Progress) (j : Journal) : j <+: p.goOn j later := by
  obtain ⟨e, gs, t⟩ := p
  cases e with
  | next => exact hlater gs t j
  | returned | unwound | exited => exact List.prefix_refl j

/-- If the first entry behind a part is about a guard, then the guard is of the part, or the part
has left the slot as it was. -/
theorem Progress.displaced_of_goOn {p : Progress} {t : Thread} {entries : Journal}
    (hp : p.Opens t entries) {g : Guard} {rest : Journal}
    (hfirst : ∀ t', later [] t' [] = .made g :: rest → g.displaced = t'.hook)
    (h : p.goOn entries later = .made g :: rest) : g.displaced = t.hook := by
  cases hentries : entries with
  | nil =>
    -- the slot is as it was found, no guard is there, and the guard is made later
    rw [← hp.kept hentries]
    obtain ⟨e, gs, t'⟩ := p
    have htells := hp.tells
    rw [hentries] at h htells
    obtain rfl : [] = gs := htells.alive
    cases e with
    | next => exact hfirst t' h
    | returned | unwound | exited => cases h
  | cons x more =>
    obtain ⟨behind, hbehind⟩ := p.goOn_extends hlater entries
    rw [h, hentries] at hbehind
    obtain ⟨rfl, -⟩ := List.cons.inj hbehind
    exact hp.displaced g more hentries

end

namespace Block

/-- A journal only grows. -/
theorem journal_extends (b : Block) (host : Host) (gs : List Guard) (t : Thread) (j : Journal) :
    j <+: b.journal host gs t j := by
  induction b generalizing gs t j with
  | done => exact List.prefix_refl j
  | choose next ih => exact ih t.sight gs t j
  | act _ _ ih | scope _ _ _ ih | contain _ _ _ ih | spawn _ _ _ _ ih | run _ _ _ _ ih
    | trap _ _ _ _ _ ih =>
    exact (List.prefix_append j _).trans (Progress.goOn_extends ih _ _)

/-- If the first entry of a journal is about a guard, then the guard has displaced the hook that the
block found. By induction on the block: what comes before has left the slot as it was. -/
theorem displaced_of_journal (b : Block) (host : Host) (t : Thread) {g : Guard} {rest : Journal}
    (h : b.journal host [] t [] = .made g :: rest) : g.displaced = t.hook := by
  induction b generalizing t with
  | done => cases h
  | choose next ih => exact ih t.sight t h
  | act _ later ih | scope _ later _ ih | contain _ later _ ih | spawn _ _ later _ ih
    | run _ _ later _ ih | trap _ _ later _ _ ih =>
    refine Progress.displaced_of_goOn (later.journal_extends host) (steps_opens ?_ host t) ih h
    rfl

end Block

/-! ## Leaving a block -/

/-- Of the guards that a block has when it is left, the oldest is dropped last. -/
theorem Progress.leave_hook {p : Progress} (h : p.ending ≠ .exited) :
    p.leave.2.hook = (p.guards.head?.map Guard.displaced).getD p.thread.hook := by
  -- the oldest guard is dropped last, so its hook is what stays
  have hdrop : (p.thread.dropGuards p.guards).hook =
      (p.guards.head?.map Guard.displaced).getD p.thread.hook := by
    unfold Thread.dropGuards
    cases p.guards with
    | nil => rfl
    | cons g rest => simp [Thread.dropGuard]
  obtain ⟨e, gs, t⟩ := p
  cases e with
  | exited => exact absurd rfl h
  | next | returned | unwound => exact hdrop

/-! ## Main results -/

/--
**The hook after a block.** However a block is left, unless the process ends within it, the hook
after it is the one that its oldest guard still alive has displaced; and if no guard is alive any
more, the one that is in the slot as its last step leaves it. So a block that changes the slot first
by an installation, and keeps the guard of that to the end, leaves the hook that it found, whatever
becomes of its other guards and of the slot in between.
-/
theorem hook_after_block (host : Host) (b : Block) (t : Thread) (h : (b.exec host t).1 ≠ .exited) :
    let j := b.journal host [] t []
    let after := (b.exec host t).2.hook
    ((∃ number g, j.Oldest number g ∧ after = g.displaced) ∨
      ((∀ number g, ¬j.Alive number g) ∧ after = (b.steps host [] t).thread.hook)) ∧
    (∀ g rest, j = .made g :: rest → .dropped 0 ∉ j → after = t.hook) := by
  intro j after
  have htells : j.Tells (b.steps host [] t).guards :=
    b.journal_tells host [] t [] Journal.tells_nil
  have hleft : after = ((b.steps host [] t).guards.head?.map Guard.displaced).getD
      (b.steps host [] t).thread.hook := by
    refine Progress.leave_hook fun hexited => h ?_
    exact (Progress.leave_ending _).trans hexited
  have hafter : (∃ number g, j.Oldest number g ∧ after = g.displaced) ∨
      ((∀ number g, ¬j.Alive number g) ∧ after = (b.steps host [] t).thread.hook) := by
    cases hgs : (b.steps host [] t).guards with
    | nil =>
      rw [hgs] at htells hleft
      exact .inr ⟨htells.not_alive, hleft⟩
    | cons g rest =>
      rw [hgs] at htells hleft
      obtain ⟨number, ho⟩ := htells.oldest
      exact .inl ⟨number, g, ho, hleft⟩
  refine ⟨hafter, fun g rest hj hkept => ?_⟩
  -- the guard that comes first in the journal has the least of all numbers
  have hfirst : j.Oldest 0 g := by
    refine ⟨⟨?_, hkept⟩, fun i _ _ => Nat.zero_le i⟩
    rw [hj]
    rfl
  rcases hafter with ⟨number, g', ho, hg'⟩ | ⟨hnone, -⟩
  · rw [hg', hfirst.unique ho]
    exact b.displaced_of_journal host t hj
  · exact absurd hfirst.1 (hnone 0 g)

/-- A block that drops its first guard while its second is alive, makes a third, has a block within
it replace the hook, and panics. -/
def outOfOrder : Block :=
  .act (.install (.panics (.words "first")) "a") <| .act (.replaceHook (.panics (.words "flat"))) <|
    .act (.install .unwind "b") <| .act (.drop "a") <| .act (.install .exit "a") <|
      .scope (.act (.replaceHook (.panics (.words "nested"))) .done) <|
        .act (.panic (.number 1)) .done

/-- The same within a block that has made a guard first and keeps it. -/
def enclosed : Block := .act (.install .unwind "kept") <| .scope outOfOrder .done

/-- What was in the slot when the second guard was made is there again, and around the block that
keeps its first guard the hook from before. -/
theorem hook_after_outOfOrder :
    (outOfOrder.exec .process .fresh).1 = .unwound (.number 1) ∧
    (outOfOrder.exec .process .fresh).2.hook = .panics (.words "flat") ∧
    (enclosed.exec .process .fresh).2.hook = .exit := by
  refine ⟨rfl, ?_, ?_⟩
  · obtain ⟨hafter, -⟩ := hook_after_block .process outOfOrder .fresh nofun
    have hsecond : Journal.Oldest (outOfOrder.journal .process [] .fresh []) 1
        ⟨"b", .panics (.words "flat")⟩ := by
      refine ⟨⟨rfl, by decide⟩, fun i g hi => ?_⟩
      -- the first guard has been dropped
      have hne : i ≠ 0 := by
        rintro rfl
        exact hi.2 (by decide)
      omega
    rcases hafter with ⟨number, g, ho, hg⟩ | ⟨hnone, -⟩
    · rw [hg, hsecond.unique ho]
    · exact absurd hsecond.1 (hnone _ _)
  · have hkept := (hook_after_block .process enclosed .fresh nofun).2
    exact hkept ⟨"kept", .exit⟩ _ rfl (by decide)

end Epilogue
