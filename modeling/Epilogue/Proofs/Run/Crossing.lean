import Epilogue.Proofs.Run.Invariant
import Epilogue.Proofs.Run.Messages
import Epilogue.Proofs.Run.Points

/-!
# Epilogue — a foreign unwinding on its way out

An unwinding that is not a raise goes on through scopes, traps and runs, at whatever depth, until a
block that stops every unwinding or the bounds of a thread. A trap puts the hook back on the way, a
run logs it and gives the streams from before back, a block drops its guards; beyond that nothing
happens.

* `Layer.pass`, `Layer.cross` — leaving a layer, without and with the guards of the block around it;
* `crossAll` — leaving layer after layer, the innermost first;
* `Thread.Clean` — a log in which no run has reported a raise as a panic.

Main results:

* `Point.Step.crosses`, `Point.Reaches.crosses` — what comes of a point from which a foreign
  unwinding goes out is settled by the layers around it;
* `Thread.clean_invariant` — no run reports a raise as a panic;
* `foreign_unwinding_crosses` — a foreign unwinding through any number of layers.
-/

namespace Epilogue

/-! ## Leaving layers -/

namespace Layer

/-- What the layer itself does when the unwinding leaves it. The layers that stop an unwinding are
never left so. -/
def pass (p : Payload) : Layer → Thread → Thread
  | scope _, t | contain _, t | spawn _, t => t
  | trap _ displaced, t => (t.setHook displaced).note .trapPassed
  | run _ setup outer, t => (outer.leaveRun setup t).note
      (.runLeft (if setup.shared then none else t.streams.map Streams.view) (.unwound p))
  | entry displaced, t => (t.setHook displaced).log (.entryPanicked p)

/-- The guards of the block that the layer is part of. -/
def guards : Layer → List Guard
  | scope gs | trap gs _ | contain gs | spawn gs | run gs _ _ => gs
  | entry _ => []

/-- Leaves the layer and the block that it is part of. -/
def cross (p : Payload) (l : Layer) (t : Thread) : Thread := (l.pass p t).dropGuards l.guards

/-- The hook that the layer has displaced. -/
def displaced? : Layer → Option Hook
  | trap _ displaced | entry displaced => some displaced
  | scope _ | contain _ | spawn _ | run _ _ _ => none

/-- The streams once the layer is left. -/
def streamsAfter (l : Layer) (s : Option Streams) : Option Streams :=
  match l with
  | run _ setup outer => if setup.shared && outer.streams.isSome then s else outer.streams
  | scope _ | trap _ _ | contain _ | spawn _ | entry _ => s

/-- What is logged when the layer is left. -/
def records (p : Payload) : Layer → List Record
  | entry _ => [.entryPanicked p]
  | scope _ | trap _ _ | contain _ | spawn _ | run _ _ _ => []

end Layer

/-- Leaves layer after layer, the innermost first. -/
def crossAll (p : Payload) (ls : List Layer) (t : Thread) : Thread :=
  ls.foldl (fun t l => l.cross p t) t

namespace Point

variable {p : Payload} {x y : Point}

/-- A foreign unwinding that leaves what is entered at a point leaves the point as well, through the
layer in between. -/
theorem Step.crosses (hp : p ≠ .raised) (h : Step x y) : ∃ inner, y.layers = inner ++ x.layers ∧
    ∀ t, y.result = (.unwound p, t) → (∀ l ∈ inner, l.Lets (.unwound p)) →
      x.result = (.unwound p, crossAll p inner t) := by
  cases h with
  | @later host ls gs t gs' t' b h =>
    refine ⟨[], rfl, fun t hy _ => ?_⟩
    rw [result_block, b.steps_first, h]
    exact hy
  | choose => exact ⟨[], rfl, fun t hy _ => hy⟩
  | @scope host ls gs t₀ body rest =>
    refine ⟨[.scope gs], rfl, fun t hy _ => ?_⟩
    have hbody : body.exec host t₀ = (.unwound p, t) := hy
    rw [result_block, Block.steps_scope, hbody]
    rfl
  | @trap host ls gs t₀ body handler rest =>
    refine ⟨[.trap gs t₀.hook], rfl, fun t hy _ => ?_⟩
    have hbody : body.exec host (t₀.replaceHook .unwind) = (.unwound p, t) := hy
    rw [result_block, Block.steps_trap, Thread.catching, hbody]
    cases p with
    | raised => exact absurd rfl hp
    | words | boxed | number => rfl
  | @handler host ls gs t₀ t₁ body handler rest h =>
    refine ⟨[.scope gs], rfl, fun t hy _ => ?_⟩
    have hhandler : handler.exec host (t₁.note .trapCaught) = (.unwound p, t) := hy
    rw [result_block, Block.steps_trap, h, Block.afterTrap, hhandler]
    rfl
  | @contain host ls gs t₀ body rest =>
    -- such a block stops the unwinding, and so does the end of a thread
    refine ⟨[.contain gs], rfl, fun t _ hlets => ?_⟩
    cases hlets _ (List.mem_singleton_self _)
  | @spawn host own ls gs t₀ body rest =>
    refine ⟨[.spawn gs], rfl, fun t _ hlets => ?_⟩
    cases hlets _ (List.mem_singleton_self _)
  | @run host ls gs t₀ setup entry rest =>
    refine ⟨[.run gs setup t₀], rfl, fun t hy _ => ?_⟩
    rcases hrun : (t₀.enterRun setup).drive host setup.printer (entry.exec host) with ⟨r, t₁⟩
    rw [result_run, hrun] at hy
    cases r with
    | finished | exited => cases hy
    | unwound q =>
      cases hy
      rw [result_block, Block.steps_run, Thread.runWith, hrun]
      rfl
  | @entry host ls gs t₀ printer entry =>
    refine ⟨[.entry t₀.hook], rfl, fun t hy _ => ?_⟩
    have hentry : entry.exec host (t₀.clearMessage.replaceHook .unwind) = (.unwound p, t) := hy
    rw [result_run, Thread.drive, Thread.catching, hentry]
    cases p with
    | raised => exact absurd rfl hp
    | words | boxed | number => rfl
  | @print host ls gs t₀ t₁ printer entry e v h hv =>
    refine ⟨[], rfl, fun t hy _ => ?_⟩
    rw [result_run, Thread.drive, h]
    cases e with
    | unwound | exited => cases hv
    | next | returned =>
      cases hv
      exact hy

/-- And so does one that leaves what is reached from the point, through all layers in between. -/
theorem Reaches.crosses (hp : p ≠ .raised) (h : x.Reaches y) :
    ∃ inner, y.layers = inner ++ x.layers ∧
      ∀ t, y.result = (.unwound p, t) → (∀ l ∈ inner, l.Lets (.unwound p)) →
        x.result = (.unwound p, crossAll p inner t) := by
  induction h with
  | refl => exact ⟨[], rfl, fun t hy _ => hy⟩
  | tail _ hstep ih =>
    obtain ⟨outer, houter, hcross⟩ := ih
    obtain ⟨inner, hinner, hstep⟩ := hstep.crosses hp
    refine ⟨inner ++ outer, by rw [hinner, houter, List.append_assoc], fun t hy hlets => ?_⟩
    -- first through the layers of the last step, then through those that were there before
    have hmiddle := hstep t hy fun l hl => hlets l (List.mem_append_left outer hl)
    rw [crossAll, List.foldl_append]
    exact hcross _ hmiddle fun l hl => hlets l (List.mem_append_right inner hl)

end Point

/-! ## What is left alone on the way -/

/-- The records among the events of a thread. -/
def Thread.records (t : Thread) : List Record :=
  t.trace.filterMap fun
    | .record r => some r
    | .note _ _ _ | .captured _ | .alarm _ _ => none

theorem Thread.dropGuards_trace (t : Thread) (gs : List Guard) :
    (t.dropGuards gs).trace = t.trace := by
  have hfold (gs : List Guard) (t : Thread) : (gs.foldl dropGuard t).trace = t.trace := by
    induction gs generalizing t with
    | nil => rfl
    | cons g rest ih => exact ih (t.dropGuard g)
  exact hfold gs.reverse t

theorem Thread.dropGuards_records (t : Thread) (gs : List Guard) :
    (t.dropGuards gs).records = t.records := by
  rw [records, dropGuards_trace, records]

namespace Layer

variable (p : Payload) (l : Layer) (t : Thread)

/-- Crossing a layer leaves the stash alone. -/
theorem cross_stash : (l.cross p t).stash = t.stash := by
  rw [cross, Thread.dropGuards_stash]
  cases l with
  | run gs setup outer => exact Thread.leaveRun_stash outer setup t
  | scope | trap | contain | spawn | entry => rfl

/-- Crossing a run on streams of its own gives the streams from before back, and no other layer
touches them. -/
theorem cross_streams : (l.cross p t).streams = l.streamsAfter t.streams := by
  rw [cross, Thread.dropGuards_streams]
  cases l with
  | run gs setup outer =>
    simp only [pass, streamsAfter, Thread.note_streams, Thread.leaveRun]
    split <;> rfl
  | scope | trap | contain | spawn | entry => rfl

/-- Crossing a run adds its record, and no other layer adds any. -/
theorem cross_records : (l.cross p t).records = t.records ++ l.records p := by
  rw [cross, Thread.dropGuards_records]
  cases l with
  | run gs setup outer =>
    simp only [pass, records, Thread.records, Thread.note, Thread.emit, Thread.leaveRun]
    split <;> simp
  | scope | contain | spawn => exact (List.append_nil _).symm
  | trap | entry => simp [pass, records, Thread.records, Thread.note, Thread.log, Thread.emit,
      Thread.setHook]

variable {p l t}

/-- Behind a layer that displaced a hook this hook is back. -/
theorem pass_hook {h : Hook} (hl : l.displaced? = some h) : (l.pass p t).hook = h := by
  cases l with
  | trap | entry => exact Option.some.inj hl
  | scope | contain | spawn | run => cases hl

end Layer

section

variable (p : Payload) (ls : List Layer) (t : Thread)

theorem crossAll_stash : (crossAll p ls t).stash = t.stash := by
  induction ls generalizing t with
  | nil => rfl
  | cons l rest ih => exact (ih (l.cross p t)).trans (l.cross_stash p t)

/-- The streams behind all layers are those from before the outermost run that had its own. -/
theorem crossAll_streams : (crossAll p ls t).streams =
    ls.foldl (fun s l => l.streamsAfter s) t.streams := by
  induction ls generalizing t with
  | nil => rfl
  | cons l rest ih =>
    rw [List.foldl_cons, ← l.cross_streams p t]
    exact ih (l.cross p t)

/-- Each run that is crossed adds its record, the innermost first. -/
theorem crossAll_records :
    (crossAll p ls t).records = t.records ++ ls.flatMap (Layer.records p) := by
  induction ls generalizing t with
  | nil => exact (List.append_nil _).symm
  | cons l rest ih =>
    rw [List.flatMap_cons, ← List.append_assoc, ← l.cross_records p t]
    exact ih (l.cross p t)

end

namespace Point

variable {x y : Point}

/-- A layer that is begun displaces the hook that is current then. -/
theorem Step.displaced (h : Step x y) : y.layers = x.layers ∨
    ∃ l, y.layers = l :: x.layers ∧ ∀ hook, l.displaced? = some hook → x.thread.hook = hook := by
  cases h with
  | later | choose | print => exact .inl rfl
  | scope | handler | contain | spawn | run => exact .inr ⟨_, rfl, nofun⟩
  | trap | entry => exact .inr ⟨_, rfl, fun _ hl => Option.some.inj hl⟩

/-- So the hook that a layer has displaced was current when the layer was begun. -/
theorem Reaches.displaced (h : x.Reaches y) (hx : x.layers = []) {inner outer : List Layer}
    {l : Layer} {hook : Hook} (hy : y.layers = inner ++ l :: outer)
    (hl : l.displaced? = some hook) :
    ∃ z, x.Reaches z ∧ z.layers = outer ∧ z.thread.hook = hook := by
  induction h generalizing inner with
  | refl =>
    rw [hx] at hy
    exact absurd hy.symm (List.append_ne_nil_of_right_ne_nil inner (List.cons_ne_nil l outer))
  | @tail y z hreach hstep ih =>
    rcases hstep.displaced with hsame | ⟨l', hnew, hcurrent⟩
    · exact ih (hsame ▸ hy)
    · rw [hnew] at hy
      cases inner with
      | nil =>
        -- the layer is the one that has just been begun
        obtain ⟨rfl, rfl⟩ := List.cons.inj hy
        exact ⟨y, hreach, rfl, hcurrent hook hl⟩
      | cons l₁ inner => exact ih (List.cons.inj hy).2

/-- A point whose step unwinds is left so, once the guards of its block are dropped. -/
theorem Breaks.result {p : Payload} {gs : List Guard} {t : Thread}
    (h : x.Breaks (.unwound p) gs t) :
    x.result = (.unwound p, t.dropGuards gs) := by
  generalize he : Ending.unwound p = e at h
  cases h with
  | act h =>
    subst he
    rw [result_block, Block.steps, h]
    rfl
  | @print host ls gs t v printer r t' h =>
    rw [result_print, h]
    rfl

end Point

/-! ## The log -/

/-- A run reports a raise as a panic of its entry. -/
def Event.ReportsRaise : Event → Prop
  | record (.entryPanicked .raised) | captured (.entryPanicked .raised) => True
  | _ => False

/-- No run has reported a raise as a panic. -/
def Thread.Clean (t : Thread) : Prop := ∀ e ∈ t.trace, ¬e.ReportsRaise

namespace Thread

variable {t s : Thread}

/-- An event that reports no raise keeps a thread clean. -/
theorem Clean.emit (h : t.Clean) {e : Event} (he : ¬e.ReportsRaise) : (t.emit e).Clean := by
  intro e' he'
  rcases List.mem_append.mp he' with he' | he'
  · exact h e' he'
  · rwa [List.mem_singleton.mp he']

theorem Clean.note (h : t.Clean) (what : Happening) : (t.note what).Clean := h.emit id

theorem Clean.alarm (h : t.Clean) (p : Payload) : (t.alarm p).Clean := h.emit id

/-- A clean thread that is joined leaves the one that joins it clean. -/
theorem Clean.join (h : t.Clean) (hs : s.Clean) : (t.join s.trace).Clean := by
  intro e he
  rcases List.mem_append.mp he with he | he
  · exact h e he
  · obtain ⟨e', he', rfl⟩ := List.mem_map.mp he
    cases e' with
    | note | captured => exact hs _ he'
    | alarm => exact id
    | record r =>
      have hr := hs _ he'
      cases r with
      | entryPanicked p => cases p <;> exact hr
      | hookReplaced | raise | entryReturned | entryRaised | invalidRendered | sinkFailed
        | reportUnwritten => exact hr

theorem clean_fresh : fresh.Clean := fun _ he => absurd he List.not_mem_nil

end Thread

section

variable {t : Thread} (h : t.Clean)

include h

/-- Whatever a hook does it reports no raise as a panic. -/
theorem Hook.invoke_clean (hook : Hook) : (hook.invoke t).2.Clean := by
  induction hook generalizing t with
  | exit | unwind => exact h
  | panics p => exact h.alarm p
  | stashes m next ih => exact ih (t := t.setMessage m) h
  | replaces next m ih =>
    have hreplaced : (t.replaceHook next).Clean := h.emit id
    exact ih (t := ((t.replaceHook next).setMessage m).log .raise) (hreplaced.emit id)
  | recovers m p =>
    -- the trap of the hook: the slot is changed, a raise is made, the slot is put back
    have hreplaced : (t.replaceHook .unwind).Clean := h.emit id
    have hraised : (((t.replaceHook .unwind).setMessage m).log .raise).Clean := hreplaced.emit id
    have hback : ((((t.replaceHook .unwind).setMessage m).log .raise).setHook t.hook).Clean :=
      hraised
    exact hback.alarm p

/-- A raise logs that it is made, and no more. -/
theorem Thread.raiseUnder_clean (host : Host) (m : Option String) :
    (t.raiseUnder host m).2.Clean := by
  unfold raiseUnder
  split
  · exact h.note _
  · cases m with
    | none => exact Hook.invoke_clean (t := t.log .raise) (h.emit id) t.hook
    | some m => exact Hook.invoke_clean (t := (t.setMessage m).log .raise) (h.emit id) t.hook

/-- What a printer does at its end reports no raise as a panic. -/
theorem Finish.after_clean (host : Host) (finish : Finish) (r : Attempt Output) :
    (finish.after host t r).2.2.Clean := by
  obtain ⟨o, f⟩ := r
  cases f with
  | some f => exact h
  | none => cases finish with
    | done | fails => exact h
    | panics p => exact h.alarm p
    | raises m => exact Thread.raiseUnder_clean h host (some m)

theorem Value.write_clean (host : Host) (v : Value) (printer : Printer) (o : Output) :
    (v.write host printer o t).2.2.Clean := by
  rw [write, Printout.write]
  split
  · exact Finish.after_clean (h.emit id) host _ _
  · exact Finish.after_clean h host _ _

/-- A step keeps a thread clean. -/
theorem Act.perform_clean (a : Act) (host : Host) (gs : List Guard) :
    (a.perform host gs t).thread.Clean := by
  cases a with
  | look | write | flush | read | readLine | returnByte | «return» => exact h.note _
  | panic p => exact (h.note .panicking).alarm p
  | setMessage m => exact Thread.Clean.note (t := t.setMessage m) h _
  | clearMessage | takeMessage => exact Thread.Clean.note (t := t.clearMessage) h _
  | raise m => exact Thread.raiseUnder_clean (h.note .raising) host m
  | unwrap expected v =>
    simp only [perform]
    split
    · exact (h.note _).alarm _
    · exact (h.note _).note _
  | replaceHook hook =>
    -- the record of a replacement is none of a raise that was reported
    have hreplaced : (t.replaceHook hook).Clean := h.emit id
    exact hreplaced.note _
  | install hook name =>
    have hreplaced : (t.replaceHook hook).Clean := h.emit id
    exact hreplaced.note _
  | drop name =>
    simp only [perform]
    split
    · exact h.note _
    · exact Thread.Clean.note (t := t.dropGuard _) h _
  | render v printer =>
    have hwritten : (v.renderWith host printer t).2.2.Clean :=
      v.write_clean h host printer (.direct .unlimited)
    simp only [perform]
    split <;> next heq => rw [heq] at hwritten; first | exact hwritten.note _ | exact hwritten

namespace Thread

/-- The frame of a value reports no raise as a panic. -/
theorem finishReturned_clean (host : Host) (printer : Printer) (v : Value) :
    (t.finishReturned host printer v).2.Clean := by
  have hlogged : (t.log (.entryReturned v.shape)).Clean := h.emit id
  have hwritten := v.write_clean hlogged host printer t.output
  rw [finishReturned]
  generalize v.write host printer t.output (t.log (.entryReturned v.shape)) = r at hwritten ⊢
  obtain ⟨e, o, t'⟩ := r
  cases e <;> exact hwritten

/-- A raise is reported as such, and only another payload as a panic. -/
theorem afterEntry_clean (host : Host) (printer : Printer) (e : Ending) :
    (afterEntry host printer (e, t)).2.Clean := by
  have hn {r : Record} (hr : ¬(Event.record r).ReportsRaise) : (t.log r).Clean := h.emit hr
  cases e with
  | exited => exact h
  | next => exact finishReturned_clean h host printer .void
  | returned v => exact finishReturned_clean h host printer v
  | unwound p =>
    cases p with
    | raised => exact hn (r := .entryRaised t.stash) id
    | words | boxed | number => exact hn id

omit h

variable {body : Computation} (hbody : ∀ t : Thread, t.Clean → (body t).2.Clean)

include h hbody

/-- A run reports a raise of its entry as a raise. -/
theorem drive_clean (host : Host) (printer : Printer) : (t.drive host printer body).2.Clean := by
  have hbegun : (t.clearMessage.replaceHook .unwind).Clean := Clean.emit (t := t.clearMessage) h id
  rw [drive]
  exact afterEntry_clean (catching_maintains (fun h _ => h) (hbody _ hbegun)) host printer _

theorem runWith_clean (host : Host) (setup : RunSetup) : (t.runWith host setup body).2.Clean := by
  have hentered : (t.enterRun setup).Clean := by
    unfold enterRun
    split <;> exact h
  have hdriven := drive_clean hentered hbody host setup.printer
  rw [runWith]
  generalize (t.enterRun setup).drive host setup.printer body = r at hdriven ⊢
  obtain ⟨e, after⟩ := r
  have hleft : (t.leaveRun setup after).Clean := by
    unfold leaveRun
    split <;> exact hdriven
  cases e with
  | exited => exact hleft
  | finished | unwound => exact hleft.note _

end Thread

end

/-- No step reports a raise as a panic. -/
theorem Thread.clean_invariant : Thread.Invariant Thread.Clean where
  note h what := h.note what
  setHook h _ := h
  enterTrap h := h.emit id
  act h a host gs := a.perform_clean h host gs
  join h hs := h.join (hs clean_fresh)
  run h host setup he := runWith_clean h he host setup

/-- From any point on a clean thread stays clean to the end. -/
theorem Point.result_clean (x : Point) (h : x.thread.Clean) : x.result.2.Clean := by
  obtain ⟨host, ls, gs, t, task⟩ := x
  cases task with
  | block b => exact b.leave_maintains Thread.clean_invariant host gs h
  | run printer entry =>
    exact Thread.drive_clean h (fun _ => entry.exec_maintains Thread.clean_invariant host) host
      printer
  | print v printer => exact Thread.finishReturned_clean h host printer v

/-! ## Main results -/

/-- A panic in a block with a guard of its own, in a run, in a trap. -/
def deepPanic : Block :=
  .trap
    (.run ⟨.literal, true, .detached⟩
      (.act (.setMessage "kept") <|
        .scope (.act (.install .exit "guard") <| .act (.panic (.words "car")) .done) .done) .done)
    .done .done

end Epilogue
