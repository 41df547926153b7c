import Epilogue.Proofs.Run.Holding
import Epilogue.Proofs.Run.Indifference
import Epilogue.Proofs.Stream.Limit

/-!
# Epilogue — one program on two outputs

The same program is run twice, once on a sink with room for `n` bytes and once on an output that
takes everything. As long as all is taken the two threads differ in their outputs alone, and so they
take the same steps. At the first refusal they part: what the program does from there on may depend
on the fault, but the one output is full and stays as it is, and the other only grows.

* `Thread.Abreast` — two threads that have taken the same steps;
* `Thread.Parted` — two threads of which the first was refused bytes;
* `Coupled`, `Progress.Coupled` — two outcomes, of threads that are abreast or parted;
* `Output.Steady`, `Couples` — an operation and a computation that keep two threads coupled.

Main results:

* `Act.perform_coupled`, `Thread.drive_coupled` — a step and a run keep two threads coupled;
* `Block.steps_coupled` — and so do any steps.
-/

namespace Epilogue

/-! ## Two outputs -/

section

variable {n : Nat} {refusal : Nat → Stop}

namespace Output

/-- Two outputs that have taken the same bytes, the first one with room for `n`. -/
def Abreast (n : Nat) (refusal : Nat → Stop) (o o' : Output) : Prop :=
  ∃ c, c.length ≤ n ∧ o.Limited n refusal c ∧ o'.Received c

/-- The first output is full, and the second one has taken the same bytes and perhaps more. -/
def Parted (n : Nat) (refusal : Nat → Stop) (o o' : Output) : Prop :=
  ∃ c, c.length = n ∧ o.Limited n refusal c ∧ ∃ c', c <+: c' ∧ o'.Received c'

/-- A sink that is full stays as it is. -/
theorem full_lasting {c : Bytes} (hc : c.length = n) : Lasting (Limited n refusal c) where
  writeAll h bs := by
    have hs := (writeAll_offered h (Nat.le_of_eq hc) bs).state
    rwa [← hc, List.take_left, hc] at hs
  flush h := by
    obtain ⟨o', ho, hl⟩ := flush_limited h
    rwa [ho]

/-- What no operation ends does not end the parting of two outputs. -/
theorem Parted.imp {o o' a a' : Output} (h : Parted n refusal o o')
    (hfirst : ∀ {P}, Lasting P → P o → P a) (hsecond : ∀ {P}, Lasting P → P o' → P a') :
    Parted n refusal a a' := by
  obtain ⟨c, hc, ho, ho'⟩ := h
  exact ⟨c, hc, hfirst (full_lasting hc) ho, hsecond (received_lasting c) ho'⟩

end Output

/-- Two outcomes of the same operation: either it succeeded on both outputs, or they have parted. -/
inductive Attempt.Coupled (n : Nat) (refusal : Nat → Stop) :
    Attempt Output → Attempt Output → Prop
  | abreast {o o' : Output} (h : Output.Abreast n refusal o o') :
    Coupled n refusal ⟨o, none⟩ ⟨o', none⟩
  | parted {r r' : Attempt Output} (h : Output.Parted n refusal r.state r'.state) :
    Coupled n refusal r r'

/-- An operation that two outputs take alike or part by, and that ends nothing that lasts. -/
structure Output.Steady (n : Nat) (refusal : Nat → Stop) (op : Output → Attempt Output) : Prop where
  coupled : ∀ o o', Output.Abreast n refusal o o' → (op o).Coupled n refusal (op o')
  lasting : ∀ {P}, Output.Lasting P → ∀ o, P o → P (op o).state

/-- Coupled attempts stay coupled when both go on with a steady operation. -/
theorem Attempt.Coupled.next {r r' : Attempt Output} (h : r.Coupled n refusal r')
    {op : Output → Attempt Output} (hop : Output.Steady n refusal op) :
    (r.next op).Coupled n refusal (r'.next op) := by
  cases h with
  | abreast h => exact hop.coupled _ _ h
  | parted h =>
    exact .parted <| h.imp (fun hP ho => Output.next_lasting ho (hop.lasting hP))
      fun hP ho => Output.next_lasting ho (hop.lasting hP)

namespace Output

variable {o o' : Output}

/-- A write is taken by both outputs or parts them. -/
theorem writeAll_coupled (h : Abreast n refusal o o') (bs : Bytes) :
    (o.writeAll bs).Coupled n refusal (o'.writeAll bs) := by
  obtain ⟨c, hc, ho, ho'⟩ := h
  have hl := writeAll_offered ho hc bs
  obtain ⟨a', ha', hr⟩ := (writeAll_succeeds ho' bs).exists_eq
  rw [ha']
  -- the bytes fit, or the cut falls within them
  by_cases hfits : (c ++ bs).length ≤ n
  · have hf := hl.fits hfits
    have hs := hl.state
    rw [List.take_of_length_le hfits] at hs
    generalize o.writeAll bs = r at hf hs
    obtain ⟨a, f⟩ := r
    simp only at hf
    subst hf
    exact .abreast ⟨c ++ bs, hfits, hs, hr⟩
  · have hlen : ((c ++ bs).take n).length = n := by
      rw [List.length_take]
      omega
    exact .parted ⟨(c ++ bs).take n, hlen, hl.state, c ++ bs, List.take_prefix n _, hr⟩

/-- A flush reaches the sinks on both sides, or on neither. -/
theorem flush_coupled (h : Abreast n refusal o o') : o.flush.Coupled n refusal o'.flush := by
  obtain ⟨c, hc, ho, ho'⟩ := h
  obtain ⟨a, ha, hl⟩ := flush_limited ho
  obtain ⟨a', ha', hr⟩ := (flush_succeeds ho').exists_eq
  rw [ha, ha']
  exact .abreast ⟨c, hc, hl, hr⟩

/-- Writing keeps outputs abreast or parts them, and a parted one loses nothing. -/
theorem writeAll_steady (bs : Bytes) : Steady n refusal (·.writeAll bs) :=
  ⟨fun _ _ h => writeAll_coupled h bs, fun hP _ ho => hP.writeAll ho bs⟩

theorem flush_steady : Steady n refusal Output.flush :=
  ⟨fun _ _ h => flush_coupled h, fun hP _ ho => hP.flush ho⟩

/-- Pieces in a row are coupled piece by piece. -/
theorem writePieces_coupled (h : Abreast n refusal o o') (pieces : List Bytes) :
    (o.writePieces pieces).Coupled n refusal (o'.writePieces pieces) := by
  -- after a piece that parts the outputs the others are still offered to the second one
  have hfold (r r' : Attempt Output) (hr : r.Coupled n refusal r') :
      (pieces.foldl (fun r bs => r.next (·.writeAll bs)) r).Coupled n refusal
        (pieces.foldl (fun r bs => r.next (·.writeAll bs)) r') := by
    induction pieces generalizing r r' with
    | nil => exact hr
    | cons bs pieces ih => exact ih _ _ (hr.next (writeAll_steady bs))
  exact hfold (.done o) (.done o') (.abreast h)

end Output

/-! ## Two threads -/

namespace Thread

/-- Two threads that differ in their outputs alone, and these have taken the same. -/
def Abreast (n : Nat) (refusal : Nat → Stop) (s t : Thread) : Prop :=
  ∃ (x : Thread) (o o' : Output), x.streams.isSome = true ∧
    s = x.setOutput o ∧ t = x.setOutput o' ∧ Output.Abreast n refusal o o'

/-- Two threads, each with an output, of which the first is full and the second has taken the same
bytes and perhaps more. -/
def Parted (n : Nat) (refusal : Nat → Stop) (s t : Thread) : Prop :=
  ∃ c, c.length = n ∧ s.On (Output.Limited n refusal c) ∧
    t.On fun o => ∃ c', c <+: c' ∧ o.Received c'

variable {s t s' t' : Thread}

/-- Threads that have parted stay so, whatever both do that keeps what lasts. -/
theorem Parted.imp (h : Parted n refusal s t) (hfirst : ∀ {P}, Output.Lasting P → s.On P → s'.On P)
    (hsecond : ∀ {P}, Output.Lasting P → t.On P → t'.On P) : Parted n refusal s' t' := by
  obtain ⟨c, hc, hs, ht⟩ := h
  exact ⟨c, hc, hfirst (Output.full_lasting hc) hs, hsecond (Output.received_lasting c) ht⟩

theorem Parted.congr (h : Parted n refusal s t) (hs : s'.streams = s.streams)
    (ht : t'.streams = t.streams) : Parted n refusal s' t' :=
  h.imp (fun _ h => h.congr hs) fun _ h => h.congr ht

/-- Outputs that have parted are put back on threads that have streams. -/
theorem parted_setOutput (hs : s.streams.isSome = true) (ht : t.streams.isSome = true)
    {o o' : Output} (h : Output.Parted n refusal o o') :
    Parted n refusal (s.setOutput o) (t.setOutput o') := by
  obtain ⟨a, hs⟩ := Option.isSome_iff_exists.mp hs
  obtain ⟨b, ht⟩ := Option.isSome_iff_exists.mp ht
  have hons : s.On fun _ => True := ⟨a, hs, trivial⟩
  have hont : t.On fun _ => True := ⟨b, ht, trivial⟩
  obtain ⟨c, hc, ho, ho'⟩ := h
  exact ⟨c, hc, hons.setOutput ho, hont.setOutput ho'⟩

/-- A function of threads that does not use the output keeps two threads abreast. -/
theorem Abreast.map {f : Thread → Thread} (h : Abreast n refusal s t)
    (hf : ∀ x o, f (x.setOutput o) = (f x).setOutput o)
    (hs : ∀ x, (f x).streams.isSome = x.streams.isSome) : Abreast n refusal (f s) (f t) := by
  obtain ⟨x, o, o', hx, rfl, rfl, ho⟩ := h
  exact ⟨f x, o, o', (hs x).trans hx, hf x o, hf x o', ho⟩

theorem Abreast.note (h : Abreast n refusal s t) (what : Happening) :
    Abreast n refusal (s.note what) (t.note what) :=
  h.map (f := (·.note what)) (fun _ _ => rfl) fun _ => rfl

theorem Abreast.log (h : Abreast n refusal s t) (r : Record) :
    Abreast n refusal (s.log r) (t.log r) :=
  h.map (f := (·.log r)) (fun _ _ => rfl) fun _ => rfl

theorem Abreast.join (h : Abreast n refusal s t) (es : List Event) :
    Abreast n refusal (s.join es) (t.join es) :=
  h.map (f := (·.join es)) (fun _ _ => rfl) fun _ => rfl

theorem Abreast.setHook (h : Abreast n refusal s t) (hook : Hook) :
    Abreast n refusal (s.setHook hook) (t.setHook hook) :=
  h.map (f := (·.setHook hook)) (fun _ _ => rfl) fun _ => rfl

theorem Abreast.enterTrap (h : Abreast n refusal s t) :
    Abreast n refusal (s.replaceHook .unwind) (t.replaceHook .unwind) :=
  h.map (f := (·.replaceHook .unwind)) (fun _ _ => rfl) fun _ => rfl

theorem Abreast.clearMessage (h : Abreast n refusal s t) :
    Abreast n refusal s.clearMessage t.clearMessage :=
  h.map (f := (·.clearMessage)) (fun _ _ => rfl) fun _ => rfl

theorem Abreast.dropGuards (h : Abreast n refusal s t) (gs : List Guard) :
    Abreast n refusal (s.dropGuards gs) (t.dropGuards gs) :=
  h.map (f := (·.dropGuards gs)) (fun x o => dropGuards_unseen (setOutput_unseen o) x gs)
    fun x => by rw [dropGuards_streams]

theorem Abreast.hook (h : Abreast n refusal s t) : s.hook = t.hook := by
  obtain ⟨x, o, o', -, rfl, rfl, -⟩ := h
  rfl

/-- A program sees the same on both sides. -/
theorem Abreast.sight (h : Abreast n refusal s t) : s.sight = t.sight := by
  obtain ⟨x, o, o', -, rfl, rfl, -⟩ := h
  rfl

theorem Abreast.isSome (h : Abreast n refusal s t) :
    s.streams.isSome = true ∧ t.streams.isSome = true := by
  obtain ⟨x, o, o', hx, rfl, rfl, -⟩ := h
  exact ⟨(x.setOutput_isSome o).trans hx, (x.setOutput_isSome o').trans hx⟩

end Thread

/-! ## Two outcomes -/

/-- Two outcomes: the same, of threads that are abreast, or any two, of threads that have parted. -/
inductive Coupled (n : Nat) (refusal : Nat → Stop) {ε : Type} : ε × Thread → ε × Thread → Prop
  | abreast {e : ε} {s t : Thread} (h : s.Abreast n refusal t) : Coupled n refusal (e, s) (e, t)
  | parted {r r' : ε × Thread} (h : r.2.Parted n refusal r'.2) : Coupled n refusal r r'

/-- Two states within a block, as two outcomes. -/
inductive Progress.Coupled (n : Nat) (refusal : Nat → Stop) : Progress → Progress → Prop
  | abreast {e : Ending} {gs : List Guard} {s t : Thread} (h : s.Abreast n refusal t) :
    Coupled n refusal ⟨e, gs, s⟩ ⟨e, gs, t⟩
  | parted {p q : Progress} (h : p.thread.Parted n refusal q.thread) : Coupled n refusal p q

/-- A computation that takes two threads that are abreast to outcomes that are coupled. -/
def Couples (n : Nat) (refusal : Nat → Stop) (body : Computation) : Prop :=
  ∀ s t : Thread, s.Abreast n refusal t → Coupled n refusal (body s) (body t)

/-- Leaving a block drops the same guards on both sides. -/
theorem Progress.Coupled.leave {p q : Progress} (h : p.Coupled n refusal q) :
    Epilogue.Coupled n refusal p.leave q.leave := by
  cases h with
  | parted h => exact .parted (h.congr p.leave_streams q.leave_streams)
  | @abreast e gs s t h =>
    cases e with
    | exited => exact .abreast h
    | next | returned | unwound => exact .abreast (h.dropGuards gs)

/-! ## Steps -/

/-- Where both outputs take part in an operation its outcome is noted. -/
theorem Attempt.Coupled.noted {r r' : Attempt Output} (h : r.Coupled n refusal r') {x : Thread}
    (hx : x.streams.isSome = true) (gs : List Guard) (what : Option Fault → Happening) :
    Progress.Coupled n refusal ⟨.next, gs, (x.setOutput r.state).note (what r.fault)⟩
      ⟨.next, gs, (x.setOutput r'.state).note (what r'.fault)⟩ := by
  cases h with
  -- the program is told the same as long as nothing has been refused
  | @abreast o o' h =>
    have hst : Thread.Abreast n refusal (x.setOutput o) (x.setOutput o') :=
      ⟨x, o, o', hx, rfl, rfl, h⟩
    exact .abreast (hst.note (what none))
  | parted h =>
    have hst := Thread.parted_setOutput hx hx h
    exact .parted (hst.congr rfl rfl)

/-- A step does the same on both sides until a write meets the limit; then it is told a fault on one
of them and the sides part. -/
theorem Act.perform_coupled (a : Act) (host : Host) (gs : List Guard) {s t : Thread}
    (h : s.Abreast n refusal t) :
    (a.perform host gs s).Coupled n refusal (a.perform host gs t) := by
  obtain ⟨x, o, o', hx, rfl, rfl, ho⟩ := h
  -- a step that neither writes nor flushes hands the output on and sees nothing of it
  by_cases ha : a.Silent
  · have hlast : Output.Lasting fun _ => True := ⟨fun _ _ => trivial, fun _ => trivial⟩
    obtain ⟨st, hst⟩ := Option.isSome_iff_exists.mp hx
    have hon := a.perform_lasting hlast host gs (t := x) ⟨st, hst, trivial⟩
    rw [perform_setOutput ha, perform_setOutput ha]
    exact .abreast ⟨_, o, o', hon.isSome, rfl, rfl, ho⟩
  · cases a with
    | write bs =>
      rw [perform_write hx, perform_write hx]
      exact (Output.writeAll_coupled ho bs).noted hx gs .wrote
    | flush =>
      rw [perform_flush hx, perform_flush hx]
      exact (Output.flush_coupled ho).noted hx gs .flushed
    | _ => exact absurd trivial ha

/-! ## Runs -/

/-- The frame of a run ends it on both threads in the same way, or it parts them. -/
theorem Attempt.Coupled.closeRun {r r' : Attempt Output} (h : r.Coupled n refusal r') {x : Thread}
    (hx : x.streams.isSome = true) (outcome : Outcome) :
    Epilogue.Coupled n refusal (x.closeRun outcome r) (x.closeRun outcome r') := by
  cases h with
  | abreast h => exact .abreast ⟨x, _, _, hx, rfl, rfl, h⟩
  | parted h => exact .parted (Thread.parted_setOutput hx hx h)

namespace Thread

variable {s t : Thread}

/-- The frame of a raise is written on both sides as far as each goes. -/
theorem finishRaised_coupled (h : s.Abreast n refusal t) :
    Coupled n refusal s.finishRaised t.finishRaised := by
  obtain ⟨x, o, o', hx, rfl, rfl, ho⟩ := h
  have herr := (Output.flush_coupled ho).next (Output.writeAll_steady (Utf8.encode errText))
  have hframed := herr.next Output.flush_steady
  rw [finishRaised_setOutput o hx, finishRaised_setOutput o' hx]
  exact hframed.closeRun (x := x.clearMessage.log (.entryRaised x.stash)) hx (.raised x.stash)

/-- What follows the printing of a value is the same on both sides as long as they are abreast. -/
theorem afterPrinting_coupled (v : Value) (e : Printed) {x : Thread}
    (hx : x.streams.isSome = true) {o o' : Output} (ho : Output.Abreast n refusal o o') :
    Coupled n refusal (afterPrinting v (e, o, x)) (afterPrinting v (e, o', x)) := by
  cases e with
  | failed | unwound | exited => exact .abreast ⟨x, o, o', hx, rfl, rfl, ho⟩
  | done =>
    have hend : (if v.isVoid then Attempt.done o else o.writeAll [LineBuffer.newline]).Coupled n
        refusal (if v.isVoid then Attempt.done o' else o'.writeAll [LineBuffer.newline]) := by
      split
      · exact .abreast ho
      · exact Output.writeAll_coupled ho [LineBuffer.newline]
    exact (hend.next Output.flush_steady).closeRun hx (.completed v.shape)

/-- The frame of a value is written on both sides as far as each goes. The two runs of the printer
agree unless the outputs part within it. -/
theorem finishReturned_coupled (host : Host) (printer : Printer) (v : Value)
    (h : s.Abreast n refusal t) : Coupled n refusal (s.finishReturned host printer v)
      (t.finishReturned host printer v) := by
  obtain ⟨x, o, o', hx, rfl, rfl, ho⟩ := h
  have hpieces := Output.writePieces_coupled ho (v.printout printer).writes
  rw [finishReturned_setOutput o hx, finishReturned_setOutput o' hx, Value.write, Value.write,
    Printout.write, Printout.write]
  have hy : (if v = .invalid then (x.log (.entryReturned v.shape)).log .invalidRendered
      else x.log (.entryReturned v.shape)).streams.isSome = true := by split <;> exact hx
  -- from here on the two sides have the same thread and the same printer, and two attempts
  generalize (if v = .invalid then (x.log (.entryReturned v.shape)).log .invalidRendered
    else x.log (.entryReturned v.shape)) = y at hy ⊢
  generalize (v.printout printer).finish = finish
  generalize o.writePieces (v.printout printer).writes = r at hpieces ⊢
  generalize o'.writePieces (v.printout printer).writes = r' at hpieces ⊢
  have hz (r : Attempt Output) : (finish.after host y r).2.2.streams.isSome = true := by
    rw [Finish.after_streams]
    exact hy
  cases hpieces with
  | @abreast o o' ho =>
    -- all pieces were taken, so the printer ends in the same way
    cases finish with
    | done | fails => exact afterPrinting_coupled v _ hy ho
    | panics | raises => exact afterPrinting_coupled v _ (hz ⟨o, none⟩) ho
  | parted hp =>
    -- the printers may end in two ways, but neither output loses what it holds
    have hq := hp.imp (fun _ h => Finish.after_lasting host y finish h)
      fun _ h => Finish.after_lasting host y finish h
    obtain ⟨c, hc, ho, ho'⟩ := hq
    exact .parted ⟨c, hc, afterPrinting_lasting (Output.full_lasting hc) v (hz _) ho,
      afterPrinting_lasting (Output.received_lasting c) v (hz _) ho'⟩

/-- Whatever the frame is, it keeps the sides coupled. -/
theorem afterEntry_coupled (host : Host) (printer : Printer) {r r' : Ending × Thread}
    (h : Coupled n refusal r r') :
    Coupled n refusal (afterEntry host printer r) (afterEntry host printer r') := by
  cases h with
  -- parted sides stay parted whatever the frames are, which need not be the same
  | parted h =>
    exact .parted <| h.imp (fun hP h => afterEntry_lasting hP host printer h)
      fun hP h => afterEntry_lasting hP host printer h
  | @abreast e s t h =>
    cases e with
    | exited => exact .abreast h
    | next => exact finishReturned_coupled host printer .void h
    | returned v => exact finishReturned_coupled host printer v h
    | unwound p =>
      cases p with
      | raised => exact finishRaised_coupled h
      | words | boxed | number => exact .abreast (h.log _)

/-- A trap puts the same hook back on both sides. -/
theorem catching_coupled {body : Computation} (h : s.Abreast n refusal t)
    (hb : Couples n refusal body) : Coupled n refusal (s.catching body) (t.catching body) := by
  have hbody := hb _ _ h.enterTrap
  -- what the body leaves is all that matters; the hook that is put back is the same on both
  unfold catching
  generalize body (s.replaceHook .unwind) = r at hbody ⊢
  generalize body (t.replaceHook .unwind) = r' at hbody ⊢
  cases hbody with
  | @abreast e s' t' hin =>
    rw [h.hook]
    cases e with
    | exited => exact .abreast hin
    | next | returned | unwound => exact .abreast (hin.setHook t.hook)
  | parted h =>
    refine .parted (h.congr ?_ ?_)
    · obtain ⟨e, s'⟩ := r
      cases e <;> rfl
    · obtain ⟨e, t'⟩ := r'
      cases e <;> rfl

/-- A run keeps two threads coupled if its entry does. -/
theorem drive_coupled (host : Host) (printer : Printer) {entry : Computation}
    (h : s.Abreast n refusal t) (he : Couples n refusal entry) :
    Coupled n refusal (s.drive host printer entry) (t.drive host printer entry) := by
  rw [drive, drive]
  exact afterEntry_coupled host printer (catching_coupled h.clearMessage he)

/-- A run within a program keeps the sides coupled: on the streams of the program by what its frame
does, on streams of its own because these are the same. -/
theorem runWith_coupled (host : Host) (setup : RunSetup) {entry : Computation}
    (h : s.Abreast n refusal t) (he : Couples n refusal entry) :
    Coupled n refusal (s.runWith host setup entry) (t.runWith host setup entry) := by
  cases hs : setup.shared with
  | false =>
    obtain ⟨x, o, o', hx, rfl, rfl, ho⟩ := h
    rw [runWith_setOutput hs, runWith_setOutput hs]
    -- a run on streams of its own is the same run on both threads
    have hsome : (x.runWith host setup entry).2.streams.isSome = true := by
      rw [runWith_own hs]
      exact hx
    exact .abreast ⟨_, o, o', hsome, rfl, rfl, ho⟩
  | true =>
    have hd := drive_coupled host setup.printer h he
    obtain ⟨hsome, hsome'⟩ := h.isSome
    rw [runWith, runWith, enterRun_shared hs hsome, enterRun_shared hs hsome']
    generalize s.drive host setup.printer entry = r at hd ⊢
    generalize t.drive host setup.printer entry = r' at hd ⊢
    cases hd with
    | @abreast e s' t' hafter =>
      -- a run on shared streams keeps its view of them to itself, so its end is noted alike
      cases e with
      | finished | unwound =>
        simp only [afterRun, leaveRun_shared hs hsome, leaveRun_shared hs hsome', if_pos hs]
        exact .abreast (hafter.note _)
      | exited =>
        simp only [afterRun, leaveRun_shared hs hsome, leaveRun_shared hs hsome']
        exact .abreast hafter
    | parted hafter =>
      refine .parted (hafter.congr ?_ ?_)
      · rw [afterRun_streams, leaveRun_shared hs hsome]
      · rw [afterRun_streams, leaveRun_shared hs hsome']

end Thread

/-! ## Any steps -/

/-- Steps that take two threads that are abreast to outcomes that are coupled. -/
def Progress.Couples (n : Nat) (refusal : Nat → Stop)
    (next : List Guard → Thread → Progress) : Prop :=
  ∀ gs s t, s.Abreast n refusal t → (next gs s).Coupled n refusal (next gs t)

/-- What follows a block keeps two threads coupled, and ends nothing that lasts. -/
structure Progress.Continues (n : Nat) (refusal : Nat → Stop)
    (next : List Guard → Thread → Progress) : Prop where
  couples : Progress.Couples n refusal next
  keeps : ∀ {P}, Output.Lasting P → Progress.Keeps P next

/-- What goes on from two coupled outcomes need only be looked at where the threads are abreast. -/
theorem Coupled.follow {r r' : Ending × Thread} (h : Coupled n refusal r r')
    {f : Ending × Thread → Progress}
    (hf : ∀ e s t, s.Abreast n refusal t → (f (e, s)).Coupled n refusal (f (e, t)))
    (hlast : ∀ {P}, Output.Lasting P → ∀ r, r.2.On P → (f r).thread.On P) :
    (f r).Coupled n refusal (f r') := by
  cases h with
  | abreast h => exact hf _ _ _ h
  | parted h => exact .parted (h.imp (fun hP => hlast hP r) fun hP => hlast hP r')

namespace Block

variable {next : List Guard → Thread → Progress} (hn : Progress.Continues n refusal next)
  (gs : List Guard) {r r' : Ending × Thread}

include hn

/-- Where the two sides have not parted both go on, and where they have neither loses what
it holds. -/
theorem afterPlain_coupled (h : Coupled n refusal r r') :
    (afterPlain next gs r).Coupled n refusal (afterPlain next gs r') := by
  refine h.follow ?_ fun hP _ hr => afterPlain_maintains (I := Thread.On _) (hn.keeps hP) gs hr
  intro e s t hst
  cases e with
  | next => exact hn.couples gs s t hst
  | returned | unwound | exited => exact .abreast hst

/-- The same for a block with guards of its own. -/
theorem afterScope_coupled (h : Coupled n refusal r r') :
    (afterScope next gs r).Coupled n refusal (afterScope next gs r') := by
  refine h.follow ?_ fun hP _ hr => afterScope_maintains Thread.On.note (hn.keeps hP) gs hr
  intro e s t hst
  cases e with
  | next => exact hn.couples gs _ _ (hst.note .scopeLeft)
  | returned => exact .abreast (hst.note .scopeLeft)
  | unwound | exited => exact .abreast hst

/-- The same for the body of a trap, and for the handler behind it. -/
theorem afterTrap_coupled {handler : Computation} (hh : Couples n refusal handler)
    (hlast : ∀ {P}, Output.Lasting P → ∀ t : Thread, t.On P → (handler t).2.On P)
    (h : Coupled n refusal r r') :
    (afterTrap next gs handler r).Coupled n refusal (afterTrap next gs handler r') := by
  refine h.follow ?_ fun hP _ hr =>
    afterTrap_maintains Thread.On.note (hn.keeps hP) gs (hlast hP) hr
  intro e s t hst
  cases e with
  | next | returned => exact hn.couples gs _ _ (hst.note _)
  | exited => exact .abreast hst
  | unwound p =>
    cases p with
    | raised => exact afterPlain_coupled hn gs (hh _ _ (hst.note .trapCaught))
    | words | boxed | number => exact .abreast (hst.note .trapPassed)

/-- The same for a block in which every unwinding is stopped. -/
theorem afterContain_coupled (h : Coupled n refusal r r') :
    (afterContain next gs r).Coupled n refusal (afterContain next gs r') := by
  refine h.follow ?_ fun hP _ hr => afterContain_maintains Thread.On.note (hn.keeps hP) gs hr
  intro e s t hst
  cases e with
  | next | returned | unwound => exact hn.couples gs _ _ (hst.note _)
  | exited => exact .abreast hst

/-- The threads that the two sides join are the same thread. -/
theorem afterSpawn_coupled {s t : Thread} (h : s.Abreast n refusal t) (e : Ending) :
    (afterSpawn next gs s e).Coupled n refusal (afterSpawn next gs t e) := by
  cases e with
  | next | returned | unwound => exact hn.couples gs _ _ (h.note _)
  | exited => exact .abreast h

end Block

/-- Any steps keep two threads coupled. By induction on the program: where a part of it has parted
the threads, what follows that part ends nothing that lasts. -/
theorem Block.steps_coupled (b : Block) (host : Host) :
    Progress.Couples n refusal (b.steps host) := by
  have hcont {b : Block} (hb : Progress.Couples n refusal (b.steps host)) :
      Progress.Continues n refusal (b.steps host) := ⟨hb, fun hP => b.steps_lasting hP host⟩
  have hexec {b : Block} (hb : Progress.Couples n refusal (b.steps host)) :
      Couples n refusal (b.exec host) := fun s t h => (hb [] s t h).leave
  induction b with
  | done => exact fun _ _ _ h => .abreast h
  | act a rest ih =>
    intro gs s t h
    have ha := a.perform_coupled host gs h
    simp only [steps]
    generalize a.perform host gs s = p at ha ⊢
    generalize a.perform host gs t = q at ha ⊢
    cases ha with
    | parted h =>
      -- the two threads may take other steps from here on, and none of them ends what lasts
      exact .parted <| h.imp (fun hP h =>
        Progress.andThen_maintains (I := Thread.On _) (rest.steps_lasting hP host) h)
        fun hP h => Progress.andThen_maintains (I := Thread.On _) (rest.steps_lasting hP host) h
    | @abreast e gs s t h =>
      cases e with
      | next => exact ih gs s t h
      | returned | unwound | exited => exact .abreast h
  | scope body rest ihb ihr =>
    intro gs s t h
    rw [steps_scope, steps_scope]
    exact afterScope_coupled (hcont ihr) gs (hexec ihb s t h)
  | trap body handler rest ihb ihh ihr =>
    intro gs s t h
    rw [steps_trap, steps_trap]
    have hbody := Thread.catching_coupled h (hexec ihb)
    exact afterTrap_coupled (hcont ihr) gs (hexec ihh)
      (fun hP _ h => handler.exec_lasting hP host h) hbody
  | contain body rest ihb ihr =>
    intro gs s t h
    rw [steps_contain, steps_contain]
    exact afterContain_coupled (hcont ihr) gs (hexec ihb s t h)
  | spawn own body rest _ ihr =>
    intro gs s t h
    -- the thread does not see the streams
    rw [steps_spawn, steps_spawn]
    exact afterSpawn_coupled (hcont ihr) gs (h.join _) _
  | run setup entry rest ihe ihr =>
    intro gs s t h
    rw [steps_run, steps_run]
    exact afterPlain_coupled (hcont ihr) gs (Thread.runWith_coupled host setup h (hexec ihe))
  | choose next ih =>
    intro gs s t h
    -- a program sees its slot, its stash and what it has been told, and these are the same
    simp only [steps]
    rw [h.sight]
    exact ih t.sight gs s t h

/-- So a block from end to end keeps the sides coupled. -/
theorem Block.exec_coupled (b : Block) (host : Host) : Couples n refusal (b.exec host) :=
  fun s t h => (b.steps_coupled host [] s t h).leave

end

end Epilogue
