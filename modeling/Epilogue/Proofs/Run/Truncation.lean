import Epilogue.Proofs.Run.Coupling
import Epilogue.Proofs.Run.Transcript

/-!
# Epilogue — a run on an output with room for so many bytes

A sink with room for `n` bytes holds, after a run, the first `n` bytes of what the same run leaves
on an output that takes everything, although a program may go on in another way once it has been
refused bytes. A run whose entry came to an end is told of a refusal by its frame, and so it ends
with the fault of the sink exactly if the frame is longer than the room that the entry has left. An
empty frame fits into a full sink: it is the only one that leaves the refusals of an entry
unreported.

* `Thread.HoldsFirst` — an output that holds the first `n` bytes of another one;
* `Ending.Framed` — how an entry ends to which a frame is written.

Main results:

* `Thread.drive_offered` — the frame of a run, offered to an output with room for `n` bytes;
* `output_cut_at_limit` — the output and the result of a run on such an output.
-/

namespace Epilogue

section

variable {n : Nat} {refusal : Nat → Stop}

/-! ## The first bytes -/

/-- The output of the first thread holds the first `n` bytes of what the second one's received. -/
def Thread.HoldsFirst (n : Nat) (s t : Thread) : Prop :=
  ∃ a b, s.streams = some a ∧ t.streams = some b ∧
    a.output.finalContent = b.output.finalContent.take n

/-- In the end the one has received the first bytes of what the other has. -/
theorem Thread.HoldsFirst.finalContent {s t : Thread} (h : s.HoldsFirst n t) :
    s.output.finalContent = t.output.finalContent.take n := by
  obtain ⟨a, b, ha, hb, htake⟩ := h
  rw [Thread.output, Thread.output, ha, hb]
  exact htake

theorem Output.Limited.finalContent {c : Bytes} {o : Output} (h : o.Limited n refusal c) :
    o.finalContent = c := by
  obtain ⟨s, rfl, -, hc⟩ := h
  exact hc

namespace Coupled

variable {ε : Type} {r r' : ε × Thread}

/-- Threads that have been coupled hold the same up to the limit. -/
theorem holdsFirst (h : Coupled n refusal r r') : r.2.HoldsFirst n r'.2 := by
  cases h with
  | abreast h =>
    obtain ⟨x, o, o', hx, rfl, rfl, c, hc, ho, ho'⟩ := h
    obtain ⟨st, hst⟩ := Option.isSome_iff_exists.mp hx
    -- nothing was refused, so both hold the same and the cut comes after it
    refine ⟨{ st with output := o }, { st with output := o' }, ?_, ?_, ?_⟩
    · rw [Thread.setOutput, hst]
      rfl
    · rw [Thread.setOutput, hst]
      rfl
    · show o.finalContent = o'.finalContent.take n
      rw [ho.finalContent, Output.finalContent_of_received ho', List.take_of_length_le hc]
  | parted h =>
    obtain ⟨c, hc, ⟨a, ha, ho⟩, b, hb, c', hpre, ho'⟩ := h
    -- the first one is full, and what it holds begins what the second one holds
    refine ⟨a, b, ha, hb, ?_⟩
    rw [ho.finalContent, Output.finalContent_of_received ho', ← hc]
    exact List.prefix_iff_eq_take.mp hpre

/-- Where the outputs differ the first one is full. -/
theorem full_of_ne (h : Coupled n refusal r r')
    (hne : r.2.output.finalContent ≠ r'.2.output.finalContent) :
    n ≤ r.2.output.finalContent.length := by
  have htake := h.holdsFirst.finalContent
  rw [htake] at hne
  rw [htake, List.length_take]
  by_cases hfits : r'.2.output.finalContent.length ≤ n
  · exact absurd (List.take_of_length_le hfits) hne
  · omega

/-- The first thread has room left, or none. -/
theorem limited (h : Coupled n refusal r r') :
    ∃ c, c.length ≤ n ∧ r.2.On (Output.Limited n refusal c) := by
  cases h with
  | abreast h =>
    obtain ⟨x, o, o', hx, rfl, rfl, c, hc, ho, -⟩ := h
    obtain ⟨st, hst⟩ := Option.isSome_iff_exists.mp hx
    have hon : x.On fun _ => True := ⟨st, hst, trivial⟩
    exact ⟨c, hc, hon.setOutput ho⟩
  | parted h =>
    obtain ⟨c, hc, ho, -⟩ := h
    exact ⟨c, Nat.le_of_eq hc, ho⟩

end Coupled

/-! ## Frames -/

/-- An entry that ended by returning or by a raise, to which a frame is written. -/
def Ending.Framed : Ending → Prop
  | next | returned _ | unwound .raised => True
  | unwound _ | exited => False

/-- Only the frame of void is empty. -/
theorem Ending.Framed.of_empty_frame {e : Ending} (he : e.Framed) {printer : Printer}
    (h : (Offer.frame printer e).bytes = []) : e = .next ∨ e = .returned .void := by
  cases e with
  | next => exact .inl rfl
  | exited => exact he.elim
  | returned v =>
    cases v with
    | void => exact .inr rfl
    -- every other value is followed by a newline, whatever the printer writes for it
    | int | bool | char | eof | invalid => cases List.append_eq_nil_iff.mp h |>.2
  | unwound p =>
    cases p with
    | raised =>
      have herr : Utf8.encode errText ≠ [] := by decide
      exact absurd h herr
    | words | boxed | number => exact he.elim

namespace Thread

variable {t : Thread} {c : Bytes}

/-- If the printer returns, the frame of a value is one attempt to write after another. -/
theorem afterPrinting_done (host : Host) (v : Value) (t : Thread) (r : Attempt Output) :
    afterPrinting v (Finish.done.after host t r) = t.closeRun (.completed v.shape)
      ((r.next fun o => if v.isVoid then .done o else o.writeAll [LineBuffer.newline]).next
        Output.flush) := by
  obtain ⟨o, f⟩ := r
  cases f <;> rfl

/-- The frame of a value is offered to the output as a whole, and taken up to the limit. -/
theorem finishReturned_offered {printer : Printer} (hp : printer.Returns) (host : Host) (v : Value)
    (h : t.On (Output.Limited n refusal c)) (hc : c.length ≤ n) :
    ∃ x r, t.finishReturned host printer v = closeRun x (.completed v.shape) r ∧
      r.Offered n refusal (c ++ (Offer.frame printer (.returned v)).bytes) ∧
      x.streams.isSome = true := by
  have hpieces := Output.writePieces_offered h.output hc (v.printout printer).writes
  have hnewline (o : Output) {d : Bytes} (ho : o.Limited n refusal d) (hd : d.length ≤ n) :
      (if v.isVoid then Attempt.done o else o.writeAll [LineBuffer.newline]).Offered n refusal
        (d ++ if v.isVoid then [] else [LineBuffer.newline]) := by
    split
    · rw [List.append_nil]
      exact .done hd ho
    · exact Output.writeAll_offered ho hd [LineBuffer.newline]
  -- the pieces, the newline and the flush, each offered only if what is before it was taken
  have hline := hpieces.next fun o ho hc => hnewline o ho hc
  have hframed := hline.next fun o ho hc => Output.flush_offered ho hc
  rw [List.append_nil, List.append_assoc, ← Printout.bytes, v.printout_bytes, v.frame_bytes]
    at hframed
  refine ⟨if v = .invalid then (t.log (.entryReturned v.shape)).log .invalidRendered
    else t.log (.entryReturned v.shape), _, ?_, hframed, ?_⟩
  · rw [finishReturned, Value.write, Printout.write, Value.printout_finish hp,
      afterPrinting_done]
  · split <;> exact h.isSome

/-- And so is the frame of a raise. -/
theorem finishRaised_offered (h : t.On (Output.Limited n refusal c)) (hc : c.length ≤ n) :
    ∃ x r, t.finishRaised = closeRun x (.raised t.stash) r ∧
      r.Offered n refusal (c ++ Utf8.encode errText) ∧ x.streams.isSome = true := by
  have hl : (t.clearMessage.log (.entryRaised t.stash)).On (Output.Limited n refusal c) := h
  have hflushed := Output.flush_offered hl.output hc
  have herr := hflushed.next fun o ho hc => Output.writeAll_offered ho hc (Utf8.encode errText)
  have hframed := herr.next fun o ho hc => Output.flush_offered ho hc
  rw [List.append_nil, List.append_nil] at hframed
  exact ⟨_, _, rfl, hframed, h.isSome⟩

/-- A run offers its frame to the output that its entry left. -/
theorem drive_offered {printer : Printer} (hp : printer.Returns) (host : Host)
    {entry : Computation} {e : Ending} {t' : Thread} (hf : e.Framed)
    (he : entry (t.clearMessage.replaceHook .unwind) = (e, t'))
    (h : t'.On (Output.Limited n refusal c)) (hc : c.length ≤ n) :
    ∃ x r outcome, t.drive host printer entry = closeRun x outcome r ∧
      e.runEnd t'.stash = .finished (.ok outcome) ∧
      r.Offered n refusal (c ++ (Offer.frame printer e).bytes) ∧ x.streams.isSome = true := by
  have hh : (t'.setHook t.clearMessage.hook).On (Output.Limited n refusal c) := h
  unfold drive catching
  rw [he]
  -- a framed ending is a value or a raise
  cases e with
  | exited => exact hf.elim
  | next =>
    obtain ⟨x, r, hr, ho, hx⟩ := finishReturned_offered hp host .void hh hc
    exact ⟨x, r, _, hr, rfl, ho, hx⟩
  | returned v =>
    obtain ⟨x, r, hr, ho, hx⟩ := finishReturned_offered hp host v hh hc
    exact ⟨x, r, _, hr, rfl, ho, hx⟩
  | unwound p =>
    cases p with
    | raised =>
      obtain ⟨x, r, hr, ho, hx⟩ := finishRaised_offered hh hc
      exact ⟨x, r, _, hr, rfl, ho, hx⟩
    | words | boxed | number => exact hf.elim

/-- A run ends with the fault of its frame, or with its outcome. -/
theorem closeRun_offered {r : Attempt Output} (h : r.Offered n refusal c)
    (ht : t.streams.isSome = true) (outcome : Outcome) :
    ((∃ f, (t.closeRun outcome r).1 = .finished (.error f)) ↔ n < c.length) ∧
    (∀ f, (t.closeRun outcome r).1 = .finished (.error f) →
      f = (refusal (t.closeRun outcome r).2.output.sink.writeCalls).fault .writeStalled) ∧
    (c.length ≤ n → (t.closeRun outcome r).1 = .finished (.ok outcome)) := by
  have hout : (t.closeRun outcome r).2.output = r.state := output_setOutput r.state ht
  rw [hout]
  -- what was offered fits, or the sink has refused some of it
  by_cases hc : c.length ≤ n
  · have hok : (t.closeRun outcome r).1 = .finished (.ok outcome) := by
      rw [closeRun, h.fits hc]
    rw [hok]
    exact ⟨⟨nofun, fun hlt => absurd hc (Nat.not_le.mpr hlt)⟩, nofun, fun _ => rfl⟩
  · have hlt : n < c.length := Nat.lt_of_not_le hc
    have hbad : (t.closeRun outcome r).1 =
        .finished (.error ((refusal r.state.sink.writeCalls).fault .writeStalled)) := by
      rw [closeRun, h.refused hlt]
    rw [hbad]
    refine ⟨⟨fun _ => hlt, fun _ => ⟨_, rfl⟩⟩, ?_, fun hle => absurd hle hc⟩
    intro f hf
    cases hf
    rfl

end Thread

/-! ## Main results -/

/--
**A run on an output with room for `n` bytes.** Take an entry, a printer, an output that holds some
bytes and takes those up to the `n`-th, and an output that has received the same and takes
everything. After the run, and when its entry is over, the first output holds the first `n` bytes of
the second. If the printer returns and the entry came to an end by returning or by a raise, then the
run ends with a fault if and only if its frame is longer than the room that is left; the fault is
that of the last call of the sink; and otherwise the run is left as its entry ended. So where the
entry lost bytes and the run ends with an outcome all the same, the entry returned nothing to print.
-/
theorem output_cut_at_limit (host : Host) (printer : Printer) (entry : Block) {t : Thread}
    (ht : t.streams.isSome = true) {o o' : Output} {c : Bytes} (hc : c.length ≤ n)
    (ho : o.Limited n refusal c) (ho' : o'.Received c) :
    let left (o : Output) := entry.exec host ((t.setOutput o).clearMessage.replaceHook .unwind)
    let run (o : Output) := (t.setOutput o).drive host printer (entry.exec host)
    let room := n - (left o).2.output.finalContent.length
    let frame := (Offer.frame printer (left o).1).bytes
    (run o).2.HoldsFirst n (run o').2 ∧
    (left o).2.HoldsFirst n (left o').2 ∧
    (printer.Returns → (left o).1.Framed →
      ((∃ f, (run o).1 = .finished (.error f)) ↔ room < frame.length) ∧
      (∀ f, (run o).1 = .finished (.error f) →
        f = (refusal (run o).2.output.sink.writeCalls).fault .writeStalled) ∧
      (frame.length ≤ room → (run o).1 = (left o).1.runEnd (left o).2.stash) ∧
      ((left o).2.output.finalContent ≠ (left o').2.output.finalContent →
        ∀ outcome, (run o).1 = .finished (.ok outcome) →
          (left o).1 = .next ∨ (left o).1 = .returned .void)) := by
  intro left run room frame
  have hstart : (t.setOutput o).Abreast n refusal (t.setOutput o') :=
    ⟨t, o, o', ht, rfl, rfl, c, hc, ho, ho'⟩
  -- the entry begins abreast on both outputs, and so does the whole run
  have hleft : Coupled n refusal (left o) (left o') :=
    entry.exec_coupled host _ _ hstart.clearMessage.enterTrap
  have hrun : Coupled n refusal (run o) (run o') :=
    Thread.drive_coupled host printer hstart (entry.exec_coupled host)
  refine ⟨hrun.holdsFirst, hleft.holdsFirst, ?_⟩
  intro hp hframed
  obtain ⟨d, hd, hon⟩ := hleft.limited
  have hcontent : (left o).2.output.finalContent = d := hon.output.finalContent
  have hexec : entry.exec host ((t.setOutput o).clearMessage.replaceHook .unwind) =
      ((left o).1, (left o).2) := rfl
  -- the frame goes to what the entry has left, and the run ends by what becomes of it
  obtain ⟨x, r, outcome, hr, hend, hoffered, hx⟩ :=
    Thread.drive_offered hp host hframed hexec hon hd
  obtain ⟨hiff, hfault, hok⟩ := Thread.closeRun_offered hoffered hx outcome
  have hrun : run o = x.closeRun outcome r := hr
  have hroom : n < (d ++ frame).length ↔ room < frame.length := by
    have hr : room = n - d.length := by rw [← hcontent]
    rw [List.length_append, hr]
    omega
  rw [hrun, hend]
  refine ⟨hiff.trans hroom, hfault, fun hle => hok ?_, ?_⟩
  · exact Nat.le_of_not_lt fun hlt => absurd (hroom.mp hlt) (Nat.not_lt.mpr hle)
  · intro hlost outcome' hout
    -- bytes were lost, so the sink is full, and only an empty frame still fits
    have hfull : n ≤ d.length := by
      rw [← hcontent]
      exact hleft.full_of_ne hlost
    have hfits : ¬room < frame.length := by
      intro hlt
      obtain ⟨f, hf⟩ := (hiff.trans hroom).mpr hlt
      rw [hout] at hf
      cases hf
    have hempty : frame.length = 0 := by
      rw [← hroom, List.length_append] at hfits
      omega
    exact hframed.of_empty_frame (List.eq_nil_of_length_eq_zero hempty)

/-- An entry that writes twice and returns. -/
def twoWrites : Block :=
  .act (.write (Utf8.encode "ab")) <| .act (.write (Utf8.encode "cd")) <|
    .act (.return (.bool true)) .done

/-- Of four bytes three are taken, and the run has the fault of the sink. -/
theorem twoWrites_cut_at_three :
    let t : Thread := { Thread.fresh with streams := some .detached }
    let o : Output := .direct (.new (.limited (some (3, .fails .deviceFull)) none none) 0)
    let run := (t.setOutput o).drive .process .literal (twoWrites.exec .process)
    run.1 = .finished (.error .deviceFull) ∧
    ∃ s, run.2.streams = some s ∧ s.output.finalContent = Utf8.encode "abc" := by
  intro t o run
  have hlimit : Behaviour.TakesFirst (.limited (some (3, .fails .deviceFull)) none none) 3
      fun _ => .failed .deviceFull := Behaviour.takesFirst_limited 3 _ nofun
  have ho : o.Limited 3 (fun _ => .failed .deviceFull) [] := ⟨_, rfl, hlimit, rfl⟩
  obtain ⟨hrun, hleft, hframe⟩ := output_cut_at_limit .process .literal twoWrites (t := t) rfl
    (Nat.zero_le 3) ho Output.received_unlimited
  -- the same entry and run on an output that takes everything
  have hb : twoWrites.PrintersReturn := trivial
  have hp : Printer.literal.Returns := fun _ => rfl
  have hbegun : ((t.setOutput (.direct .unlimited)).clearMessage.replaceHook .unwind).Holding [] :=
    ⟨_, rfl, Output.received_unlimited⟩
  have hexec : twoWrites.exec .process ((t.setOutput (.direct .unlimited)).clearMessage.replaceHook
      .unwind) = (.returned (.bool true), (twoWrites.exec .process ((t.setOutput
        (.direct .unlimited)).clearMessage.replaceHook .unwind)).2) := rfl
  have hentry := (Block.steps_holding hb .process [] hbegun).congr (Progress.leave_streams _)
  obtain ⟨-, hframed⟩ := Thread.drive_frames hp .process hexec hentry
  have hwritten : (twoWrites.exec .process
      ((t.setOutput (.direct .unlimited)).clearMessage.replaceHook .unwind)).2.output.finalContent =
        Utf8.encode "abcd" :=
    Output.finalContent_of_received hentry.output
  have hall : ((t.setOutput (.direct .unlimited)).drive .process .literal
      (twoWrites.exec .process)).2.output.finalContent =
        Utf8.encode "abcd" ++ (Offer.frame .literal (.returned (.bool true))).bytes :=
    Output.finalContent_of_received hframed.output
  -- the entry has filled the sink, so there is no room for any frame
  obtain ⟨hiff, hfault, -, -⟩ := hframe hp trivial
  have hroom : 3 - (twoWrites.exec .process ((t.setOutput o).clearMessage.replaceHook
      .unwind)).2.output.finalContent.length = 0 := by
    rw [hleft.finalContent, hwritten]
    decide
  obtain ⟨f, hf⟩ := hiff.mpr <| by
    rw [hroom]
    exact List.length_pos_iff.mpr (List.append_ne_nil_of_right_ne_nil _ (List.cons_ne_nil _ _))
  refine ⟨?_, ?_⟩
  · rw [hf, hfault f hf]
    rfl
  · obtain ⟨a, b, ha, hb, htake⟩ := hrun
    refine ⟨a, ha, ?_⟩
    rw [Thread.output, hb] at hall
    rw [htake]
    exact (congrArg (List.take 3) hall).trans (by decide)

end

end Epilogue
