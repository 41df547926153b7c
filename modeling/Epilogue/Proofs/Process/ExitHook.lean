import Epilogue.CommandLine
import Epilogue.Proofs.Run.Parallel
import Epilogue.Proofs.Run.Transcript

/-!
# Epilogue — the exit hook seen from outside

A program that puts the exit hook into the slot gets round the trap of the driver: a raise ends the
process on the spot. From outside this cannot be told from the unwinding to the driver, which
flushes what was written, frames the raise and ends the process with the same status.

* `Ending.farewell`, `Ending.status` — what a process adds to its output at the end, and its status,
  by how its entry ended.

Main results:

* `World.start_seen` — standard output and the status of a process, by how its entry ended;
* `exit_hook_unseen` — the exit hook makes no difference to either, and the commands that raise show
  the same with it, without it and without the driver.
-/

namespace Epilogue

/-! ## The end of a process -/

/-- What standard output receives after the entry: its frame, or what the exit hook writes. -/
def Ending.farewell : Ending → Bytes
  | exited => Utf8.encode errText
  | e => (Offer.frame .literal e).bytes

/-- The status of a process on an output that takes everything. -/
def Ending.status : Ending → Nat
  | next | returned _ => 0
  | unwound .raised | exited => trapExitCode
  | unwound _ => unwoundExitCode

/-- The exit hook writes `err`, and all that waited goes out. -/
theorem Output.takeLeave_received {o : Output} {c : Bytes} (h : o.Received c) :
    o.takeLeave.Received (c ++ Utf8.encode errText) :=
  (flush_succeeds (writeAll_succeeds h (Utf8.encode errText)).state).state

namespace World

variable {w : World} {f : Filter} {c : Bytes}

/-- The state in which the entry of a process begins. -/
def begun (w : World) : Thread := w.initial.clearMessage.replaceHook .unwind

/-- As the entry begins nothing has been added to what standard output had received. -/
theorem begun_holding (hw : w.stdout.behaviour.TakesAll) : w.begun.Holding w.stdout.content :=
  ⟨⟨w.input, w.output⟩, rfl, hw, List.append_nil _⟩

/-- A process ends as its run does; the exit hook frames the raise by itself. -/
theorem conclude_seen {e : Ending} {t : Thread}
    (h : t.Holding (c ++ (Offer.frame .literal e).bytes)) (nanoseconds : Nat)
    (message : Option String) :
    (w.conclude f nanoseconds (e.runEnd message) t).stdout = c ++ e.farewell ∧
    (w.conclude f nanoseconds (e.runEnd message) t).status = e.status := by
  have hout := Output.finalContent_of_received h.output
  cases e with
  | next | returned => exact ⟨hout, rfl⟩
  | unwound p => cases p <;> exact ⟨hout, rfl⟩
  | exited =>
    -- the run has framed nothing; the exit hook does it now
    have hc : t.output.Received c := by
      have ho := h.output
      rwa [show (Offer.frame .literal .exited).bytes = [] from rfl, List.append_nil] at ho
    exact ⟨Output.finalContent_of_received (Output.takeLeave_received hc), rfl⟩

/-- The log is set up with a filter exactly if its setting is not torn. -/
theorem filter_of_filter? (h : w.filter? = some f) : w.filter = .ok f := by
  unfold filter? at h
  cases hf : w.filter with
  | ok g =>
    rw [hf] at h
    rw [Option.some.inj h]
  | error tear =>
    rw [hf] at h
    cases h

theorem exists_tear (h : w.filter? = none) : ∃ tear, w.filter = .error tear := by
  unfold filter? at h
  cases hf : w.filter with
  | ok g =>
    rw [hf] at h
    cases h
  | error tear => exact ⟨tear, rfl⟩

/-- What is seen of a process is decided by how its entry ended and by what it left on
the output. -/
theorem start_seen (hf : w.filter? = some f) {entry : Computation} {e : Ending} {t : Thread}
    (he : entry w.begun = (e, t)) (h : t.Holding c) (nanoseconds : Nat) :
    (w.start entry nanoseconds).stdout = c ++ e.farewell ∧
    (w.start entry nanoseconds).status = e.status := by
  have hp : Printer.literal.Returns := fun _ => rfl
  obtain ⟨hend, hframe⟩ := Thread.drive_frames hp .process he h
  have hstart : w.start entry nanoseconds =
      w.conclude f nanoseconds (e.runEnd t.stash) (w.initial.drive .process .literal entry).2 := by
    rw [start, filter_of_filter? hf, ← hend]
    rfl
  rw [hstart]
  exact conclude_seen hframe nanoseconds t.stash

/-- Where the log cannot be set up nothing runs, and the panic is told. -/
theorem start_torn (hf : w.filter? = none) (entry : Computation) (nanoseconds : Nat) :
    ∃ tear, w.filter = .error tear ∧ w.start entry nanoseconds =
      ⟨unwoundExitCode, w.output, w.opening ++ [.alarm (.ofSetting tear)], w.files, []⟩ := by
  obtain ⟨tear, htear⟩ := exists_tear hf
  exact ⟨tear, htear, by rw [start, htear]⟩

/-- So the entry makes no difference there, nor does the time. -/
theorem start_torn_congr (hf : w.filter? = none) (entry entry' : Computation) (n n' : Nat) :
    w.start entry n = w.start entry' n' := by
  obtain ⟨tear, htear⟩ := exists_tear hf
  rw [start, start, htear]

end World

/-! ## With the exit hook and without -/

/-- The thread of a program that has put the exit hook into the slot, beside that of one that has
not. -/
theorem World.begun_alike (w : World) :
    Alike .exit w.begun ((w.begun.replaceHook .exit).note (.hookReplaced w.begun.hook)) where
  either := .inr rfl
  first := rfl
  second := rfl
  stash := rfl
  streams := rfl
  told := rfl

/-- The exit hook in the slot makes no difference to a process, be its log set up or not. -/
theorem World.start_exit_hook {entry : Block} (hentry : entry.KeepsHook) {w : World}
    (hw : w.stdout.behaviour.TakesAll) (n n' : Nat) :
    let d := w.start (entry.exec .process) n
    let d' := w.start ((Block.act (.replaceHook .exit) entry).exec .process) n'
    d.stdout = d'.stdout ∧ d.status = d'.status := by
  intro d d'
  cases hf : w.filter? with
  | none =>
    have hd : d = d' := start_torn_congr hf _ _ n n'
    rw [hd]
    exact ⟨rfl, rfl⟩
  | some f =>
    have hopen : w.begun.Receptive := ⟨_, begun_holding hw⟩
    have hleft : (entry.exec .process w.begun).2.Receptive :=
      (Block.steps_receptive entry .process [] hopen).congr (Progress.leave_streams _)
    have hp : Parallel (Ending.unwound .raised) .exited .exit (entry.exec .process w.begun)
        ((Block.act (.replaceHook .exit) entry).exec .process w.begun) :=
      (Block.steps_parallel hentry w.begun_alike).leave
    rcases hl : entry.exec .process w.begun with ⟨e, s⟩
    rcases hr : (Block.act (.replaceHook .exit) entry).exec .process w.begun with ⟨e', t⟩
    rw [hl] at hleft hp
    rw [hr] at hp
    obtain ⟨c, hc⟩ := hleft
    -- one ending, or two that add the same to the output and have the same status
    have hseen : s.streams = t.streams ∧ e.farewell = e'.farewell ∧ e.status = e'.status := by
      cases hp with
      | same _ hst => exact ⟨hst.streams, rfl, rfl⟩
      | cut _ hst => exact ⟨hst, rfl, rfl⟩
    obtain ⟨hs, hfarewell, hstatus⟩ := hseen
    obtain ⟨hout, hcode⟩ := start_seen hf hl hc n
    obtain ⟨hout', hcode'⟩ := start_seen hf hr (hc.congr hs.symm) n'
    rw [hout, hout', hcode, hcode', hfarewell, hstatus]
    exact ⟨rfl, rfl⟩

/-! ## The commands that raise -/

namespace CommandLine.RaiseOptions

variable (o : RaiseOptions)

/-- What a command that raises writes before. -/
def written : Bytes := Utf8.encode (o.text.getD "")

/-- Within the driver the entry ends in one of the two ways of a raise. -/
theorem entry_exec {t : Thread} {c : Bytes} (ht : t.hook = .unwind) (h : t.Holding c) :
    ∃ e t', o.entry.exec .process t = (e, t') ∧ t'.Holding (c ++ o.written) ∧
      e.farewell = Utf8.encode errText ∧ e.status = trapExitCode := by
  -- the raise itself, with the exit hook or without
  have hraise {t : Thread} (ht : t.hook = .unwind) :
      ∃ e t', (if o.exitHook then Block.act (.replaceHook .exit) o.raising else o.raising).exec
        .process t = (e, t') ∧ t'.streams = t.streams ∧ e.farewell = Utf8.encode errText ∧
        e.status = trapExitCode := by
    obtain ⟨hook, stash, streams, trace, told⟩ := t
    subst ht
    -- with the slot known the raise can be carried out
    unfold raising
    cases o.exitHook <;> cases o.message <;> exact ⟨_, _, rfl, rfl, rfl, rfl⟩
  unfold entry written
  cases o.text with
  | none =>
    obtain ⟨e, t', he, hs, hseen⟩ := hraise ht
    refine ⟨e, t', he, ?_, hseen⟩
    have hnil : Utf8.encode ((none : Option String).getD "") = [] := rfl
    rw [hnil, List.append_nil]
    exact h.congr hs
  | some text =>
    have hw := (Act.write (Utf8.encode text)).perform_holding .process [] h
    obtain ⟨e, t', he, hs, hseen⟩ :=
      hraise (t := ((Act.write (Utf8.encode text)).perform .process [] t).thread) ht
    exact ⟨e, t', he, hw.congr hs, hseen⟩

/-- Without the driver the text is written and flushed before the raise. -/
theorem writeText_received {output : Output} {c : Bytes} (h : output.Received c) :
    (o.writeText output).Received (c ++ o.written) := by
  unfold writeText written
  cases o.text with
  | none =>
    have hnil : Utf8.encode ((none : Option String).getD "") = [] := rfl
    rwa [hnil, List.append_nil]
  | some text =>
    exact (Output.flush_succeeds (Output.writeAll_succeeds h (Utf8.encode text)).state).state

/-- Without the driver the exit hook is the one that a fresh thread has. -/
theorem startBare_raising (w : World) (output : Output) :
    ∃ t : Thread, w.startBare (o.raising.exec .process) output =
      ⟨trapExitCode, output.takeLeave, t.alarms, w.files, t.trace⟩ := by
  unfold raising
  cases o.message with
  | none => exact ⟨_, rfl⟩
  | some m => exact ⟨_, rfl⟩

/-- A command that raises shows what it writes and `err`, whatever its options are. The log has to
be set up only where there is a driver. -/
theorem execute_raise {w : World} (hw : w.stdout.behaviour.TakesAll)
    (hf : o.noDriver = false → w.filter?.isSome = true) (nanoseconds : Nat) :
    ((Command.raise o).execute w nanoseconds).stdout =
      w.stdout.content ++ o.written ++ Utf8.encode errText ∧
    ((Command.raise o).execute w nanoseconds).status = trapExitCode := by
  cases hd : o.noDriver with
  | true =>
    -- the exit hook of the fresh thread ends the process
    have hx : (Command.raise o).execute w nanoseconds =
        w.startBare (o.raising.exec .process) (o.writeText w.output) := if_pos hd
    obtain ⟨t, ht⟩ := o.startBare_raising w (o.writeText w.output)
    have hc : w.output.Received w.stdout.content := (World.begun_holding hw).output
    have hleft := Output.takeLeave_received (o.writeText_received hc)
    rw [hx, ht]
    exact ⟨Output.finalContent_of_received hleft, rfl⟩
  | false =>
    -- the driver frames the raise, or the exit hook has ended the process before
    have hx : (Command.raise o).execute w nanoseconds =
        w.start (o.entry.exec .process) nanoseconds := if_neg (by simp [hd])
    obtain ⟨f, hf⟩ := Option.isSome_iff_exists.mp (hf hd)
    obtain ⟨e, t, he, hc, hfarewell, hstatus⟩ := o.entry_exec rfl (World.begun_holding hw)
    obtain ⟨hout, hcode⟩ := World.start_seen hf he hc nanoseconds
    rw [hx, hout, hcode, hfarewell, hstatus]
    exact ⟨rfl, rfl⟩

end CommandLine.RaiseOptions

/-! ## Main results -/

/--
**The exit hook is not seen.** On a standard output that takes everything, a program that keeps the
hook shows the same bytes and the same status as the program that first puts the exit hook into the
slot. So the commands that raise all show their text, then `err` and a newline, and status 1, with
the exit hook, without it and without the driver, if the log can be set up where there is a driver.
-/
theorem exit_hook_unseen {w : World} (hw : w.stdout.behaviour.TakesAll) (n n' : Nat) :
    (∀ entry : Block, entry.KeepsHook →
      let d := w.start (entry.exec .process) n
      let d' := w.start ((Block.act (.replaceHook .exit) entry).exec .process) n'
      d.stdout = d'.stdout ∧ d.status = d'.status) ∧
    (∀ o : CommandLine.RaiseOptions, (o.noDriver = false → w.filter?.isSome = true) →
      let d := (CommandLine.Command.raise o).execute w n
      d.stdout = w.stdout.content ++ Utf8.encode (o.text.getD "") ++ Utf8.encode errText ∧
        d.status = 1) := by
  refine ⟨?_, ?_⟩
  · intro entry hentry
    exact World.start_exit_hook hentry hw n n'
  · intro o hf
    exact o.execute_raise hw hf n

/-- An entry that writes half a line, recovers from a raise and runs an entry whose
printer raises. -/
def halfLine : Block :=
  .act (.write (Utf8.encode "half")) <|
    .trap (.act (.raise (some "inner")) .done) .done <|
      .run ⟨fun _ => ⟨[Printer.sign], .raises "from printer"⟩, true, .detached⟩
        (.act (.return (.char 'a')) .done) .done

/-- Half a line that waits in the buffer, and a run whose printer raises. -/
theorem exit_hook_unseen_halfLine :
    let w : World := ⟨⟨none, none⟩, [], .unlimited, .vacant⟩
    (w.start (halfLine.exec .process) 0).stdout =
      (w.start ((Block.act (.replaceHook .exit) halfLine).exec .process) 0).stdout ∧
    ((CommandLine.Command.raise ⟨some "text", none, false, true⟩).execute w 0).stdout =
      Utf8.encode "text" ++ Utf8.encode errText := by
  intro w
  have hk : halfLine.KeepsHook := by simp [halfLine, Block.KeepsHook, Act.KeepsHook]
  have hf : w.filter? = some Filter.warnings := World.filter?_of_default rfl
  obtain ⟨hstart, hraise⟩ := exit_hook_unseen (w := w) Behaviour.takesAll_unlimited 0 0
  refine ⟨(hstart halfLine hk).1, ?_⟩
  exact (hraise ⟨some "text", none, false, true⟩ fun _ => by rw [hf]; rfl).1

/-- An entry that looks at the slot, and writes one letter or another by what it has seen there. -/
def peeking : Block :=
  .act .look <| .choose fun s =>
    .act (.write (Utf8.encode (if s.hook = .exit then "A" else "B"))) .done

/-- A choice that goes by the current hook tells the exit hook from the unwinding to the driver. -/
theorem peeking_sees_exit_hook :
    let w : World := ⟨⟨none, none⟩, [], .unlimited, .vacant⟩
    (w.start (peeking.exec .process) 0).stdout = Utf8.encode "B" ∧
    (w.start ((Block.act (.replaceHook .exit) peeking).exec .process) 0).stdout =
      Utf8.encode "A" := by
  intro w
  have hf : w.filter? = some Filter.warnings := World.filter?_of_default rfl
  have hbegun : w.begun.Holding [] := World.begun_holding Behaviour.takesAll_unlimited
  have hwritten (text : String) {t : Thread} (h : t.Holding []) :
      ((Act.write (Utf8.encode text)).perform .process [] t).thread.Holding (Utf8.encode text) :=
    (Act.write (Utf8.encode text)).perform_holding .process [] h
  constructor
  · -- the entry begins in the trap of the driver, so it sees the unwinding hook
    have hleft := hwritten "B" (t := w.begun.note .looked) hbegun
    have he : peeking.exec .process w.begun = (.next, _) := rfl
    rw [(World.start_seen hf he hleft 0).1]
    exact List.append_nil _
  · have hleft := hwritten "A"
      (t := ((w.begun.replaceHook .exit).note (.hookReplaced w.begun.hook)).note .looked) hbegun
    have he : (Block.act (.replaceHook .exit) peeking).exec .process w.begun = (.next, _) := rfl
    rw [(World.start_seen hf he hleft 0).1]
    exact List.append_nil _

end Epilogue
