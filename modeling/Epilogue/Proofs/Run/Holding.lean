import Epilogue.Proofs.Run.Lasting
import Epilogue.Proofs.Stream.Acceptance

/-!
# Epilogue — programs on an output that takes everything

An output that takes everything does so after each write and each flush, and so it does after any
steps. After a single step it holds what was written, behind what was there before.

* `Thread.Holding` — a thread whose output takes everything and has received the given bytes;
* `Thread.Receptive` — a thread whose output takes everything.

Main results:

* `Act.perform_holding` — a step adds what it writes;
* `Block.steps_receptive` — an output that takes everything does so after any steps.
-/

namespace Epilogue

/-! ## Outputs that take everything -/

/-- The streams of the thread have an output that takes everything and has received the given
bytes. -/
def Thread.Holding (t : Thread) (c : Bytes) : Prop :=
  ∃ s, t.streams = some s ∧ s.output.Received c

namespace Thread

variable {t t' : Thread} {c : Bytes}

theorem Holding.on (h : t.Holding c) : t.On (·.Received c) := h

theorem Holding.congr (h : t.Holding c) (hs : t'.streams = t.streams) : t'.Holding c :=
  h.on.congr hs

theorem Holding.currentStreams (h : t.Holding c) : t.currentStreams.output.Received c :=
  h.on.currentStreams

theorem Holding.setStreams (h : t.Holding c) {s : Streams} {c' : Bytes}
    (hs : s.output.Received c') : (t.setStreams s).Holding c' :=
  h.on.setStreams (Q := (·.Received c')) hs

theorem Holding.setOutput (h : t.Holding c) {o : Output} {c' : Bytes} (ho : o.Received c') :
    (t.setOutput o).Holding c' := h.on.setOutput (Q := (·.Received c')) ho

theorem Holding.output (h : t.Holding c) : t.output.Received c := h.currentStreams

theorem Holding.isSome (h : t.Holding c) : t.streams.isSome = true := h.on.isSome

end Thread

/-! ## Steps -/

/-- The bytes that a step writes. -/
def Act.written : Act → Bytes
  | write bs => bs
  | _ => []

/-- A step adds what it writes. -/
theorem Act.perform_holding (a : Act) (host : Host) (gs : List Guard) {t : Thread} {c : Bytes}
    (h : t.Holding c) : (a.perform host gs t).thread.Holding (c ++ a.written) := by
  -- all steps but a write add nothing
  have hn {t' : Thread} (h' : t'.Holding c) : t'.Holding (c ++ []) := by rwa [List.append_nil]
  have ho := h.currentStreams
  cases a with
  | look | setMessage | clearMessage | takeMessage | panic | replaceHook | install | «return» =>
    exact hn h
  | raise m => exact hn (h.congr (Thread.raiseUnder_streams host m (t.note .raising)))
  | unwrap expected v =>
    refine hn ?_
    simp only [perform]
    split <;> exact h
  | drop name =>
    refine hn ?_
    simp only [perform]
    split <;> exact h
  | render v printer =>
    refine hn ?_
    have hs := v.renderWith_streams host printer t
    simp only [perform]
    split <;> next heq => rw [heq] at hs; exact h.congr hs
  | write bs => exact h.setStreams (Output.writeAll_succeeds ho bs).state
  | flush => exact hn (h.setStreams (Output.flush_succeeds ho).state)
  | read n => exact hn (h.setStreams (s := (t.currentStreams.read n).2) ho)
  | readLine => exact hn (h.setStreams (s := t.currentStreams.readLine.2) ho)
  | returnByte => exact hn (h.setStreams (s := (t.currentStreams.read 1).2) ho)

/-! ## Any steps -/

/-- The streams of the thread have an output that takes everything. -/
def Thread.Receptive (t : Thread) : Prop := ∃ c, t.Holding c

namespace Thread

variable {t t' : Thread}

theorem Receptive.congr (h : t.Receptive) (hs : t'.streams = t.streams) : t'.Receptive := by
  obtain ⟨c, hc⟩ := h
  exact ⟨c, hc.congr hs⟩

/-- The frame of a raise is written in full where the output takes everything. -/
theorem finishRaised_holding {c : Bytes} (h : t.Holding c) :
    t.finishRaised.1 = .finished (.ok (.raised t.stash)) ∧
    t.finishRaised.2.Holding (c ++ Utf8.encode errText) := by
  have hl : (t.clearMessage.log (.entryRaised t.stash)).Holding c := h
  obtain ⟨o, ho, hr⟩ := (((Output.flush_succeeds hl.output).next fun _ h =>
    Output.writeAll_succeeds h (Utf8.encode errText)).next fun _ => Output.flush_succeeds).exists_eq
  have hout : ((t.output.flush.next (·.writeAll (Utf8.encode errText))).next Output.flush) =
      .done o := ho
  rw [finishRaised, hout]
  exact ⟨rfl, hl.setOutput hr⟩

end Thread

/-- An output that takes everything keeps what it has received. -/
theorem Output.received_lasting (c : Bytes) :
    Output.Lasting fun o => ∃ c', c <+: c' ∧ o.Received c' where
  writeAll h bs := by
    obtain ⟨c', hc, hr⟩ := h
    exact ⟨c' ++ bs, hc.trans (List.prefix_append c' bs), (Output.writeAll_succeeds hr bs).state⟩
  flush h := by
    obtain ⟨c', hc, hr⟩ := h
    exact ⟨c', hc, (Output.flush_succeeds hr).state⟩

/-- An output that takes everything does so after any steps, however they end. -/
theorem Block.steps_receptive (b : Block) (host : Host) (gs : List Guard) {t : Thread}
    (h : t.Receptive) : (b.steps host gs t).thread.Receptive := by
  obtain ⟨c, s, hs, hc⟩ := h
  have hon : t.On fun o => ∃ c', c <+: c' ∧ o.Received c' := ⟨s, hs, c, List.prefix_refl c, hc⟩
  obtain ⟨s', hs', c', -, hc'⟩ := b.steps_lasting (Output.received_lasting c) host gs t hon
  exact ⟨c', s', hs', hc'⟩

end Epilogue
