import Epilogue.Proofs.Stream.Acceptance

/-!
# Epilogue — outputs with room for so many bytes

A sink *takes the first `n` bytes* if every call takes some of the bytes it is offered as long as
fewer than `n` are in, none beyond the `n`-th, and if every call made after that refuses. Its
flushes do not fail. Whatever is offered to it, and however often it refuses, it holds the first `n`
bytes of what it was offered.

* `Behaviour.TakesFirst` — a behaviour that takes the first `n` bytes, with the refusals that
  follow;
* `Output.Limited` — a sink with that behaviour, with the bytes that it holds;
* `Attempt.Offered` — what comes of offering bytes to it until they are refused.

Main results:

* `Output.writeAll_offered` — a write leaves the first `n` bytes, and fails where there are more;
* `Attempt.Offered.next` — so do operations one after another, of which the first refusal is the
  last;
* `Behaviour.takesFirst_limited` — the sinks that are set up with a limit are of this kind.
-/

namespace Epilogue

/-! ## Behaviours -/

/-- The answer to a call that is stopped. -/
def Stop.answer : Stop → Answer
  | stalled => .takes 0
  | failed f => .fails f

theorem Stop.answer_eq_fails {stop : Stop} {f : FinalFault} (h : stop.answer = .fails f) :
    stop = .failed f := by
  cases stop with
  | stalled => cases h
  | failed g =>
    cases h
    rfl

theorem Stop.answer_eq_takes {stop : Stop} {k : Nat} (h : stop.answer = .takes k) :
    stop = .stalled ∧ k = 0 := by
  cases stop with
  | stalled =>
    cases h
    exact ⟨rfl, rfl⟩
  | failed f => cases h

/-- What a sink does about bytes for which there is no room. -/
def Behaviour.AtLimit.stop : Behaviour.AtLimit → Stop
  | stalls => .stalled
  | fails f => .failed f

/-- Every call takes some bytes while fewer than `n` are in, and none beyond the `n`-th. A call made
when `n` bytes are in is refused in the way given for it. No flush fails. -/
structure Behaviour.TakesFirst (b : Behaviour) (n : Nat) (refusal : Nat → Stop) : Prop where
  room : ∀ call held offered, held < n → 0 < offered →
    ∃ k, b.onWrite call held offered = .takes (k + 1) ∧ held + k < n
  full : ∀ call held offered, n ≤ held → 0 < offered →
    b.onWrite call held offered = (refusal call).answer
  flush : ∀ call, b.onFlush call = none

/-- An offer finds room or is refused. -/
theorem Behaviour.TakesFirst.answers {b : Behaviour} {n : Nat} {refusal : Nat → Stop}
    (h : b.TakesFirst n refusal) (call held : Nat) {offered : Nat} (ho : 0 < offered) :
    (∃ k, b.onWrite call held offered = .takes (k + 1) ∧ held + k < n) ∨
      n ≤ held ∧ b.onWrite call held offered = (refusal call).answer := by
  by_cases hheld : held < n
  · exact .inl (h.room call held offered hheld ho)
  · have hfull : n ≤ held := Nat.le_of_not_lt hheld
    exact .inr ⟨hfull, h.full call held offered hfull ho⟩

/-- A sink with a limit and no faults besides takes the bytes up to it, also in small chunks. -/
theorem Behaviour.takesFirst_limited (n : Nat) (atLimit : AtLimit) {chunk : Option Nat}
    (hc : chunk ≠ some 0) :
    (limited (some (n, atLimit)) chunk none).TakesFirst n fun _ => atLimit.stop where
  room call held offered hheld hoffered := by
    -- no chunk is empty, so there is at least one byte to take
    have hsize : 0 < (chunk.map (min offered)).getD offered := by
      cases chunk with
      | none => exact hoffered
      | some k =>
        have hk : k ≠ 0 := fun h => hc (by rw [h])
        show 0 < min offered k
        omega
    generalize hs : (chunk.map (min offered)).getD offered = size at hsize
    refine ⟨min size (n - held) - 1, ?_, by omega⟩
    simp only [limited, hs, if_pos hheld]
    congr
    omega
  full call held offered hheld _ := by
    have hfull : ¬held < n := Nat.not_lt.mpr hheld
    simp only [limited, if_neg hfull]
    cases atLimit with
    | stalls | fails => rfl
  flush _ := rfl

/-! ## Sinks -/

section

variable {n : Nat} {refusal : Nat → Stop}

namespace Sink

/-- A call that is refused leaves a full sink as it is. -/
theorem refused_first {s : Sink} (hs : s.content.length ≤ n) (hfull : n ≤ s.content.length)
    (b : UInt8) (rest : Bytes) {stop : Stop} (hr : stop = refusal (s.writeCalls + 1)) :
    (s.take []).behaviour = s.behaviour ∧
    (s.take []).content = (s.content ++ b :: rest).take n ∧
    ((s.content ++ b :: rest).length ≤ n ∧ some stop = none ∨
      n < (s.content ++ b :: rest).length ∧
        some stop = some (refusal (s.take []).writeCalls)) := by
  refine ⟨rfl, ?_, .inr ⟨?_, congrArg some hr⟩⟩
  · rw [take, List.append_nil, List.take_append_of_le_length hfull, List.take_of_length_le hs]
  · rw [List.length_append, List.length_cons]
    omega

/-- What comes of sending bytes to a sink with room for `n` in all: it holds the first `n` bytes,
and either all were taken or the last call was refused. -/
theorem send_first {s : Sink} (hb : s.behaviour.TakesFirst n refusal) (hs : s.content.length ≤ n)
    (bs : Bytes) :
    (s.send bs).1.behaviour = s.behaviour ∧ (s.send bs).1.content = (s.content ++ bs).take n ∧
    ((s.content ++ bs).length ≤ n ∧ (s.send bs).2.2 = none ∨
      n < (s.content ++ bs).length ∧
        (s.send bs).2.2 = some (refusal (s.send bs).1.writeCalls)) := by
  fun_induction send s bs with
  | case1 s =>
    rw [List.append_nil, List.take_of_length_le hs]
    exact ⟨rfl, rfl, .inl ⟨hs, rfl⟩⟩
  -- an interruption counts as no call, and the same bytes are offered again
  | case2 s b rest hi ih => exact ih hb hs
  -- a call that fails or takes nothing finds the sink full, as one with room takes some bytes
  | case3 s b rest hi f hf =>
    rcases hb.answers (s.writeCalls + 1) s.content.length (Nat.succ_pos rest.length) with
      ⟨k, hk, -⟩ | ⟨hfull, hstop⟩
    · rw [hk] at hf
      cases hf
    · rw [hf] at hstop
      have hr := Stop.answer_eq_fails hstop.symm
      exact refused_first hs hfull b rest hr.symm
  | case4 s b rest hi hf =>
    rcases hb.answers (s.writeCalls + 1) s.content.length (Nat.succ_pos rest.length) with
      ⟨k, hk, -⟩ | ⟨hfull, hstop⟩
    · rw [hk] at hf
      cases hf
    · rw [hf] at hstop
      have hr := (Stop.answer_eq_takes hstop.symm).1
      exact refused_first hs hfull b rest hr.symm
  -- a call that takes some bytes takes none beyond the `n`-th, and offers the others again
  | case5 s b rest hi k hf ih =>
    rcases hb.answers (s.writeCalls + 1) s.content.length (Nat.succ_pos rest.length) with
      ⟨k', hk, hroom⟩ | ⟨-, hstop⟩
    · rw [hf] at hk
      cases hk
      have hlen : (s.take (b :: rest.take k)).content.length ≤ n := by
        simp only [take, List.length_append, List.length_cons, List.length_take]
        omega
      have hall : (s.take (b :: rest.take k)).content ++ rest.drop k = s.content ++ b :: rest := by
        rw [take, List.append_assoc, List.cons_append, List.take_append_drop]
      have hrest := ih hb hlen
      rwa [hall] at hrest
    · rw [hf] at hstop
      cases (Stop.answer_eq_takes hstop.symm).2

end Sink

/-! ## Outputs -/

/-- A sink that takes the first `n` bytes and holds the given ones. -/
def Output.Limited (n : Nat) (refusal : Nat → Stop) (c : Bytes) (o : Output) : Prop :=
  ∃ s, o = .direct s ∧ s.behaviour.TakesFirst n refusal ∧ s.content = c

/-- The outcome of offering bytes to an output with room for `n` until they are refused, if they
are: it holds the first `n` of them, and the attempt fails with the last refusal where there are
more. -/
structure Attempt.Offered (n : Nat) (refusal : Nat → Stop) (c : Bytes) (r : Attempt Output) :
    Prop where
  state : r.state.Limited n refusal (c.take n)
  fits : c.length ≤ n → r.fault = none
  refused : n < c.length →
    r.fault = some ((refusal r.state.sink.writeCalls).fault .writeStalled)

namespace Attempt.Offered

variable {c bs : Bytes} {r : Attempt Output}

theorem done {o : Output} (hc : c.length ≤ n) (h : o.Limited n refusal c) :
    (Attempt.done o).Offered n refusal c := by
  refine ⟨?_, fun _ => rfl, fun hlt => absurd hlt (Nat.not_lt.mpr hc)⟩
  rwa [List.take_of_length_le hc]

/-- The second of two operations is made only if the bytes of the first were taken. -/
theorem next (h : r.Offered n refusal c) {op : Output → Attempt Output}
    (hop : ∀ o, o.Limited n refusal c → c.length ≤ n → (op o).Offered n refusal (c ++ bs)) :
    (r.next op).Offered n refusal (c ++ bs) := by
  obtain ⟨o, f⟩ := r
  by_cases hc : c.length ≤ n
  · have hf : f = none := h.fits hc
    subst hf
    have ho := h.state
    rw [List.take_of_length_le hc] at ho
    exact hop o ho hc
  · have hlt : n < c.length := Nat.lt_of_not_le hc
    have hf := h.refused hlt
    simp only at hf
    subst hf
    -- the second operation is not made, and what it would have offered is beyond the `n`-th byte
    have hmore : n < (c ++ bs).length := by
      rw [List.length_append]
      omega
    refine ⟨?_, fun hle => absurd hmore (Nat.not_lt.mpr hle), fun _ => rfl⟩
    rw [List.take_append_of_le_length (Nat.le_of_lt hlt)]
    exact h.state

end Attempt.Offered

namespace Output

variable {c : Bytes} {o : Output}

/-- A write is offered as a whole and taken up to the limit. -/
theorem writeAll_offered (h : o.Limited n refusal c) (hc : c.length ≤ n) (bs : Bytes) :
    (o.writeAll bs).Offered n refusal (c ++ bs) := by
  obtain ⟨s, rfl, hb, rfl⟩ := h
  obtain ⟨hbehaviour, hcontent, hstop⟩ := s.send_first hb hc bs
  have hs : (writeAll (.direct s) bs).state.Limited n refusal ((s.content ++ bs).take n) :=
    ⟨(s.send bs).1, rfl, by rwa [hbehaviour], hcontent⟩
  -- all of it fits, or the sink has refused the rest
  rcases hstop with ⟨hle, hnone⟩ | ⟨hlt, hsome⟩
  · refine ⟨hs, fun _ => ?_, fun hlt => absurd hlt (Nat.not_lt.mpr hle)⟩
    show (s.send bs).2.2.map _ = none
    rw [hnone]
    rfl
  · refine ⟨hs, fun hle => absurd hlt (Nat.not_lt.mpr hle), fun _ => ?_⟩
    show (s.send bs).2.2.map _ = _
    rw [hsome]
    rfl

/-- The limit is about bytes: every flush succeeds. -/
theorem flush_limited (h : o.Limited n refusal c) :
    ∃ o', o.flush = .done o' ∧ o'.Limited n refusal c := by
  obtain ⟨s, rfl, hb, rfl⟩ := h
  have hs : s.flush = .done s.flush.state := by simp only [Sink.flush, hb.flush, Attempt.done]
  refine ⟨.direct s.flush.state, ?_, s.flush.state, rfl, ?_, ?_⟩
  · show s.flush.lift direct = _
    rw [hs]
    rfl
  · simp only [Sink.flush, hb.flush, Attempt.done]
    exact hb
  · simp only [Sink.flush, hb.flush, Attempt.done]

/-- So a flush offers nothing. -/
theorem flush_offered (h : o.Limited n refusal c) (hc : c.length ≤ n) :
    o.flush.Offered n refusal (c ++ []) := by
  obtain ⟨o', ho, hl⟩ := flush_limited h
  rw [ho, List.append_nil]
  exact .done hc hl

/-- Pieces in a row are offered in a row. -/
theorem writePieces_offered (h : o.Limited n refusal c) (hc : c.length ≤ n) (pieces : List Bytes) :
    (o.writePieces pieces).Offered n refusal (c ++ pieces.flatten) := by
  -- the induction needs an attempt to begin with, and not only one that has succeeded
  have hfold (r : Attempt Output) (c : Bytes) (hr : r.Offered n refusal c) :
      (pieces.foldl (fun r bs => r.next (·.writeAll bs)) r).Offered n refusal
        (c ++ pieces.flatten) := by
    induction pieces generalizing r c with
    | nil => rwa [List.foldl_nil, List.flatten_nil, List.append_nil]
    | cons bs pieces ih =>
      rw [List.foldl_cons, List.flatten_cons, ← List.append_assoc]
      exact ih _ _ (hr.next fun o ho hc => writeAll_offered ho hc bs)
  exact hfold (.done o) c (.done hc h)

end Output

end

end Epilogue
