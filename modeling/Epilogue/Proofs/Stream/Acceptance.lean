import Epilogue.Render.Write

/-!
# Epilogue — outputs that take everything

A sink *takes everything* if each of its calls takes at least one of the bytes it is offered and no
flush fails. It may take them in as many calls as it likes and interrupt its first calls: whatever
is written to it arrives, in order, and so it does behind a line buffer, at the latest when the
program is over.

* `Behaviour.TakesAll` — a behaviour that takes everything;
* `Output.Received` — an output that takes everything, with the bytes that it has received so far.

Main results:

* `Output.writeAll_succeeds`, `Output.writePieces_succeeds` — the bytes follow those from before;
* `Output.flush_succeeds` — a flush succeeds and adds nothing;
* `Output.finalContent_of_received` — all bytes have arrived once the program is over.
-/

namespace Epilogue

/-! ## Operations that succeed -/

/-- An operation succeeds with a state as described if it comes to no fault. -/
structure Attempt.Succeeds {α : Type} (r : Attempt α) (P : α → Prop) : Prop where
  fault : r.fault = none
  state : P r.state

namespace Attempt.Succeeds

variable {α β : Type} {P : α → Prop} {Q : β → Prop}

theorem done {a : α} (h : P a) : (Attempt.done a).Succeeds P := ⟨rfl, h⟩

theorem exists_eq {r : Attempt α} (h : r.Succeeds P) : ∃ a, r = ⟨a, none⟩ ∧ P a := by
  obtain ⟨a, f⟩ := r
  obtain ⟨rfl, ha⟩ := h
  exact ⟨a, rfl, ha⟩

/-- Operations in sequence succeed if each does on what the one before has left. -/
theorem next {Q : α → Prop} {r : Attempt α} {op : α → Attempt α} (h : r.Succeeds P)
    (hop : ∀ a, P a → (op a).Succeeds Q) : (r.next op).Succeeds Q := by
  obtain ⟨a, f⟩ := r
  obtain ⟨rfl, ha⟩ := h
  rw [Attempt.next_of_none]
  exact hop a ha

theorem lift {r : Attempt α} {f : α → β} (h : r.Succeeds P) (hf : ∀ a, P a → Q (f a)) :
    (r.lift f).Succeeds Q := ⟨h.fault, hf r.state h.state⟩

theorem imp {Q : α → Prop} {r : Attempt α} (h : r.Succeeds P) (hPQ : ∀ a, P a → Q a) :
    r.Succeeds Q := ⟨h.fault, hPQ r.state h.state⟩

end Attempt.Succeeds

/-! ## Sinks -/

/-- Every call takes some of the bytes that it is offered, and no flush fails. -/
structure Behaviour.TakesAll (b : Behaviour) : Prop where
  write : ∀ call held offered, 0 < offered → ∃ n, b.onWrite call held offered = .takes (n + 1)
  flush : ∀ call, b.onFlush call = none

/-- A device without limits takes everything. -/
theorem Behaviour.takesAll_unlimited : Behaviour.unlimited.TakesAll where
  write _ _ offered h := ⟨offered - 1, by simp only [unlimited]; congr; omega⟩
  flush _ := rfl

namespace Sink

/-- A sink that takes everything and holds the given bytes. -/
structure Received (s : Sink) (c : Bytes) : Prop where
  takesAll : s.behaviour.TakesAll
  content : s.content = c

/-- Nothing is left of the bytes that are sent. -/
theorem send_received {s : Sink} {c : Bytes} (h : s.Received c) (bs : Bytes) :
    ∃ s' : Sink, s.send bs = (s', [], none) ∧ s'.Received (c ++ bs) := by
  fun_induction send s bs generalizing c with
  | case1 s => exact ⟨s, rfl, by rwa [List.append_nil]⟩
  | case2 s b rest hi ih => exact ih ⟨h.takesAll, h.content⟩
  -- a call that fails or takes nothing contradicts how the sink answers
  | case3 s b rest hi f hf =>
    obtain ⟨n, hn⟩ := h.takesAll.write (s.writeCalls + 1) s.content.length (rest.length + 1)
      (Nat.succ_pos _)
    rw [hn] at hf
    cases hf
  | case4 s b rest hi hf =>
    obtain ⟨n, hn⟩ := h.takesAll.write (s.writeCalls + 1) s.content.length (rest.length + 1)
      (Nat.succ_pos _)
    rw [hn] at hf
    cases hf
  | case5 s b rest hi n hf ih =>
    have hs : (s.take (b :: rest.take n)).Received (c ++ b :: rest.take n) :=
      ⟨h.takesAll, by rw [take, h.content]⟩
    have hr := ih hs
    rwa [List.append_assoc, List.cons_append, List.take_append_drop] at hr

/-- A device that takes everything takes all of a write, in as many calls as it likes. -/
theorem writeAll_succeeds {s : Sink} {c : Bytes} (h : s.Received c) (bs : Bytes) :
    (s.writeAll bs).Succeeds (·.Received (c ++ bs)) := by
  obtain ⟨s', hs, hr⟩ := send_received h bs
  rw [writeAll, hs]
  exact ⟨rfl, hr⟩

/-- A flush of such a device succeeds and adds nothing. -/
theorem flush_succeeds {s : Sink} {c : Bytes} (h : s.Received c) :
    s.flush.Succeeds (·.Received c) := by
  unfold flush
  simp only [h.takesAll.flush]
  exact .done ⟨h.takesAll, h.content⟩

theorem received_unlimited : unlimited.Received [] := ⟨Behaviour.takesAll_unlimited, rfl⟩

end Sink

/-! ## Line buffers -/

namespace LineBuffer

/-- A line buffer before a device that takes everything, with the bytes that are in the device or
wait to be sent. -/
structure Received (b : LineBuffer) (c : Bytes) : Prop where
  takesAll : b.device.behaviour.TakesAll
  content : b.device.content ++ b.pending = c

/-- Splitting after the last newline loses nothing. -/
theorem splitLines_append (bs : Bytes) : (splitLines bs).1 ++ (splitLines bs).2 = bs := by
  have hsuffix : (bs.reverse.takeWhile (· != newline)).reverse <:+ bs := by
    rw [← List.reverse_prefix, List.reverse_reverse]
    exact List.takeWhile_prefix _
  simp only [splitLines]
  generalize (bs.reverse.takeWhile (· != newline)).reverse = tail at hsuffix ⊢
  -- what is in front of the tail is as long as the rest
  obtain ⟨front, rfl⟩ := hsuffix
  have hlength : (front ++ tail).length - tail.length = front.length := by
    rw [List.length_append, Nat.add_sub_cancel]
  rw [hlength, List.take_left]

/-- After a drain nothing waits. -/
theorem drain_succeeds {b : LineBuffer} {c : Bytes} (h : b.Received c) :
    b.drain.Succeeds fun b => b.Received c ∧ b.pending = [] := by
  obtain ⟨d, hd, hr⟩ := Sink.send_received ⟨h.takesAll, rfl⟩ b.pending
  rw [drain, hd]
  refine ⟨rfl, ⟨hr.takesAll, ?_⟩, rfl⟩
  rw [List.append_nil, hr.content, h.content]

/-- Bytes that go past an empty buffer. -/
theorem writePast_succeeds {b : LineBuffer} {c : Bytes} (h : b.Received c)
    (he : b.pending = []) (bs : Bytes) :
    ((b.device.writeAll bs).lift fun d => { b with device := d }).Succeeds
      fun b => b.Received (c ++ bs) ∧ b.pending = [] := by
  refine (Sink.writeAll_succeeds ⟨h.takesAll, rfl⟩ bs).lift fun d hd => ⟨⟨hd.takesAll, ?_⟩, he⟩
  rw [hd.content, he, List.append_nil, ← h.content, he, List.append_nil]

/-- What waits in the buffer counts as received, and it goes out before the buffer is overrun. -/
theorem append_succeeds {b : LineBuffer} {c : Bytes} (h : b.Received c) (bs : Bytes) :
    (b.append bs).Succeeds (·.Received (c ++ bs)) := by
  -- bytes that would fill the buffer alone find it empty, since there was no room for them
  have hready : (if b.room < bs.length then b.drain else .done b).Succeeds
      fun b => b.Received c ∧ (capacity ≤ bs.length → b.pending = []) := by
    split
    · exact (drain_succeeds h).imp fun b hb => ⟨hb.1, fun _ => hb.2⟩
    · next hroom =>
      refine .done ⟨h, fun hcap => ?_⟩
      rw [← List.length_eq_zero_iff]
      unfold room capacity at *
      omega
  unfold append
  refine hready.next fun b hb => ?_
  split
  · next hcap => exact (writePast_succeeds hb.1 (hb.2 hcap) bs).imp fun _ h => h.1
  · refine .done ⟨hb.1.takesAll, ?_⟩
    rw [← List.append_assoc, hb.1.content]

/-- A buffer that ends with a newline is emptied into a device that takes everything. -/
theorem drainLine_succeeds {b : LineBuffer} {c : Bytes} (h : b.Received c) :
    b.drainLine.Succeeds (·.Received c) := by
  unfold drainLine
  split
  · exact (drain_succeeds h).imp fun _ h => h.1
  · exact .done h

/-- A buffer before such a device takes all of a write: some of it goes through, the rest waits. -/
theorem writeAll_succeeds {b : LineBuffer} {c : Bytes} (h : b.Received c) (bs : Bytes) :
    (b.writeAll bs).Succeeds (·.Received (c ++ bs)) := by
  have hsplit := splitLines_append bs
  unfold writeAll
  split
  · -- no line is complete, so all of it waits behind what was there
    next tail heq =>
    rw [heq, List.nil_append] at hsplit
    rw [← hsplit]
    exact (drainLine_succeeds h).next fun b hb => append_succeeds hb tail
  · -- the complete lines go out first, past the buffer if nothing waits in it
    next lines tail _ heq =>
    rw [heq] at hsplit
    rw [← hsplit, ← List.append_assoc]
    refine Attempt.Succeeds.next (P := (·.Received (c ++ lines))) ?_
      fun b hb => append_succeeds hb tail
    split
    · next he =>
      exact (writePast_succeeds h (List.isEmpty_iff.mp he) lines).imp fun _ h => h.1
    · exact (append_succeeds h lines).next fun b hb => (drain_succeeds hb).imp fun _ h => h.1

/-- A flush of the buffer sends out what waits, and nothing is lost or added. -/
theorem flush_succeeds {b : LineBuffer} {c : Bytes} (h : b.Received c) :
    b.flush.Succeeds (·.Received c) := by
  refine (drain_succeeds h).next fun b hb => ?_
  refine (Sink.flush_succeeds ⟨hb.1.takesAll, rfl⟩).lift fun d hd => ⟨hd.takesAll, ?_⟩
  rw [hd.content, hb.1.content]

/-- What waits is sent when the program is over. -/
theorem finalContent_of_received {b : LineBuffer} {c : Bytes} (h : b.Received c) :
    b.finalContent = c := by
  obtain ⟨-, hd, he⟩ := drain_succeeds h
  have hc := hd.content
  rwa [he, List.append_nil] at hc

end LineBuffer

/-! ## Outputs -/

namespace Output

/-- An output that takes everything, with the bytes that it has received so far. -/
def Received (o : Output) (c : Bytes) : Prop :=
  match o with
  | direct s => s.Received c
  | lined b => b.Received c

/-- With or without a buffer all of a write is received. -/
theorem writeAll_succeeds {o : Output} {c : Bytes} (h : o.Received c) (bs : Bytes) :
    (o.writeAll bs).Succeeds (·.Received (c ++ bs)) := by
  cases o with
  | direct s => exact (Sink.writeAll_succeeds h bs).lift fun _ h => h
  | lined b => exact (LineBuffer.writeAll_succeeds h bs).lift fun _ h => h

theorem flush_succeeds {o : Output} {c : Bytes} (h : o.Received c) :
    o.flush.Succeeds (·.Received c) := by
  cases o with
  | direct s => exact (Sink.flush_succeeds h).lift fun _ h => h
  | lined b => exact (LineBuffer.flush_succeeds h).lift fun _ h => h

/-- What has been received is all there is in the end, what waits included. -/
theorem finalContent_of_received {o : Output} {c : Bytes} (h : o.Received c) :
    o.finalContent = c := by
  cases o with
  | direct s => exact h.content
  | lined b => exact LineBuffer.finalContent_of_received h

/-- The pieces that are left, after whatever came of those before. -/
theorem foldl_writeAll_succeeds {r : Attempt Output} {c : Bytes} (h : r.Succeeds (·.Received c))
    (pieces : List Bytes) :
    (pieces.foldl (fun r bs => r.next (·.writeAll bs)) r).Succeeds
      (·.Received (c ++ pieces.flatten)) := by
  induction pieces generalizing r c with
  | nil => rwa [List.foldl_nil, List.flatten_nil, List.append_nil]
  | cons bs pieces ih =>
    rw [List.foldl_cons, List.flatten_cons, ← List.append_assoc]
    exact ih (h.next fun o ho => writeAll_succeeds ho bs)

/-- Pieces in a row are taken in a row. -/
theorem writePieces_succeeds {o : Output} {c : Bytes} (h : o.Received c) (pieces : List Bytes) :
    (o.writePieces pieces).Succeeds (·.Received (c ++ pieces.flatten)) :=
  foldl_writeAll_succeeds (.done h) pieces

/-- The output of a program that runs outside any entry. -/
theorem received_unlimited : (direct .unlimited).Received [] := Sink.received_unlimited

end Output

end Epilogue
