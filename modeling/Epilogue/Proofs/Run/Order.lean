import Epilogue.Proofs.Run.Indifference
import Epilogue.Proofs.Trap.Raise

/-!
# Epilogue — the order of a frame

Once its entry is over, a run asks something of its output a few times: to take some bytes, or to be
flushed. What it asks is settled by how the entry ended, and the first request that is not met ends
the run. So whatever the output does, a run that ends with an outcome leaves it flushed, and `err`
is offered only to an output that has been flushed since the entry last wrote to it.

* `Output.Flushed`, `Output.accepted` — a flush came after the last byte; the bytes so far;
* `Request`, `Output.carryOut` — what a run asks of its output, and what comes of it;
* `Ending.frame` — the requests of a run, by how its entry ended.

Main results:

* `Output.carryOut_stops` — after the first request that is not met none is made;
* `Thread.afterEntry_frame` — a run carries out the requests of its frame, and nothing else;
* `frame_in_order` — what has happened to the output at the end of a run, at `err` and at a failure.
-/

namespace Epilogue

/-! ## Flushed outputs -/

namespace Sink

/-- What has not been taken is left, and nothing is left unless a call stopped the rest. -/
theorem send_content (s : Sink) (bs : Bytes) :
    (s.send bs).1.content ++ (s.send bs).2.1 = s.content ++ bs ∧
    ((s.send bs).2.2 = none → (s.send bs).2.1 = []) := by
  fun_induction send s bs with
  | case1 s => exact ⟨rfl, fun _ => rfl⟩
  -- an interrupted call takes nothing and is made again
  | case2 s b rest hi ih => exact ih
  | case3 s b rest hi f hf =>
    rw [take, List.append_nil]
    exact ⟨rfl, nofun⟩
  | case4 s b rest hi hf =>
    rw [take, List.append_nil]
    exact ⟨rfl, nofun⟩
  | case5 s b rest hi n hf ih =>
    rwa [take, List.append_assoc, List.cons_append, List.take_append_drop] at ih

/-- All bytes so far had been taken when the last flush succeeded. -/
def Flushed (s : Sink) : Prop := s.flushes.getLast? = some s.content.length

theorem flush_content (s : Sink) : s.flush.state.content = s.content := by
  unfold flush
  dsimp only
  split <;> rfl

/-- A flush of a device that succeeds leaves nothing unflushed. -/
theorem flush_flushed {s : Sink} (h : s.flush.fault = none) : s.flush.state.Flushed := by
  unfold flush at h ⊢
  dsimp only at h ⊢
  split at h
  · cases h
  · exact List.getLast?_concat

end Sink

namespace LineBuffer

/-- Nothing waits, and the device is flushed. -/
structure Flushed (b : LineBuffer) : Prop where
  pending : b.pending = []
  device : b.device.Flushed

/-- The bytes that are in the device or wait to be sent. -/
def accepted (b : LineBuffer) : Bytes := b.device.content ++ b.pending

theorem drain_accepted (b : LineBuffer) : b.drain.state.accepted = b.accepted :=
  (b.device.send_content b.pending).1

theorem drain_pending {b : LineBuffer} (h : b.drain.fault = none) : b.drain.state.pending = [] :=
  (b.device.send_content b.pending).2 (Option.map_eq_none_iff.mp h)

/-- A flush of a buffer that succeeds has drained it, and leaves nothing unflushed. -/
theorem flush_flushed {b : LineBuffer} (h : b.flush.fault = none) : b.flush.state.Flushed := by
  have hpending := b.drain_pending
  unfold flush at h ⊢
  generalize b.drain = r at h hpending ⊢
  obtain ⟨b', f⟩ := r
  cases f with
  | some f => cases h
  | none => exact ⟨hpending rfl, Sink.flush_flushed h⟩

theorem flush_accepted (b : LineBuffer) : b.flush.state.accepted = b.accepted := by
  have hdrained := b.drain_accepted
  unfold flush
  generalize b.drain = r at hdrained ⊢
  obtain ⟨b', f⟩ := r
  cases f with
  | some f => exact hdrained
  | none => exact (congrArg (· ++ b'.pending) b'.device.flush_content).trans hdrained

end LineBuffer

namespace Output

/-- A flush has succeeded since the last byte was accepted, and nothing waits in a buffer. -/
def Flushed : Output → Prop
  | direct s => s.Flushed
  | lined b => b.Flushed

/-- The bytes that have been accepted so far. -/
def accepted : Output → Bytes
  | direct s => s.content
  | lined b => b.accepted

/-- A flush that succeeds leaves the output flushed. -/
theorem flush_flushed {o : Output} (h : o.flush.fault = none) : o.flush.state.Flushed := by
  cases o with
  | direct s => exact Sink.flush_flushed h
  | lined b => exact LineBuffer.flush_flushed h

/-- A flush accepts nothing, whether it succeeds or not. -/
theorem flush_accepted (o : Output) : o.flush.state.accepted = o.accepted := by
  cases o with
  | direct s => exact s.flush_content
  | lined b => exact b.flush_accepted

end Output

/-! ## Requests -/

/-- What a run asks of its output. -/
inductive Request where
  | write (bs : Bytes)
  | flush
  /-- the printer fails by itself, and the output is not asked -/
  | fails (f : Fault)

/-- Makes a request. -/
def Request.perform : Request → Output → Attempt Output
  | write bs, o => o.writeAll bs
  | flush, o => o.flush
  | fails f, o => ⟨o, some f⟩

namespace Output

variable {o o' : Output} {f : Fault} {request : Request} (requests requests' : List Request)

/-- Makes requests one after another until one is not met. -/
def carryOut (o : Output) (requests : List Request) : Attempt Output :=
  requests.foldl (fun r request => r.next request.perform) (.done o)

/-- Requests that are performed one by one, each after the success of the one before, are carried
out in sequence. -/
theorem foldl_perform (r : Attempt Output) :
    requests.foldl (fun r request => r.next request.perform) r = r.next (·.carryOut requests) := by
  obtain ⟨o, f⟩ := r
  cases f with
  | none => rfl
  | some f =>
    induction requests with
    | nil => rfl
    | cons request rest ih => exact ih

/-- Requests in two lots are carried out one lot after the other. -/
theorem carryOut_append (o : Output) : o.carryOut (requests ++ requests') =
    (o.carryOut requests).next (·.carryOut requests') := by
  rw [carryOut, List.foldl_append, foldl_perform requests']
  rfl

/-- After the first request that is not met none is made. -/
theorem carryOut_stops (h : o.carryOut requests = .done o') {o₁ : Output}
    (hf : request.perform o' = ⟨o₁, some f⟩) :
    o.carryOut (requests ++ request :: requests') = ⟨o₁, some f⟩ := by
  rw [carryOut_append, h, Attempt.done_next, carryOut, List.foldl_cons, Attempt.done_next, hf,
    foldl_perform, Attempt.next_of_some]

/-- Writing pieces is carrying out their requests. -/
theorem carryOut_pieces (o : Output) (pieces : List Bytes) :
    o.carryOut (pieces.map .write) = o.writePieces pieces := by
  rw [carryOut, List.foldl_map]
  rfl

/-- A flush at the end, if it is come to and succeeds, leaves the output flushed. -/
theorem carryOut_flushed (h : (o.carryOut (requests ++ [.flush])).fault = none) :
    (o.carryOut (requests ++ [.flush])).state.Flushed := by
  rw [carryOut_append] at h ⊢
  generalize o.carryOut requests = r at h ⊢
  obtain ⟨o', f⟩ := r
  cases f with
  | some f => cases h
  | none => exact flush_flushed h

end Output

/-! ## Frames -/

/-- What a run asks of its output once its entry is over, and how it ends if all of it is met. -/
structure Frame where
  requests : List Request
  ending : RunEnd

namespace Value

/-- What is asked of the output once the value has been printed. -/
def requestsAfter (v : Value) : Printed → List Request
  | .done => (if v.isVoid then [] else [.write [LineBuffer.newline]]) ++ [.flush]
  | .failed f => [.fails f]
  | .unwound _ | .exited => []

/-- How a run ends that has printed the value. -/
def endAfter (v : Value) : Printed → RunEnd
  | .done => .finished (.ok (.completed v.shape))
  | .failed f => .finished (.error f)
  | .unwound p => .unwound p
  | .exited => .exited

/-- The frame of a value, with the hook that its printer raises into. -/
def frame (host : Host) (printer : Printer) (hook : Hook) (v : Value) : Frame :=
  let printed := (v.printout printer).finish.printed host hook
  ⟨(v.printout printer).writes.map .write ++ v.requestsAfter printed, v.endAfter printed⟩

end Value

/-- The frame of a run, by the end of its entry, the hook that is back in the slot and the message
that is stashed. -/
def Ending.frame (host : Host) (printer : Printer) (hook : Hook) (message : Option String) :
    Ending → Frame
  | next => Value.void.frame host printer hook
  | returned v => v.frame host printer hook
  | unwound .raised =>
    ⟨[.flush, .write (Utf8.encode errText), .flush], .finished (.ok (.raised message))⟩
  | unwound p => ⟨[], .unwound p⟩
  | exited => ⟨[], .exited⟩

/-- A run ends with an outcome only if the last of its requests is a flush. -/
theorem Ending.frame_flushes {host : Host} {printer : Printer} {hook : Hook}
    {message : Option String} {e : Ending} {outcome : Outcome}
    (h : (e.frame host printer hook message).ending = .finished (.ok outcome)) :
    ∃ pre, (e.frame host printer hook message).requests = pre ++ [.flush] := by
  have hvalue {v : Value} (h : (v.frame host printer hook).ending = .finished (.ok outcome)) :
      ∃ pre, (v.frame host printer hook).requests = pre ++ [.flush] := by
    unfold Value.frame at h ⊢
    -- only behind a printer that returns is there an outcome
    cases hp : (v.printout printer).finish.printed host hook with
    | done => exact ⟨_, (List.append_assoc _ _ _).symm⟩
    | failed | unwound | exited =>
      rw [hp] at h
      cases h
  cases e with
  | next => exact hvalue h
  | returned v => exact hvalue h
  | exited => cases h
  | unwound p =>
    cases p with
    | raised => exact ⟨[.flush, .write (Utf8.encode errText)], rfl⟩
    | words | boxed | number => cases h

/-- The write of `err` comes after the first flush. -/
theorem Ending.before_err {host : Host} {printer : Printer} {hook : Hook} {message : Option String}
    {before after : List Request} {bs : Bytes}
    (h : ((unwound .raised).frame host printer hook message).requests =
      before ++ .write bs :: after) : before = [.flush] := by
  match before with
  | [] => cases h
  | [_] =>
    cases h
    rfl
  | [_, _] => cases h
  | _ :: _ :: _ :: _ => simp [frame] at h

/-! ## Runs carry out their frames -/

/-- The end of a run whose requests came to this. -/
def RunEnd.of (ending : RunEnd) (r : Attempt Output) : RunEnd :=
  r.fault.elim ending fun f => .finished (.error f)

namespace Thread

variable {t : Thread} (host : Host) (printer : Printer)

/-- A run that is ended has the end and the output of the attempt to frame it. -/
theorem closeRun_carries (ht : t.streams.isSome = true) (outcome : Outcome) (r : Attempt Output) :
    (t.closeRun outcome r).1 = RunEnd.of (.finished (.ok outcome)) r ∧
    (t.closeRun outcome r).2.output = r.state := by
  refine ⟨?_, output_setOutput r.state ht⟩
  obtain ⟨o, f⟩ := r
  cases f <;> rfl

/-- What follows the printing. -/
theorem afterPrinting_carries (ht : t.streams.isSome = true) (v : Value) (e : Printed)
    (o : Output) :
    let r := o.carryOut (v.requestsAfter e)
    (afterPrinting v (e, o, t)).1 = (v.endAfter e).of r ∧
    (afterPrinting v (e, o, t)).2.output = r.state := by
  cases e with
  | done =>
    have hr : o.carryOut (v.requestsAfter .done) =
        (if v.isVoid then .done o else o.writeAll [LineBuffer.newline]).next Output.flush := by
      rw [Value.requestsAfter]
      cases v.isVoid <;> rfl
    rw [hr]
    exact closeRun_carries ht (.completed v.shape) _
  | failed | unwound | exited => exact ⟨rfl, output_setOutput o ht⟩

/-- What follows the attempt to write the pieces of a value. -/
theorem afterPieces_carries (ht : t.streams.isSome = true) (v : Value) (finish : Finish)
    (r : Attempt Output) :
    let e := finish.printed host t.hook
    let r' := r.next (·.carryOut (v.requestsAfter e))
    (afterPrinting v (finish.after host t r)).1 = (v.endAfter e).of r' ∧
    (afterPrinting v (finish.after host t r)).2.output = r'.state := by
  obtain ⟨o, f⟩ := r
  cases f with
  -- a piece was refused, so the printer does not get to its end
  | some f => exact ⟨rfl, output_setOutput o ht⟩
  | none =>
    obtain ⟨he, ho⟩ := finish.after_printed host t ⟨o, none⟩
    have hs := Finish.after_streams host t finish ⟨o, none⟩
    generalize finish.after host t ⟨o, none⟩ = x at he ho hs ⊢
    obtain ⟨e, o', t'⟩ := x
    obtain rfl : e = finish.printed host t.hook := he
    obtain rfl : o' = o := ho
    have ht' : t'.streams.isSome = true := by rw [hs, ht]
    exact afterPrinting_carries ht' v (finish.printed host t.hook) o'

/-- The frame of a value is the carrying out of its requests, as far as the printer goes. -/
theorem finishReturned_carries (ht : t.streams.isSome = true) (v : Value) :
    let r := t.output.carryOut (v.frame host printer t.hook).requests
    (t.finishReturned host printer v).1 = (v.frame host printer t.hook).ending.of r ∧
    (t.finishReturned host printer v).2.output = r.state := by
  have hr : t.output.carryOut (v.frame host printer t.hook).requests =
      (t.output.writePieces (v.printout printer).writes).next
        (·.carryOut (v.requestsAfter ((v.printout printer).finish.printed host t.hook))) := by
    rw [← Output.carryOut_pieces, ← Output.carryOut_append]
    rfl
  rw [finishReturned, Value.write, Printout.write, hr]
  -- the records of the log change neither the hook nor the streams
  split
  · exact afterPieces_carries (t := (t.log _).log _) host ht v (v.printout printer).finish _
  · exact afterPieces_carries (t := t.log _) host ht v (v.printout printer).finish _

/-- A run carries out the requests of its frame, and nothing else. -/
theorem afterEntry_frame (ht : t.streams.isSome = true) (e : Ending) :
    let frame := e.frame host printer t.hook t.stash
    let r := t.output.carryOut frame.requests
    (afterEntry host printer (e, t)).1 = frame.ending.of r ∧
    (afterEntry host printer (e, t)).2.output = r.state := by
  cases e with
  | next => exact finishReturned_carries host printer ht .void
  | returned v => exact finishReturned_carries host printer ht v
  | exited => exact ⟨rfl, rfl⟩
  | unwound p =>
    cases p with
    | words | boxed | number => exact ⟨rfl, rfl⟩
    | raised =>
      have ht' : (t.clearMessage.log (.entryRaised t.stash)).streams.isSome = true := ht
      exact closeRun_carries ht' (.raised t.stash) _

end Thread

/-! ## Main results -/

/--
**The order of a frame.** Whatever the output does, and whatever the entry and the printer, a run
makes the requests of its frame on the output as its entry left it, one after another until one is
not met, and ends accordingly. So

* if the run ends with an outcome, then a flush has succeeded since the last byte was accepted;
* if the entry raised, then what the frame writes is offered to an output that has been flushed
  since the last byte that the entry got accepted, and has accepted nothing else since;
* if a request is not met, then the run ends with that fault and leaves the output as it is then.
-/
theorem frame_in_order (host : Host) (printer : Printer) (entry : Block) {t : Thread}
    (ht : t.streams.isSome = true) :
    let left := t.clearMessage.catching (entry.exec host)
    let run := t.drive host printer (entry.exec host)
    let frame := left.1.frame host printer left.2.hook left.2.stash
    let o := left.2.output
    (run.1 = frame.ending.of (o.carryOut frame.requests) ∧
      run.2.output = (o.carryOut frame.requests).state) ∧
    (∀ outcome, run.1 = .finished (.ok outcome) → run.2.output.Flushed) ∧
    (left.1 = .unwound .raised → ∀ before bs after, frame.requests = before ++ .write bs :: after →
      ∀ o₁, o.carryOut before = .done o₁ → o₁.Flushed ∧ o₁.accepted = o.accepted) ∧
    (∀ before request after, frame.requests = before ++ request :: after →
      ∀ o₁ o₂ f, o.carryOut before = .done o₁ → request.perform o₁ = ⟨o₂, some f⟩ →
        run.1 = .finished (.error f) ∧ run.2.output = o₂) := by
  intro left run frame o
  -- the entry leaves the run an output, whatever it does with it
  have hleft : left.2.streams.isSome = true := by
    obtain ⟨s, hs⟩ := Option.isSome_iff_exists.mp ht
    have hbegun : (t.clearMessage.replaceHook .unwind).On fun _ => True := ⟨s, hs, trivial⟩
    have hlasting : Output.Lasting fun _ => True := ⟨fun _ _ => trivial, fun _ => trivial⟩
    rw [Thread.catching_streams]
    exact (entry.exec_lasting hlasting host hbegun).isSome
  obtain ⟨hend, hout⟩ : run.1 = frame.ending.of (o.carryOut frame.requests) ∧
      run.2.output = (o.carryOut frame.requests).state :=
    Thread.afterEntry_frame host printer hleft left.1
  refine ⟨⟨hend, hout⟩, ?_, ?_, ?_⟩
  · -- all requests were met, and the last of them was a flush
    intro outcome hok
    rw [hok] at hend
    cases hfault : (o.carryOut frame.requests).fault with
    | some f =>
      rw [RunEnd.of, hfault] at hend
      cases hend
    | none =>
      rw [RunEnd.of, hfault] at hend
      obtain ⟨before, hbefore⟩ := Ending.frame_flushes hend.symm
      rw [hbefore] at hfault hout
      rw [hout]
      exact Output.carryOut_flushed before hfault
  · -- the only write of the frame is that of `err`, and a flush is all that stands before it
    intro hraised before bs after hreq o₁ ho₁
    have hframe : frame =
        (Ending.unwound .raised).frame host printer left.2.hook left.2.stash := by
      rw [← hraised]
    rw [hframe] at hreq
    obtain rfl := Ending.before_err hreq
    have hflush : o.flush = .done o₁ := ho₁
    have hflushed := o.flush_flushed
    have haccepted := o.flush_accepted
    rw [hflush] at hflushed haccepted
    exact ⟨hflushed rfl, haccepted⟩
  · -- what is not met ends the frame
    intro before request after hreq o₁ o₂ f ho₁ hf
    have hstop := Output.carryOut_stops before after ho₁ hf
    rw [← hreq] at hstop
    rw [hend, hout, hstop]
    exact ⟨rfl, rfl⟩

/-- An entry that writes and raises. -/
def writesAndRaises : Block :=
  .act (.write (Utf8.encode "12")) <| .act (.raise none) .done

/-- A sink whose first flush fails. -/
def flushless : Sink := .new (.limited none none (some (1, .deviceFull))) 0

/-- On a device that cannot be flushed the frame of a raise stops before its text. -/
theorem flushless_is_spared :
    let t : Thread := { Thread.fresh with streams := some ⟨[], .direct flushless⟩ }
    let run := t.drive .process .literal (writesAndRaises.exec .process)
    run.1 = .finished (.error .deviceFull) ∧ run.2.output.accepted = Utf8.encode "12" ∧
      run.2.output.sink.flushCalls = 1 := by
  intro t run
  -- the write of the entry is taken
  have hsent : flushless.writeAll (Utf8.encode "12") =
      .done (flushless.take (Utf8.encode "12")) := by
    have htext : Utf8.encode "12" = [0x31, 0x32] := by decide
    rw [htext]
    simp [Sink.writeAll, Sink.send, flushless, Sink.new, Behaviour.limited, Sink.take, Attempt.done]
  have hleft : (t.clearMessage.catching (writesAndRaises.exec .process)).2.output =
      .direct (flushless.take (Utf8.encode "12")) := by
    show (Attempt.lift (flushless.writeAll (Utf8.encode "12")) Output.direct).state = _
    rw [hsent]
    rfl
  obtain ⟨-, -, -, hfails⟩ := frame_in_order .process .literal writesAndRaises (t := t) rfl
  rw [hleft] at hfails
  obtain ⟨hend, hlast⟩ := hfails [] .flush [.write (Utf8.encode errText), .flush] rfl _ _
    .deviceFull rfl rfl
  refine ⟨hend, ?_, ?_⟩ <;> rw [hlast] <;> rfl

end Epilogue
