import Epilogue.Program
import Epilogue.Proofs.Run.Order
import Epilogue.Proofs.Run.Transcript
import Epilogue.Proofs.Text.Validity

/-!
# Epilogue — values as text and as output

A value is written in one way and used in two: a run lets the bytes go to its output and frames
them, and a program that renders a value takes them as text. Both get the same bytes, all of them or
those from before the failure of the printer, and both come to the same failure.

* `Sink.Gained` — a sink has taken some bytes and has not been flushed since;
* `Value.logged` — what is told to the log when a value is written.

Main results:

* `Output.writePieces_gained` — an output that takes everything gains the pieces that are written;
* `Value.renderWith_eq` — the text that is rendered is read of the bytes of the printout;
* `rendering_paths_agree` — what a run and what a program make of a value.
-/

namespace Epilogue

/-! ## Sinks between flushes -/

/-- A sink has taken some bytes and has not been flushed since, nor has anyone tried. -/
structure Sink.Gained (s : Sink) (bs : Bytes) (s' : Sink) : Prop where
  received : s'.Received (s.content ++ bs)
  flushes : s'.flushes = s.flushes
  flushCalls : s'.flushCalls = s.flushCalls

namespace Sink

variable {s s' : Sink}

/-- Writing makes no flush. -/
theorem send_flushes (s : Sink) (bs : Bytes) :
    (s.send bs).1.flushes = s.flushes ∧ (s.send bs).1.flushCalls = s.flushCalls := by
  fun_induction send s bs with
  | case1 => exact ⟨rfl, rfl⟩
  | case2 s b rest hi ih => exact ih
  | case3 => exact ⟨rfl, rfl⟩
  | case4 => exact ⟨rfl, rfl⟩
  | case5 s b rest hi n hf ih => exact ih

/-- A device that takes everything gains just the bytes that are written to it. -/
theorem writeAll_gained (h : s.behaviour.TakesAll) (bs : Bytes) :
    ∃ s', s.writeAll bs = .done s' ∧ s.Gained bs s' := by
  obtain ⟨s', hs, hr⟩ := send_received ⟨h, rfl⟩ bs
  have hflushes := s.send_flushes bs
  rw [hs] at hflushes
  refine ⟨s', ?_, hr, hflushes.1, hflushes.2⟩
  rw [writeAll, hs]
  rfl

theorem flush_done (h : s.behaviour.TakesAll) :
    ∃ s', s.flush = .done s' ∧ s'.content = s.content ∧
      s'.flushes = s.flushes ++ [s'.content.length] := by
  unfold flush
  simp only [h.flush]
  exact ⟨_, rfl, rfl, rfl⟩

end Sink

namespace Output

variable {s : Sink}

/-- An output that takes everything gains the pieces that are written, one after another. -/
theorem writePieces_gained (h : s.behaviour.TakesAll) (pieces : List Bytes) :
    ∃ s', (direct s).writePieces pieces = .done (direct s') ∧ s.Gained pieces.flatten s' := by
  induction pieces generalizing s with
  | nil =>
    refine ⟨s, rfl, ⟨h, ?_⟩, rfl, rfl⟩
    rw [List.flatten_nil, List.append_nil]
  | cons bs rest ih =>
    -- the first piece is taken, and the sink goes on taking everything
    obtain ⟨s₁, hwrite, hfirst⟩ := Sink.writeAll_gained h bs
    obtain ⟨s₂, hwrites, hrest⟩ := ih hfirst.received.takesAll
    refine ⟨s₂, ?_, ⟨hrest.received.takesAll, ?_⟩, ?_, ?_⟩
    · have hone : (direct s).writeAll bs = .done (direct s₁) := by
        rw [writeAll, hwrite]
        rfl
      rw [← hwrites, writePieces, List.foldl_cons, Attempt.done_next, hone]
      rfl
    · rw [hrest.received.content, hfirst.received.content, List.append_assoc, List.flatten_cons]
    · rw [hrest.flushes, hfirst.flushes]
    · rw [hrest.flushCalls, hfirst.flushCalls]

/-- A flush at the end of the pieces. -/
theorem carryOut_pieces_flush (h : s.behaviour.TakesAll) (pieces : List Bytes) :
    ∃ s', (direct s).carryOut (pieces.map .write ++ [.flush]) = .done (direct s') ∧
      s'.content = s.content ++ pieces.flatten ∧
      s'.flushes = s.flushes ++ [s'.content.length] := by
  obtain ⟨s₁, hwrites, hgained⟩ := writePieces_gained h pieces
  obtain ⟨s₂, hflush, hcontent, hflushes⟩ := Sink.flush_done hgained.received.takesAll
  refine ⟨s₂, ?_, ?_, ?_⟩
  · have hone : (direct s₁).flush = .done (direct s₂) := by
      rw [flush, hflush]
      rfl
    rw [carryOut_append, carryOut_pieces, hwrites, Attempt.done_next]
    exact hone
  · rw [hcontent, hgained.received.content]
  · rw [hflushes, hgained.flushes]

end Output

/-! ## Runs -/

namespace Thread

variable {host : Host} {printer : Printer} {v : Value} {entry : Computation} {t t' : Thread}
  {input : Bytes} {s : Sink}

/-- A run whose entry has returned a value carries out the frame of the value. -/
theorem drive_returned (hleft : t.clearMessage.catching entry = (.returned v, t'))
    (hs : t'.streams = some ⟨input, .direct s⟩) {frame : Frame}
    (hf : v.frame host printer t'.hook = frame) {r : Attempt Output}
    (hr : (Output.direct s).carryOut frame.requests = r) :
    (t.drive host printer entry).1 = frame.ending.of r ∧
    (t.drive host printer entry).2.output = r.state := by
  have ht' : t'.streams.isSome = true := by rw [hs, Option.isSome_some]
  have ho : t'.output = .direct s := by rw [output, hs, Option.getD_some]
  have hcarried := afterEntry_frame host printer ht' (.returned v)
  rw [← hleft, ← drive, ho] at hcarried
  subst hf hr
  exact hcarried

/-- If the printer gets to its end, the run adds its bytes and a newline, and flushes. -/
theorem drive_of_done (hleft : t.clearMessage.catching entry = (.returned v, t'))
    (hs : t'.streams = some ⟨input, .direct s⟩) (hall : s.behaviour.TakesAll)
    (hf : (v.printout printer).finish = .done) :
    let run := t.drive host printer entry
    run.1 = .finished (.ok (.completed v.shape)) ∧ ∃ s', run.2.output = .direct s' ∧
      s'.content = s.content ++ (v.printout printer).bytes ++
        (if v.isVoid then [] else [LineBuffer.newline]) ∧
      s'.flushes = s.flushes ++ [s'.content.length] := by
  -- the newline of the frame is one piece more
  have hframe : v.frame host printer t'.hook =
      ⟨((v.printout printer).writes ++
          if v.isVoid then [] else [[LineBuffer.newline]]).map .write ++ [.flush],
        .finished (.ok (.completed v.shape))⟩ := by
    unfold Value.frame
    rw [hf]
    cases hv : v.isVoid <;> simp [Finish.printed, Value.requestsAfter, Value.endAfter, hv]
  obtain ⟨s', hcarried, hcontent, hflushes⟩ := Output.carryOut_pieces_flush hall
    ((v.printout printer).writes ++ if v.isVoid then [] else [[LineBuffer.newline]])
  obtain ⟨hend, hout⟩ := drive_returned hleft hs hframe hcarried
  refine ⟨hend, s', hout, ?_, hflushes⟩
  rw [hcontent, List.flatten_append, List.append_assoc]
  cases v.isVoid <;> rfl

/-- If the printer fails, its bytes from before are all that the run adds, and nothing
is flushed. -/
theorem drive_of_fails {f : Fault} (hleft : t.clearMessage.catching entry = (.returned v, t'))
    (hs : t'.streams = some ⟨input, .direct s⟩) (hall : s.behaviour.TakesAll)
    (hf : (v.printout printer).finish = .fails f) :
    let run := t.drive host printer entry
    run.1 = .finished (.error f) ∧ ∃ s', run.2.output = .direct s' ∧
      s'.content = s.content ++ (v.printout printer).bytes ∧
      s'.flushes = s.flushes ∧ s'.flushCalls = s.flushCalls := by
  have hframe : v.frame host printer t'.hook =
      ⟨(v.printout printer).writes.map .write ++ [.fails f], .finished (.error f)⟩ := by
    unfold Value.frame
    rw [hf]
    rfl
  obtain ⟨s', hwrites, hgained⟩ := Output.writePieces_gained hall (v.printout printer).writes
  -- the failure is the last request, so that no flush comes behind it
  have hcarried :
      (Output.direct s).carryOut ((v.printout printer).writes.map .write ++ [.fails f]) = ⟨.direct s', some f⟩ := by
    rw [Output.carryOut_append, Output.carryOut_pieces, hwrites]
    rfl
  obtain ⟨hend, hout⟩ := drive_returned hleft hs hframe hcarried
  exact ⟨hend, s', hout, hgained.received.content, hgained.flushes, hgained.flushCalls⟩

end Thread

/-! ## Texts -/

namespace Value

/-- The thread in which a value is written. A value that no well-formed program produces
is logged. -/
def logged (v : Value) (t : Thread) : Thread := if v = .invalid then t.log .invalidRendered else t

/-- A value that is rendered is written in full, and the printing ends as the printer does. -/
theorem renderWith_eq (host : Host) (v : Value) (printer : Printer) (t : Thread) :
    ∃ o, o.sink.content = (v.printout printer).bytes ∧ v.renderWith host printer t =
      (((v.printout printer).finish.after host (v.logged t) (.done o)).1,
        Utf8.decodeLossy
          ((v.printout printer).finish.after host (v.logged t) (.done o)).2.1.sink.content,
        ((v.printout printer).finish.after host (v.logged t) (.done o)).2.2) := by
  obtain ⟨s', hwrites, hgained⟩ := Output.writePieces_gained (s := Sink.unlimited)
    Behaviour.takesAll_unlimited (v.printout printer).writes
  refine ⟨.direct s', hgained.received.content, ?_⟩
  rw [renderWith, write, Printout.write, hwrites]
  rfl

/-- A printer that comes to its end yields the text of all that it has written. -/
theorem renderWith_of_done {printer : Printer} {v : Value}
    (hf : (v.printout printer).finish = .done) (host : Host) (t : Thread) :
    v.renderWith host printer t = (.done, Utf8.decodeLossy (v.printout printer).bytes, v.logged t) := by
  obtain ⟨o, ho, hr⟩ := v.renderWith_eq host printer t
  rw [hr, hf, ← ho]
  rfl

/-- A printer that fails yields its fault, and no text. -/
theorem renderWith_of_fails {printer : Printer} {v : Value} {f : Fault}
    (hf : (v.printout printer).finish = .fails f) (host : Host) (t : Thread) :
    (v.renderWith host printer t).1 = .failed f ∧
      (v.renderWith host printer t).2.2 = v.logged t := by
  obtain ⟨o, -, hr⟩ := v.renderWith_eq host printer t
  rw [hr, hf]
  exact ⟨rfl, rfl⟩

/-- The printer is asked for characters only. -/
theorem printout_of_shape {v : Value} (h : v.shape ≠ .char) (printer printer' : Printer) :
    v.printout printer' = v.printout printer := by
  cases v with
  | char c => exact absurd rfl h
  | bool b => cases b <;> rfl
  | int | eof | void | invalid => rfl

/-- With the printer of the runtime every value is printed to its end, and its bytes are those of a
text. -/
theorem literal_done_valid (v : Value) :
    (v.printout .literal).finish = .done ∧ Utf8.Valid (v.printout .literal).bytes := by
  refine ⟨printout_finish (fun _ => rfl) v, ?_⟩
  rw [printout_bytes, form_literal]
  exact Utf8.valid_encode v.render

end Value

namespace Act

variable {printer : Printer} {v : Value} (host : Host) (gs : List Guard) (t : Thread)

/-- A program that renders a value is told its text. -/
theorem perform_render_of_done (hf : (v.printout printer).finish = .done) :
    (render v printer).perform host gs t =
      ⟨.next, gs, (v.logged t).note (.rendered (Utf8.decodeLossy (v.printout printer).bytes))⟩ := by
  rw [perform, Value.renderWith_of_done hf]

theorem perform_render_of_fails {f : Fault} (hf : (v.printout printer).finish = .fails f) :
    (render v printer).perform host gs t =
      ⟨.next, gs, (v.logged t).note (.renderFailed f)⟩ := by
  have hr := Value.renderWith_of_fails hf host t
  rw [perform]
  generalize v.renderWith host printer t = r at hr ⊢
  obtain ⟨e, text, t'⟩ := r
  obtain ⟨rfl, rfl⟩ := hr
  rfl

end Act

/-! ## Main results -/

/--
**Text and output agree.** An entry returns a value to a run whose output takes everything, and some
program renders the same value with the same printer.

* If the printer gets to its end, the run adds its bytes to the output, and a newline unless the
  value is void; what is rendered is the text that is read of the same bytes.
* If it fails, the run and the program get that failure. There is no text then, and what the run has
  added is the bytes from before, without a newline and with no flush behind them.

Encoded again, a text that is rendered gives the bytes of the value exactly if these are valid. With
the printer of the runtime they always are. For values other than characters the printer makes no
difference.
-/
theorem rendering_paths_agree (host : Host) (printer : Printer) (v : Value) {entry : Computation}
    {t t' : Thread} {input : Bytes} {s : Sink}
    (hleft : t.clearMessage.catching entry = (.returned v, t'))
    (hs : t'.streams = some ⟨input, .direct s⟩) (hall : s.behaviour.TakesAll) :
    let b := (v.printout printer).bytes
    let run := t.drive host printer entry
    let rendered := fun printer gs t₁ => (Act.render v printer).perform host gs t₁
    (match (v.printout printer).finish with
      | .done =>
        (run.1 = .finished (.ok (.completed v.shape)) ∧ ∃ s', run.2.output = .direct s' ∧
          s'.content = s.content ++ b ++ (if v.isVoid then [] else [LineBuffer.newline]) ∧
          s'.flushes = s.flushes ++ [s'.content.length]) ∧
        ∀ gs t₁, rendered printer gs t₁ =
          ⟨.next, gs, (v.logged t₁).note (.rendered (Utf8.decodeLossy b))⟩
      | .fails f =>
        (run.1 = .finished (.error f) ∧ ∃ s', run.2.output = .direct s' ∧
          s'.content = s.content ++ b ∧ s'.flushes = s.flushes ∧ s'.flushCalls = s.flushCalls) ∧
        ∀ gs t₁, rendered printer gs t₁ = ⟨.next, gs, (v.logged t₁).note (.renderFailed f)⟩
      | .panics _ | .raises _ => True) ∧
    (Utf8.encode (Utf8.decodeLossy b) = b ↔ Utf8.Valid b) ∧
    ((v.printout .literal).finish = .done ∧ Utf8.Valid (v.printout .literal).bytes) ∧
    (v.shape ≠ .char →
      ∀ printer', t.drive host printer' entry = run ∧ rendered printer' = rendered printer) := by
  intro b run rendered
  refine ⟨?_, Utf8.encode_decodeLossy_iff, v.literal_done_valid, ?_⟩
  · -- both callers are decided by how the printer ends, each in its own way
    cases hf : (v.printout printer).finish with
    | done =>
      exact ⟨Thread.drive_of_done hleft hs hall hf,
        fun gs t₁ => Act.perform_render_of_done host gs t₁ hf⟩
    | fails f =>
      exact ⟨Thread.drive_of_fails hleft hs hall hf,
        fun gs t₁ => Act.perform_render_of_fails host gs t₁ hf⟩
    | panics | raises => trivial
  · -- the printer is looked at only where a value is written
    intro hshape printer'
    have hp := Value.printout_of_shape hshape printer printer'
    have hw (o : Output) (t₁ : Thread) :
        v.write host printer' o t₁ = v.write host printer o t₁ := by
      rw [Value.write, Value.write, hp]
    constructor
    · show t.drive host printer' entry = t.drive host printer entry
      rw [Thread.drive, Thread.drive, hleft]
      show t'.finishReturned host printer' v = t'.finishReturned host printer v
      rw [Thread.finishReturned, Thread.finishReturned, hw]
    · funext gs t₁
      show (Act.render v printer').perform host gs t₁ = (Act.render v printer).perform host gs t₁
      rw [Act.perform, Act.perform, Value.renderWith, Value.renderWith, hw]

/-- A printer whose bytes are no text. -/
def torn : Printer := fun _ => ⟨[[0x23], [0xFF]], .done⟩

/-- A printer that fails behind the sign of a literal. -/
def refusing : Printer := fun _ => ⟨[Printer.sign], .fails ⟨.invalidData, some "no literal form"⟩⟩

/-- A printer that writes half a character, and one that fails behind its sign: both callers agree
on each. -/
theorem torn_and_refusing_agree :
    let entry : Computation := (Block.act (.return (.char 'q')) .done).exec .process
    let t : Thread := { Thread.fresh with streams := some .detached }
    ((t.drive .process torn entry).2.output.sink.content = [0x23, 0xFF, 0x0A] ∧
      Utf8.encode (Utf8.decodeLossy [0x23, 0xFF]) ≠ [0x23, 0xFF]) ∧
    (t.drive .process refusing entry).1 =
      .finished (.error ⟨.invalidData, some "no literal form"⟩) ∧
      (t.drive .process refusing entry).2.output.sink.content = Utf8.encode "#\\" ∧
      (t.drive .process refusing entry).2.output.sink.flushCalls = 0 := by
  intro entry t
  have hleft : t.clearMessage.catching entry =
      (.returned (.char 'q'), (t.clearMessage.catching entry).2) := rfl
  have hs : (t.clearMessage.catching entry).2.streams = some ⟨[], .direct .unlimited⟩ := rfl
  have hall : Sink.unlimited.behaviour.TakesAll := Behaviour.takesAll_unlimited
  constructor
  · -- the bytes are kept by the run, and lost to the one who renders
    obtain ⟨⟨⟨-, s', hout, hcontent, -⟩, -⟩, hvalid, -⟩ :=
      rendering_paths_agree .process torn (.char 'q') hleft hs hall
    refine ⟨?_, fun h => ?_⟩
    · rw [hout]
      exact hcontent
    · -- the second byte begins no character
      have hd := Utf8.valid_iff_decode?.mp (hvalid.mp h)
      simp [Utf8.decode?, Value.printout, torn, Printout.bytes, Utf8.pieces, Utf8.piece] at hd
  · obtain ⟨⟨⟨hend, s', hout, hcontent, -, hcalls⟩, -⟩, -⟩ :=
      rendering_paths_agree .process refusing (.char 'q') hleft hs hall
    rw [hout]
    exact ⟨hend, hcontent, hcalls⟩

end Epilogue
