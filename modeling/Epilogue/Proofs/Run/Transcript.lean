import Epilogue.Proofs.Run.Holding
import Epilogue.Proofs.Text.RoundTrip

/-!
# Epilogue — what a run leaves on its output

An output that takes everything holds, after a run, what was there before, then what the entry
offered in the order of execution, then the frame of the run. The entry offers the bytes of each of
its writes and, for each run that shares its streams, what the entry of that run offers and its
frame. Reads, flushes, hooks, traps, threads, and runs on streams of their own offer nothing.

* `Offer` — a write or a frame, with its bytes;
* `Block.offers` — what a block offers, in the order of execution.

Main results:

* `Thread.drive_frames` — a run adds its frame to what its entry left, and ends accordingly;
* `Block.steps_holding` — the steps of a block add what they offer, and nothing else;
* `output_of_run` — the output after a run.
-/

namespace Epilogue

/-! ## Forms -/

namespace Utf8

theorem encode_append (s s' : String) : encode (s ++ s') = encode s ++ encode s' := by
  simp only [encode, encodeChars, String.toList_append, List.flatMap_append]

/-- A text that is written piece by piece arrives as a whole. -/
theorem encode_join (pieces : List String) :
    encode (String.join pieces) = (pieces.map encode).flatten := by
  induction pieces with
  | nil => rfl
  | cons s pieces ih =>
    rw [String.join_cons, encode_append, ih, List.map_cons, List.flatten_cons]

end Utf8

/-- What is written piece by piece has the bytes of the joined text. -/
theorem Printout.bytes_ofPieces (pieces : List String) :
    (ofPieces pieces).bytes = Utf8.encode (String.join pieces) :=
  (Utf8.encode_join pieces).symm

/-- A literal is its sign and its body, however it is split into pieces. -/
theorem Printer.bytes_literal (c : Char) :
    (literal c).bytes = Utf8.encode ("#\\" ++ String.join (bodyPieces c)) := by
  rw [Utf8.encode_append, Utf8.encode_join]
  rfl

namespace Value

/-- The bytes of a value between the output of its entry and the newline: what the printer writes
for a character, the text of any other value. -/
def form (printer : Printer) : Value → Bytes
  | char c => (printer c).bytes
  | v => Utf8.encode v.render

/-- A value with a text of its own renders to that text. -/
theorem render_of_printout {v : Value} {pieces : List String}
    (h : v.printout .literal = .ofPieces pieces) : v.render = String.join pieces := by
  rw [render, h, Printout.bytes_ofPieces, Utf8.decodeLossy_encode]

/-- The text of a value that is written in one piece is that piece. -/
theorem render_of_text {v : Value} {s : String} (h : v.printout .literal = .ofText s) :
    v.render = s := by
  rw [render_of_printout h]
  exact String.empty_append

theorem bytes_of_printout {v : Value} {pieces : List String}
    (h : v.printout .literal = .ofPieces pieces) :
    (Printout.ofPieces pieces).bytes = Utf8.encode v.render := by
  rw [render_of_printout h, Printout.bytes_ofPieces]

theorem render_char (c : Char) :
    (char c).render = "#\\" ++ String.join (Printer.bodyPieces c) := by
  rw [render, printout, Printer.bytes_literal, Utf8.decodeLossy_encode]

theorem form_void (printer : Printer) : void.form printer = [] := by
  have hr : void.render = "" := Utf8.decodeLossy_encode ""
  show Utf8.encode void.render = []
  rw [hr]
  rfl

/-- The bytes that a value is written with are its form. -/
theorem printout_bytes (v : Value) (printer : Printer) :
    (v.printout printer).bytes = v.form printer := by
  cases v with
  | char c => rfl
  | void =>
    rw [form_void]
    rfl
  | bool b => cases b <;> exact bytes_of_printout rfl
  | int | eof | invalid => exact bytes_of_printout rfl

/-- With the printer of the runtime the form of a character is its text as well. -/
theorem form_literal (v : Value) : v.form .literal = Utf8.encode v.render := by
  cases v with
  | char c => rw [form, render_char, Printer.bytes_literal]
  | int | bool | eof | void | invalid => rfl

end Value

/-! ## Offers -/

/-- What can arrive at the output of an entry: a write of its own, or the frame of a run with that
printer, by how the entry of the run ended. -/
inductive Offer where
  | write (bs : Bytes)
  | frame (printer : Printer) (how : Ending)

/-- The bytes of an offer. -/
def Offer.bytes : Offer → Bytes
  | write bs => bs
  | frame _ .next | frame _ (.returned .void) => []
  | frame printer (.returned v) => v.form printer ++ [LineBuffer.newline]
  | frame _ (.unwound .raised) => Utf8.encode errText
  | frame _ (.unwound _) | frame _ .exited => []

/-- How a run is left, by how its entry ended and by the message that was stashed then. -/
def Ending.runEnd (message : Option String) : Ending → RunEnd
  | next => .finished (.ok (.completed .void))
  | returned v => .finished (.ok (.completed v.shape))
  | unwound .raised => .finished (.ok (.raised message))
  | unwound p => .unwound p
  | exited => .exited

/-- What a step offers. -/
def Act.offers : Act → List Offer
  | write bs => [.write bs]
  | _ => []

/-- What a block offers to the streams on which it starts, in the order of execution. -/
def Block.offers : Block → Host → List Guard → Thread → List Offer
  | done, _, _, _ => []
  | act a rest, host, gs, t =>
    a.offers ++
      match a.perform host gs t with
      | ⟨.next, gs, t⟩ => rest.offers host gs t
      | _ => []
  | scope body rest, host, gs, t =>
    body.offers host [] t ++
      match (body.steps host [] t).leave with
      | (.next, t) => rest.offers host gs (t.note .scopeLeft)
      | _ => []
  | trap body handler rest, host, gs, t =>
    -- what the body has written before it was left stays written
    body.offers host [] (t.replaceHook .unwind) ++
      match t.catching fun t => (body.steps host [] t).leave with
      | (.unwound .raised, t) =>
        handler.offers host [] (t.note .trapCaught) ++
          match (handler.steps host [] (t.note .trapCaught)).leave with
          | (.next, t) => rest.offers host gs t
          | _ => []
      | (.unwound _, _) | (.exited, _) => []
      | (e, t) => rest.offers host gs (t.note (.trapLeft e.value?))
  | contain body rest, host, gs, t =>
    body.offers host [] t ++
      match (body.steps host [] t).leave with
      | (.unwound p, t) => rest.offers host gs (t.note (.panicContained p))
      | (.exited, _) => []
      | (e, t) => rest.offers host gs (t.note (.containLeft e.value?))
  | spawn own body rest, host, gs, t =>
    -- a fresh thread has no streams to write to
    let (e, s) := (body.steps own [] .fresh).leave
    let t := t.join s.trace
    match e with
    | .unwound p => rest.offers host gs (t.note (.threadJoined (some p)))
    | .exited => []
    | _ => rest.offers host gs (t.note (.threadJoined none))
  | run setup entry rest, host, gs, t =>
    let begun := t.clearMessage.replaceHook .unwind
    -- a run on streams of its own offers nothing to these
    (if setup.shared then
      entry.offers host [] begun ++ [.frame setup.printer (entry.exec host begun).1]
    else []) ++
      match t.runWith host setup (entry.exec host) with
      | (.next, t) => rest.offers host gs t
      | _ => []
  | choose next, host, gs, t => (next t.sight).offers host gs t

/-- A printer that returns for every character. -/
def Printer.Returns (printer : Printer) : Prop := ∀ c, (printer c).finish = .done

/-- The runs that share the streams of the block, at whatever depth, have printers that return. -/
def Block.PrintersReturn : Block → Prop
  | done => True
  | act _ rest => rest.PrintersReturn
  | scope body rest | contain body rest => body.PrintersReturn ∧ rest.PrintersReturn
  | trap body handler rest =>
    body.PrintersReturn ∧ handler.PrintersReturn ∧ rest.PrintersReturn
  | spawn _ _ rest => rest.PrintersReturn
  | run setup entry rest =>
    (setup.shared = true → setup.printer.Returns ∧ entry.PrintersReturn) ∧ rest.PrintersReturn
  | choose next => ∀ s, (next s).PrintersReturn

/-- What a step offers is what it writes. -/
theorem Act.offers_bytes (a : Act) : a.offers.flatMap Offer.bytes = a.written := by
  cases a with
  | write bs => exact List.append_nil bs
  | _ => rfl

/-! ## Frames -/

namespace Value

/-- The frame of a value is its form and a newline, the newline unless the value is void. -/
theorem frame_bytes (v : Value) (printer : Printer) :
    v.form printer ++ (if v.isVoid then [] else [LineBuffer.newline]) =
      (Offer.frame printer (.returned v)).bytes := by
  cases v with
  | void => exact congrArg (· ++ []) (form_void printer)
  | int | bool | char | eof | invalid => rfl

/-- Only a character calls the printer. -/
theorem printout_finish {printer : Printer} (hp : printer.Returns) (v : Value) :
    (v.printout printer).finish = .done := by
  cases v with
  | char c => exact hp c
  | bool b => cases b <;> rfl
  | int | eof | void | invalid => rfl

/-- A value is printed in full if its printer returns. -/
theorem write_done {printer : Printer} (hp : printer.Returns) (host : Host) (v : Value)
    {o : Output} {c : Bytes} (h : o.Received c) (t : Thread) :
    ∃ o' t', v.write host printer o t = (.done, o', t') ∧ o'.Received (c ++ v.form printer) ∧
      t'.streams = t.streams := by
  have hf := printout_finish hp v
  obtain ⟨o', ho, hr⟩ := (Output.writePieces_succeeds h (v.printout printer).writes).exists_eq
  refine ⟨o', if v = .invalid then t.log .invalidRendered else t, ?_, ?_, ?_⟩
  · rw [write, Printout.write, ho, hf]
    rfl
  · rwa [← printout_bytes]
  · split <;> rfl

end Value

namespace Thread

variable {t t' : Thread} {c : Bytes}

/-- The frame of a value is written in full where the output takes everything and the
printer returns. -/
theorem finishReturned_frames {printer : Printer} (hp : printer.Returns) (host : Host) (v : Value)
    (h : t.Holding c) :
    (t.finishReturned host printer v).1 = .finished (.ok (.completed v.shape)) ∧
    (t.finishReturned host printer v).2.Holding
      (c ++ (Offer.frame printer (.returned v)).bytes) := by
  have hl : (t.log (.entryReturned v.shape)).Holding c := h
  obtain ⟨o, t', hw, hr, hs⟩ := v.write_done hp host hl.output (t.log (.entryReturned v.shape))
  have ht : t'.Holding c := hl.congr hs
  -- after the value comes a newline, unless the value is void, and then the flush
  have hend : (if v.isVoid then .done o else o.writeAll [LineBuffer.newline]).Succeeds
      (·.Received (c ++ (Offer.frame printer (.returned v)).bytes)) := by
    rw [← v.frame_bytes, ← List.append_assoc]
    split
    · rw [List.append_nil]
      exact .done hr
    · exact Output.writeAll_succeeds hr [LineBuffer.newline]
  obtain ⟨o', ho, hr'⟩ := (hend.next fun _ => Output.flush_succeeds).exists_eq
  have hframe : ((if v.isVoid then .done o else o.writeAll [LineBuffer.newline]).next
      Output.flush : Attempt Output) = .done o' := ho
  have hout : t.output = (t.log (.entryReturned v.shape)).output := rfl
  rw [finishReturned, hout, hw, afterPrinting, hframe]
  exact ⟨rfl, ht.setOutput hr'⟩

/-- A run adds its frame to what its entry left on the output, and ends as the entry did. -/
theorem drive_frames {printer : Printer} (hp : printer.Returns) (host : Host) {entry : Computation}
    {e : Ending} {t t' : Thread} (he : entry (t.clearMessage.replaceHook .unwind) = (e, t'))
    (h : t'.Holding c) :
    (t.drive host printer entry).1 = e.runEnd t'.stash ∧
    (t.drive host printer entry).2.Holding (c ++ (Offer.frame printer e).bytes) := by
  have hh : (t'.setHook t.clearMessage.hook).Holding c := h
  have hn {t₁ : Thread} (h' : t₁.Holding c) : t₁.Holding (c ++ []) := by rwa [List.append_nil]
  unfold drive catching
  rw [he]
  -- a foreign unwinding and the end of the process leave no frame
  cases e with
  | exited => exact ⟨rfl, hn h⟩
  | next => exact finishReturned_frames hp host .void hh
  | returned v => exact finishReturned_frames hp host v hh
  | unwound p =>
    cases p with
    | raised => exact finishRaised_holding hh
    | words | boxed | number => exact ⟨rfl, hn hh⟩

/-- What is offered first arrives first. -/
theorem Holding.append {os os' : List Offer}
    (h : t.Holding (c ++ os.flatMap Offer.bytes ++ os'.flatMap Offer.bytes)) :
    t.Holding (c ++ (os ++ os').flatMap Offer.bytes) := by
  rwa [List.flatMap_append, ← List.append_assoc]

theorem Holding.nil (h : t.Holding c) : t.Holding (c ++ [].flatMap Offer.bytes) := by
  rwa [List.flatMap_nil, List.append_nil]

/-- A run adds what its entry offers and its frame if it shares the streams, and nothing if not. -/
theorem Holding.runWith (h : t.Holding c) (host : Host) {setup : RunSetup} {entry : Computation}
    {os : List Offer} (hp : setup.shared = true → setup.printer.Returns)
    (he : setup.shared = true →
      (entry (t.clearMessage.replaceHook .unwind)).2.Holding (c ++ os.flatMap Offer.bytes)) :
    (t.runWith host setup entry).2.Holding (c ++ (if setup.shared then
      os ++ [.frame setup.printer (entry (t.clearMessage.replaceHook .unwind)).1]
      else []).flatMap Offer.bytes) := by
  cases hs : setup.shared with
  | false => exact (h.congr (runWith_own hs host entry t)).nil
  | true =>
    rcases hr : entry (t.clearMessage.replaceHook .unwind) with ⟨e, t'⟩
    have hleft := he hs
    rw [hr] at hleft
    have hframe := (drive_frames (hp hs) host hr hleft).2
    -- what is left on shared streams is there when the run is over
    have hshared := hframe.congr (runWith_shared hs h.isSome host entry)
    rw [if_pos rfl]
    refine Holding.append ?_
    rwa [List.flatMap_singleton]

end Thread

/-! ## Blocks -/

/-- The steps of a block add what they offer, and nothing else, to an output that takes everything.
By induction on the block; each case follows its steps as far as they get. -/
theorem Block.steps_holding {b : Block} (hb : b.PrintersReturn) (host : Host) (gs : List Guard)
    {t : Thread} {c : Bytes} (h : t.Holding c) :
    (b.steps host gs t).thread.Holding (c ++ (b.offers host gs t).flatMap Offer.bytes) := by
  induction b generalizing gs t c with
  | done => exact h.nil
  | act a rest ih =>
    have ha := a.perform_holding host gs h
    rw [← a.offers_bytes] at ha
    simp only [steps, offers]
    generalize a.perform host gs t = p at ha ⊢
    obtain ⟨e, gs, t⟩ := p
    cases e with
    | next => exact (ih hb gs ha).append
    | returned | unwound | exited => exact ha.nil.append
  | scope body rest ihb ihr =>
    obtain ⟨hbody, hrest⟩ := hb
    have hl := (ihb hbody [] h).congr (Progress.leave_streams _)
    simp only [steps, offers]
    generalize (body.steps host [] t).leave = r at hl ⊢
    obtain ⟨e, t'⟩ := r
    cases e with
    | next => exact (ihr hrest gs (t := t'.note .scopeLeft) hl).append
    | returned | unwound | exited => exact hl.nil.append
  | trap body handler rest ihb ihh ihr =>
    obtain ⟨hbody, hhandler, hrest⟩ := hb
    have hin : (t.replaceHook .unwind).Holding c := h
    have hl := (ihb hbody [] hin).congr <|
      (t.catching_streams fun t => (body.steps host [] t).leave).trans (Progress.leave_streams _)
    simp only [steps, offers]
    generalize t.catching (fun t => (body.steps host [] t).leave) = r at hl ⊢
    obtain ⟨e, t'⟩ := r
    cases e with
    | next | returned => exact (ihr hrest gs (t := t'.note _) hl).append
    | exited => exact hl.nil.append
    | unwound p =>
      cases p with
      | words | boxed | number => exact hl.nil.append
      | raised =>
        -- what the body offered before its raise stays, and the handler goes on behind it
        have hh := (ihh hhandler [] (t := t'.note .trapCaught) hl).congr (Progress.leave_streams _)
        refine Thread.Holding.append ?_
        simp only [afterTrap]
        generalize (handler.steps host [] (t'.note .trapCaught)).leave = r at hh ⊢
        obtain ⟨e, t₂⟩ := r
        cases e with
        | next => exact (ihr hrest gs (t := t₂) hh).append
        | returned | unwound | exited => exact hh.nil.append
  | contain body rest ihb ihr =>
    obtain ⟨hbody, hrest⟩ := hb
    have hl := (ihb hbody [] h).congr (Progress.leave_streams _)
    simp only [steps, offers]
    generalize (body.steps host [] t).leave = r at hl ⊢
    obtain ⟨e, t'⟩ := r
    cases e with
    | next | returned | unwound => exact (ihr hrest gs (t := t'.note _) hl).append
    | exited => exact hl.nil.append
  | spawn own body rest _ ihr =>
    -- what the thread writes goes to streams of its own
    simp only [steps, offers]
    generalize (body.steps own [] .fresh).leave = r
    obtain ⟨e, s⟩ := r
    have hj : (t.join s.trace).Holding c := h
    cases e with
    | next | returned | unwound => exact ihr hb gs (t := (t.join s.trace).note _) hj
    | exited => exact hj.nil
  | run setup entry rest ihe ihr =>
    obtain ⟨hentry, hrest⟩ := hb
    have hin (hs : setup.shared = true) :
        (entry.exec host (t.clearMessage.replaceHook .unwind)).2.Holding (c ++
          (entry.offers host [] (t.clearMessage.replaceHook .unwind)).flatMap Offer.bytes) :=
      (ihe (hentry hs).2 [] (t := t.clearMessage.replaceHook .unwind) h).congr
        (Progress.leave_streams _)
    have hl := h.runWith host (fun hs => (hentry hs).1) hin
    have hexec : (fun t => (entry.steps host [] t).leave) = entry.exec host := rfl
    simp only [steps, offers]
    rw [hexec]
    generalize t.runWith host setup (entry.exec host) = r at hl ⊢
    obtain ⟨e, t'⟩ := r
    cases e with
    | next => exact (ihr hrest gs hl).append
    | returned | unwound | exited => exact hl.nil.append
  | choose next ih => exact ih t.sight (hb t.sight) gs h

/-! ## Main results -/

/--
**What a run leaves on its output.** If the output takes everything and the printers return, then
after the run it holds what was there before, each write of the entry and each frame of a run within
it in the order of execution, and the frame of the run itself. The run is left as its entry ended.
With the printer of the runtime the frame of a value is its text and a newline, unless it is void.
-/
theorem output_of_run (host : Host) {printer : Printer} (hp : printer.Returns) {entry : Block}
    (hb : entry.PrintersReturn) {t : Thread} {s : Streams} (hs : t.streams = some s) {c : Bytes}
    (hc : s.output.Received c) :
    let begun := t.clearMessage.replaceHook .unwind
    let left := entry.exec host begun
    let offers := entry.offers host [] begun ++ [.frame printer left.1]
    (t.drive host printer (entry.exec host)).1 = left.1.runEnd left.2.stash ∧
    (∃ s', (t.drive host printer (entry.exec host)).2.streams = some s' ∧
      s'.output.Received (c ++ offers.flatMap Offer.bytes) ∧
      s'.output.finalContent = c ++ offers.flatMap Offer.bytes) ∧
    (∀ v : Value, v ≠ .void →
      (Offer.frame .literal (.returned v)).bytes =
        Utf8.encode v.render ++ [LineBuffer.newline]) := by
  intro begun left offers
  have hbegun : begun.Holding c := ⟨s, hs, hc⟩
  have hleft : left.2.Holding (c ++ (entry.offers host [] begun).flatMap Offer.bytes) :=
    (Block.steps_holding hb host [] hbegun).congr (Progress.leave_streams _)
  have hrun : entry.exec host begun = (left.1, left.2) := rfl
  obtain ⟨hend, hframe⟩ := Thread.drive_frames hp host hrun hleft
  refine ⟨hend, ?_, ?_⟩
  · -- the frame is one offer more behind those of the entry
    have hall : (t.drive host printer (entry.exec host)).2.Holding
        (c ++ offers.flatMap Offer.bytes) := by
      refine Thread.Holding.append ?_
      rwa [List.flatMap_singleton]
    obtain ⟨s', hs', hr⟩ := hall
    exact ⟨s', hs', hr, Output.finalContent_of_received hr⟩
  · intro v hv
    rw [← v.frame_bytes, v.form_literal]
    cases v with
    | void => exact absurd rfl hv
    | int | bool | char | eof | invalid => rfl

/-- An entry that writes, runs an entry that writes and raises, contains the panic of another, and
returns. -/
def conversation : Block :=
  .act (.write (Utf8.encode "in: ")) <|
    .run ⟨.literal, true, .detached⟩
      (.act (.write (Utf8.encode "x")) <| .act (.raise none) .done) <|
      .contain (.run ⟨.literal, true, .detached⟩ (.act (.panic (.number 1)) .done) .done) <|
        .act (.return (.bool true)) .done

/-- What was written, then the frames of the two runs, of which the second has none, then the frame
of the whole. -/
theorem output_of_conversation :
    let t : Thread := { Thread.fresh with streams := some .detached }
    ∃ s', (t.drive .process .literal (conversation.exec .process)).2.streams = some s' ∧
      s'.output.finalContent = Utf8.encode "in: xerr\n#t\n" := by
  intro t
  have hp : Printer.literal.Returns := fun _ => rfl
  have hb : conversation.PrintersReturn := by
    simp [conversation, Block.PrintersReturn, hp]
  obtain ⟨-, ⟨s', hs', -, hc⟩, hframe⟩ :=
    output_of_run .process hp hb (t := t) rfl Output.received_unlimited
  refine ⟨s', hs', hc.trans ?_⟩
  have hr : (Value.bool true).render = "#t" := Value.render_of_text rfl
  have htext : "in: xerr\n#t\n" = "in: " ++ ("x" ++ (errText ++ ("#t" ++ "\n"))) := by decide
  have hnl : Utf8.encode "\n" = [LineBuffer.newline] := by decide
  show Utf8.encode "in: " ++ (Utf8.encode "x" ++ (Utf8.encode errText ++ ([] ++
    ((Offer.frame .literal (.returned (.bool true))).bytes ++ [])))) = _
  rw [hframe (.bool true) nofun, hr, htext]
  simp only [Utf8.encode_append, hnl, List.nil_append, List.append_nil]

end Epilogue
