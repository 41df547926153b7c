import Epilogue.Proofs.Run.Transcript
import Epilogue.Proofs.Text.RoundTrip
import Epilogue.Proofs.Value.Rendered

/-!
# Epilogue — runs read back from their lines

A run with the printer of the runtime whose entry adds nothing to the output, and returns a value
other than void or raises, leaves one line: the text of the value, or `err`. No such line contains a
newline, and no two of them are alike unless they are of the same value. So the output of runs one
after another tells how many there were, which of them raised, and what the others returned.

* `Ending.LeavesLine`, `Ending.line` — the end of an entry that leaves a line, and the line;
* `Thread.runEach` — runs one after another, with the ends of their entries;
* `Thread.EachLeavesLine` — runs whose entries add nothing of their own and leave a line.

Main results:

* `Ending.line_inj` — the line of a run tells how its entry ended;
* `Thread.runEach_holding` — runs one after another leave their lines and nothing else;
* `lines_determine_runs` — runs that leave the same bytes have ended alike.
-/

namespace Epilogue

/-! ## Lines of bytes -/

namespace Utf8

/-- The byte of a newline encodes nothing but a newline. -/
theorem newline_mem_encodeChar {c : Char}
    (h : LineBuffer.newline ∈ String.utf8EncodeChar c) : c = '\n' := by
  rw [← Char.toNat_inj, toNat_of_mem_encodeChar h (by decide)]
  rfl

/-- A text within one line has no newline among its bytes. -/
theorem newline_not_mem_encode {s : String} (h : '\n' ∉ s.toList) :
    LineBuffer.newline ∉ encode s := by
  intro hmem
  obtain ⟨c, hc, hb⟩ := List.mem_flatMap.mp hmem
  rw [newline_mem_encodeChar hb] at hc
  exact h hc

theorem encode_inj {s s' : String} (h : encode s = encode s') : s = s' := by
  rw [← decodeLossy_encode s, h, decodeLossy_encode]

end Utf8

section Lines

variable {l l' : Bytes} {ls ls' : List Bytes}

/-- The first newline on either side is the end of the first line. -/
theorem first_line_inj {r r' : Bytes} (hl : LineBuffer.newline ∉ l) (hl' : LineBuffer.newline ∉ l')
    (h : l ++ LineBuffer.newline :: r = l' ++ LineBuffer.newline :: r') : l = l' ∧ r = r' := by
  induction l generalizing l' with
  | nil =>
    cases l' with
    | nil => exact ⟨rfl, (List.cons.inj h).2⟩
    | cons b' rest' => exact absurd (List.cons.inj h).1 (List.ne_of_not_mem_cons hl')
  | cons b rest ih =>
    cases l' with
    | nil => exact absurd (List.cons.inj h).1.symm (List.ne_of_not_mem_cons hl)
    | cons b' rest' =>
      obtain ⟨rfl, hrest⟩ := List.cons.inj h
      obtain ⟨rfl, hr⟩ :=
        ih (List.not_mem_of_not_mem_cons hl) (List.not_mem_of_not_mem_cons hl') hrest
      exact ⟨rfl, hr⟩

/-- Lines that are each ended by a newline, and contain none before it, are read back one by one. -/
theorem lines_inj (hls : ∀ l ∈ ls, LineBuffer.newline ∉ l)
    (hls' : ∀ l ∈ ls', LineBuffer.newline ∉ l)
    (h : ls.flatMap (· ++ [LineBuffer.newline]) = ls'.flatMap (· ++ [LineBuffer.newline])) :
    ls = ls' := by
  induction ls generalizing ls' with
  | nil =>
    cases ls' with
    | nil => rfl
    | cons l' rest' => simp at h
  | cons l rest ih =>
    cases ls' with
    | nil => simp at h
    | cons l' rest' =>
      obtain ⟨hl, hrest⟩ := List.forall_mem_cons.mp hls
      obtain ⟨hl', hrest'⟩ := List.forall_mem_cons.mp hls'
      simp only [List.flatMap_cons, List.append_assoc, List.singleton_append] at h
      -- the first lines are the same, and so is what follows them
      obtain ⟨rfl, htail⟩ := first_line_inj hl hl' h
      rw [ih hrest hrest' htail]

end Lines

/-! ## The line of a run -/

/-- What is left of a raise, without the newline. -/
def errWord : String := "err"

namespace Ending

/-- The end of an entry whose run leaves a line: a value to print was returned, or it raised. -/
def LeavesLine : Ending → Prop
  | returned v => v ≠ .void
  | unwound .raised => True
  | next | unwound _ | exited => False

/-- The line of a run, by the end of its entry. -/
def line : Ending → Bytes
  | returned v => Utf8.encode v.render
  | next | unwound _ | exited => Utf8.encode errWord

variable {e e' : Ending}

/-- The frame of such a run is its line, ended by a newline. -/
theorem LeavesLine.frame_bytes (h : e.LeavesLine) :
    (Offer.frame .literal e).bytes = e.line ++ [LineBuffer.newline] := by
  cases e with
  | returned v =>
    rw [← v.frame_bytes, v.form_literal]
    cases v with
    | void => exact absurd rfl h
    | int | bool | char | eof | invalid => rfl
  | unwound p =>
    cases p with
    | raised => decide
    | words | boxed | number => exact h.elim
  | next | exited => exact h.elim

/-- The line of a run has no newline but the one that ends it. -/
theorem newline_not_mem_line (e : Ending) : LineBuffer.newline ∉ e.line := by
  cases e with
  | returned v => exact Utf8.newline_not_mem_encode v.newline_not_mem_render
  | next | unwound | exited => exact Utf8.newline_not_mem_encode (by decide)

/-- No value is printed like a raise: its text begins like none. -/
theorem render_ne_errWord (v : Value) : v.render ≠ errWord := by
  intro h
  have hshape := Shape.ofText?_render v
  rw [h] at hshape
  cases hshape

/-- The line of a run tells how its entry ended. -/
theorem line_inj (h : e.LeavesLine) (h' : e'.LeavesLine) (hline : e.line = e'.line) : e = e' := by
  have hraised {e : Ending} (h : e.LeavesLine) :
      e = .unwound .raised ∨ ∃ v, e = .returned v := by
    cases e with
    | returned v => exact .inr ⟨v, rfl⟩
    | unwound p =>
      cases p with
      | raised => exact .inl rfl
      | words | boxed | number => exact h.elim
    | next | exited => exact h.elim
  -- no value is printed as the word of a raise
  rcases hraised h with rfl | ⟨v, rfl⟩ <;> rcases hraised h' with rfl | ⟨w, rfl⟩
  · rfl
  · exact absurd (Utf8.encode_inj hline).symm (render_ne_errWord w)
  · exact absurd (Utf8.encode_inj hline) (render_ne_errWord v)
  · rw [Value.render_inj (Utf8.encode_inj hline)]

/-- The lines of runs tell how their entries ended, one by one. -/
theorem map_line_inj {es es' : List Ending} (h : ∀ e ∈ es, e.LeavesLine)
    (h' : ∀ e ∈ es', e.LeavesLine) (hlines : es.map line = es'.map line) : es = es' := by
  induction es generalizing es' with
  | nil => exact (List.map_eq_nil_iff.mp hlines.symm).symm
  | cons e rest ih =>
    cases es' with
    | nil => cases hlines
    | cons e' rest' =>
      obtain ⟨he, hrest⟩ := List.forall_mem_cons.mp h
      obtain ⟨he', hrest'⟩ := List.forall_mem_cons.mp h'
      obtain ⟨hline, htail⟩ := List.cons.inj hlines
      rw [line_inj he he' hline, ih hrest hrest' htail]

end Ending

/-! ## Runs one after another -/

namespace Thread

variable {host : Host} {t : Thread} {c : Bytes}

/-- Makes runs one after another with the printer of the runtime: the ends of their entries, and the
thread after the last of them. -/
def runEach (host : Host) : List Block → Thread → List Ending × Thread
  | [], t => ([], t)
  | entry :: rest, t =>
    let (es, t') := runEach host rest (t.drive host .literal (entry.exec host)).2
    ((entry.exec host (t.clearMessage.replaceHook .unwind)).1 :: es, t')

/-- Runs each of whose entries leaves the bytes of the output as they are, and either returns a
value to print or raises. -/
def EachLeavesLine (host : Host) : List Block → Thread → Prop
  | [], _ => True
  | entry :: rest, t =>
    let left := entry.exec host (t.clearMessage.replaceHook .unwind)
    (left.2.output.finalContent = t.output.finalContent ∧ left.1.LeavesLine) ∧
      EachLeavesLine host rest (t.drive host .literal (entry.exec host)).2

theorem Holding.finalContent (h : t.Holding c) : t.output.finalContent = c :=
  Output.finalContent_of_received h.output

/-- A run whose entry adds nothing adds its line. -/
theorem drive_line {entry : Block} {e : Ending} {t' : Thread} (h : t.Holding c)
    (he : entry.exec host (t.clearMessage.replaceHook .unwind) = (e, t'))
    (hsame : t'.output.finalContent = t.output.finalContent) (hline : e.LeavesLine) :
    (t.drive host .literal (entry.exec host)).2.Holding
      (c ++ (e.line ++ [LineBuffer.newline])) := by
  have hbegun : (t.clearMessage.replaceHook .unwind).Receptive := ⟨c, h⟩
  have hreceptive : (entry.exec host (t.clearMessage.replaceHook .unwind)).2.Receptive :=
    (entry.steps_receptive host [] hbegun).congr (Progress.leave_streams _)
  rw [he] at hreceptive
  obtain ⟨c', hc'⟩ := hreceptive
  -- the output still takes everything, and what it holds is what it held before
  have hc : c' = c := by rw [← hc'.finalContent, hsame, h.finalContent]
  subst hc
  have hp : Printer.literal.Returns := fun _ => rfl
  have hframe := (drive_frames hp host he hc').2
  rwa [hline.frame_bytes] at hframe

/-- Such runs leave their lines in order, and nothing else. -/
theorem runEach_holding {es : List Block} (h : t.Holding c) (hes : t.EachLeavesLine host es) :
    (∀ e ∈ (t.runEach host es).1, e.LeavesLine) ∧
    (t.runEach host es).2.Holding
      (c ++ ((t.runEach host es).1.map Ending.line).flatMap (· ++ [LineBuffer.newline])) := by
  induction es generalizing t c with
  | nil =>
    refine ⟨nofun, ?_⟩
    rwa [runEach, List.map_nil, List.flatMap_nil, List.append_nil]
  | cons entry rest ih =>
    obtain ⟨⟨hsame, hline⟩, hrest⟩ := hes
    -- the first run adds its line, and the others begin behind it
    obtain ⟨hlines, hall⟩ := ih (drive_line h rfl hsame hline) hrest
    refine ⟨List.forall_mem_cons.mpr ⟨hline, hlines⟩, ?_⟩
    rw [List.append_assoc] at hall
    exact hall

theorem runEach_length (host : Host) (es : List Block) (t : Thread) :
    (t.runEach host es).1.length = es.length := by
  induction es generalizing t with
  | nil => rfl
  | cons entry rest ih => exact congrArg Nat.succ (ih _)

end Thread

/-! ## Main results -/

/--
**The output of runs tells how they ended.** Take two lists of runs, each made one after another
with the printer of the runtime on outputs that take everything and hold the same to begin with. If
no entry adds anything to its output, and each returns a value other than void or raises, and if the
two outputs hold the same bytes in the end, then there are as many runs in the one list as in the
other, and one by one they both raised or both returned the same value. No two values have the same
text.
-/
theorem lines_determine_runs (host : Host) :
    (∀ (es es' : List Block) (t t' : Thread) (c : Bytes), t.Holding c → t'.Holding c →
      t.EachLeavesLine host es → t'.EachLeavesLine host es' →
      (t.runEach host es).2.output.finalContent = (t'.runEach host es').2.output.finalContent →
      es.length = es'.length ∧ (t.runEach host es).1 = (t'.runEach host es').1) ∧
    Function.Injective Value.render := by
  refine ⟨?_, fun v w h => Value.render_inj h⟩
  intro es es' t t' c ht ht' hes hes' hsame
  obtain ⟨hlines, hheld⟩ := Thread.runEach_holding ht hes
  obtain ⟨hlines', hheld'⟩ := Thread.runEach_holding ht' hes'
  rw [hheld.finalContent, hheld'.finalContent] at hsame
  -- both outputs hold the same lines behind `c`, and the lines tell the ends
  have hnewline (es : List Ending) : ∀ l ∈ es.map Ending.line, LineBuffer.newline ∉ l := by
    intro l hl
    obtain ⟨e, -, rfl⟩ := List.mem_map.mp hl
    exact e.newline_not_mem_line
  have hmap := lines_inj (hnewline _) (hnewline _) (List.append_cancel_left hsame)
  have hends := Ending.map_line_inj hlines hlines' hmap
  refine ⟨?_, hends⟩
  rw [← Thread.runEach_length host es t, hends, Thread.runEach_length]

/-- Three entries that return, raise and return. -/
def plainTurns : List Block :=
  [.act (.return (.int 7)) .done, .act (.raise none) .done, .act (.return (.char '\n')) .done]

/-- Three entries that come to the same in other ways. -/
def otherTurns : List Block :=
  [.act (.setMessage "m") <| .act (.return (.int 7)) .done,
    .trap (.act (.raise none) .done) .done <| .act (.raise (some "m")) .done,
    .act (.install .exit "g") <| .act (.return (.char '\n')) .done]

/-- Two runs of one list and two of another leave the same bytes, so they came to the
same results. -/
theorem plainTurns_as_otherTurns :
    let t : Thread := { Thread.fresh with streams := some .detached }
    (t.runEach .process plainTurns).2.output.finalContent = Utf8.encode "7\nerr\n#\\newline\n" ∧
    plainTurns.length = otherTurns.length ∧
    (t.runEach .process plainTurns).1 = (t.runEach .process otherTurns).1 := by
  intro t
  have ht : t.Holding [] := ⟨_, rfl, Output.received_unlimited⟩
  -- none of the entries writes, so that each run adds the line of its frame and nothing else
  have hkeep (e : Block) (he : e ∈ plainTurns ++ otherTurns) (t : Thread) :
      (e.exec .process (t.clearMessage.replaceHook .unwind)).2.output.finalContent =
        t.output.finalContent := by
    simp only [plainTurns, otherTurns, List.cons_append, List.nil_append, List.mem_cons,
      List.not_mem_nil, or_false] at he
    rcases he with rfl | rfl | rfl | rfl | rfl | rfl <;> rfl
  have hplain : t.EachLeavesLine .process plainTurns :=
    ⟨⟨hkeep _ (by simp [plainTurns]) _, nofun⟩, ⟨hkeep _ (by simp [plainTurns]) _, trivial⟩,
      ⟨hkeep _ (by simp [plainTurns]) _, nofun⟩, trivial⟩
  have hother : t.EachLeavesLine .process otherTurns :=
    ⟨⟨hkeep _ (by simp [otherTurns]) _, nofun⟩, ⟨hkeep _ (by simp [otherTurns]) _, trivial⟩,
      ⟨hkeep _ (by simp [otherTurns]) _, nofun⟩, trivial⟩
  have hends : (t.runEach .process plainTurns).1 =
      [.returned (.int 7), .unwound .raised, .returned (.char '\n')] := rfl
  have hends' : (t.runEach .process otherTurns).1 =
      [.returned (.int 7), .unwound .raised, .returned (.char '\n')] := rfl
  have hlines := (Thread.runEach_holding ht hplain).2.finalContent
  have hlines' := (Thread.runEach_holding ht hother).2.finalContent
  rw [hends] at hlines
  rw [hends'] at hlines'
  refine ⟨hlines.trans ?_, (lines_determine_runs .process).1 plainTurns otherTurns t t [] ht ht
    hplain hother (hlines.trans hlines'.symm)⟩
  -- the three frames, written out
  show (Utf8.encode (Value.int 7).render ++ [LineBuffer.newline]) ++
    ((Utf8.encode errWord ++ [LineBuffer.newline]) ++
    ((Utf8.encode (Value.char '\n').render ++ [LineBuffer.newline]) ++ [])) = _
  rw [Value.render_int, ← Value.form_literal]
  decide

end Epilogue
