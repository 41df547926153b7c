import Epilogue.Proofs.Process.Account
import Epilogue.Proofs.Run.Order

/-!
# Epilogue — what becomes of a report

A report that was asked for comes whole to one place if it can: all of it is told on standard error,
or all of it is what the file holds that was asked for, with nothing left of what that file held
before. A file that cannot be opened is made up for, since the report is then told. A file that is
opened and then takes only the front of the report is not: the rest is lost, and nobody is told. In
no case is a report, or a part of it, in both places, and nothing of it goes to standard output.

The files here are apart from the streams of the process; a path that leads to one of these is not a
file.

* `Destination.Delivered` — a text has come whole to one place;
* `Destination.Fits` — the file that was asked for has room for a text, if it is opened;
* `Destination.Cut` — a file holds the front of a text, and nothing is told;
* `World.Sends` — a process that comes to the end of its run and sends a report of it.

Main results:

* `Sink.new_writeAll` — a device that answers each call in its own way keeps the front of what is
  written to it, and all of it if no call fails;
* `Emission.Carries.delivered_iff`, `Emission.Carries.cut_iff` — a text that is sent is delivered if
  it fits, and cut if it does not;
* `report_in_one_place` — what becomes of a report, and of a process that sends it.
-/

namespace Epilogue

/-! ## Devices -/

namespace Sink

/-- A call that stops the rest leaves something. -/
theorem send_left (s : Sink) (bs : Bytes) (h : (s.send bs).2.2 ≠ none) : (s.send bs).2.1 ≠ [] := by
  fun_induction send s bs with
  | case1 s => exact absurd rfl h
  | case2 s b rest hi ih => exact ih h
  | case3 s b rest hi f hf => exact List.cons_ne_nil b rest
  | case4 s b rest hi hf => exact List.cons_ne_nil b rest
  | case5 s b rest hi n hf ih => exact ih h

/-- An untouched device keeps the front of what is written to it, however it answers the calls. It
keeps all if and only if the write does not fail. -/
theorem new_writeAll (behaviour : Behaviour) (interruptions : Nat) (bs : Bytes) :
    let device := (new behaviour interruptions).writeAll bs
    device.state.content = bs.take device.state.content.length ∧
      (device.fault = none ↔ bs.length ≤ device.state.content.length) := by
  let s := new behaviour interruptions
  obtain ⟨hkept, hwhole⟩ := s.send_content bs
  have hkept : (s.send bs).1.content ++ (s.send bs).2.1 = bs := hkept
  have hlength : (s.send bs).1.content.length + (s.send bs).2.1.length = bs.length := by
    rw [← List.length_append, hkept]
  -- nothing was in the device before, so what it holds and what is left make up the bytes
  constructor
  · calc (s.send bs).1.content
        = ((s.send bs).1.content ++ (s.send bs).2.1).take (s.send bs).1.content.length :=
          List.take_left.symm
      _ = bs.take (s.send bs).1.content.length := by rw [hkept]
  · show (s.send bs).2.2.map _ = none ↔ bs.length ≤ (s.send bs).1.content.length
    rw [Option.map_eq_none_iff]
    constructor
    · intro hstop
      rw [hwhole hstop, List.length_nil] at hlength
      exact hlength.ge
    · intro hfits
      by_contra hstop
      have hleft := List.length_pos_iff.mpr (s.send_left bs hstop)
      omega

end Sink

/-! ## Delivery -/

namespace Destination

variable (destination : Destination) (text : String)

/-- A text has come whole to one place: to standard error, where some texts are told, or to
a file. -/
inductive Delivered (before : FileSystem) (texts : List String) (files : FileSystem) : Prop where
  /-- all of it is told, once, and no file has been touched -/
  | told (texts_eq : texts = [text]) (files_eq : files = before)
  /-- it is what the file holds that was asked for, and nothing is told -/
  | filed (path : String) (asked : destination = .file path)
      (held : files.content path = some (Utf8.encode text)) (texts_eq : texts = [])

/-- If a file is opened for a text, it has room for all of it. -/
def Fits (before : FileSystem) : Prop :=
  ∀ path room, destination = .file path → before.admission path = .takes (some room) →
    (Utf8.encode text).length ≤ room

/-- Only the front of a text has come to the file that was asked for, and nothing is told. -/
def Cut (texts : List String) (files : FileSystem) : Prop :=
  ∃ path room, destination = .file path ∧ room < (Utf8.encode text).length ∧
    files.content path = some ((Utf8.encode text).take room) ∧ texts = []

variable {destination text}

/-- Where a file is opened, what fits is what it has room for. -/
theorem fits_iff {before : FileSystem} {path : String} {room : Nat}
    (hopened : before.admission path = .takes (some room)) :
    (file path).Fits text before ↔ (Utf8.encode text).length ≤ room := by
  refine ⟨fun hfits => hfits path room rfl hopened, fun hroom path' room' hpath hopened' => ?_⟩
  cases hpath
  cases hopened.symm.trans hopened'
  exact hroom

/-- A text that has been cut has come whole to no place. -/
theorem Cut.not_delivered {before files : FileSystem} {texts : List String}
    (h : destination.Cut text texts files) : ¬destination.Delivered text before texts files := by
  obtain ⟨path, room, rfl, hshort, hfront, htexts⟩ := h
  rintro (⟨htold, -⟩ | ⟨path', hpath, hheld, -⟩)
  · exact absurd (htold.symm.trans htexts) (List.cons_ne_nil text [])
  · -- the file would have to hold as many bytes as the text has
    cases hpath
    have hsame : (Utf8.encode text).take room = Utf8.encode text :=
      Option.some.inj (hfront.symm.trans hheld)
    have hlength := congrArg List.length hsame
    rw [List.length_take, Nat.min_eq_left hshort.le] at hlength
    exact absurd hlength hshort.ne

end Destination

namespace Emission.Carries

variable {e : Emission} {fs : FileSystem} {destination : Destination} {text : String}
  (h : e.Carries fs destination text)

include h

/-- A text for which there is room comes to where it was sent. -/
theorem delivered_of_fits (hfits : destination.Fits text fs) :
    destination.Delivered text fs e.texts e.files := by
  rcases h.cases with ⟨-, ht, hf⟩ | ⟨path, room, hpath, hopened, ht, -, hheld⟩
  · exact .told ht hf
  · refine .filed path hpath ?_ ht
    cases room with
    | none => exact hheld
    | some room =>
      rw [hheld, Option.elim_some, List.take_of_length_le (hfits path room hpath hopened)]

/-- A file that is opened holds what it has room for, and nothing is told. -/
theorem filed {path : String} {room : Option Nat} (hpath : destination = .file path)
    (hopened : fs.admission path = .takes room) :
    e.texts = [] ∧
      e.files.content path = some (room.elim (Utf8.encode text) (Utf8.encode text).take) := by
  rcases h.cases with ⟨hrefused, -, -⟩ | ⟨path', room', hpath', hopened', ht, -, hheld⟩
  · rw [hrefused path hpath] at hopened
    cases hopened
  · cases hpath.symm.trans hpath'
    cases hopened.symm.trans hopened'
    exact ⟨ht, hheld⟩

/-- A text for which there is no room is cut to the room there is. -/
theorem cut_of_not_fits (hfits : ¬destination.Fits text fs) :
    destination.Cut text e.texts e.files := by
  simp only [Destination.Fits, not_forall, not_le] at hfits
  obtain ⟨path, room, hpath, hopened, hshort⟩ := hfits
  obtain ⟨ht, hheld⟩ := h.filed hpath hopened
  exact ⟨path, room, hpath, hshort, hheld, ht⟩

/-- A text that is sent is delivered exactly if it fits. -/
theorem delivered_iff :
    destination.Delivered text fs e.texts e.files ↔ destination.Fits text fs := by
  refine ⟨fun hdelivered => ?_, h.delivered_of_fits⟩
  by_contra hfits
  exact (h.cut_of_not_fits hfits).not_delivered hdelivered

/-- And it is cut in every other case. -/
theorem cut_iff : destination.Cut text e.texts e.files ↔ ¬destination.Fits text fs :=
  ⟨fun hcut hfits => hcut.not_delivered (h.delivered_of_fits hfits), h.cut_of_not_fits⟩

/-- Nothing is told where a file has been touched. -/
theorem told_or_filed : e.texts = [] ∨ e.files = fs := by
  rcases h.cases with ⟨-, -, hf⟩ | ⟨path, room, -, -, ht, -, -⟩
  · exact .inr hf
  · exact .inl ht

/-- A file that takes as much as some device does holds what the device holds, and the text is
delivered exactly if the device does not fail. -/
theorem backed {path : String} (hpath : destination = .file path) (behaviour : Behaviour)
    (interruptions : Nat)
    (hopened : fs.admission path = .takes (some
      ((Sink.new behaviour interruptions).writeAll (Utf8.encode text)).state.content.length)) :
    let device := (Sink.new behaviour interruptions).writeAll (Utf8.encode text)
    e.files.content path = some device.state.content ∧
      (destination.Delivered text fs e.texts e.files ↔ device.fault = none) := by
  intro device
  obtain ⟨hfront, hfault⟩ := Sink.new_writeAll behaviour interruptions (Utf8.encode text)
  obtain ⟨-, hheld⟩ := h.filed hpath hopened
  subst hpath
  constructor
  · rw [hheld, Option.elim_some, ← hfront]
  · rw [h.delivered_iff, hfault, Destination.fits_iff hopened]

end Emission.Carries

/-! ## Processes that send a report -/

namespace Notice

variable {ns : List Notice} {s : String} (h : s ∈ ns.filterMap text?) (time : String)
  (handler : PanicHandler)

include h

/-- A text that is told is among the parts of the page, whatever is said of panics before. -/
theorem shown_of_text (due : Bool) :
    ∃ front back, shown time handler due ns = front ++ s :: back := by
  induction ns generalizing due with
  | nil => cases h
  | cons x ns ih =>
    cases x with
    | record r =>
      obtain ⟨front, back, hrest⟩ := ih h due
      exact ⟨r.line time :: front, back, congrArg (_ :: ·) hrest⟩
    | alarm a =>
      -- the hint has been given then
      obtain ⟨front, back, hrest⟩ := ih h false
      refine ⟨handler.words a :: (if due then [handler.hint] else []) ++ front, back, ?_⟩
      rw [shown, hrest, List.append_assoc]
    | text s' =>
      rcases List.mem_cons.mp h with rfl | hs
      · exact ⟨[], shown time handler due ns, rfl⟩
      · obtain ⟨front, back, hrest⟩ := ih hs due
        exact ⟨s' :: front, back, congrArg (_ :: ·) hrest⟩

/-- A text that is told stands on standard error as it is. -/
theorem page_of_text : ∃ before after, page time handler ns = before ++ s ++ after := by
  obtain ⟨front, back, hshown⟩ := shown_of_text h time handler true
  refine ⟨String.join front, String.join back, ?_⟩
  rw [page, hshown, String.join_append, String.join_cons, ← String.append_assoc]

end Notice

namespace World

/-- A process in which a report is asked for comes to the end of its run and sends the report
of it. -/
structure Sends (w : World) (entry : Computation) (nanoseconds : Nat) (request : ReportRequest)
    (report : Report) : Prop where
  asked : w.config.report = .request request
  ended : ∃ r, w.runEnd? entry = some (.finished r) ∧ report = .ofResult r nanoseconds

/-- The same surroundings, in which no report is asked for. -/
def unasked (w : World) : World := { w with environment := { w.environment with report := none } }

variable {w : World} {entry : Computation} {n : Nat}

/-- A process sends a report if its entry comes to an end on an output that takes everything. -/
theorem Sends.of_runEnd {request : ReportRequest} {f : Filter} {e : Ending} {t : Thread} {c : Bytes}
    {r : RunResult} (hasked : w.config.report = .request request) (hf : w.filter? = some f)
    (he : entry w.begun = (e, t)) (h : t.Holding c) (hend : e.runEnd t.stash = .finished r) :
    w.Sends entry n request (.ofResult r n) := by
  have hrun : (w.drive entry).1 = e.runEnd t.stash :=
    (Thread.drive_frames (fun _ => rfl) .process he h).1
  exact ⟨hasked, r, by rw [runEnd?, hf, Option.map_some, hrun, hend], rfl⟩

/-- What is told and what files are left are those of sending the report. -/
theorem Sends.emission {request : ReportRequest} {report : Report}
    (h : w.Sends entry n request report) :
    let d := w.start entry n
    let e := report.emit request w.files
    d.texts = e.texts ∧ d.files = e.files := by
  obtain ⟨hasked, r, hend, rfl⟩ := h
  cases hf : w.filter? with
  | none => simp [runEnd?, hf] at hend
  | some f =>
    obtain ⟨hstart, hrun⟩ := start_of_filter entry n hf
    have hfinished : (w.drive entry).1 = .finished r := Option.some.inj (hrun.symm.trans hend)
    rw [hstart, hfinished]
    exact (conclude_emission hasked f n _ r).2

/-- Whether a report is asked for is not seen on standard output. -/
theorem start_unasked (w : World) (entry : Computation) (n : Nat) :
    (w.start entry n).SeenAlike (w.unasked.start entry n) := by
  have hin : w.input = w.unasked.input := rfl
  have hout : w.stdout = w.unasked.stdout := rfl
  have hlog : w.filter?.isSome = w.unasked.filter?.isSome := rfl
  exact (start_seenAlike entry n n hin hout hlog).1

end World

/-! ## Main results -/

/--
**A report is in one place, or it is cut.** Whatever the report, the request and the files, a report
that is sent is delivered whole, on standard error or as all that the file holds, exactly if the
file that is opened for it, if one is, has room for it. If it has not, the file holds the front of
the report and nothing is told. Either nothing is told or no file is touched.

How much room there is may be decided call by call: if the file takes as much as some device would,
which may take a part, be interrupted or fail at any call, then it holds what the device would hold,
and the report is delivered exactly if no call fails.

A process that sends the report leaves what sending leaves. What it tells besides its log stands on
standard error as it is, and on standard output nothing is other than if no report had been asked
for.
-/
theorem report_in_one_place (report : Report) (request : ReportRequest) (fs : FileSystem) :
    let text := request.format.text report
    let e := report.emit request fs
    (request.destination.Delivered text fs e.texts e.files ↔ request.destination.Fits text fs) ∧
    (request.destination.Cut text e.texts e.files ↔ ¬request.destination.Fits text fs) ∧
    (e.texts = [] ∨ e.files = fs) ∧
    (∀ path behaviour interruptions, request.destination = .file path →
      let device := (Sink.new behaviour interruptions).writeAll (Utf8.encode text)
      fs.admission path = .takes (some device.state.content.length) →
        e.files.content path = some device.state.content ∧
          (request.destination.Delivered text fs e.texts e.files ↔ device.fault = none)) ∧
    ∀ (w : World) (entry : Computation) (n : Nat), w.files = fs → w.Sends entry n request report →
      let d := w.start entry n
      d.texts = e.texts ∧ d.files = e.files ∧
      (∀ s ∈ d.texts, ∀ time handler, ∃ before after,
        d.stderr time handler = before ++ s ++ after) ∧
      d.SeenAlike (w.unasked.start entry n) := by
  intro text e
  have hcarried : e.Carries fs request.destination text := report.emit_carries request fs
  refine ⟨hcarried.delivered_iff, hcarried.cut_iff, hcarried.told_or_filed, ?_, ?_⟩
  · intro path behaviour interruptions hpath device hopened
    exact hcarried.backed hpath behaviour interruptions hopened
  · intro w entry n hfiles hsends d
    subst hfiles
    obtain ⟨htexts, hleft⟩ := hsends.emission
    exact ⟨htexts, hleft, fun s hs time handler => Notice.page_of_text hs time handler,
      w.start_unasked entry n⟩

/-- A file with room for ten bytes holds ten bytes of a report. -/
example :
    let report := Report.ofResult (.ok (.completed .int)) 0
    (report.emit ⟨.human, .file "r"⟩ ⟨fun _ => none, fun _ => .takes (some 10)⟩).files.content "r" =
      some (Utf8.encode "=== FRAUD ") := by
  decide

/-- A raise is reported in a file that held more than the report has, and that has just the room
that a device takes which is interrupted at first. -/
theorem raisesPlainly_report_replaces_file :
    let report := Report.ofResult (.ok (.raised (some "early"))) 0
    let text := ReportFormat.json.text report
    let device := (Sink.new .unlimited 3).writeAll (Utf8.encode text)
    let fs : FileSystem :=
      ⟨fun _ => some (List.replicate 200 0x78), fun _ => .takes (some device.state.content.length)⟩
    let w : World := ⟨⟨none, some (Utf8.encode "json:/tmp/r")⟩, [], .unlimited, fs⟩
    let entry := raisesPlainly.exec .process
    let d := w.start entry 0
    w.Sends entry 0 ⟨.json, .file "/tmp/r"⟩ report ∧ device.fault = none ∧
    (Destination.file "/tmp/r").Delivered text fs d.texts d.files ∧
    d.files.content "/tmp/r" = some (Utf8.encode text) ∧
    d.SeenAlike (w.unasked.start entry 0) := by
  intro report text device fs w entry d
  have hconfig := World.config_of_report (w := w) rfl rfl
  have hf : w.filter? = some Filter.warnings := World.filter?_of_default (by rw [hconfig])
  -- the run raises with the message that was stashed first
  have he : entry w.begun = (.unwound .raised, (entry w.begun).2) := rfl
  have hbegun := World.begun_holding (w := w) Behaviour.takesAll_unlimited
  have hsends : w.Sends entry 0 ⟨.json, .file "/tmp/r"⟩ report :=
    .of_runEnd (by rw [hconfig]; rfl) hf he (hbegun.congr rfl) rfl
  -- the device takes all in the end, and so does the file
  have hopen : (Sink.new .unlimited 3).Received [] := ⟨Behaviour.takesAll_unlimited, rfl⟩
  obtain ⟨hfault, hreceived⟩ := Sink.writeAll_succeeds hopen (Utf8.encode text)
  have hkept : device.state.content = Utf8.encode text := by
    rw [hreceived.content, List.nil_append]
  obtain ⟨-, -, -, hbacked, hprocess⟩ := report_in_one_place report ⟨.json, .file "/tmp/r"⟩ fs
  obtain ⟨hheld, hdelivered⟩ := hbacked "/tmp/r" .unlimited 3 rfl rfl
  obtain ⟨htexts, hfiles, -, hseen⟩ := hprocess w entry 0 rfl hsends
  rw [htexts, hfiles]
  refine ⟨hsends, hfault, hdelivered.mpr hfault, ?_, hseen⟩
  rw [← hkept]
  exact hheld

/-- A report that goes to the device that is always full, where its file is opened and takes
nothing. The process ends well, and its report is nowhere. -/
theorem full_device_loses_report :
    let w : World := ⟨⟨none, some (Utf8.encode "json:/dev/full")⟩, [], .unlimited, .vacant⟩
    let d := w.start ((Block.act (.return (.int 7)) .done).exec .process) 0
    (d.status = 0 ∧ d.texts = [] ∧ d.files.content "/dev/full" = some []) ∧
    ¬ ∀ (report : Report) (request : ReportRequest) (fs : FileSystem),
      let e := report.emit request fs
      request.destination.Delivered (request.format.text report) fs e.texts e.files := by
  intro w d
  let report := Report.ofResult (.ok (.completed .int)) 0
  let entry := (Block.act (.return (.int 7)) .done).exec .process
  have hconfig := World.config_of_report (w := w) rfl rfl
  have hf : w.filter? = some Filter.warnings := World.filter?_of_default (by rw [hconfig])
  have he : entry w.begun = (.returned (.int 7), (entry w.begun).2) := rfl
  have hbegun := World.begun_holding (w := w) Behaviour.takesAll_unlimited
  have hsends : w.Sends entry 0 ⟨.json, .file "/dev/full"⟩ report :=
    .of_runEnd (by rw [hconfig]; rfl) hf he (hbegun.congr rfl) rfl
  obtain ⟨htexts, hfiles⟩ := hsends.emission
  -- the device is opened, and has no room for a text that is not empty
  have hadmission : w.files.admission "/dev/full" = .takes (some 0) := by decide
  have hshort : ¬(Destination.file "/dev/full").Fits (ReportFormat.json.text report) w.files := by
    rw [Destination.fits_iff hadmission]
    decide +kernel
  have hcarried := report.emit_carries ⟨.json, .file "/dev/full"⟩ w.files
  refine ⟨⟨(World.start_seen hf he (hbegun.congr rfl) 0).2, htexts, ?_⟩, fun h => ?_⟩
  · rw [hfiles]
    rfl
  · exact hshort (hcarried.delivered_iff.mp (h report ⟨.json, .file "/dev/full"⟩ w.files))

end Epilogue
