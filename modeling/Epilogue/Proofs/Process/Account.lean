import Epilogue.Proofs.Process.Environment
import Epilogue.Proofs.Report.Json
import Epilogue.Proofs.Run.Messages
import Epilogue.Proofs.Run.Truncation

/-!
# Epilogue — the report of a process

Where a report is asked for, a process that comes to its own end gives one, when its run is over.
The report is about that run: the result from which it is made is the one from which the status
comes. A process that is ended by the exit hook or left by a foreign unwinding gives none.

* `Departure.texts` — what is told on standard error besides the log and the panics;
* `Departure.Gives` — a report has gone to where it was asked for, once;
* `Report.Accounts` — what a report says, by how the entry of its run ended.

Main results:

* `Thread.drive_result` — how a run ends, by how its entry ended, on any output;
* `report_of_process` — when there is a report, where it goes and what it says.
-/

namespace Epilogue

/-! ## Texts on standard error -/

/-- The text of a notice that is neither a record of the log nor a panic. -/
def Notice.text? : Notice → Option String
  | text s => some s
  | record _ | alarm _ => none

/-- What a process tells on standard error besides its log and its panics. -/
def Departure.texts (d : Departure) : List String := d.notices.filterMap Notice.text?

/-- No filter of the log keeps back a text. -/
theorem Notice.texts_told (f : Filter) (ns : List Notice) :
    (ns.filter (Notice.isTold f)).filterMap Notice.text? = ns.filterMap Notice.text? := by
  rw [List.filterMap_filter]
  refine List.filterMap_congr fun x _ => ?_
  cases x with
  | text s => rfl
  | alarm a => rfl
  | record r => exact ite_self none

/-- What a thread logs is no text, nor are its panics. -/
theorem Event.texts_nil (es : List Event) :
    (es.filterMap Event.notice?).filterMap Notice.text? = [] := by
  rw [List.filterMap_filterMap, List.filterMap_eq_nil_iff]
  intro x _
  cases x <;> rfl

/-! ## Where a report goes -/

/-- A process gives a report once: on standard error, or in the file if it can be opened. What the
file has no room for is lost. Standard error has no other text. -/
def Departure.Gives (d : Departure) (fs : FileSystem) (request : ReportRequest) (report : Report) :
    Prop :=
  let text := request.format.text report
  match request.destination with
  | .stderr => d.texts = [text] ∧ d.files = fs
  | .file path =>
    match fs.admission path with
    | .refuses => d.texts = [text] ∧ d.files = fs
    | .takes room =>
      d.texts = [] ∧ fs.SameBut (some path) d.files ∧
        d.files.content path = some (room.elim (Utf8.encode text) (Utf8.encode text).take)

/-- What is told of a report on standard error besides the log. -/
def Emission.texts (e : Emission) : List String := e.notices.filterMap Notice.text?

/-- The ways of a text that goes to where it was asked for: all of it is told, and no file is
changed, or it goes into the file as far as there is room, and nothing is told. -/
theorem Emission.Carries.cases {e : Emission} {fs : FileSystem} {destination : Destination}
    {text : String} (h : e.Carries fs destination text) :
    ((∀ path, destination = .file path → fs.admission path = .refuses) ∧
        e.texts = [text] ∧ e.files = fs) ∨
      ∃ path room, destination = .file path ∧ fs.admission path = .takes room ∧ e.texts = [] ∧
        fs.SameBut (some path) e.files ∧
        e.files.content path = some (room.elim (Utf8.encode text) (Utf8.encode text).take) := by
  unfold texts
  cases destination with
  | stderr =>
    obtain ⟨hnotices, hfiles⟩ := h
    exact .inl ⟨nofun, by rw [hnotices]; rfl, hfiles⟩
  | file path =>
    simp only [Carries] at h
    cases hopened : fs.admission path with
    | refuses =>
      -- the warning before the text is a record of the log and counts for no text
      obtain ⟨hnotices, hfiles⟩ := hopened ▸ h
      exact .inl ⟨fun _ hp => by cases hp; exact hopened, by rw [hnotices]; rfl, hfiles⟩
    | takes room =>
      simp only [hopened] at h
      obtain ⟨hnotices, hadmission, hcontent⟩ := h
      have hothers : fs.SameBut (some path) e.files :=
        ⟨fun p hp => by rw [hcontent p, if_neg fun hpath => hp (congrArg some hpath)], hadmission⟩
      exact .inr ⟨path, room, rfl, hopened, by rw [hnotices]; rfl, hothers,
        by rw [hcontent path, if_pos rfl]⟩

/-- A report that is sent goes to where it was asked for. -/
theorem Report.emit_gives {report : Report} {request : ReportRequest} {fs : FileSystem}
    {d : Departure} (htexts : d.texts = (report.emit request fs).texts)
    (hfiles : d.files = (report.emit request fs).files) : d.Gives fs request report := by
  have hcarried := (report.emit_carries request fs).cases
  rw [← htexts, ← hfiles] at hcarried
  unfold Departure.Gives
  rcases hcarried with ⟨hrefused, ht, hf⟩ | ⟨path, room, hpath, hopened, ht, hothers, hheld⟩
  · -- told, because it was asked for there or because the file was not opened
    cases hdestination : request.destination with
    | stderr => exact ⟨ht, hf⟩
    | file path =>
      simp only [hrefused path hdestination]
      exact ⟨ht, hf⟩
  · simp only [hpath, hopened]
    exact ⟨ht, hothers, hheld⟩

/-- A process gives no report: it tells nothing but its log and its panics, and changes no file. -/
structure Departure.GivesNone (d : Departure) (fs : FileSystem) : Prop where
  told : ∀ x ∈ d.notices,
    x ∈ d.trace.filterMap Event.notice? ∨ ∃ tear, x = .alarm (.ofSetting tear)
  files : d.files = fs

/-- Without a report no text is told. -/
theorem Departure.GivesNone.texts {d : Departure} {fs : FileSystem} (h : d.GivesNone fs) :
    d.texts = [] := by
  refine List.filterMap_eq_nil_iff.mpr fun x hx => ?_
  rcases h.told x hx with hx | ⟨tear, rfl⟩
  · obtain ⟨e, -, he⟩ := List.mem_filterMap.mp hx
    cases e <;> cases he <;> rfl
  · rfl

/-! ## What a report says -/

/-- The shape of the value that an entry returned; one that runs off its end returns nothing. -/
def Ending.shape? : Ending → Option Shape
  | next => some .void
  | returned v => some v.shape
  | unwound _ | exited => none

/-- A report gives a true account of a run with that result and of a process with that status. The
entry of the run ended in the given way, and left that message in the stash. -/
structure Report.Accounts (report : Report) (result : RunResult) (e : Ending)
    (message : Option String) (status : Nat) : Prop where
  exitCode : report.exitCode = status
  statuses : status = 0 ∨ status = 1 ∨ status = 2
  completed : ∀ s, report.outcome = some (.completed s) ↔ status = 0 ∧ e.shape? = some s
  raised : ∀ m, report.outcome = some (.raised m) ↔ status = 1 ∧ e = .unwound .raised ∧ m = message
  failed : report.outcome = none ↔ status = 2
  sinkError : ∀ text, report.sinkError = some text ↔
    status = 2 ∧ ∃ f, result = .error f ∧ text = f.sinkMessage

/-- The outcome of an entry that returned or raised. -/
theorem Ending.runEnd_cases {e : Ending} {message : Option String} {o : Outcome}
    (h : e.runEnd message = .finished (.ok o)) :
    (∃ s, e.shape? = some s ∧ o = .completed s) ∨
      (e = .unwound .raised ∧ o = .raised message) := by
  cases e with
  | next => exact .inl ⟨.void, rfl, by cases h; rfl⟩
  | returned v => exact .inl ⟨v.shape, rfl, by cases h; rfl⟩
  | exited => cases h
  | unwound p =>
    cases p with
    | raised => exact .inr ⟨rfl, by cases h; rfl⟩
    | words | boxed | number => cases h

/-- The report of a result says what the status says. -/
theorem Report.ofResult_accounts {e : Ending} {message : Option String} {o : Outcome}
    (ho : e.runEnd message = .finished (.ok o)) {r : RunResult} (hr : r = .ok o ∨ ∃ f, r = .error f)
    (n : Nat) : (Report.ofResult r n).Accounts r e message r.exitCode := by
  rcases hr with rfl | ⟨f, rfl⟩
  · obtain ⟨s, hs, rfl⟩ | ⟨rfl, rfl⟩ := Ending.runEnd_cases ho
    · constructor <;> simp [ofResult, RunResult.exitCode, Outcome.exitCode, hs, Except.toOption]
    · constructor <;> simp [ofResult, RunResult.exitCode, Outcome.exitCode, trapExitCode,
        Except.toOption, eq_comm]
  · constructor <;> simp [ofResult, RunResult.exitCode, sinkFailureExitCode, Except.toOption,
      eq_comm]

/-! ## How a run ends -/

namespace Thread

variable {t : Thread}

/-- If the printer returns, the frame of a value ends the run with its shape or with a fault. -/
theorem finishReturned_result {printer : Printer} (hp : printer.Returns) (host : Host) (v : Value) :
    (t.finishReturned host printer v).1 = .finished (.ok (.completed v.shape)) ∨
      ∃ f, (t.finishReturned host printer v).1 = .finished (.error f) := by
  rw [finishReturned, Value.write, Printout.write, Value.printout_finish hp,
    afterPrinting_done]
  exact closeRun_end _ _ _

/-- On any output a run ends as its entry did, or with the fault of its frame. -/
theorem drive_result {printer : Printer} (hp : printer.Returns) (host : Host) {entry : Computation}
    {e : Ending} {t' : Thread} (he : entry (t.clearMessage.replaceHook .unwind) = (e, t')) :
    (e.Framed → ∃ o, e.runEnd t'.stash = .finished (.ok o) ∧
      ((t.drive host printer entry).1 = .finished (.ok o) ∨
        ∃ f, (t.drive host printer entry).1 = .finished (.error f))) ∧
    (¬e.Framed → (t.drive host printer entry).1 = e.runEnd t'.stash) := by
  rw [drive, catching, he]
  -- an ending with a frame may still become a fault of the output
  cases e with
  | exited => exact ⟨False.elim, fun _ => rfl⟩
  | next =>
    exact ⟨fun _ => ⟨_, rfl, finishReturned_result hp host .void⟩, fun h => absurd trivial h⟩
  | returned v =>
    exact ⟨fun _ => ⟨_, rfl, finishReturned_result hp host v⟩, fun h => absurd trivial h⟩
  | unwound p =>
    cases p with
    | raised => exact ⟨fun _ => ⟨_, rfl, closeRun_end _ _ _⟩, fun h => absurd trivial h⟩
    | words | boxed | number => exact ⟨False.elim, fun _ => rfl⟩

end Thread

/-! ## Main results -/

namespace World

variable {w : World} {q : ReportRequest} (hq : w.config.report = .request q) (f : Filter) (n : Nat)
  (t : Thread)

include hq

/-- With a report to give there is no warning about the setting, and the first that is told is the
log of the run. -/
theorem told_of_request (closing : List Notice) : w.told f t closing =
    (t.trace.filterMap Event.notice?).filter (Notice.isTold f) ++
      closing.filter (Notice.isTold f) := by
  rw [told, opening, hq, List.filter_append, List.filter_append]
  rfl

/-- A process whose run came to an end tells and files what comes of sending the report of its
result, after the log of the run. -/
theorem conclude_emission (r : RunResult) :
    let d := w.conclude f n (.finished r) t
    let e := (Report.ofResult r n).emit q w.files
    d.notices = (d.trace.filterMap Event.notice?).filter (Notice.isTold f) ++
        (e.notices ++ resultNotices r).filter (Notice.isTold f) ∧
      d.texts = e.texts ∧ d.files = e.files := by
  intro d e
  have hd : d.notices = (t.trace.filterMap Event.notice?).filter (Notice.isTold f) ++
      (e.notices ++ resultNotices r).filter (Notice.isTold f) := by
    rw [← told_of_request hq f t]
    simp only [d, e, conclude, Report.emitIfRequested, hq]
    rfl
  refine ⟨hd, ?_, ?_⟩
  · -- records are no texts, those of the run as little as that of its result
    have hresult : (resultNotices r).filterMap Notice.text? = [] := by cases r <;> rfl
    rw [Departure.texts, hd, List.filterMap_append, Notice.texts_told, Notice.texts_told,
      Event.texts_nil, List.filterMap_append, hresult, List.append_nil, List.nil_append,
      Emission.texts]
  · simp only [d, e, conclude, Report.emitIfRequested, hq]
    rfl

/-- A process whose run came to an end gives the report of its result, after the log of the run. -/
theorem conclude_gives (r : RunResult) :
    let d := w.conclude f n (.finished r) t
    d.Gives w.files q (Report.ofResult r n) ∧
      ∃ closing, d.notices = (d.trace.filterMap Event.notice?).filter (Notice.isTold f) ++ closing ∧
        closing.filterMap Notice.text? = d.texts := by
  intro d
  obtain ⟨hd, htexts, hfiles⟩ := conclude_emission hq f n t r
  refine ⟨Report.emit_gives htexts hfiles, _, hd, ?_⟩
  rw [Departure.texts, hd, List.filterMap_append, Notice.texts_told f (List.filterMap _ _),
    Event.texts_nil, List.nil_append]

/-- A process whose run came to no end of its own gives no report. -/
theorem conclude_givesNone {how : RunEnd} (h : ∀ r, how ≠ .finished r) :
    (w.conclude f n how t).GivesNone w.files := by
  have hlog : ∀ x ∈ w.told f t [], x ∈ t.trace.filterMap Event.notice? ∨
      ∃ tear, x = .alarm (.ofSetting tear) := by
    intro x hx
    rw [told_of_request hq f t [], List.filter_nil, List.append_nil] at hx
    exact .inl (List.mem_of_mem_filter hx)
  cases how with
  | finished r => exact absurd rfl (h r)
  | unwound p => exact ⟨hlog, rfl⟩
  | exited => exact ⟨hlog, rfl⟩

end World

/-- An entry that ended neither by returning nor by a raise brings its run to no end. -/
theorem Ending.runEnd_of_unframed {e : Ending} (he : ¬e.Framed) (message : Option String)
    (r : RunResult) : e.runEnd message ≠ .finished r := by
  intro h
  cases e with
  | next | returned => exact he trivial
  | exited => cases h
  | unwound p =>
    cases p with
    | raised => exact he trivial
    | words | boxed | number => cases h

/-- A process comes to the end of its run if its entry returned or raised. -/
theorem World.drive_of_framed {w : World} {entry : Computation} (he : (entry w.begun).1.Framed) :
    ∃ o r, (entry w.begun).1.runEnd (entry w.begun).2.stash = .finished (.ok o) ∧
      (w.drive entry).1 = .finished r ∧ (r = .ok o ∨ ∃ f, r = .error f) := by
  have hp : Printer.literal.Returns := fun _ => rfl
  have hleft : entry w.begun = ((entry w.begun).1, (entry w.begun).2) := rfl
  obtain ⟨o, ho, hend⟩ := (Thread.drive_result hp .process hleft).1 he
  rcases hend with h | ⟨f, h⟩
  · exact ⟨o, .ok o, ho, h, .inl rfl⟩
  · exact ⟨o, .error f, ho, h, .inr ⟨f, rfl⟩⟩

/-- And it does not in any other case. -/
theorem World.drive_of_unframed {w : World} {entry : Computation}
    (he : ¬(entry w.begun).1.Framed) (r : RunResult) : (w.drive entry).1 ≠ .finished r := by
  have hp : Printer.literal.Returns := fun _ => rfl
  have hleft : entry w.begun = ((entry w.begun).1, (entry w.begun).2) := rfl
  have hend : (w.drive entry).1 = (entry w.begun).1.runEnd (entry w.begun).2.stash :=
    (Thread.drive_result hp .process hleft).2 he
  rw [hend]
  exact Ending.runEnd_of_unframed he _ r

/--
**The report is about this run.** Where a report is asked for and the log is set up, a process whose
entry returned or raised comes to its own end, on any output. It gives one report, after the log of
its run, and the report is that of the result of the run: its exit code is the status of the
process, and it has the shape of the value returned and status 0, or the message that the entry left
in the stash and status 1, or no outcome, the fault of the output and status 2. The message of a
raise has then been taken. A process whose entry ended by the exit hook or by a foreign unwinding
gives no report, and neither does one that is left because the log cannot be set up.
-/
theorem report_of_process {w : World} {q : ReportRequest} (hq : w.config.report = .request q)
    (entry : Computation) (n : Nat) :
    let d := w.start entry n
    let left := entry w.begun
    (∀ f, w.filter? = some f → left.1.Framed →
      ∃ r, w.runEnd? entry = some (.finished r) ∧
        d.Gives w.files q (Report.ofResult r n) ∧
        (Report.ofResult r n).Accounts r left.1 left.2.stash d.status ∧
        (left.1 = .unwound .raised → (w.drive entry).2.stash = none) ∧
        ∃ closing, d.notices =
            (d.trace.filterMap Event.notice?).filter (Notice.isTold f) ++ closing ∧
          closing.filterMap Notice.text? = d.texts) ∧
    ((w.filter? = none ∨ ¬left.1.Framed) →
      (∀ r, w.runEnd? entry ≠ some (.finished r)) ∧ d.GivesNone w.files ∧ d.texts = []) := by
  intro d left
  constructor
  · -- the run comes to a result, and what the process tells at its end is about that result
    intro f hf he
    obtain ⟨hstart, hend⟩ := World.start_of_filter entry n hf
    obtain ⟨o, r, ho, hr, hresult⟩ := World.drive_of_framed he
    rw [hr] at hstart hend
    obtain ⟨hgives, hclosing⟩ := World.conclude_gives hq f n (w.drive entry).2 r
    have haccount := Report.ofResult_accounts ho hresult n
    have htaken (hraised : left.1 = .unwound .raised) : (w.drive entry).2.stash = none :=
      (Thread.drive_of_raised (t := w.initial) (Prod.ext hraised rfl)).1
    have hd : d = w.conclude f n (.finished r) (w.drive entry).2 := hstart
    rw [hd]
    exact ⟨r, hend, hgives, haccount, htaken, hclosing⟩
  · intro hnone
    suffices h : (∀ r, w.runEnd? entry ≠ some (.finished r)) ∧ d.GivesNone w.files from
      ⟨h.1, h.2, h.2.texts⟩
    cases hf : w.filter? with
    | none =>
      -- a report is asked for properly, so that the panic is all that is told
      have hopening : w.opening = [] := by
        rw [World.opening, hq]
        rfl
      obtain ⟨tear, -, hstart⟩ := World.start_torn hf entry n
      rw [hopening, List.nil_append] at hstart
      have hd : d = ⟨unwoundExitCode, w.output, [.alarm (.ofSetting tear)], w.files, []⟩ := hstart
      rw [hd]
      exact ⟨fun r => by simp [World.runEnd?, hf],
        ⟨fun x hx => .inr ⟨tear, List.mem_singleton.mp hx⟩, rfl⟩⟩
    | some f =>
      -- the run has no result, and without one there is no report
      have hne := World.drive_of_unframed (hnone.resolve_left (by simp [hf]))
      obtain ⟨hstart, hend⟩ := World.start_of_filter entry n hf
      have hd : d = w.conclude f n (w.drive entry).1 (w.drive entry).2 := hstart
      rw [hd, hend]
      exact ⟨fun r h => hne r (Option.some.inj h),
        World.conclude_givesNone hq f n (w.drive entry).2 hne⟩

/-- An entry that recovers from a raise, and raises again without a message of its own. -/
def raisesPlainly : Block :=
  .trap (.act (.raise (some "early")) .done) .done (.act (.raise none) .done)

/-- The message of the first raise is the one that is reported for the second. -/
theorem raisesPlainly_is_reported :
    let w : World := ⟨⟨none, some (Utf8.encode "1")⟩, [], .unlimited, .vacant⟩
    let d := w.start (raisesPlainly.exec .process) 0
    ∃ report : Report, d.texts = [report.human] ∧ report.outcome = some (.raised (some "early")) ∧
      report.exitCode = 1 := by
  intro w d
  have hconfig : w.config = ⟨Config.defaultLogFilter, .request ⟨.human, .stderr⟩⟩ := by
    show Config.ofEnvironment ⟨none, some (Utf8.encode "1")⟩ = _
    simp only [Config.ofEnvironment, Option.bind_some, Utf8.decode?_encode]
    rfl
  have hq : w.config.report = .request ⟨.human, .stderr⟩ := by rw [hconfig]
  have hf : w.filter? = some Filter.warnings := World.filter?_of_default (by rw [hconfig])
  -- the raise is not caught a second time, and the first message is still there
  have he : raisesPlainly.exec .process w.begun =
      (.unwound .raised, (raisesPlainly.exec .process w.begun).2) := rfl
  have hbegun := World.begun_holding (w := w) Behaviour.takesAll_unlimited
  have hstatus : d.status = 1 := (World.start_seen hf he (hbegun.congr rfl) 0).2
  obtain ⟨r, -, hgives, haccount, -, -⟩ :=
    (report_of_process hq (raisesPlainly.exec .process) 0).1 _ hf trivial
  refine ⟨Report.ofResult r 0, hgives.1, ?_, haccount.exitCode.trans hstatus⟩
  exact (haccount.raised (some "early")).mpr ⟨hstatus, rfl, rfl⟩

end Epilogue
