import Epilogue.Proofs.Json.Numeral
import Epilogue.Report

/-!
# Epilogue — the report for a reader

A message and the text of a fault stand in the report for a reader as they are, with newlines and
with whatever looks like a line of the report in them. Nothing is lost by that. The lines that end
the report have no text of a program in them, so the time and the exit status are found from the
end; what is left before them begins like one kind of outcome and has one text at most, which goes
up to its end.

* `Report.told` — the lines before the numbers;
* `Report.numbered` — a number behind its label.

Main results:

* `Report.human_eq_iff` — the numbers of a report are found from the end of its text;
* `Report.told_result_inj` — the lines before them tell the result;
* `human_report_tells` — the texts of two reports are the same only if the reports are.
-/

namespace Epilogue

/-- What comes behind the last of some character, and what before, is found from the end. -/
theorem append_cons_inj_of_last {α : Type} {a : α} {xs ys ds es : List α} (hds : a ∉ ds)
    (hes : a ∉ es) (h : xs ++ a :: ds = ys ++ a :: es) : xs = ys ∧ ds = es := by
  -- the one that begins later would have the other's character behind it
  rcases List.append_eq_append_iff.mp h with ⟨mid, rfl, hmid⟩ | ⟨mid, rfl, hmid⟩
  · cases mid with
    | nil => exact ⟨(List.append_nil xs).symm, (List.cons.inj hmid).2⟩
    | cons b mid =>
      rw [List.cons_append, List.cons.injEq] at hmid
      exact absurd (hmid.2 ▸ List.mem_append_right mid List.mem_cons_self) hds
  · cases mid with
    | nil => exact ⟨List.append_nil ys, (List.cons.inj hmid).2.symm⟩
    | cons b mid =>
      rw [List.cons_append, List.cons.injEq] at hmid
      exact absurd (hmid.2 ▸ List.mem_append_right mid List.mem_cons_self) hes

/-- No two shapes have the same name. -/
theorem Shape.name_inj {s s' : Shape} (h : s.name = s'.name) : s = s' := by
  cases s <;> cases s' <;> first | rfl | exact absurd h (by decide)

namespace Report

/-! ## Numbers at the end -/

/-- The lines about the outcome and about the output. -/
def told (outcome : Option Outcome) (sinkError : Option String) : List Char :=
  (outcomeLines outcome ++ sinkLines sinkError).flatMap fun l => l.toList ++ "\n".toList

/-- Some text, and behind it a label and a number with what closes its line. -/
def numbered (before : List Char) (label : String) (n : Nat) (closing : List Char) : List Char :=
  before ++ (label.toList ++ ((toString n).toList ++ closing))

/-- The lines of a report, the two numbers taken out of them one after the other from the end. -/
theorem toList_human (r : Report) : r.human.toList =
    numbered
      (numbered ("=== FRAUD REPORT ===".toList ++ ("\n".toList ++ told r.outcome r.sinkError))
        "Exit code:  " r.exitCode "\n".toList)
      "Wall clock: " r.wallClockMs.toNat
      (" ms".toList ++ ("\n".toList ++ ("====================".toList ++ "\n".toList))) := by
  unfold human lines told
  -- what the texts of the lines are is of no concern here
  generalize "=== FRAUD REPORT ===" = title, "Exit code:  " = exit, "Wall clock: " = clock,
    " ms" = ms, "====================" = rule, "\n" = newline
  simp only [numbered, String.toList_join, List.flatMap_map, List.flatMap_append, List.flatMap_cons,
    List.flatMap_nil, String.toList_append, List.append_assoc, List.append_nil]

theorem blank_not_mem_toString (n : Nat) : ' ' ∉ (toString n).toList := by
  intro h
  rw [Nat.toString_eq_repr, Nat.toList_repr] at h
  cases (Json.numeral_toDigits n).digits ' ' h

/-- Behind a label that ends in a blank a number is found from the end. -/
theorem numbered_inj (init : List Char) {label : String} (hlabel : label.toList = init ++ [' '])
    {before before' closing : List Char} {n n' : Nat}
    (h : numbered before label n closing = numbered before' label n' closing) :
    before = before' ∧ n = n' := by
  simp only [numbered, hlabel, ← List.append_assoc] at h
  -- the number goes back to the last blank
  have hlast : before ++ init ++ ' ' :: (toString n).toList =
      before' ++ init ++ ' ' :: (toString n').toList := by
    simpa only [List.append_assoc, List.singleton_append] using List.append_cancel_right h
  obtain ⟨hbefore, hn⟩ :=
    append_cons_inj_of_last (blank_not_mem_toString n) (blank_not_mem_toString n') hlast
  refine ⟨List.append_cancel_right hbefore, ?_⟩
  rw [Nat.toString_eq_repr, Nat.toString_eq_repr, Nat.toList_repr, Nat.toList_repr] at hn
  rw [← (Json.numeral_toDigits n).value, hn, (Json.numeral_toDigits n').value]

/-- The numbers are told by the text of any report, and so are the lines before them as a whole. -/
theorem human_eq_iff {r r' : Report} : r.human = r'.human ↔
    told r.outcome r.sinkError = told r'.outcome r'.sinkError ∧ r.exitCode = r'.exitCode ∧
      r.wallClockMs = r'.wallClockMs := by
  rw [← String.toList_inj, toList_human, toList_human]
  constructor
  · intro h
    -- the last number is found first, and the other one at the end of what stands before
    obtain ⟨hrest, hclock⟩ := numbered_inj "Wall clock:".toList (by decide) h
    obtain ⟨hfront, hcode⟩ := numbered_inj "Exit code: ".toList (by decide) hrest
    have htold := List.append_cancel_left (List.append_cancel_left hfront)
    exact ⟨htold, hcode, UInt64.toNat_inj.mp hclock⟩
  · rintro ⟨htold, hcode, hclock⟩
    rw [htold, hcode, hclock]

/-! ## The lines before the numbers -/

/-- The lines about an outcome tell it: they begin like one kind of outcome, and a message goes up
to their end. -/
theorem told_outcome_inj {o o' : Outcome} (h : told (some o) none = told (some o') none) :
    o = o' := by
  unfold told at h
  -- `simp` compares the lines, whose first characters differ from one kind to another
  cases o with
  | completed s =>
    cases o' with
    | completed s' =>
      have hname : s.name = s'.name := by
        simpa [outcomeLines, sinkLines, String.toList_inj] using h
      rw [Shape.name_inj hname]
    | raised m' => cases m' <;> simp [outcomeLines, sinkLines] at h
  | raised m =>
    cases o' with
    | completed s' => cases m <;> simp [outcomeLines, sinkLines] at h
    | raised m' =>
      cases m with
      | none =>
        cases m' with
        | none => rfl
        | some m' => simp [outcomeLines, sinkLines] at h
      | some m =>
        cases m' with
        | none => simp [outcomeLines, sinkLines] at h
        | some m' =>
          have hm : m = m' := by simpa [outcomeLines, sinkLines, String.toList_inj] using h
          rw [hm]

/-- An outcome is not told like a failure, whatever the message or the error text. -/
theorem told_outcome_ne {o : Outcome} {e : String} : told (some o) none ≠ told none (some e) := by
  intro h
  unfold told at h
  rcases o with s | ⟨_ | m⟩ <;> simp [outcomeLines, sinkLines] at h

/-- What is told of a failure gives its text back. -/
theorem told_failure_inj {e e' : String} (h : told none (some e) = told none (some e')) :
    e = e' := by
  simpa [told, outcomeLines, sinkLines, String.toList_inj] using h

/-- The lines before the numbers tell the outcome, or else what is wrong with the output. -/
theorem told_result_inj {r r' : RunResult} {ns ns' : Nat}
    (h : told (ofResult r ns).outcome (ofResult r ns).sinkError =
      told (ofResult r' ns').outcome (ofResult r' ns').sinkError) :
    (ofResult r ns).outcome = (ofResult r' ns').outcome ∧
      (ofResult r ns).sinkError = (ofResult r' ns').sinkError := by
  -- the first line tells whether there is an outcome or a failure
  cases r with
  | ok o =>
    cases r' with
    | ok o' =>
      obtain rfl := told_outcome_inj h
      exact ⟨rfl, rfl⟩
    | error f' => exact absurd h told_outcome_ne
  | error f =>
    cases r' with
    | ok o' => exact absurd h.symm told_outcome_ne
    | error f' => exact ⟨rfl, congrArg some (told_failure_inj h)⟩

end Report

/-! ## Main results -/

/--
**The report for a reader loses nothing.** The reports of two runs have the same text only if they
are the same: the same outcome with its shape, or with its message if there is one, the same exit
status, the same text of what is wrong with the output, and the same time, even if a message or such
a text has newlines in it and looks like lines of a report.
-/
theorem human_report_tells (r r' : RunResult) (nanoseconds nanoseconds' : Nat) :
    (Report.ofResult r nanoseconds).human = (Report.ofResult r' nanoseconds').human ↔
      Report.ofResult r nanoseconds = Report.ofResult r' nanoseconds' := by
  constructor
  · intro h
    obtain ⟨htold, hcode, hclock⟩ := Report.human_eq_iff.mp h
    obtain ⟨houtcome, hsink⟩ := Report.told_result_inj htold
    generalize Report.ofResult r nanoseconds = report at *
    generalize Report.ofResult r' nanoseconds' = report' at *
    show Report.mk report.outcome report.exitCode report.sinkError report.wallClockMs = report'
    rw [houtcome, hcode, hsink, hclock]
  · intro h
    rw [h]

end Epilogue
