import Mathlib.Data.List.Forall2
import Epilogue.Process.Emission
import Epilogue.Proofs.Json.Document
import Epilogue.Proofs.Text.RoundTrip
import Epilogue.Stream.LineBuffer

/-!
# Epilogue — the report as JSON

Messages and the texts of faults are whatever a program makes them, and a report as JSON tells them
with everything else in one object. They are quoted, so that nothing in them is taken for a part of
the object and no control character is left: the grammar of JSON has one value for the text of a
report, and that value tells the report. The members of the outcome stand among those of the report
as they stand in the JSON form of the outcome itself, and no key is used twice.

* `Outcome.fields`, `Report.fields` — the members, as JSON values;
* `Emission.Carries` — a text has gone to where it was asked for.

Main results:

* `written_object` — an object is read back from its members;
* `Report.fields_inj` — the members tell the report;
* `report_json_decodes` — what is read of a report in JSON.
-/

namespace Epilogue

open Json (Tree Written)

/-! ## Members as values -/

/-- A text, or `null`. -/
def optionTree : Option String → Tree
  | some s => .text s
  | none => .null

/-- The members of an outcome. -/
def Outcome.fields : Outcome → List (String × Tree)
  | completed s => [("outcome", .text "completed"), ("shape", .text s.tag)]
  | raised m => [("outcome", .text "raised"), ("message", optionTree m)]

/-- The members of a report besides those of its outcome. -/
def Report.ownFields (r : Report) : List (String × Tree) :=
  [("exit_code", .integer r.exitCode), ("sink_error", optionTree r.sinkError),
    ("wall_clock_ms", .integer r.wallClockMs.toNat)]

/-- The members of a report. -/
def Report.fields (r : Report) : List (String × Tree) :=
  (r.outcome.map Outcome.fields).getD [] ++ r.ownFields

/-! ## Objects -/

/-- A member as it is written: its key and its value. -/
def memberText (m : String × String) : String := Json.quote m.1 ++ ":" ++ m.2

/-- The members of an object as they are written. -/
def membersText (ms : List (String × String)) : List Char :=
  [','].intercalate (ms.map fun m => (memberText m).toList)

/-- A member is written for a key and a value. -/
def Writes (m : String × String) (f : String × Tree) : Prop := m.1 = f.1 ∧ Written m.2.toList f.2

theorem toList_objectJson (ms : List (String × String)) :
    (Outcome.objectJson ms).toList = '\x7b' :: (membersText ms ++ ['\x7d']) := by
  simp only [Outcome.objectJson, String.toList_append, String.toList_intercalate, List.map_map]
  rfl

section Objects

variable {m : String × String} {f : String × Tree} {ms : List (String × String)}
  {fs : List (String × Tree)}

/-- A member is read back as its name, a colon and its value. -/
theorem Writes.reads (h : Writes m f) {rest : List Char} (hrest : Json.Stops rest) :
    ∃ named value, Json.Next ((memberText m).toList ++ rest) (.leaf (.text f.1)) named ∧
      Json.Next named (.mark ':') value ∧ Json.Reads value f.2 rest := by
  obtain ⟨key, x⟩ := f
  obtain ⟨rfl, hx⟩ := h
  refine ⟨':' :: (m.2.toList ++ rest), m.2.toList ++ rest, ?_, .of_mark (by simp [Json.marks]) _,
    hx.reads rest hrest⟩
  have happend : (memberText m).toList ++ rest =
      (Json.quote m.1).toList ++ ':' :: (m.2.toList ++ rest) := by
    simp [memberText]
  rw [happend]
  exact .of_quote m.1 _

/-- A member is written without control characters. -/
theorem Writes.plain (h : Writes m f) : ∀ c ∈ (memberText m).toList, 0x20 ≤ c.toNat := by
  simp only [memberText, String.toList_append, List.forall_mem_append]
  exact ⟨⟨(Json.written_text m.1).plain, by simp⟩, h.2.plain⟩

/-- Members are read up to the brace behind them. By induction on the members: each of them is
followed by a comma or by the brace. -/
theorem members_reads (h : List.Forall₂ Writes ms fs) (hne : ms ≠ []) (rest : List Char) :
    Json.Members (membersText ms ++ '\x7d' :: rest) fs rest := by
  induction h with
  | nil => exact absurd rfl hne
  | @cons m f ms fs hm hs ih =>
    cases hs with
    | nil =>
      have hstop : Json.Stops ('\x7d' :: rest) := Json.stops_of_mark (by simp [Json.marks]) rest
      obtain ⟨named, value, hkey, hcolon, hvalue⟩ := hm.reads hstop
      have hone : membersText [m] = (memberText m).toList := by simp [membersText]
      rw [hone]
      exact .last hkey hcolon hvalue (.of_mark (by simp [Json.marks]) rest)
    | @cons m' f' ms fs hm' hs =>
      have hmore : membersText (m :: m' :: ms) ++ '\x7d' :: rest =
          (memberText m).toList ++ ',' :: (membersText (m' :: ms) ++ '\x7d' :: rest) := by
        simp [membersText, List.intercalate_cons_cons]
      -- the comma ends the value, and the other members are read behind it
      have hstop : Json.Stops (',' :: (membersText (m' :: ms) ++ '\x7d' :: rest)) :=
        Json.stops_of_mark (by simp [Json.marks]) _
      obtain ⟨named, value, hkey, hcolon, hvalue⟩ := hm.reads hstop
      rw [hmore]
      exact .more hkey hcolon hvalue (.of_mark (by simp [Json.marks]) _)
        (ih (List.cons_ne_nil m' ms))

theorem members_plain (h : List.Forall₂ Writes ms fs) : ∀ c ∈ membersText ms, 0x20 ≤ c.toNat := by
  induction h with
  | nil => nofun
  | @cons m f ms fs hm hs ih =>
    cases hs with
    | nil => simpa [membersText] using hm.plain
    | cons =>
      rw [membersText, List.map_cons, List.map_cons, List.intercalate_cons_cons]
      simp only [List.forall_mem_append]
      exact ⟨⟨hm.plain, by simp⟩, ih⟩

/-- **Objects.** An object is read back from what is written for its members. -/
theorem written_object (h : List.Forall₂ Writes ms fs) (hne : ms ≠ []) :
    Written (Outcome.objectJson ms).toList (.object fs) := by
  rw [toList_objectJson]
  constructor
  · intro rest _
    rw [List.cons_append, List.append_assoc]
    exact .object (.of_mark (by simp [Json.marks]) _) (members_reads h hne rest)
  · rw [List.forall_mem_cons, List.forall_mem_append]
    exact ⟨by decide, members_plain h, by simp⟩

end Objects

/-! ## Outcomes and reports -/

/-- An optional text is written for the text, or for null. -/
theorem written_option (s : Option String) :
    Written (Outcome.optionJson s).toList (optionTree s) := by
  cases s with
  | none => exact Json.written_null
  | some s => exact Json.written_text s

theorem written_natural (n : Nat) : Written (toString n).toList (.integer n) :=
  Json.written_integer (Json.integerLiteral_toString n)

/-- Each member of an outcome is written for the field of that name. -/
theorem Outcome.writes (o : Outcome) : List.Forall₂ Writes o.members o.fields := by
  cases o with
  | completed s =>
    exact .cons ⟨rfl, Json.written_text _⟩ (.cons ⟨rfl, Json.written_text _⟩ .nil)
  | raised m => exact .cons ⟨rfl, Json.written_text _⟩ (.cons ⟨rfl, written_option m⟩ .nil)

/-- The text of an outcome is one of the object with its fields. -/
theorem Outcome.written_toJson (o : Outcome) : Written o.toJson.toList (.object o.fields) :=
  written_object o.writes (by cases o <;> nofun)

theorem optionTree_inj {s s' : Option String} (h : optionTree s = optionTree s') : s = s' := by
  cases s with
  | none =>
    cases s' with
    | none => rfl
    | some => cases h
  | some s =>
    cases s' with
    | none => cases h
    | some s' =>
      obtain rfl := Tree.text.inj h
      rfl

/-- No two shapes have the same tag. -/
theorem Shape.tag_inj {s s' : Shape} (h : s.tag = s'.tag) : s = s' := by
  rw [← Option.some_inj, ← s.ofTag?_tag, h, s'.ofTag?_tag]

/-- The fields of an outcome give it back. -/
theorem Outcome.fields_inj {o o' : Outcome} (h : o.fields = o'.fields) : o = o' := by
  cases o with
  | completed s =>
    cases o' with
    | completed s' =>
      have htag : s.tag = s'.tag := by simpa [fields] using h
      rw [Shape.tag_inj htag]
    | raised => simp [fields] at h
  | raised m =>
    cases o' with
    | completed => simp [fields] at h
    | raised m' =>
      have hm : optionTree m = optionTree m' := by simpa [fields] using h
      rw [optionTree_inj hm]

namespace Report

/-- The text of a report is one of the object with its fields. -/
theorem written_json (r : Report) : Written r.json.toList (.object r.fields) := by
  -- the members of the outcome, if there is one, and then the three that every report has
  refine written_object (List.rel_append ?_ ?_) (by simp [members])
  · cases r.outcome with
    | none => exact .nil
    | some o => exact o.writes
  · exact .cons ⟨rfl, written_natural _⟩
      (.cons ⟨rfl, written_option _⟩ (.cons ⟨rfl, written_natural _⟩ .nil))

/-- The members of an outcome are those whose keys are not among the three of every report. -/
theorem fields_nodup (r : Report) : (r.fields.map Prod.fst).Nodup := by
  obtain ⟨o, code, e, ms⟩ := r
  rcases o with _ | ⟨_ | _⟩ <;> simp [fields, ownFields, Outcome.fields]

/-- The members tell the report. The last three are its own, so the others are those of
the outcome. -/
theorem fields_inj {r r' : Report} (h : r.fields = r'.fields) : r = r' := by
  obtain ⟨ho, hown⟩ := List.append_inj' h rfl
  have houtcome : r.outcome = r'.outcome := by
    -- an outcome has members, so its absence shows
    have hne (o : Outcome) : o.fields ≠ [] := by cases o <;> nofun
    cases hr : r.outcome with
    | none =>
      cases hr' : r'.outcome with
      | none => rfl
      | some o' => exact absurd (by simpa [hr, hr'] using ho.symm) (hne o')
    | some o =>
      cases hr' : r'.outcome with
      | none => exact absurd (by simpa [hr, hr'] using ho) (hne o)
      | some o' => rw [Outcome.fields_inj (by simpa [hr, hr'] using ho : o.fields = o'.fields)]
  obtain ⟨hcode, hsink, hclock⟩ : r.exitCode = r'.exitCode ∧
      optionTree r.sinkError = optionTree r'.sinkError ∧
      r.wallClockMs.toNat = r'.wallClockMs.toNat := by
    simpa only [ownFields, List.cons.injEq, Prod.mk.injEq, Tree.integer.injEq, Int.natCast_inj,
      true_and, and_true] using hown
  show Report.mk r.outcome r.exitCode r.sinkError r.wallClockMs = r'
  rw [houtcome, hcode, optionTree_inj hsink, UInt64.toNat_inj.mp hclock]

/-- Reports with the same text are the same. -/
theorem json_inj {r r' : Report} (h : r.json = r'.json) : r = r' := by
  have hdoc : Json.Document r.json.toList (.object r'.fields) := by
    rw [h, r'.written_json.document_iff]
  exact (fields_inj (Tree.object.inj (r.written_json.document_iff.mp hdoc))).symm

/-- No byte of a report in JSON is that of a control character. -/
theorem json_bytes (r : Report) : ∀ b ∈ Utf8.encode r.json, 0x20 ≤ b := by
  intro b hb
  obtain ⟨c, hc, hbc⟩ := List.mem_flatMap.mp hb
  have hlow := r.written_json.plain c hc
  by_contra hlt
  rw [UInt8.not_le] at hlt
  -- so low a byte would be the character itself
  have hbyte := Utf8.toNat_of_mem_encodeChar hbc (UInt8.lt_trans hlt (by decide))
  rw [hbyte] at hlow
  exact absurd (UInt8.lt_iff_toNat_lt.mp hlt) (Nat.not_lt.mpr hlow)

end Report

/-! ## Where a report goes -/

/-- A text has gone to where it was asked for and nothing else has: to standard error, or into the
file as far as there is room. If the file is not opened, it goes to standard error after a record of
the log. -/
def Emission.Carries (e : Emission) (fs : FileSystem) (destination : Destination) (text : String) :
    Prop :=
  match destination with
  | .stderr => e.notices = [.text text] ∧ e.files = fs
  | .file path =>
    match fs.admission path with
    | .refuses => e.notices = [.record (.reportUnwritten path), .text text] ∧ e.files = fs
    | .takes room =>
      e.notices = [] ∧ e.files.admission = fs.admission ∧
        ∀ p, e.files.content p =
          if p = path then some (room.elim (Utf8.encode text) (Utf8.encode text).take)
          else fs.content p

/-- A report that is sent carries its text to where it was asked for. -/
theorem Report.emit_carries (r : Report) (request : ReportRequest) (fs : FileSystem) :
    (r.emit request fs).Carries fs request.destination (request.format.text r) := by
  obtain ⟨format, destination⟩ := request
  cases destination with
  | stderr => exact ⟨rfl, rfl⟩
  | file path =>
    simp only [Emission.Carries, emit, FileSystem.replace]
    cases fs.admission path with
    | refuses => exact ⟨rfl, rfl⟩
    | takes room => exact ⟨rfl, rfl, fun _ => rfl⟩

/-! ## Main results -/

/--
**The report as JSON.** Whatever the result and the duration of a run, its report in JSON has no
control character, and the grammar of JSON has one value for it, an object with the members of the
report. No key is used twice. Where there is an outcome its members come first, and they are those
of the JSON form of the outcome. The report is sent as one line, and no other report has the same
text.
-/
theorem report_json_decodes (r : Report) :
    (∀ b ∈ Utf8.encode r.json, 0x20 ≤ b) ∧
    (∀ x, Json.Document r.json.toList x ↔ x = .object r.fields) ∧
    (r.fields.map Prod.fst).Nodup ∧
    (match r.outcome with
      | some o =>
        (∀ x, Json.Document o.toJson.toList x ↔ x = .object o.fields) ∧
          r.fields = o.fields ++ r.ownFields
      | none => r.fields = r.ownFields) ∧
    (∃ line, Utf8.encode line = Utf8.encode r.json ++ [LineBuffer.newline] ∧
      ∀ destination fs, (r.emit ⟨.json, destination⟩ fs).Carries fs destination line) ∧
    ∀ r', (Json.Document r.json.toList (.object r'.fields) ↔ r = r') ∧
      (r.json = r'.json ↔ r = r') := by
  refine ⟨r.json_bytes, fun _ => r.written_json.document_iff, r.fields_nodup, ?_, ?_, ?_⟩
  · unfold Report.fields
    cases r.outcome with
    | none => rfl
    | some o => exact ⟨fun _ => o.written_toJson.document_iff, rfl⟩
  · -- the line that is sent
    refine ⟨r.json ++ "\n", ?_, fun destination fs => r.emit_carries ⟨.json, destination⟩ fs⟩
    simp only [Utf8.encode, Utf8.encodeChars, String.toList_append, List.flatMap_append]
    rfl
  · -- members and text tell the report, each by itself
    intro r'
    rw [r.written_json.document_iff, Tree.object.injEq]
    refine ⟨⟨fun h => (Report.fields_inj h).symm, ?_⟩, Report.json_inj, ?_⟩
    · rintro rfl
      rfl
    · rintro rfl
      rfl

end Epilogue
