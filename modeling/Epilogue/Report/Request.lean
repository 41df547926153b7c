import Epilogue.Report

/-!
# Epilogue — asking for a report

A setting asks for a report in one of two formats, on standard error or in a file. A text that is
not recognised asks for none, and there is a warning about it.
-/

namespace Epilogue

/-- The form of a report. -/
inductive ReportFormat where
  | human
  | json
  deriving DecidableEq

/-- Where a report goes. -/
inductive Destination where
  | stderr
  | file (path : String)
  deriving DecidableEq

/-- A report that is asked for. -/
structure ReportRequest where
  format : ReportFormat
  destination : Destination
  deriving DecidableEq

/-- What a setting for the report comes to. -/
inductive ReportSetting where
  | absent
  | request (r : ReportRequest)
  /-- ignored, with a warning -/
  | unrecognised (text : String)
  deriving DecidableEq

/-- The text of a report in a format; JSON is one line. -/
def ReportFormat.text (f : ReportFormat) (r : Report) : String :=
  match f with
  | human => r.human
  | json => r.json ++ "\n"

namespace ReportSetting

/-- What follows `front` in a text that begins with it. -/
def after? (front : List Char) (cs : List Char) : Option (List Char) :=
  if front.isPrefixOf cs then some (cs.drop front.length) else none

/-- Reads a setting for the report. -/
def parse (text : String) : ReportSetting :=
  if text = "" ∨ text = "0" then absent
  else if text = "1" then request ⟨.human, .stderr⟩
  else if text = "json" then request ⟨.json, .stderr⟩
  else
    match after? "json:".toList text.toList with
    | some (c :: path) => request ⟨.json, .file (String.ofList (c :: path))⟩
    | some [] | none => unrecognised text

/-- The report that is asked for. -/
def request? : ReportSetting → Option ReportRequest
  | request r => some r
  | absent | unrecognised _ => none

/-- The warning about a setting that is not recognised. -/
def warning : ReportSetting → Option String
  | unrecognised text => some ("Warning: FRAUD_REPORT='" ++ text ++ "' not recognized, ignoring\n")
  | absent | request _ => none

end ReportSetting

end Epilogue
