import Epilogue.Process.Files
import Epilogue.Process.Notice
import Epilogue.Report.Request

/-!
# Epilogue — where a report goes

A report goes to standard error or takes the place of a file. If the file cannot be opened, a
warning says so and the report goes to standard error instead; what a file has no room for is lost.
-/

namespace Epilogue

/-- What is left behind by a report: the files, and what is told on standard error. -/
structure Emission where
  files : FileSystem
  notices : List Notice

namespace Report

/-- Sends a report to where it was asked for. -/
def emit (r : Report) (request : ReportRequest) (fs : FileSystem) : Emission :=
  let text := request.format.text r
  match request.destination with
  | .stderr => ⟨fs, [.text text]⟩
  | .file path =>
    match fs.replace path (Utf8.encode text) with
    | some fs => ⟨fs, []⟩
    | none => ⟨fs, [.record (.reportUnwritten path), .text text]⟩

/-- Sends a report if one was asked for. -/
def emitIfRequested (r : Report) (setting : ReportSetting) (fs : FileSystem) : Emission :=
  match setting.request? with
  | some request => r.emit request fs
  | none => ⟨fs, []⟩

end Report

end Epilogue
