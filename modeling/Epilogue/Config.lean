import Epilogue.Report.Request
import Epilogue.Text.Blank
import Epilogue.Text.Utf8

/-!
# Epilogue — configuration

The environment says what to log and whether to report on the run. Settings that are not text count
as absent; neither of them changes what the program writes to its output.
-/

namespace Epilogue

/-- The settings of a process, as bytes. -/
structure Environment where
  log : Option Bytes
  report : Option Bytes

/-- What the driver has to know about its environment. -/
structure Config where
  logFilter : String
  report : ReportSetting
  deriving DecidableEq

namespace Config

/-- The log filter where none is set. -/
def defaultLogFilter : String := "warn"

/-- The configuration where nothing is set. -/
def default : Config := ⟨defaultLogFilter, .absent⟩

/-- The log filter of a setting; one that is blank counts as absent. -/
def logFilterOf (setting : Option String) : String :=
  match setting with
  | some s => if Text.isBlank s then defaultLogFilter else s
  | none => defaultLogFilter

/-- The configuration that an environment asks for. -/
def ofEnvironment (e : Environment) : Config where
  logFilter := logFilterOf (e.log.bind Utf8.decode?)
  report := ((e.report.bind Utf8.decode?).map ReportSetting.parse).getD .absent

end Config

end Epilogue
