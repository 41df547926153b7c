import Epilogue.CommandLine.Spec

/-!
# Epilogue — completion scripts

A completion script lets a shell offer the names of the subcommands.
-/

namespace Epilogue.CommandLine

/-- The names that are offered. -/
def offered : String := " ".intercalate (Subcommand.all.map fun c => c.spec.name)

/-- The script that a shell reads. -/
def Shell.script : Shell → String
  | bash => "complete -W \"" ++ offered ++ "\" " ++ programName ++ "\n"
  | elvish =>
    "set edit:completion:arg-completer[" ++ programName ++ "] = \x7b|@words| put " ++ offered ++
      " \x7d\n"
  | fish => "complete -c " ++ programName ++ " -f -a \"" ++ offered ++ "\"\n"
  | powershell =>
    "Register-ArgumentCompleter -Native -CommandName " ++ programName ++
      " -ScriptBlock \x7b -split '" ++ offered ++ "' \x7d\n"
  | zsh => "#compdef " ++ programName ++ "\ncompadd " ++ offered ++ "\n"

end Epilogue.CommandLine
