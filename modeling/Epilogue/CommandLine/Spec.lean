/-!
# Epilogue — what may stand on the command line

The program has three subcommands of its own and one for help. A subcommand has options, which may
take a value, and at most one positional argument. All that the parser accepts and the help pages
show is said here once.
-/

namespace Epilogue.CommandLine

/-- What an option does. -/
inductive OptionKind where
  | showHelp
  | showVersion
  | flag
  /-- the option takes a value, which help pages call by this name -/
  | valued (valueName : String)
  deriving DecidableEq

/-- An option, which may have a letter beside its name. -/
structure OptionSpec where
  name : String
  letter : Option Char
  kind : OptionKind
  about : String

namespace OptionSpec

/-- An option with its value, as messages name it. -/
def label (o : OptionSpec) : String :=
  match o.kind with
  | .valued valueName => "--" ++ o.name ++ " <" ++ valueName ++ ">"
  | .showHelp | .showVersion | .flag => "--" ++ o.name

/-- An option with its letter, as help pages list it. -/
def listed (o : OptionSpec) : String :=
  match o.letter with
  | some c => "-" ++ c.toString ++ ", " ++ o.label
  | none => "    " ++ o.label

end OptionSpec

/-- A positional argument: any text, or one of some words. -/
structure ArgumentSpec where
  name : String
  choices : Option (List String)
  about : String

/-- An argument as messages name it. -/
def ArgumentSpec.label (a : ArgumentSpec) : String := "<" ++ a.name ++ ">"

/-- A command. -/
structure CommandSpec where
  name : String
  about : String
  /-- what only the long help page says -/
  details : Option String
  options : List OptionSpec
  argument : Option ArgumentSpec

/-! ## The program and its subcommands -/

/-- The name of the program. -/
def programName : String := "fraudr"

/-- What the program says of its version. -/
def versionText : String := "fraudr 0.3.0\n"

/-- The option that shows a help page. -/
def helpOption : OptionSpec := ⟨"help", some 'h', .showHelp, "Print help"⟩

/-- The option that shows the version. -/
def versionOption : OptionSpec := ⟨"version", some 'V', .showVersion, "Print version"⟩

/-- A shell that can complete command lines. -/
inductive Shell where
  | bash
  | elvish
  | fish
  | powershell
  | zsh
  deriving DecidableEq

namespace Shell

/-- Every shell. -/
def all : List Shell := [bash, elvish, fish, powershell, zsh]

/-- The name of a shell. -/
def name : Shell → String
  | bash => "bash"
  | elvish => "elvish"
  | fish => "fish"
  | powershell => "powershell"
  | zsh => "zsh"

/-- The shell of a name. -/
def ofName? (s : String) : Option Shell := all.find? fun shell => shell.name == s

end Shell

/-- Returns a value. -/
def valueSpec : CommandSpec where
  name := "value"
  about := "Run a program whose entry returns the given value"
  details := some
    ("Test host only: '\"Invalid\"' is accepted so the renderer's defensive path can be " ++
      "checked from outside. A compiled program never produces it.")
  options := [helpOption]
  argument := some
    ⟨"JSON", none,
      "The value as JSON, e.g. '\x7b\"Int\":7\x7d', '\x7b\"Char\":\"a\"\x7d', '\"Void\"'"⟩

/-- Raises. -/
def raiseSpec : CommandSpec where
  name := "raise"
  about := "Run a program whose entry raises"
  details := none
  options :=
    [⟨"partial", none, .valued "PARTIAL", "Text the entry writes to stdout before raising"⟩,
     ⟨"message", some 'm', .valued "MESSAGE",
       "Message stashed for the log and report before raising"⟩,
     ⟨"no-driver", none, .flag, "Raise outside the driver, straight into the default hook"⟩,
     ⟨"exit-hook", none, .flag,
       "Inside the entry, put the process-exiting default hook back before raising"⟩,
     helpOption]
  argument := none

/-- Writes a completion script. -/
def completionsSpec : CommandSpec where
  name := "completions"
  about := "Generate shell completion scripts"
  details := none
  options := [helpOption]
  argument := some ⟨"SHELL", some (Shell.all.map Shell.name), "Shell to generate completions for"⟩

/-- Shows a help page; what follows it is not parsed by a specification. -/
def helpSpec : CommandSpec where
  name := "help"
  about := "Print this message or the help of the given subcommand(s)"
  details := none
  options := []
  argument := none

/-- A subcommand. -/
inductive Subcommand where
  | value
  | raise
  | completions
  | help
  deriving DecidableEq

namespace Subcommand

/-- Every subcommand. -/
def all : List Subcommand := [value, raise, completions, help]

/-- What may follow a subcommand. -/
def spec : Subcommand → CommandSpec
  | value => valueSpec
  | raise => raiseSpec
  | completions => completionsSpec
  | help => helpSpec

end Subcommand

/-- The program itself, whose argument is a subcommand. -/
def programSpec : CommandSpec where
  name := programName
  about := "Fraud runtime host - run an entry result through the driver"
  details := none
  options := [helpOption, versionOption]
  argument := none

end Epilogue.CommandLine
