import Epilogue.CommandLine.Spec

/-!
# Epilogue — help pages

A help page says what a command is about, how it is used, and lists in columns what can be given to
it. Only `value` has a long page, in which every description stands below what it describes.
-/

namespace Epilogue.CommandLine

/-- What a page is about: the program, or a subcommand in brief or in full. -/
inductive Topic where
  | program
  | subcommand (c : Subcommand) (inFull : Bool)
  deriving DecidableEq

/-- A list of things and their descriptions. -/
structure HelpList where
  title : String
  rows : List (String × String)

/-- A help page. -/
structure HelpPage where
  about : List String
  usage : String
  lists : List HelpList

namespace HelpList

/-- The width of the first column. -/
def width (l : HelpList) : Nat := (l.rows.map (·.1.length)).foldl max 0

/-- Spaces. -/
def spaces (n : Nat) : String := String.ofList (List.replicate n ' ')

/-- A list in two columns. -/
def inColumns (l : HelpList) : List String :=
  (l.title ++ ":") ::
    l.rows.map fun (left, right) =>
      spaces 2 ++ left ++ spaces (l.width - left.length + 2) ++ right

/-- A list with each description on a line of its own. -/
def inFull (l : HelpList) : List String :=
  (l.title ++ ":") :: l.rows.flatMap fun (left, right) => [spaces 2 ++ left, spaces 10 ++ right]

end HelpList

namespace HelpPage

/-- The paragraphs of a page, each a list of lines. -/
def paragraphs (p : HelpPage) (layout : HelpList → List String) : List (List String) :=
  p.about.map ([·]) ++ ["Usage: " ++ p.usage] :: p.lists.map layout

/-- A page as text, with empty lines between its paragraphs. -/
def text (p : HelpPage) (layout : HelpList → List String) : String :=
  "\n".intercalate ((p.paragraphs layout).map fun ls => String.join (ls.map (· ++ "\n")))

end HelpPage

/-! ## Pages -/

/-- The options of a command; `helpAbout` describes the one that shows help. -/
def optionList (c : CommandSpec) (helpAbout : String) : HelpList where
  title := "Options"
  rows := c.options.map fun o =>
    (o.listed, if o.kind = .showHelp then helpAbout else o.about)

/-- The positional argument of a command. -/
def argumentList (a : ArgumentSpec) : HelpList where
  title := "Arguments"
  rows :=
    [(a.label, a.about ++
      match a.choices with
      | some words => " [possible values: " ++ ", ".intercalate words ++ "]"
      | none => "")]

/-- How a command is used. -/
def usage (c : CommandSpec) : String :=
  " ".intercalate
    ([programName, c.name] ++
      (if c.options.any fun o => o.kind != .showHelp then ["[OPTIONS]"] else []) ++
      (c.argument.map ArgumentSpec.label).toList)

/-- The page of a command that is parsed by its specification. -/
def commandPage (c : CommandSpec) (about : List String) (helpAbout : String) : HelpPage where
  about := about
  usage := usage c
  lists := (c.argument.map argumentList).toList ++ [optionList c helpAbout]

/-- The page of the program. -/
def programPage : HelpPage where
  about := [programSpec.about]
  usage := programName ++ " <COMMAND>"
  lists := [⟨"Commands", Subcommand.all.map fun c => (c.spec.name, c.spec.about)⟩,
    optionList programSpec helpOption.about]

/-- The page of `help`. -/
def helpPage : HelpPage where
  about := [helpSpec.about]
  usage := programName ++ " help [COMMAND]..."
  lists := [⟨"Arguments", [("[COMMAND]...", "Print help for the subcommand(s)")]⟩]

/-- The text of a page. Only `value` has more to say in full. -/
def Topic.text : Topic → String
  | program => programPage.text HelpList.inColumns
  | subcommand .value false =>
    (commandPage valueSpec [valueSpec.about] "Print help (see more with '--help')").text
      HelpList.inColumns
  | subcommand .value true =>
    (commandPage valueSpec (valueSpec.about :: valueSpec.details.toList)
      "Print help (see a summary with '-h')").text HelpList.inFull
  | subcommand .help _ => helpPage.text HelpList.inColumns
  | subcommand c _ =>
    (commandPage c.spec [c.spec.about] helpOption.about).text HelpList.inColumns

end Epilogue.CommandLine
