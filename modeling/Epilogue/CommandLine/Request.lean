import Epilogue.CommandLine.Help
import Epilogue.CommandLine.Parse

/-!
# Epilogue — what a command line asks for

The first argument is a subcommand, unless it is an option of the program. `help` is followed by the
name of what it is to be about.
-/

namespace Epilogue.CommandLine

/-- How a program is to raise. -/
structure RaiseOptions where
  /-- a text that is written before -/
  text : Option String
  /-- a message that is stashed before -/
  message : Option String
  /-- raise without the driver -/
  noDriver : Bool
  /-- put the exit hook back first -/
  exitHook : Bool
  deriving DecidableEq

/-- What is to be done. -/
inductive Command where
  | value (json : String)
  | raise (o : RaiseOptions)
  | completions (s : Shell)
  deriving DecidableEq

/-- What a command line asks for. -/
inductive Request where
  | run (c : Command)
  | help (t : Topic)
  | version
  /-- nothing was asked for -/
  | orient
  | refuse (e : UsageError)
  deriving DecidableEq

namespace Request

/-- What is asked for when reading stops. -/
def ofStop (topic : (inFull : Bool) → Topic) : Stop → Request
  | .refused e => refuse e
  | .showHelp inFull => help (topic inFull)
  | .showVersion => version

/-! ## Subcommands -/

/-- The argument of a command that has one. -/
def argumentOf (spec : CommandSpec) (given : List (String × Option String)) : String :=
  ((spec.argument.bind fun a => given.lookup a.name).bind id).getD ""

/-- The names of the two options of `raise` that exclude each other. -/
def exclusive : List String := ["no-driver", "exit-hook"]

/-- The request to raise, unless options exclude each other; the one that comes first is blamed. -/
def ofRaise (given : List (String × Option String)) : Request :=
  match given.filter fun g => exclusive.contains g.1 with
  | first :: second :: _ => refuse (.conflict ("--" ++ first.1) ("--" ++ second.1))
  | _ =>
    run (.raise
      { text := (given.lookup "partial").bind id
        message := (given.lookup "message").bind id
        noDriver := (given.lookup "no-driver").isSome
        exitHook := (given.lookup "exit-hook").isSome })

/-- The request of a subcommand, given what stands after it. A shell that has been accepted is one
by its name. -/
def ofGiven (c : Subcommand) (given : List (String × Option String)) : Request :=
  match c with
  | .value => run (.value (argumentOf valueSpec given))
  | .raise => ofRaise given
  | .completions =>
    match Shell.ofName? (argumentOf completionsSpec given) with
    | some s => run (.completions s)
    | none => refuse .argumentMissing
  | .help => help .program

/-- Reads the arguments of a subcommand. -/
def readSubcommand (c : Subcommand) (args : List Bytes) : Request :=
  match Reader.readAll c.spec args with
  | .ok given => ofGiven c given
  | .error stop => ofStop (.subcommand c) stop

/-- The subcommand of a name. -/
def subcommand? (a : Bytes) : Option Subcommand :=
  Subcommand.all.find? fun c => Utf8.encode c.spec.name == a

/-- There is no such subcommand. -/
def unrecognized (a : Bytes) : Request := refuse (.unrecognizedSubcommand (Utf8.decodeLossy a))

/-- Reads what help is asked about. No subcommand has subcommands of its own. -/
def readHelp : List Bytes → Request
  | [] => help .program
  | [a] =>
    match subcommand? a with
    | some c => help (.subcommand c true)
    | none => unrecognized a
  | a :: b :: _ => if (subcommand? a).isSome then unrecognized b else unrecognized a

/-! ## The program -/

/-- Reads what follows a separator that comes before any subcommand. -/
def readSeparated : List Bytes → Request
  | [] => orient
  | a :: _ =>
    if (subcommand? a).isSome then refuse (.unexpectedArgument (Utf8.decodeLossy a))
    else unrecognized a

/-- Reads the arguments of the program, of which some may have been read. -/
def readFrom (s : Reader) : List Bytes → Request
  | [] => orient
  | a :: rest =>
    match subcommand? a with
    | some .help => readHelp rest
    | some c => readSubcommand c rest
    | none =>
      match Form.ofArgument a with
      | .separator => readSeparated rest
      | .plain => unrecognized a
      | .named .. | .letters _ =>
        match s.read programSpec a with
        | .ok s => readFrom s rest
        | .error stop => ofStop (fun _ => .program) stop

/-- Reads a command line. -/
def read (args : List Bytes) : Request := readFrom .initial args

end Request

end Epilogue.CommandLine
