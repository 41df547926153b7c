import Epilogue.CommandLine.Spec
import Epilogue.Text.Terminal
import Epilogue.Text.Utf8

/-!
# Epilogue — reading the arguments of a command

Arguments are bytes. They are read from left to right against a specification.

* An option stands by its name, `--message`, or by its letter, `-m`. Its value is attached, as in
  `--message=boom`, `-m=boom` and `-mboom`, or is the next argument, if that is no option itself.
* After `--` all arguments are positional.
* A value is looked at when the next option is met or the arguments are over, so that an option
  which does not exist is noticed before a value that is wrong.
* An option that shows something does so when it is met, whatever may follow.
-/

namespace Epilogue.CommandLine

/-! ## Errors -/

/-- Why a command line cannot be used. -/
inductive UsageError where
  | unexpectedArgument (argument : String)
  | unrecognizedSubcommand (argument : String)
  | unexpectedValue (value label : String)
  | valueRequired (label : String)
  | repeated (label : String)
  | notText
  | invalidValue (value label : String)
  | argumentMissing
  | conflict (label other : String)
  deriving DecidableEq

/-- The error in words. What an argument holds is shown without sequences for a terminal. -/
def UsageError.message : UsageError → String
  | unexpectedArgument a => "unexpected argument '" ++ Text.withoutEscapes a ++ "' found"
  | unrecognizedSubcommand a => "unrecognized subcommand '" ++ Text.withoutEscapes a ++ "'"
  | unexpectedValue v l =>
    "unexpected value '" ++ Text.withoutEscapes v ++ "' for '" ++ l ++
      "' found; no more were expected"
  | valueRequired l => "a value is required for '" ++ l ++ "' but none was supplied"
  | repeated l => "the argument '" ++ l ++ "' cannot be used multiple times"
  | notText => "invalid UTF-8 was detected in one or more arguments"
  | invalidValue v l => "invalid value '" ++ Text.withoutEscapes v ++ "' for '" ++ l ++ "'"
  | argumentMissing => "the following required arguments were not provided:"
  | conflict l o => "the argument '" ++ l ++ "' cannot be used with '" ++ o ++ "'"

/-- Why reading stops before the end. -/
inductive Stop where
  | refused (e : UsageError)
  | showHelp (inFull : Bool)
  | showVersion

/-! ## Forms of arguments -/

/-- The form of an argument. -/
inductive Form where
  /-- `--` -/
  | separator
  | named (name : Bytes) (attached : Option Bytes)
  /-- what follows a single dash -/
  | letters (bs : Bytes)
  | plain
  deriving DecidableEq

namespace Form

/-- The byte that begins an option. -/
def dash : UInt8 := 0x2D

/-- The byte between an option and its value. -/
def equalsSign : UInt8 := 0x3D

/-- What follows the first equals sign, if there is one. -/
def afterEquals (bs : Bytes) : Option Bytes :=
  match bs.dropWhile (· != equalsSign) with
  | [] => none
  | _ :: value => some value

/-- The form of an argument. A single dash is plain. -/
def ofArgument (a : Bytes) : Form :=
  match a with
  | first :: second :: rest =>
    if first ≠ dash then plain
    else if second ≠ dash then letters (second :: rest)
    else if rest.isEmpty then separator
    else named (rest.takeWhile (· != equalsSign)) (afterEquals rest)
  | _ => plain

/-- The value that is attached to a letter. -/
def attachedToLetter (bs : Bytes) : Option Bytes :=
  match bs with
  | [] => none
  | b :: rest => some (if b = equalsSign then rest else b :: rest)

end Form

/-! ## State -/

/-- An option or argument whose value has not been looked at. -/
structure Pending where
  key : String
  label : String
  choices : Option (List String)
  /-- nothing while the value is still to come -/
  value : Option Bytes

/-- What has been read. -/
structure Reader where
  /-- options and arguments with their values, a flag having none -/
  given : List (String × Option String)
  pending : Option Pending
  /-- whether the positional argument has been met -/
  argumentMet : Bool
  /-- whether all that follows is positional -/
  trailing : Bool

/-- The outcome of reading on. -/
abbrev Reading := Except Stop Reader

namespace Reader

/-- Nothing has been read. -/
def initial : Reader := ⟨[], none, false, false⟩

/-- Reading stops with an error. -/
def refuse {α : Type} (e : UsageError) : Except Stop α := .error (.refused e)

/-- The text of a value, if it is one that is accepted. -/
def accept (label : String) (choices : Option (List String)) (value : Bytes) :
    Except Stop String :=
  match choices, Utf8.decode? value with
  | none, some s => .ok s
  | none, none => refuse .notText
  | some words, some s =>
    if words.contains s then .ok s
    else if s = "" then refuse (.valueRequired label)
    else refuse (.invalidValue s label)
  | some _, none => refuse (.invalidValue (Utf8.decodeLossy value) label)

/-- Takes down an option or argument, which must not have been given before. -/
def record (s : Reader) (key label : String) (value : Except Stop (Option String)) : Reading :=
  if s.given.any fun g => g.1 == key then refuse (.repeated label)
  else value.map fun v => { s with given := s.given ++ [(key, v)] }

/-- Looks at the value that is pending. -/
def resolve (s : Reader) : Reading :=
  match s.pending with
  | none => .ok s
  | some p =>
    match p.value with
    | none => refuse (.valueRequired p.label)
    | some v =>
      { s with pending := none }.record p.key p.label ((accept p.label p.choices v).map some)

/-! ## Options -/

/-- Reads an option that takes a value. -/
def openOption (s : Reader) (o : OptionSpec) (attached : Option Bytes) : Reading :=
  s.resolve.bind fun s =>
    match attached with
    | some v => s.record o.name o.label ((accept o.label none v).map some)
    | none => .ok { s with pending := some ⟨o.name, o.label, none, none⟩ }

/-- Reads an option that takes no value. -/
def meetOption (s : Reader) (o : OptionSpec) (inFull : Bool) : Reading :=
  s.resolve.bind fun s =>
    match o.kind with
    | .showHelp => .error (.showHelp inFull)
    | .showVersion => .error .showVersion
    | .flag | .valued _ => s.record o.name o.label (.ok none)

/-- Reads an option by its name. -/
def readNamed (spec : CommandSpec) (s : Reader) (name : Bytes) (attached : Option Bytes) :
    Reading :=
  match spec.options.find? fun o => Utf8.encode o.name == name with
  | none => refuse (.unexpectedArgument ("--" ++ Utf8.decodeLossy name))
  | some o =>
    match o.kind, attached with
    | .valued _, attached => s.openOption o attached
    | _, some v => refuse (.unexpectedValue (Utf8.decodeLossy v) o.label)
    | _, none => s.meetOption o true

/-- Reads options by their letters. What follows the letter of an option that takes a value is its
value. -/
def readLetters (spec : CommandSpec) (s : Reader) (bs : Bytes) : Reading :=
  match bs with
  | [] => .ok s
  | lead :: rest =>
    match (Utf8.piece lead rest).1 with
    | none => refuse (.unexpectedArgument ("-" ++ Utf8.decodeLossy (lead :: rest)))
    | some c =>
      match spec.options.find? fun o => o.letter == some c with
      | none => refuse (.unexpectedArgument ("-" ++ c.toString))
      | some o =>
        match o.kind with
        | .valued _ => s.openOption o (Form.attachedToLetter (Utf8.piece lead rest).2)
        | .flag | .showHelp | .showVersion =>
          (s.meetOption o false).bind fun s => readLetters spec s (Utf8.piece lead rest).2
  termination_by bs.length
  decreasing_by exact Nat.lt_succ_of_le (Utf8.piece_length_le lead rest)

/-! ## Arguments -/

/-- Reads a positional argument. -/
def readPositional (spec : CommandSpec) (s : Reader) (a : Bytes) : Reading :=
  match spec.argument with
  | none => refuse (.unexpectedArgument (Utf8.decodeLossy a))
  | some arg =>
    if s.argumentMet then refuse (.unexpectedArgument (Utf8.decodeLossy a))
    else s.resolve.map fun s =>
      { s with pending := some ⟨arg.name, arg.label, arg.choices, some a⟩, argumentMet := true }

/-- Reads an argument that is no option: a value that is waited for, or else a positional one. -/
def readPlain (spec : CommandSpec) (s : Reader) (a : Bytes) : Reading :=
  match s.pending with
  | some p =>
    if p.value.isNone then .ok { s with pending := some { p with value := some a } }
    else s.readPositional spec a
  | none => s.readPositional spec a

/-- Reads an argument. -/
def read (spec : CommandSpec) (s : Reader) (a : Bytes) : Reading :=
  if s.trailing then s.readPositional spec a
  else
    match Form.ofArgument a with
    | .separator => .ok { s with trailing := true }
    | .named name attached => s.readNamed spec name attached
    | .letters bs => s.readLetters spec bs
    | .plain => s.readPlain spec a

/-- Reads the arguments of a command: what was given, in order. -/
def readAll (spec : CommandSpec) (args : List Bytes) :
    Except Stop (List (String × Option String)) :=
  ((args.foldlM (fun (s : Reader) a => s.read spec a) initial).bind resolve).bind fun s =>
    if spec.argument.isSome && !s.argumentMet then refuse .argumentMissing else .ok s.given

end Reader

end Epilogue.CommandLine
