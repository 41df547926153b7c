import Epilogue.Log.Record
import Epilogue.Text.Blank
import Epilogue.Text.Pattern
import Epilogue.Text.Utf8

/-!
# Epilogue — directives

A directive is a part of a log filter. It says which records it speaks for, and up to which rank it
lets them through:

    target[span{field=value}]=level

The target, the brackets and the level may each be left out, though not all of them, and within the
brackets the span, the value or the braces. Without a level all records are let through that the
directive speaks for. A level that stands alone, without its sign, speaks for all records.

A directive is read without the blanks around it, while its parts are cut from the text that still
has them, at the places where they would be without. So blanks at the front move every part, and one
may turn out to begin or end within a character: then the directive is *torn*, which is a panic of
the reader and no fault of the text.

* `Directive.read` — the directive of a text;
* `Directive.covers` — whether it speaks for a record.
-/

namespace Epilogue

/-- What a directive asks of the fields of a record. -/
structure FieldCondition where
  name : String
  /-- whether the value of the field matters -/
  valued : Bool
  deriving DecidableEq

/-- A directive. It lets through the records up to a rank, zero for none. -/
structure Directive where
  target : Option String
  span : Option String
  field : Option FieldCondition
  rank : Nat
  deriving DecidableEq

/-- The two ends of a part that is cut out. -/
inductive Edge where
  | start
  | stop
  deriving DecidableEq

/-- A place at which a part was to be cut and which is inside a character. -/
structure Tear where
  edge : Edge
  /-- the place, as a number of bytes -/
  index : Nat
  char : Char
  /-- the byte at which the character begins -/
  first : Nat
  deriving DecidableEq

/-- What the panic of a reader says that was to cut there. -/
def Tear.message (t : Tear) : String :=
  let edge := match t.edge with
    | .start => "start"
    | .stop => "end"
  edge ++ " byte index " ++ toString t.index ++ " is not a char boundary; it is inside " ++
    Text.quoteChar t.char ++ " (bytes " ++ toString t.first ++ ".." ++
    toString (t.first + t.char.utf8Size) ++ " of string)"

/-- Why a text is no directive. -/
inductive DirectiveFault where
  | malformed
  | torn (tear : Tear)
  deriving DecidableEq

/-! ## Levels -/

namespace Directive

/-- The ranks that have names. -/
def rankNames : List (String × Nat) :=
  [("off", 0), ("error", 1), ("warn", 2), ("info", 3), ("debug", 4), ("trace", 5)]

/-- The rank of the lowest level, which a directive without level lets through. -/
def fullRank : Nat := 5

/-- The rank that a number writes, a plus sign and leading zeros being allowed. -/
def numberedRank? (cs : List Char) : Option Nat :=
  let digits := match cs with
    | '+' :: rest => rest
    | cs => cs
  let n := digits.foldl (fun n c => n * 10 + (c.toNat - 48)) 0
  if !digits.isEmpty && digits.all Char.isDigit && n ≤ fullRank then some n else none

/-- The rank that a text names, in letters of either case or in digits. -/
def rank? (cs : List Char) : Option Nat :=
  match numberedRank? cs with
  | some n => some n
  | none => rankNames.lookup (String.ofList (cs.map Char.toLower))

end Directive

/-! ## Conditions on fields -/

namespace FieldCondition

/-- Whether the end of a number is an exponent or nothing. -/
def isExponent : List Char → Bool
  | [] => true
  | c :: cs =>
    let digits := match cs with
      | '+' :: rest | '-' :: rest => rest
      | cs => cs
    (c == 'e' || c == 'E') && !digits.isEmpty && digits.all Char.isDigit

/-- Whether a text is a number without sign: digits with a point before, among or after them, and an
exponent, or one of the names. -/
def isNumber (cs : List Char) : Bool :=
  let whole := cs.takeWhile Char.isDigit
  let (fraction, rest) := match cs.dropWhile Char.isDigit with
    | '.' :: rest => (rest.takeWhile Char.isDigit, rest.dropWhile Char.isDigit)
    | rest => ([], rest)
  ["inf", "infinity", "nan"].contains (String.ofList (cs.map Char.toLower)) ||
    (!(whole ++ fraction).isEmpty && isExponent rest)

/-- Whether a text can be asked of a value. Truth values are, and numbers, and patterns; all of
these are patterns but a number with a plus sign. -/
def isValue (cs : List Char) : Bool :=
  Text.isPattern cs ||
    match cs with
    | '+' :: number => isNumber number
    | _ => false

/-- Reads a condition. What follows a second equals sign does not count. -/
def parse? (cs : List Char) : Option FieldCondition :=
  match cs.splitOn '=' with
  | name :: value :: _ => if isValue value then some ⟨String.ofList name, true⟩ else none
  | _ => if cs.isEmpty then none else some ⟨String.ofList cs, false⟩

end FieldCondition

/-! ## Reading -/

namespace Directive

/-- Where a reader is: before or in a part of a directive, or after one. The parts that are cut out
later have the byte at which they begin. -/
inductive Place where
  | opening
  | target
  | span (start : Nat)
  | field (start : Nat)
  | afterField
  | afterSpan
  | level (start : Nat)

/-- What has been read of a directive. -/
structure Draft where
  parts : Directive
  place : Place

namespace Draft

/-- Nothing has been read. -/
def initial : Draft := ⟨⟨none, none, none, fullRank⟩, .opening⟩

/-- Whether a part may begin or end at a byte. -/
def check (whole : List Char) (edge : Edge) (i : Nat) : Except DirectiveFault Unit :=
  match Utf8.straddled? i 0 whole with
  | some (c, first) => .error (.torn ⟨edge, i, c, first⟩)
  | none => .ok ()

/-- The part of a text between two of its bytes. Its start is looked at first. -/
def cut (whole : List Char) (start stop : Nat) : Except DirectiveFault (List Char) := do
  check whole .start start
  check whole .stop stop
  return Utf8.takeBytes (stop - start) (Utf8.dropBytes start whole)

/-- The characters that may begin a target. -/
def mayBeginTarget (c : Char) : Bool := c == '-' || c == ':' || c == '_' || Text.isAlphanumeric c

/-- Reads a character, which begins at byte `i`, of a directive that is part of `whole`. -/
def step (whole : List Char) (i : Nat) (c : Char) (d : Draft) : Except DirectiveFault Draft :=
  match d.place with
  | .opening =>
    if c = '[' then .ok ⟨d.parts, .span (i + 1)⟩
    else if mayBeginTarget c then .ok ⟨d.parts, .target⟩
    else .error .malformed
  | .target =>
    if c = '=' ∨ c = '[' then
      (cut whole 0 i).map fun cs =>
        ⟨{ d.parts with target := some (String.ofList cs) },
          if c = '=' then .level (i + 1) else .span (i + 1)⟩
    else .ok d
  | .span start =>
    if c = ']' then
      (cut whole start i).map fun cs =>
        ⟨{ d.parts with span := some (String.ofList cs) }, .afterSpan⟩
    else if c = '\x7b' then
      (cut whole start i).map fun cs =>
        ⟨{ d.parts with span := if cs.isEmpty then none else some (String.ofList cs) },
          .field (i + 1)⟩
    else .ok d
  | .field start =>
    if c = '\x7d' then do
      match FieldCondition.parse? (← cut whole start i) with
      | some f => .ok ⟨{ d.parts with field := some f }, .afterField⟩
      | none => .error .malformed
    else .ok d
  | .afterField => if c = ']' then .ok ⟨d.parts, .afterSpan⟩ else .error .malformed
  | .afterSpan => if c = '=' then .ok ⟨d.parts, .level (i + 1)⟩ else .error .malformed
  | .level _ => .ok d

/-- Reads the rest of a directive, which begins at byte `i`. -/
def steps (whole : List Char) : (i : Nat) → List Char → Draft → Except DirectiveFault Draft
  | _, [], d => .ok d
  | i, c :: cs, d => (d.step whole i c).bind (steps whole (i + c.utf8Size) cs)

/-- A directive that is nothing but a level or a target. -/
def ofName (whole : List Char) : Directive :=
  match rank? whole with
  | some n => ⟨none, none, none, n⟩
  | none => ⟨some (String.ofList whole), none, none, fullRank⟩

/-- Ends a directive. -/
def finish (whole : List Char) (d : Draft) : Except DirectiveFault Directive :=
  match d.place with
  | .target => .ok (ofName whole)
  | .level start => do
    check whole .start start
    match Utf8.dropBytes start whole with
    | [] => return d.parts
    | level =>
      match rank? level with
      | some n => return { d.parts with rank := n }
      | none => .error .malformed
  | .afterSpan => .ok d.parts
  | .opening | .span _ | .field _ | .afterField => .error .malformed

end Draft

/-- Reads a directive. -/
def read (whole : List Char) : Except DirectiveFault Directive :=
  (Draft.initial.steps whole 0 (Text.trim whole)).bind (Draft.finish whole)

/-! ## Records -/

/-- Whether a directive speaks for a record: its target is how the module of the record begins, and
its field is one of the record. A directive that names a span, or asks for a value, speaks for what
happens within spans, where no record is made. -/
def covers (d : Directive) (r : Record) : Bool :=
  d.span.isNone && d.target.all (fun t => t.toList.isPrefixOf r.target.toList) &&
    d.field.all fun f => !f.valued && r.fieldNames.contains f.name

/-- The length of the target, by which directives are compared; no target counts as shorter than the
empty one. -/
def reach (d : Directive) : Nat := d.target.elim 0 (·.length + 1)

/-- Whether a condition on a field is at most as specific as another: one is more than none, and of
two the one with the later name is more. -/
def yieldsField : Option FieldCondition → Option FieldCondition → Bool
  | none, _ => true
  | some _, none => false
  | some f, some g => f.name ≤ g.name

/-- Whether a directive is at most as specific as another that speaks for the same record. -/
def yieldsTo (d e : Directive) : Bool :=
  d.reach < e.reach || (d.reach == e.reach && yieldsField d.field e.field)

end Directive

end Epilogue
