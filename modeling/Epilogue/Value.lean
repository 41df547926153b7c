/-!
# Epilogue — values

What an entry can hand back: a closed set of immutable values, each with a *shape* that tells its
kind apart from its payload.

* `Value.shape` — the kind of a value;
* `Value.toInt`, `Value.toBool`, `Value.toChar` — the payload, or the `WrongShape` that was found;
* `WrongShape.message` — the words in which such a mismatch is reported.
-/

namespace Epilogue

/-- The kind of a value, without its payload. -/
inductive Shape where
  | int
  | bool
  | char
  | eof
  | void
  | invalid
  deriving DecidableEq

namespace Shape

/-- Every shape, in declaration order. -/
def all : List Shape := [int, bool, char, eof, void, invalid]

/-- The stable name used in messages, logs and reports. -/
def name : Shape → String
  | int => "integer"
  | bool => "boolean"
  | char => "character"
  | eof => "eof"
  | void => "void"
  | invalid => "invalid"

/-- The tag by which a shape is known in exchanged text. -/
def tag : Shape → String
  | int => "Int"
  | bool => "Bool"
  | char => "Char"
  | eof => "Eof"
  | void => "Void"
  | invalid => "Invalid"

/-- The shape that carries a tag. -/
def ofTag? (t : String) : Option Shape := all.find? fun s => s.tag == t

/-- A shape that comes with a payload. -/
def hasPayload : Shape → Bool
  | int | bool | char => true
  | eof | void | invalid => false

theorem ofTag?_tag (s : Shape) : ofTag? s.tag = some s := by
  cases s <;> rfl

end Shape

/-- A result of an entry. Integers are 64 bits wide, characters are Unicode scalar values. -/
inductive Value where
  | int (n : Int64)
  | bool (b : Bool)
  | char (c : Char)
  | eof
  | void
  | invalid
  deriving DecidableEq

/-- A payload was asked for that the value does not have. -/
structure WrongShape where
  expected : Shape
  found : Value

namespace Value

/-- The kind of a value. -/
def shape : Value → Shape
  | int _ => .int
  | bool _ => .bool
  | char _ => .char
  | eof => .eof
  | void => .void
  | invalid => .invalid

/-- Whether there is nothing to print. -/
def isVoid (v : Value) : Bool := v.shape == .void

/-- The integer, if the value is one. -/
def int? : Value → Option Int64
  | int n => some n
  | _ => none

/-- The truth value, if the value is one. -/
def bool? : Value → Option Bool
  | bool b => some b
  | _ => none

/-- The character, if the value is one. -/
def char? : Value → Option Char
  | char c => some c
  | _ => none

/-- A payload of the expected shape, or the mismatch. -/
def payload {α : Type} (v : Value) (expected : Shape) (get : Value → Option α) :
    Except WrongShape α :=
  match get v with
  | some a => .ok a
  | none => .error ⟨expected, v⟩

/-- The integer payload of a value that has to have one. -/
def toInt (v : Value) : Except WrongShape Int64 := v.payload .int int?

/-- The truth value of a value that has to have one. -/
def toBool (v : Value) : Except WrongShape Bool := v.payload .bool bool?

/-- The character of a value that has to have one. -/
def toChar (v : Value) : Except WrongShape Char := v.payload .char char?

end Value

end Epilogue
