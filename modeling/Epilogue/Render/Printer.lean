import Epilogue.Stream.Fault
import Epilogue.Text.Utf8
import Epilogue.Trap.Hook
import Epilogue.Value

/-!
# Epilogue — printed values

The external form of a value. Characters are left to a *printer*, which writes some pieces and then
ends in one of four ways; all other values have a form of their own. Each piece is a write of its
own.

* `Printer.literal` — the printer of the runtime: named characters by name, other controls by code;
* `Value.printout` — what is written for a value;
* `Value.render` — the text of a value with the literal printer.
-/

namespace Epilogue

/-- How a printer ends. -/
inductive Finish where
  | done
  | fails (f : Fault)
  | panics (p : Payload)
  /-- raise with a message -/
  | raises (message : String)

/-- What a printer does: the pieces that it writes, one after another, and how it ends. -/
structure Printout where
  writes : List Bytes
  finish : Finish

namespace Printout

/-- Writes a text piece by piece and ends. -/
def ofPieces (pieces : List String) : Printout := ⟨pieces.map Utf8.encode, .done⟩

/-- Writes a text at once and ends. -/
def ofText (s : String) : Printout := ofPieces [s]

@[simp] theorem ofPieces_finish (pieces : List String) : (ofPieces pieces).finish = .done := rfl

@[simp] theorem ofText_finish (s : String) : (ofText s).finish = .done := rfl

/-- All the bytes that are written. -/
def bytes (p : Printout) : Bytes := p.writes.flatten

end Printout

/-- A printer says what to do for each character. -/
abbrev Printer := Char → Printout

namespace Printer

/-- The characters that have names. -/
def charName? (c : Char) : Option String :=
  match c with
  | '\x00' => some "nul"
  | '\x08' => some "backspace"
  | '\t' => some "tab"
  | '\n' => some "newline"
  | '\x0b' => some "vtab"
  | '\x0c' => some "page"
  | '\r' => some "return"
  | ' ' => some "space"
  | '\x7f' => some "rubout"
  | _ => none

/-- The control characters, of general category Cc. -/
def isControl (c : Char) : Bool := c.toNat < 0x20 || (0x7F ≤ c.toNat && c.toNat ≤ 0x9F)

/-- A code point in upper-case hexadecimal digits. -/
def codeDigits (c : Char) : List Char := (Nat.toDigits 16 c.toNat).map Char.toUpper

/-- The zeros that fill a code up to four digits. -/
def codePadding (c : Char) : List Char := List.replicate (4 - (codeDigits c).length) '0'

/-- What follows the sign of a character literal, piece by piece. Of an escape the letter, each zero
and the digits are pieces of their own. -/
def bodyPieces (c : Char) : List String :=
  match charName? c with
  | some name => [name]
  | none =>
    if isControl c then
      "u" :: ((codePadding c).map Char.toString ++ [String.ofList (codeDigits c)])
    else [c.toString]

/-- The sign that begins a character literal. -/
def sign : Bytes := Utf8.encode "#\\"

/-- Character literals, such as `#\a`, `#\space` and `#\u0001`. -/
def literal : Printer := fun c => ⟨sign :: (bodyPieces c).map Utf8.encode, .done⟩

end Printer

/-- The text of a value that no well-formed program produces. -/
def invalidText : String := "internal error"

namespace Value

/-- A number, piece by piece: the sign of a negative one is written by itself. -/
def intPieces : Int → List String
  | .ofNat n => [toString n]
  | .negSucc n => ["-", toString (n + 1)]

/-- What is written for a value. -/
def printout (v : Value) (printer : Printer) : Printout :=
  match v with
  | int n => .ofPieces (intPieces n.toInt)
  | bool true => .ofText "#t"
  | bool false => .ofText "#f"
  | char c => printer c
  | eof => .ofText "#<eof>"
  | void => ⟨[], .done⟩
  | invalid => .ofText invalidText

/-- The text of a value. -/
def render (v : Value) : String := Utf8.decodeLossy (v.printout .literal).bytes

end Value

end Epilogue
