import Epilogue.Json.Number
import Epilogue.Json.Quoted
import Epilogue.Json.Text

/-!
# Epilogue — values as JSON

A value is exchanged as a *tagged* form: a bare string that names a tag without payload, or an
object with one member whose key is the tag and whose value is the payload, `null` where there is
none.

* `Value.toJson`, `Shape.toJson` — the one text that is written;
* `Value.ofJson?`, `Shape.ofJson?` — every text that is read, with blanks around tokens and escapes
  in strings, or the `Json.Refusal` of any other.
-/

namespace Epilogue

namespace Json

/-! ## Payloads -/

/-- The failure of a text in the place of a payload of another kind. The text is read as far as it
takes to say what was found. -/
def refuse (wanted : Wanted) (cs : List Char) : Failure :=
  let finish (r : Read Found) : Failure :=
    match r with
    | .ok (found, rest) => failHere (.wrongType found wanted) rest
    | .error e => e
  match cs with
  | [] => failEnd .endInValue
  | 'n' :: rest => finish ((word ['u', 'l', 'l'] rest).map fun r => (.null, r.2))
  | 't' :: rest => finish ((word ['r', 'u', 'e'] rest).map fun r => (.bool true, r.2))
  | 'f' :: rest => finish ((word ['a', 'l', 's', 'e'] rest).map fun r => (.bool false, r.2))
  | '"' :: rest => finish ((string rest).map fun r => (.text (String.ofList r.1), r.2))
  | '-' :: rest => finish ((number true rest).map fun r => (.number r.1, r.2))
  | '[' :: _ => failHere (.wrongType .sequence wanted) cs
  | '{' :: _ => failHere (.wrongType .map wanted) cs
  | c :: _ =>
    if isDigit c then finish ((number false cs).map fun r => (.number r.1, r.2))
    else failNext .noValue cs

/-- The integer that a number denotes, if it is whole and within 64 bits. -/
def integerOf (n : Number) (rest : List Char) : Read Int64 :=
  match n with
  | .whole i =>
    if i ≤ Int64.maxValue.toInt then .ok (Int64.ofInt i, rest)
    else .error (failHere (.wrongValue (.number n) .integer) rest)
  | .float .. => .error (failHere (.wrongType (.number n) .integer) rest)

/-- Reads an integer payload. -/
def integerPayload (cs : List Char) : Read Int64 :=
  match cs with
  | '-' :: rest => andThen (number true rest) integerOf
  | c :: _ =>
    if isDigit c then andThen (number false cs) integerOf
    else .error (refuse .integer cs)
  | [] => .error (refuse .integer [])

/-- Reads a truth value. -/
def truthPayload (cs : List Char) : Read Bool :=
  match cs with
  | 't' :: rest => (word ['r', 'u', 'e'] rest).map fun r => (true, r.2)
  | 'f' :: rest => (word ['a', 'l', 's', 'e'] rest).map fun r => (false, r.2)
  | cs => .error (refuse .truth cs)

/-- Reads a string of exactly one character. -/
def characterPayload (cs : List Char) : Read Char :=
  match cs with
  | '"' :: rest => andThen (string rest) fun text rest =>
    match text with
    | [c] => .ok (c, rest)
    | text => .error (failHere (.wrongValue (.text (String.ofList text)) .character) rest)
  | cs => .error (refuse .character cs)

/-- Reads the payload of a tag that has none. -/
def unitPayload (cs : List Char) : Read Unit :=
  match cs with
  | 'n' :: rest => word ['u', 'l', 'l'] rest
  | cs => .error (refuse .unit cs)

/-! ## Tagged forms -/

/-- The shape that a key or a bare string names. -/
def tagged (name : List Char) (rest : List Char) : Read Shape :=
  match Shape.ofTag? (String.ofList name) with
  | some s => .ok (s, rest)
  | none => .error (failHere (.unknownTag (String.ofList name)) rest)

/-- Reads a tag, after its opening quote. -/
def tag (cs : List Char) : Read Shape := andThen (string cs) tagged

/-- Nothing but blanks may follow. -/
def finished {α : Type} (a : α) (cs : List Char) : Except Failure α :=
  match skipBlanks cs with
  | [] => .ok a
  | rest => .error (failNext .trailing rest)

/-- Reads the brace that closes an object. -/
def closing {α : Type} (a : α) (cs : List Char) : Read α :=
  match skipBlanks cs with
  | [] => .error (failEnd .endInObject)
  | '}' :: rest => .ok (a, rest)
  | rest => .error (failHere .noValue rest)

/-- Reads the colon of a member. -/
def colon (cs : List Char) : Read Unit :=
  match skipBlanks cs with
  | [] => .error (failEnd .endInObject)
  | ':' :: rest => .ok ((), rest)
  | rest => .error (failNext .noColon rest)

/-- Reads the one member of an object, after the opening brace, and the closing one. -/
def member {α : Type} (payload : Shape → List Char → Read α) (cs : List Char) : Read α :=
  match skipBlanks cs with
  | [] => .error (failEnd .endInObject)
  | '"' :: rest =>
    andThen (tag rest) fun s rest =>
      andThen (colon rest) fun _ rest =>
        andThen (payload s (skipBlanks rest)) closing
  | '}' :: rest => .error (failNext .noValue ('}' :: rest))
  | rest => .error (failNext .keyNotString rest)

/-- Reads a tagged form: `bare` says what a bare tag means and `payload` reads the payload of a
tag. -/
def decodeTagged {α : Type} (bare : Shape → Option α) (payload : Shape → List Char → Read α)
    (cs : List Char) : Except Failure α :=
  match skipBlanks cs with
  | [] => .error (failEnd .endInValue)
  | '"' :: rest =>
    andThen (tag rest) fun s rest =>
      match bare s with
      | some a => finished a rest
      | none => .error (failHere .bareTag rest)
  | '{' :: rest => andThen (member payload rest) finished
  | rest => .error (failNext .noValue rest)

end Json

/-! ## Shapes -/

/-- A shape as JSON: its tag. -/
def Shape.toJson (s : Shape) : String := Json.quote s.tag

/-- Reads a shape. -/
def Shape.decode (cs : List Char) : Except Json.Failure Shape :=
  Json.decodeTagged some (fun s cs => (Json.unitPayload cs).map fun r => (s, r.2)) cs

/-- The shape that a text denotes. -/
def Shape.ofJson? (text : String) : Except Json.Refusal Shape :=
  (decode text.toList).mapError (Json.Failure.refusal text)

/-! ## Values -/

namespace Value

/-- An object with one member. -/
def tagWith (s : Shape) (payload : List Char) : List Char :=
  '{' :: Json.quoted s.tag.toList ++ ':' :: payload ++ ['}']

/-- A truth value as JSON. -/
def truthText (b : Bool) : List Char :=
  if b then ['t', 'r', 'u', 'e'] else ['f', 'a', 'l', 's', 'e']

/-- A value as JSON. -/
def encode : Value → List Char
  | int n => tagWith .int (toString n.toInt).toList
  | bool b => tagWith .bool (truthText b)
  | char c => tagWith .char (Json.quoted [c])
  | eof => Json.quoted Shape.eof.tag.toList
  | void => Json.quoted Shape.void.tag.toList
  | invalid => Json.quoted Shape.invalid.tag.toList

/-- A value as JSON. -/
def toJson (v : Value) : String := String.ofList v.encode

/-- The value of a tag that has no payload. -/
def ofBareTag? : Shape → Option Value
  | .eof => some eof
  | .void => some void
  | .invalid => some invalid
  | .int | .bool | .char => none

/-- Reads the payload of a tag. -/
def decodePayload (s : Shape) (cs : List Char) : Json.Read Value :=
  match s with
  | .int => (Json.integerPayload cs).map fun r => (int r.1, r.2)
  | .bool => (Json.truthPayload cs).map fun r => (bool r.1, r.2)
  | .char => (Json.characterPayload cs).map fun r => (char r.1, r.2)
  | .eof => (Json.unitPayload cs).map fun r => (eof, r.2)
  | .void => (Json.unitPayload cs).map fun r => (void, r.2)
  | .invalid => (Json.unitPayload cs).map fun r => (invalid, r.2)

/-- Reads a value. -/
def decode (cs : List Char) : Except Json.Failure Value :=
  Json.decodeTagged ofBareTag? decodePayload cs

/-- The value that a text denotes. -/
def ofJson? (text : String) : Except Json.Refusal Value :=
  (decode text.toList).mapError (Json.Failure.refusal text)

end Value

end Epilogue
