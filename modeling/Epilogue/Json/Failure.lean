import Epilogue.Decimal.Shortest
import Epilogue.Text.Quoted
import Epilogue.Text.Utf8
import Epilogue.Value

/-!
# Epilogue — why a JSON text is refused

A reader stops at the first thing it cannot use. It reports the *cause* and how many bytes of the
text were still unread at the point that is blamed; line and column follow from the bytes before it.
-/

namespace Epilogue.Json

/-- A number as it is read: whole numbers that fit 64 bits stay whole. -/
inductive Number where
  | whole (n : Int)
  | float (negative : Bool) (magnitude : Binary64)

/-- What was found in the place of a payload. -/
inductive Found where
  | null
  | bool (b : Bool)
  | text (s : String)
  | number (n : Number)
  | sequence
  | map

/-- What a payload has to be. -/
inductive Wanted where
  | integer
  | truth
  | character
  | unit

/-- Why a text is refused. -/
inductive Cause where
  | endInValue
  | endInObject
  | endInString
  | noValue
  | noColon
  | noWord
  | keyNotString
  | trailing
  | badNumber
  | numberTooLarge
  | badEscape
  | loneSurrogate
  | brokenPair
  | controlInString
  | wrongType (found : Found) (wanted : Wanted)
  | wrongValue (found : Found) (wanted : Wanted)
  | unknownTag (name : String)
  | bareTag

/-- A cause, and the number of bytes that follow the blamed point. -/
structure Failure where
  cause : Cause
  unread : Nat

/-- The classes into which causes fall. -/
inductive Category where
  | eof
  | data
  | syntactic
  deriving DecidableEq

/-! ## Wording -/

namespace Number

/-- A decimal in the notation of numbers: plain with a fraction from `1e-5` up to, but not
including, `1e16`, otherwise one leading digit and a signed exponent. -/
def decimal (s : Decimal.Scaled) : List Char :=
  let ds := Nat.toDigits 10 s.digits
  let point : Int := ds.length + s.power
  let zeros (n : Int) : List Char := List.replicate n.toNat '0'
  if -5 < point ∧ point ≤ 16 then
    if 0 ≤ s.power then ds ++ zeros s.power ++ ['.', '0']
    else if 0 < point then ds.take point.toNat ++ '.' :: ds.drop point.toNat
    else ['0', '.'] ++ zeros (-point) ++ ds
  else
    let exponent := point - 1
    let sign := if exponent < 0 then '-' else '+'
    let fraction := if ds.length = 1 then [] else '.' :: ds.drop 1
    ds.take 1 ++ fraction ++ 'e' :: sign :: Nat.toDigits 10 exponent.natAbs

/-- A floating-point number, its fewest digits that read back. -/
def floatText (negative : Bool) (magnitude : Binary64) : String :=
  let text :=
    if magnitude.mantissa = 0 then ['0', '.', '0'] else decimal (Decimal.shortest magnitude)
  String.ofList (if negative then '-' :: text else text)

end Number

/-- What was found, in words. -/
def Found.description : Found → String
  | null => "null"
  | bool b => s!"boolean `{b}`"
  | text s => "string " ++ Text.quote s
  | number (.whole n) => s!"integer `{n}`"
  | number (.float neg m) => "floating point `" ++ Number.floatText neg m ++ "`"
  | sequence => "sequence"
  | map => "map"

/-- What is wanted, in words. -/
def Wanted.description : Wanted → String
  | integer => "i64"
  | truth => "a boolean"
  | character => "a character"
  | unit => "unit"

namespace Cause

/-- The names that a tag may have, for messages. -/
def tagList : String :=
  ", ".intercalate (Shape.all.map fun s => "`" ++ s.tag ++ "`")

/-- The cause in words. -/
def text : Cause → String
  | endInValue => "EOF while parsing a value"
  | endInObject => "EOF while parsing an object"
  | endInString => "EOF while parsing a string"
  | noValue => "expected value"
  | noColon => "expected `:`"
  | noWord => "expected ident"
  | keyNotString => "key must be a string"
  | trailing => "trailing characters"
  | badNumber => "invalid number"
  | numberTooLarge => "number out of range"
  | badEscape => "invalid escape"
  | loneSurrogate => "lone leading surrogate in hex escape"
  | brokenPair => "unexpected end of hex escape"
  | controlInString => "control character (\\u0000-\\u001F) found while parsing a string"
  | wrongType f w => "invalid type: " ++ f.description ++ ", expected " ++ w.description
  | wrongValue f w => "invalid value: " ++ f.description ++ ", expected " ++ w.description
  | unknownTag name => "unknown variant `" ++ name ++ "`, expected one of " ++ tagList
  | bareTag => "invalid type: unit variant, expected newtype variant"

/-- The class of a cause. -/
def category : Cause → Category
  | endInValue | endInObject | endInString => .eof
  | wrongType .. | wrongValue .. | unknownTag _ | bareTag => .data
  | _ => .syntactic

/-- Whether the blamed point is told. -/
def isLocated : Cause → Bool
  | bareTag => false
  | _ => true

end Cause

/-! ## Positions -/

/-- A line, counted from one, and the bytes of it that come before a point. -/
structure Position where
  line : Nat
  column : Nat

/-- The point after some bytes. -/
def Position.after (bs : Bytes) : Position where
  line := 1 + bs.count 10
  column := (bs.reverse.takeWhile (· != 10)).length

/-- A refusal of a text as it is reported. -/
structure Refusal where
  cause : Cause
  position : Position

/-- The report of a failure in a text. -/
def Failure.refusal (text : String) (f : Failure) : Refusal :=
  let bs := Utf8.encode text
  ⟨f.cause,
    if f.cause.isLocated then Position.after (bs.take (bs.length - f.unread)) else ⟨0, 0⟩⟩

/-- The whole message: the cause, and the position where there is one. -/
def Refusal.message (r : Refusal) : String :=
  if r.cause.isLocated then
    r.cause.text ++ " at line " ++ toString r.position.line ++ " column " ++
      toString r.position.column
  else r.cause.text

end Epilogue.Json
