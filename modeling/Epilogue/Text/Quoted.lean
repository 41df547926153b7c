import Epilogue.Text.Unshown

/-!
# Epilogue — quoted text

Text shown between quotes, for messages and logs. The quote itself and the backslash are escaped,
four controls have escapes of one letter, and every other character that does not show by itself is
written by its code point.
-/

namespace Epilogue.Text

/-- Lower-case hexadecimal digits, without padding. -/
def hexDigits (n : Nat) : List Char := Nat.toDigits 16 n

/-- A character inside text that stands between two of the `quote`s. -/
def quotedChar (quote c : Char) : List Char :=
  if c = quote then ['\\', c]
  else match c with
    | '\\' => ['\\', '\\']
    | '\t' => ['\\', 't']
    | '\n' => ['\\', 'n']
    | '\r' => ['\\', 'r']
    | '\x00' => ['\\', '0']
    | c => if isUnshown c then ['\\', 'u', '{'] ++ hexDigits c.toNat ++ ['}'] else [c]

/-- A character between single quotes. -/
def quoteChar (c : Char) : String := String.ofList ('\'' :: quotedChar '\'' c ++ ['\''])

/-- A text between double quotes. -/
def quote (s : String) : String := String.ofList ('"' :: s.toList.flatMap (quotedChar '"') ++ ['"'])

end Epilogue.Text
