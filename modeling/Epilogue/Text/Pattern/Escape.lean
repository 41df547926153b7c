import Epilogue.Text.Blank

/-!
# Epilogue — escapes in patterns

What a backslash makes of the characters after it, and the gaps that a verbose pattern may have
between its parts.

* `Pattern.gap` — the length of a gap;
* `Pattern.escape?` — what an escape stands for, and its length.
-/

namespace Epilogue.Text.Pattern

/-! ## Gaps -/

/-- The length of a gap at the front: of blanks, and of comments from a hash to the end of
the line. -/
def gap : (comment : Bool) → List Char → Nat
  | _, [] => 0
  | true, c :: cs => gap (c ≠ '\n') cs + 1
  | false, c :: cs =>
    if isBlankChar c then gap false cs + 1 else if c = '#' then gap true cs + 1 else 0

/-- The character after some blanks, among which one hash may stand. It decides whether a dash is a
member of a class; a comment is not passed over here. -/
def afterBlanks? (verbose : Bool) (cs : List Char) : Option Char :=
  if verbose then
    match cs.dropWhile isBlankChar with
    | '#' :: cs => (cs.dropWhile isBlankChar).head?
    | cs => cs.head?
  else cs.head?

/-! ## Escapes -/

/-- What an escape stands for. -/
inductive Escape where
  /-- a character; `isByte` if it was written as a byte -/
  | char (c : Char) (isByte : Bool)
  /-- a class of characters, such as that of the digits, or all others -/
  | kind (negated : Bool)
  /-- a place where a word begins or ends, or does not -/
  | boundary
  /-- an end of the text -/
  | anchor

/-- The value of a hexadecimal digit. -/
def hexValue? (d : Char) : Option Nat :=
  if d.isDigit then some (d.toNat - 48)
  else if 'a' ≤ d ∧ d ≤ 'f' then some (d.toNat - 87)
  else if 'A' ≤ d ∧ d ≤ 'F' then some (d.toNat - 55)
  else none

/-- Reads so many hexadecimal digits onto the number before them. Gives the number and the length of
what was read, `taken` of it before; in a verbose pattern there may be gaps before the digits. -/
def hexNumber? (verbose : Bool) : (count number taken : Nat) → List Char → Option (Nat × Nat)
  | 0, number, taken, _ => some (number, taken)
  | count + 1, number, taken, cs =>
    let skipped := if verbose then gap false cs else 0
    match cs.drop skipped with
    | [] => none
    | d :: cs =>
      (hexValue? d).bind fun v =>
        hexNumber? verbose count (number * 16 + v) (taken + skipped + 1) cs

/-- The escape of a character by so many hexadecimal digits, which follow a letter. -/
def hexEscape? (verbose : Bool) (count : Nat) (cs : List Char) : Option (Escape × Nat) :=
  (hexNumber? verbose count 0 1 cs).bind fun (n, taken) =>
    if n.isValidChar then some (.char (Char.ofNat n) (count = 2), taken) else none

/-- The characters that letters stand for. -/
def letterEscapes : List (Char × Char) :=
  [('a', '\x07'), ('f', '\x0c'), ('t', '\t'), ('n', '\n'), ('r', '\r'), ('v', '\x0b')]

/-- What the characters after a backslash stand for, and how many of them belong to the escape. -/
def escape? (verbose : Bool) : List Char → Option (Escape × Nat)
  | [] => none
  | c :: cs =>
    if c = 'x' then hexEscape? verbose 2 cs
    else if c = 'u' then hexEscape? verbose 4 cs
    else if c = 'U' then hexEscape? verbose 8 cs
    else if ['d', 's', 'w'].contains c then some (.kind false, 1)
    else if ['D', 'S', 'W'].contains c then some (.kind true, 1)
    else if ['b', 'B', '<', '>'].contains c then some (.boundary, 1)
    else if ['A', 'z'].contains c then some (.anchor, 1)
    else match letterEscapes.lookup c with
      | some d => some (.char d false, 1)
      | none => if c.toNat < 0x80 ∧ !c.isAlphanum then some (.char c false, 1) else none

end Epilogue.Text.Pattern
