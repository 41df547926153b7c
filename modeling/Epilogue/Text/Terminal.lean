/-!
# Epilogue — text that is not meant for a terminal

A text may hold escape sequences by which it would steer a terminal. Where it goes to a stream that
is no terminal they are left out, and so are all controls but the blank ones.

A sequence begins with ESC and is read by the rules of such terminals, in one of several modes. CAN
and SUB end any sequence, and another ESC begins a new one. A blank control inside a short sequence
or a control sequence is kept, and what follows it is kept as well, up to the next character that
would be left out elsewhere: only there is the sequence resumed.
-/

namespace Epilogue.Text

/-- Where in a sequence a reader is. -/
inductive Mode where
  /-- outside of any -/
  | ground
  | escape
  | intermediate
  /-- a control sequence, which a letter ends -/
  | control
  | deviceEntry
  | deviceParameter
  | deviceIntermediate
  /-- a string that only the terminator ST ends -/
  | string
  /-- a command to the operating system, which BEL ends -/
  | command
  deriving DecidableEq

namespace Mode

/-- The mode after a character that follows ESC. -/
def afterEscape (n : Nat) : Mode :=
  if n < 0x20 ∨ 0x7F ≤ n then escape
  else if n ≤ 0x2F then intermediate
  else if n = 0x50 then deviceEntry
  else if n = 0x5B then control
  else if n = 0x5D then command
  else if n = 0x58 ∨ n = 0x5E ∨ n = 0x5F then string
  else ground

/-- The mode within the opening of a device string; `parameter` says what a digit leads to and
`special` what one of the other parameter bytes does. -/
def afterOpening (m parameter special : Mode) (n : Nat) : Mode :=
  if n < 0x20 ∨ 0x7F ≤ n then m
  else if n ≤ 0x2F then deviceIntermediate
  else if n ≤ 0x3B then parameter
  else if n ≤ 0x3F then special
  else string

/-- Whether the byte ST stands in the encoding of a character. -/
def holdsTerminator (c : Char) : Bool :=
  0x80 ≤ c.toNat && (String.utf8EncodeChar c).contains 0x9C

/-- The mode after a character that is left out. -/
def next (m : Mode) (c : Char) : Mode :=
  let n := c.toNat
  if n = 0x1B then escape
  else if n = 0x18 ∨ n = 0x1A then ground
  else match m with
    | ground => ground
    | escape => afterEscape n
    | intermediate => if 0x30 ≤ n ∧ n < 0x7F then ground else intermediate
    | control => if 0x40 ≤ n ∧ n < 0x7F then ground else control
    | deviceEntry => afterOpening m deviceParameter deviceParameter n
    | deviceParameter => afterOpening m deviceParameter string n
    | deviceIntermediate => afterOpening m string string n
    | string => if holdsTerminator c then ground else string
    | command => if n = 0x07 then ground else command

/-- The modes in which controls keep their effect. -/
def heedsControls : Mode → Bool
  | escape | intermediate | control => true
  | _ => false

end Mode

/-- The controls that are blank. -/
def isBlankControl (c : Char) : Bool := c == '\t' || c == '\n' || c == '\x0c' || c == '\r'

/-- The characters that are kept outside of sequences. -/
def isKept (c : Char) : Bool := isBlankControl c || (0x20 ≤ c.toNat && c.toNat ≠ 0x7F)

/-- What is left of some characters; `kept` says whether the one before them was kept. -/
def withoutSequences (m : Mode) (kept : Bool) : List Char → List Char
  | [] => []
  | c :: cs =>
    if (kept || m = .ground) && isKept c then
      c :: withoutSequences (if c.toNat < 0x80 then m else .ground) true cs
    else if m.heedsControls && isBlankControl c then c :: withoutSequences m true cs
    else withoutSequences (m.next c) false cs

/-- A text without the sequences that would steer a terminal. -/
def withoutEscapes (s : String) : String :=
  String.ofList (withoutSequences .ground false s.toList)

end Epilogue.Text
