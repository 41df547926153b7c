import Epilogue.Text.Alphanumeric
import Epilogue.Text.Pattern.Escape
import Epilogue.Text.Pattern.Nesting

/-!
# Epilogue — patterns

The notation of patterns, as far as to tell whether a text is one that can be used: groups and their
names and flags, classes of characters, repetition, escapes.

A pattern matches text as a whole number of characters, and nothing in it may depend on tables of
characters. By default it speaks of all characters: then classes such as that of the digits, the
boundaries of words and matching in letters of either case are refused, for they would need tables.
With the flag `u` turned off it speaks of bytes: then what might match a byte above 7F is refused,
for that is only a part of a character. Repetition by count and looking around are refused anyway,
and so is a pattern that is nested too deeply.

A pattern is read one character after another; `Pattern.read` looks ahead where it has to.
-/

namespace Epilogue.Text

namespace Pattern

/-! ## Flags -/

/-- The flags on which it depends whether a pattern can be used. -/
structure Flags where
  /-- matching in letters of either case -/
  insensitive : Bool
  /-- speaking of all characters and not of bytes -/
  unicode : Bool
  /-- blanks and comments being left out -/
  verbose : Bool

namespace Flags

/-- The flags that hold at first. -/
def initial : Flags := ⟨false, true, false⟩

/-- The letters of all flags. -/
def letters : List Char := ['i', 'm', 's', 'U', 'u', 'R', 'x']

/-- The flags after some letters, those after a minus sign being turned off. -/
def apply (f : Flags) (cs : List Char) : Flags :=
  let on := cs.takeWhile (· ≠ '-')
  let off := cs.dropWhile (· ≠ '-')
  let updated (letter : Char) (before : Bool) : Bool :=
    on.contains letter || (before && !off.contains letter)
  ⟨updated 'i' f.insensitive, updated 'u' f.unicode, updated 'x' f.verbose⟩

/-- Whether a character can be used by itself. -/
def admitsChar (f : Flags) (c : Char) (isByte : Bool) : Bool :=
  if f.unicode then !f.insensitive else !isByte || c.toNat < 0x80

/-- Whether a character can be used as a member of a class. -/
def admitsMember (f : Flags) (c : Char) : Bool :=
  if f.unicode then !f.insensitive else c.toNat < 0x80

/-- Whether a class that a letter stands for can be used. -/
def admitsKind (f : Flags) (negated : Bool) : Bool := !f.unicode && !negated

/-- Whether a class that has a name can be used, as a member of another. -/
def admitsNamed (f : Flags) (negated : Bool) : Bool :=
  if f.unicode then !f.insensitive else !negated

/-- Whether a class in brackets can be used, apart from its members. -/
def admitsClass (f : Flags) (negated : Bool) : Bool := f.unicode || !negated

/-- Whether an escape can be used outside of classes. -/
def admits (f : Flags) : Escape → Bool
  | .char c isByte => f.admitsChar c isByte
  | .kind negated => f.admitsKind negated
  | .boundary => !f.unicode
  | .anchor => true

end Flags

/-! ## What has been read -/

/-- What comes next in a pattern. -/
inductive Place where
  /-- items outside of classes -/
  | items
  /-- what follows the parenthesis of a group -/
  | groupOpening
  /-- the name of a group, of which some has been read -/
  | groupName (name : List Char)
  /-- the flags of a group, of which some have been read, the last one first -/
  | flags (seen : List Char)
  /-- the opening of a class, before the sign that negates it -/
  | classOpening
  /-- the beginning of a class: dashes stand for themselves, and so does a bracket at first -/
  | classLead (first : Bool)
  | classItems
  /-- what follows a member of a class, which may begin a range if it is a character -/
  | classMember (low : Option Char)
  /-- the upper end of a range -/
  | classRange (low : Char)
  deriving DecidableEq

namespace Place

/-- Whether a verbose pattern may have a gap there. -/
def allowsGap : Place → Bool
  | groupName _ | flags _ => false
  | _ => true

end Place

end Pattern

/-- What has been read of a pattern. -/
structure Pattern where
  place : Pattern.Place
  flags : Pattern.Flags
  /-- the sequences that are being read -/
  level : Pattern.Level
  /-- the groups around, from the inside to the outside, with the flags that hold after them -/
  groups : List (Pattern.Level × Pattern.Flags)
  /-- the classes that are open, from the inside to the outside -/
  classes : List Pattern.ClassLevel
  /-- the names of groups -/
  names : List (List Char)

namespace Pattern

/-- Nothing has been read. -/
def initial : Pattern := ⟨.items, .initial, .empty, [], [], []⟩

/-- The greatest height of a pattern. -/
def maxHeight : Nat := 250

/-- A pattern may end here. -/
def isComplete (p : Pattern) : Bool :=
  p.place == .items && p.groups.isEmpty && p.level.height ≤ maxHeight

/-- Goes on with items, of which one more has been read. -/
def afterItem (p : Pattern) (height : Nat) (repeatable : Bool) : Pattern :=
  { p with place := .items, level := p.level.add height repeatable }

/-- What a reader does next: where it is, and how many more characters it has passed. -/
abbrev Step := Option (Pattern × Nat)

/-! ## Groups -/

/-- Goes on within a new group. -/
def enterGroup (p : Pattern) (flags : Flags) : Pattern :=
  { p with place := .items, flags, level := .empty, groups := (p.level, p.flags) :: p.groups }

/-- Closes a group. -/
def closeGroup (p : Pattern) : Step :=
  match p.groups with
  | [] => none
  | (level, flags) :: groups =>
    some ({ p with flags, groups, level := level.add (p.level.height + 1) true }, 0)

/-- The characters that a name may begin with or, later on, hold. -/
def isNameChar (first : Bool) (c : Char) : Bool :=
  c == '_' || if first then isAlphabetic c else isAlphanumeric c || ['.', '[', ']'].contains c

/-- Reads a character of the name of a group. -/
def readName (p : Pattern) (name : List Char) (c : Char) : Step :=
  if c = '>' then
    if name = [] ∨ p.names.contains name then none
    else some ({ p with names := name :: p.names }.enterGroup p.flags, 0)
  else if isNameChar name.isEmpty c then some ({ p with place := .groupName (c :: name) }, 0)
  else none

/-- Reads a character of the flags of a group. Flags without a group hold until the group around
them ends. -/
def readFlag (p : Pattern) (seen : List Char) (c : Char) : Step :=
  let dangling := seen.head? == some '-'
  if c = ':' then if dangling then none else some (p.enterGroup (p.flags.apply seen.reverse), 0)
  else if c = ')' then
    if dangling ∨ seen = [] then none
    else some ({ p with flags := p.flags.apply seen.reverse }.afterItem 0 false, 0)
  else if seen.contains c then none
  else if c = '-' ∨ Flags.letters.contains c then some ({ p with place := .flags (c :: seen) }, 0)
  else none

/-- Reads a character outside of classes. -/
def readItem (p : Pattern) (c : Char) (cs : List Char) : Step :=
  match c with
  | '(' => some ({ p with place := .groupOpening }, 0)
  | ')' => p.closeGroup
  | '|' => some ({ p with level := p.level.choose }, 0)
  | '[' => some ({ p with place := .classOpening, classes := [.empty] }, 0)
  | '?' | '*' | '+' =>
    p.level.sequence.repeatLast?.map fun s =>
      ({ p with level := { p.level with sequence := s } }, if cs.head? = some '?' then 1 else 0)
  | '{' => none
  | '.' => if p.flags.unicode then some (p.afterItem 0 true, 0) else none
  | '^' | '$' => some (p.afterItem 0 true, 0)
  | '\\' =>
    match escape? p.flags.verbose cs with
    | some (e, taken) => if p.flags.admits e then some (p.afterItem 0 true, taken) else none
    | none => none
  | c => if p.flags.admitsChar c false then some (p.afterItem 0 true, 0) else none

/-- Opens a group, given the first character after its parenthesis. -/
def openGroup (p : Pattern) (c : Char) (cs : List Char) : Step :=
  match c, cs with
  | '?', 'P' :: '<' :: _ => some ({ p with place := .groupName [] }, 2)
  | '?', '<' :: _ => some ({ p with place := .groupName [] }, 1)
  | '?', _ => some ({ p with place := .flags [] }, 0)
  | c, cs => (p.enterGroup p.flags).readItem c cs

/-! ## Classes -/

/-- The names of classes that may stand within classes. -/
def classNames : List String :=
  ["alnum", "alpha", "ascii", "blank", "cntrl", "digit", "graph", "lower", "print", "punct",
    "space", "upper", "word", "xdigit"]

/-- Whether a named class is negated, and its length, given what follows its bracket, if one stands
there. -/
def namedClass? (cs : List Char) : Option (Bool × Nat) :=
  classNames.findSome? fun name =>
    [false, true].findSome? fun negated =>
      let whole := (if negated then [':', '^'] else [':']) ++ name.toList ++ [':', ']']
      if whole.isPrefixOf cs then some (negated, whole.length) else none

/-- Changes the innermost class. -/
def withClass (p : Pattern) (f : ClassLevel → ClassLevel) : Pattern :=
  match p.classes with
  | [] => p
  | l :: ls => { p with classes := f l :: ls }

/-- Adds a member to the innermost class. -/
def addMember (p : Pattern) (height : Nat) : Pattern := p.withClass (·.add height)

/-- Closes the innermost class. -/
def closeClass (p : Pattern) : Pattern :=
  match p.classes with
  | [] | [_] => { p with classes := [] }.afterItem ((p.classes.head?.elim 0 (·.height)) + 1) true
  | l :: ls => { p with place := .classItems, classes := ls }.addMember (l.height + 1)

/-- Reads a character within a class, where an operator or a member may begin. A range is counted as
a member when it is over. -/
def readMember (p : Pattern) (c : Char) (cs : List Char) : Step :=
  if c = '[' then
    match namedClass? cs with
    | some (negated, n) =>
      if p.flags.admitsNamed negated then some ({ p with place := .classItems }.addMember 0, n)
      else none
    | none => some ({ p with place := .classOpening, classes := .empty :: p.classes }, 0)
  else if c = ']' then some (p.closeClass, 0)
  else if (c = '&' ∨ c = '-' ∨ c = '~') ∧ cs.head? = some c then
    some ({ p with place := .classItems }.withClass (·.operate), 1)
  else if c = '\\' then
    match escape? p.flags.verbose cs with
    | some (.char d _, n) =>
      if p.flags.admitsMember d then some ({ p with place := .classMember (some d) }, n) else none
    | some (.kind negated, n) =>
      if p.flags.admitsKind negated then some ({ p with place := .classMember none }, n) else none
    | _ => none
  else if p.flags.admitsMember c then some ({ p with place := .classMember (some c) }, 0)
  else none

/-- Reads what follows a member: a dash goes on with a range, unless it stands at the end of the
class or before another dash. -/
def readAfterMember (p : Pattern) (low : Option Char) (c : Char) (cs : List Char) : Step :=
  let next := afterBlanks? p.flags.verbose cs
  if c = '-' ∧ next ≠ some ']' ∧ next ≠ some '-' then
    low.map fun low => ({ p with place := .classRange low }, 0)
  else (p.addMember 0).readMember c cs

/-- Reads the upper end of a range. -/
def readRange (p : Pattern) (low c : Char) (cs : List Char) : Step :=
  let ended (high : Char) (n : Nat) : Step :=
    if low ≤ high ∧ p.flags.admitsMember high then
      some ({ p with place := .classItems }.addMember 0, n)
    else none
  if c = '\\' then
    match escape? p.flags.verbose cs with
    | some (.char d _, n) => ended d n
    | _ => none
  else ended c 0

/-- Reads a dash that stands for itself at the beginning of a class. -/
def readLeadingDash (p : Pattern) : Step :=
  if p.flags.admitsMember '-' then some ({ p with place := .classLead false }.addMember 0, 0)
  else none

/-- Reads a bracket that stands for itself at the beginning of a class. -/
def readLeadingBracket (p : Pattern) : Step :=
  if p.flags.admitsMember ']' then some ({ p with place := .classItems }.addMember 0, 0) else none

/-! ## Patterns -/

/-- Reads a character, given those that follow it. -/
def read (p : Pattern) (c : Char) (cs : List Char) : Step :=
  match p.place with
  | .items => p.readItem c cs
  | .groupOpening => p.openGroup c cs
  | .groupName name => p.readName name c
  | .flags seen => p.readFlag seen c
  | .classOpening =>
    if c = '^' then
      if p.flags.admitsClass true then some ({ p with place := .classLead true }, 0) else none
    else if c = '-' then p.readLeadingDash
    else if c = ']' then p.readLeadingBracket
    else p.readMember c cs
  | .classLead first =>
    if c = '-' then p.readLeadingDash
    else if c = ']' ∧ first then p.readLeadingBracket
    else p.readMember c cs
  | .classItems => p.readMember c cs
  | .classMember low => p.readAfterMember low c cs
  | .classRange low => p.readRange low c cs

/-- Reads the rest of a pattern, of which some characters have been passed already. -/
def readsOn (p : Pattern) : (passed : Nat) → List Char → Bool
  | passed, [] => passed = 0 && p.isComplete
  | passed + 1, _ :: cs => p.readsOn passed cs
  | 0, c :: cs =>
    let skipped := if p.flags.verbose && p.place.allowsGap then gap false (c :: cs) else 0
    if 0 < skipped then p.readsOn (skipped - 1) cs
    else
      match p.read c cs with
      | some (p, passed) => p.readsOn passed cs
      | none => false

end Pattern

/-- Whether a text is a pattern that can be used. -/
def isPattern (cs : List Char) : Bool := Pattern.initial.readsOn 0 cs

end Epilogue.Text
