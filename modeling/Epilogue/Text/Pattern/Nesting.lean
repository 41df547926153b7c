/-!
# Epilogue — how deep a pattern is

A pattern is a tree. Its height counts what encloses something else: a group, a repetition, a class,
and a choice or a sequence of two things or more; a single thing stands for itself. The height is
known as soon as a part is over, so that no tree has to be built:

* `Sequence` — what stands side by side, up to where the reader is;
* `Level` — a choice between sequences, within a group or as the whole of a pattern;
* `ClassLevel` — what stands within the brackets of a class.
-/

namespace Epilogue.Text.Pattern

/-- A sequence. The last of its items may still be repeated. -/
structure Sequence where
  count : Nat
  /-- the height of the items before the last one -/
  earlier : Nat
  /-- the height of the last item -/
  last : Nat
  repeatable : Bool

namespace Sequence

/-- Nothing yet. -/
def empty : Sequence := ⟨0, 0, 0, false⟩

/-- Adds an item of some height. -/
def add (s : Sequence) (height : Nat) (repeatable : Bool) : Sequence :=
  ⟨s.count + 1, max s.earlier s.last, height, repeatable⟩

/-- Repeats the last item. -/
def repeatLast? (s : Sequence) : Option Sequence :=
  if s.repeatable then some { s with last := s.last + 1 } else none

def height (s : Sequence) : Nat := if s.count ≤ 1 then s.last else max s.earlier s.last + 1

end Sequence

/-- A choice between sequences. -/
structure Level where
  /-- the greatest height of the alternatives that are over, if there are any -/
  alternatives : Option Nat
  sequence : Sequence

namespace Level

/-- Nothing yet. -/
def empty : Level := ⟨none, .empty⟩

/-- Adds an item to the sequence. -/
def add (l : Level) (height : Nat) (repeatable : Bool) : Level :=
  { l with sequence := l.sequence.add height repeatable }

/-- Begins another alternative. -/
def choose (l : Level) : Level := ⟨some (max (l.alternatives.getD 0) l.sequence.height), .empty⟩

def height (l : Level) : Nat :=
  match l.alternatives with
  | none => l.sequence.height
  | some h => max h l.sequence.height + 1

end Level

/-- The inside of a class: members, and maybe an operator before them with what it applies to. -/
structure ClassLevel where
  /-- the height of what stands before the last operator, if there is one -/
  operand : Option Nat
  count : Nat
  /-- the greatest height of the members after the last operator -/
  members : Nat

namespace ClassLevel

/-- Nothing yet. -/
def empty : ClassLevel := ⟨none, 0, 0⟩

/-- Adds a member. -/
def add (l : ClassLevel) (height : Nat) : ClassLevel :=
  { l with count := l.count + 1, members := max l.members height }

def height (l : ClassLevel) : Nat :=
  let union := if l.count ≤ 1 then l.members else l.members + 1
  match l.operand with
  | none => union
  | some h => max h union + 1

/-- Begins the second operand of an operator. -/
def operate (l : ClassLevel) : ClassLevel := ⟨some l.height, 0, 0⟩

end ClassLevel

end Epilogue.Text.Pattern
