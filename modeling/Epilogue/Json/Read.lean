import Epilogue.Json.Failure

/-!
# Epilogue — reading JSON

A reader takes the characters that are still unread and gives back what it read and what is left, or
its failure. Positions count bytes, so a failure that blames the first byte of a character leaves
the others of its bytes unread.
-/

namespace Epilogue.Json

/-- The outcome of reading the front of a text. -/
abbrev Read (α : Type) := Except Failure (α × List Char)

/-- Goes on with what a reader read and left, unless it failed. -/
def andThen {α β : Type} (r : Read α) (next : α → List Char → Except Failure β) :
    Except Failure β :=
  match r with
  | .ok (a, rest) => next a rest
  | .error e => .error e

@[simp] theorem andThen_ok {α β : Type} (a : α) (rest : List Char)
    (next : α → List Char → Except Failure β) : andThen (.ok (a, rest)) next = next a rest := rfl

@[simp] theorem andThen_error {α β : Type} (e : Failure)
    (next : α → List Char → Except Failure β) : andThen (.error e) next = .error e := rfl

theorem andThen_eq_ok {α β : Type} {r : Read α} {next : α → List Char → Except Failure β} {b : β} :
    andThen r next = .ok b ↔ ∃ a rest, r = .ok (a, rest) ∧ next a rest = .ok b := by
  constructor
  · intro h
    cases r with
    | error e => cases h
    | ok p => exact ⟨p.1, p.2, rfl, h⟩
  · rintro ⟨a, rest, rfl, h⟩
    exact h

/-- The number of bytes that the characters take. -/
def byteLength (cs : List Char) : Nat := cs.foldr (fun c n => c.utf8Size + n) 0

/-- Fails at the current point. -/
def failHere (c : Cause) (rest : List Char) : Failure := ⟨c, byteLength rest⟩

/-- Fails after the next byte, or at the end if there is none. -/
def failNext (c : Cause) (rest : List Char) : Failure := ⟨c, byteLength rest - 1⟩

/-- Fails at the end of the text. -/
def failEnd (c : Cause) : Failure := ⟨c, 0⟩

/-- The characters that may stand around tokens. -/
def isBlank (c : Char) : Bool := c == ' ' || c == '\t' || c == '\n' || c == '\r'

/-- What follows the blanks. -/
def skipBlanks (cs : List Char) : List Char := cs.dropWhile isBlank

/-- Reads the given characters. -/
def word : (expected : List Char) → List Char → Read Unit
  | [], cs => .ok ((), cs)
  | _ :: _, [] => .error (failEnd .endInValue)
  | e :: expected, c :: rest =>
    if c = e then word expected rest else .error (failNext .noWord (c :: rest))

end Epilogue.Json
