import Epilogue.Json.Read

/-!
# Epilogue — reading JSON numbers

A number without fraction and exponent that fits 64 bits is whole. Every other number is read as a
significand of at most 64 bits and a power of ten, and rounded from these.

* `Json.number` — a number, after its minus sign if it has one.
-/

namespace Epilogue.Json

/-! ## Digits -/

/-- A digit of the decimal system. -/
def isDigit (c : Char) : Bool := '0' ≤ c && c ≤ '9'

/-- The value of a decimal digit. -/
def digitValue (c : Char) : Nat := c.toNat - 48

/-- The greatest significand that is kept. -/
def maxSignificand : Nat := 0xFFFFFFFFFFFFFFFF

/-- Appends digits to a significand while the result fits, and counts those that are left. -/
def absorb (significand : Nat) : List Char → Nat × Nat
  | [] => (significand, 0)
  | d :: ds =>
    let next := significand * 10 + digitValue d
    if next ≤ maxSignificand then absorb next ds else (significand, ds.length + 1)

/-- A significand and the power of ten that scales it. -/
structure Scientific where
  significand : Nat
  power : Int

/-- The number that digits before and after the point write. Digits that do not fit count as powers
of ten before the point and for nothing after it. -/
def Scientific.ofDigits (whole fraction : List Char) : Scientific :=
  let (front, dropped) := absorb 0 whole
  let (significand, ignored) := absorb front fraction
  ⟨significand, (dropped : Int) - ((fraction.length - ignored : Nat) : Int)⟩

/-- The floating-point number that a significand and a power of ten denote. -/
def Scientific.float (s : Scientific) (negative : Bool) (rest : List Char) : Read Number :=
  match Binary64.ofDecimal s.significand s.power with
  | some x => .ok (.float negative x, rest)
  | none => .error (failHere .numberTooLarge rest)

/-! ## Exponents -/

/-- The greatest exponent that is kept. -/
def maxExponent : Nat := 0x7FFFFFFF

/-- The digits of an exponent: its value, or what follows the digit that makes it too large. -/
def exponentDigits (e : Nat) : List Char → Except (List Char) (Nat × List Char)
  | [] => .ok (e, [])
  | c :: rest =>
    if isDigit c then
      let next := e * 10 + digitValue c
      if next ≤ maxExponent then exponentDigits next rest else .error rest
    else .ok (e, c :: rest)

/-- Reads an exponent, after its letter, and so the whole number. An exponent that is too large
makes the number zero, or out of range if it is positive and the number is not. -/
def exponent (s : Scientific) (negative : Bool) (cs : List Char) : Read Number :=
  let (minus, cs) :=
    match cs with
    | '+' :: rest => (false, rest)
    | '-' :: rest => (true, rest)
    | cs => (false, cs)
  match cs with
  | [] => .error (failEnd .endInValue)
  | c :: rest =>
    if !isDigit c then .error (failNext .badNumber (c :: rest))
    else match exponentDigits (digitValue c) rest with
      | .ok (e, rest) =>
        Scientific.float { s with power := if minus then s.power - e else s.power + e } negative
          rest
      | .error rest =>
        if s.significand ≠ 0 ∧ !minus then .error (failHere .numberTooLarge rest)
        else .ok (.float negative ⟨0, -1074⟩, rest.dropWhile isDigit)

/-! ## Numbers -/

/-- A whole number, or the float that stands for one that does not fit 64 bits; `-0` is a float. -/
def wholeNumber (negative : Bool) (s : Scientific) (rest : List Char) : Read Number :=
  if s.power = 0 ∧ !negative then .ok (.whole s.significand, rest)
  else if s.power = 0 ∧ 0 < s.significand ∧ s.significand ≤ 0x8000000000000000 then
    .ok (.whole (-s.significand), rest)
  else s.float negative rest

/-- Reads a number, after its minus sign if it has one. -/
def number (negative : Bool) (cs : List Char) : Read Number :=
  let whole := cs.takeWhile isDigit
  let rest := cs.dropWhile isDigit
  match whole with
  | [] => .error (if cs.isEmpty then failEnd .endInValue else failNext .badNumber cs)
  | '0' :: d :: ds => .error (failNext .badNumber (d :: ds ++ rest))
  | whole =>
    match rest with
    | '.' :: rest =>
      let fraction := rest.takeWhile isDigit
      let tail := rest.dropWhile isDigit
      if fraction.isEmpty then
        .error (if rest.isEmpty then failEnd .endInValue else failNext .badNumber rest)
      else
        let s := Scientific.ofDigits whole fraction
        match tail with
        | 'e' :: tail | 'E' :: tail => exponent s negative tail
        | tail => s.float negative tail
    | 'e' :: rest | 'E' :: rest => exponent (Scientific.ofDigits whole []) negative rest
    | rest => wholeNumber negative (Scientific.ofDigits whole []) rest

end Epilogue.Json
