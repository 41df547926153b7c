import Epilogue.Json.Read

/-!
# Epilogue — reading JSON strings

A string is read after its opening quote, through the closing one. A character above the basic plane
may be written as two escapes, the halves of a surrogate pair; one half alone is refused.

* `Json.escape` — an escape, after its backslash;
* `Json.string` — a string.
-/

namespace Epilogue.Json

/-! ## Escapes by code -/

/-- The value of a hexadecimal digit of either case. -/
def hexValue? (c : Char) : Option Nat :=
  if '0' ≤ c ∧ c ≤ '9' then some (c.toNat - 48)
  else if 'a' ≤ c ∧ c ≤ 'f' then some (c.toNat - 87)
  else if 'A' ≤ c ∧ c ≤ 'F' then some (c.toNat - 55)
  else none

/-- The number that four hexadecimal digits write. -/
def hexValue4? (a b c d : Char) : Option Nat := do
  let a ← hexValue? a
  let b ← hexValue? b
  let c ← hexValue? c
  let d ← hexValue? d
  return ((a * 16 + b) * 16 + c) * 16 + d

/-- Reads four hexadecimal digits. Four bytes are taken whatever they are. -/
def unit16 : List Char → Read Nat
  | a :: b :: c :: d :: rest =>
    match hexValue4? a b c d with
    | some n => .ok (n, rest)
    | none => .error ⟨.badEscape, byteLength (a :: b :: c :: d :: rest) - 4⟩
  | cs =>
    if byteLength cs < 4 then .error (failEnd .endInString)
    else .error ⟨.badEscape, byteLength cs - 4⟩

/-- A leading half of a surrogate pair. -/
def isLeading (n : Nat) : Bool := 0xD800 ≤ n && n ≤ 0xDBFF

/-- A trailing half of a surrogate pair. -/
def isTrailing (n : Nat) : Bool := 0xDC00 ≤ n && n ≤ 0xDFFF

/-- The code point of a surrogate pair. -/
def joinPair (leading trailing : Nat) : Nat :=
  (leading - 0xD800) * 0x400 + (trailing - 0xDC00) + 0x10000

/-- Reads the second half of a surrogate pair, an escape of its own. -/
def trailingHalf (leading : Nat) : List Char → Read Char
  | [] => .error (failEnd .endInString)
  | c :: rest =>
    if c ≠ '\\' then .error (failNext .brokenPair (c :: rest))
    else match rest with
      | [] => .error (failEnd .endInString)
      | u :: rest =>
        if u ≠ 'u' then .error (failNext .brokenPair (u :: rest))
        else andThen (unit16 rest) fun n rest =>
          if isTrailing n then .ok (Char.ofNat (joinPair leading n), rest)
          else .error (failHere .loneSurrogate rest)

/-- Reads a character written by its code, after the letter `u`. -/
def unicodeEscape (cs : List Char) : Read Char :=
  andThen (unit16 cs) fun n rest =>
    if isTrailing n then .error (failHere .loneSurrogate rest)
    else if isLeading n then trailingHalf n rest
    else .ok (Char.ofNat n, rest)

/-! ## Escapes -/

/-- The character that an escape of one letter stands for. -/
def letterEscape? (c : Char) : Option Char :=
  match c with
  | '"' => some '"'
  | '\\' => some '\\'
  | '/' => some '/'
  | 'b' => some '\x08'
  | 'f' => some '\x0c'
  | 'n' => some '\n'
  | 'r' => some '\r'
  | 't' => some '\t'
  | _ => none

/-- Reads an escape, after its backslash. -/
def escape : List Char → Read Char
  | [] => .error (failEnd .endInString)
  | c :: rest =>
    if c = 'u' then unicodeEscape rest
    else match letterEscape? c with
      | some d => .ok (d, rest)
      | none => .error (failNext .badEscape (c :: rest))

theorem unit16_length_lt {cs rest : List Char} {n : Nat} (h : unit16 cs = .ok (n, rest)) :
    rest.length < cs.length := by
  unfold unit16 at h
  split at h
  · split at h
    · cases h
      simp only [List.length_cons]
      omega
    · cases h
  · split at h <;> cases h

theorem trailingHalf_length_lt {n : Nat} {cs rest : List Char} {c : Char}
    (h : trailingHalf n cs = .ok (c, rest)) : rest.length < cs.length := by
  unfold trailingHalf at h
  split at h
  · cases h
  · split at h
    · cases h
    · split at h
      · cases h
      · split at h
        · cases h
        · obtain ⟨m, tail, hu, h⟩ := andThen_eq_ok.mp h
          have hlt := unit16_length_lt hu
          split at h
          · simp only [Except.ok.injEq, Prod.mk.injEq] at h
            simp only [List.length_cons, ← h.2]
            omega
          · cases h

theorem unicodeEscape_length_lt {cs rest : List Char} {c : Char}
    (h : unicodeEscape cs = .ok (c, rest)) : rest.length < cs.length := by
  obtain ⟨n, tail, hu, h⟩ := andThen_eq_ok.mp h
  have hlt := unit16_length_lt hu
  split at h
  · cases h
  · split at h
    · exact Nat.lt_trans (trailingHalf_length_lt h) hlt
    · simp only [Except.ok.injEq, Prod.mk.injEq] at h
      exact h.2 ▸ hlt

theorem escape_length_lt {cs rest : List Char} {c : Char} (h : escape cs = .ok (c, rest)) :
    rest.length < cs.length := by
  unfold escape at h
  split at h
  · cases h
  · split at h
    · exact Nat.lt_succ_of_lt (unicodeEscape_length_lt h)
    · split at h
      · cases h
        exact Nat.lt_succ_self _
      · cases h

/-! ## Strings -/

/-- Reads a string, after its opening quote. -/
def string : List Char → Read (List Char)
  | [] => .error (failEnd .endInString)
  | c :: rest =>
    if c = '"' then .ok ([], rest)
    else if c = '\\' then
      match _h : escape rest with
      | .error e => .error e
      | .ok (d, tail) => (string tail).map fun r => (d :: r.1, r.2)
    else if c.toNat < 0x20 then .error (failHere .controlInString rest)
    else (string rest).map fun r => (c :: r.1, r.2)
  termination_by cs => cs.length
  decreasing_by
    · exact Nat.lt_succ_of_lt (escape_length_lt _h)
    · exact Nat.lt_succ_self _

end Epilogue.Json
