/-!
# Epilogue — bytes and text

Text travels as UTF-8. Writing it is total; bytes that come from outside are read in *pieces*, each
a scalar value or a broken run: the longest run of bytes that begins the encoding of some scalar
value and does not complete it, or a single byte if there is none.

* `Utf8.encode` — the bytes of a text;
* `Utf8.dropBytes`, `Utf8.takeBytes`, `Utf8.straddled?` — a text cut by a count of bytes;
* `Utf8.decode?` — the text, if every piece is a scalar value;
* `Utf8.decodeLossy` — the text with U+FFFD in the place of each broken run.
-/

namespace Epilogue

/-- A sequence of bytes. -/
abbrev Bytes := List UInt8

namespace Utf8

/-- The bytes of a list of characters. -/
def encodeChars (cs : List Char) : Bytes := cs.flatMap String.utf8EncodeChar

/-- The bytes of a text. -/
def encode (s : String) : Bytes := encodeChars s.toList

/-- The characters that begin after so many bytes or later. -/
def dropBytes : (count : Nat) → List Char → List Char
  | 0, cs => cs
  | _ + 1, [] => []
  | n + 1, c :: cs => dropBytes (n + 1 - c.utf8Size) cs

/-- The characters that begin within so many bytes. -/
def takeBytes : (count : Nat) → List Char → List Char
  | 0, _ => []
  | _ + 1, [] => []
  | n + 1, c :: cs => c :: takeBytes (n + 1 - c.utf8Size) cs

/-- The character that the place before byte `i` is inside of, and the byte at which it begins;
`first` is the byte at which the text begins. -/
def straddled? (i : Nat) : (first : Nat) → List Char → Option (Char × Nat)
  | _, [] => none
  | first, c :: cs =>
    if i ≤ first then none
    else if i < first + c.utf8Size then some (c, first)
    else straddled? i (first + c.utf8Size) cs

/-- Reads the `due` continuation bytes of a scalar value whose leading bits are `code`. The next one
must lie between `lo` and `hi`, later ones anywhere between 80 and BF. -/
def continuation : (due : Nat) → (code : Nat) → (lo hi : UInt8) → Bytes → Option Char × Bytes
  | 0, code, _, _, rest => (some (Char.ofNat code), rest)
  | _ + 1, _, _, _, [] => (none, [])
  | due + 1, code, lo, hi, b :: rest =>
    if lo ≤ b ∧ b ≤ hi then continuation due (code * 64 + b.toNat % 64) 0x80 0xBF rest
    else (none, b :: rest)

/-- The piece that a byte begins, `none` for a broken run, and the bytes after it. The bounds on the
second byte keep out overlong forms, surrogates and what lies above U+10FFFF. -/
def piece (lead : UInt8) (rest : Bytes) : Option Char × Bytes :=
  if lead < 0x80 then (some (Char.ofNat lead.toNat), rest)
  else if 0xC2 ≤ lead ∧ lead ≤ 0xDF then continuation 1 (lead.toNat % 32) 0x80 0xBF rest
  else if lead = 0xE0 then continuation 2 0 0xA0 0xBF rest
  else if lead = 0xED then continuation 2 13 0x80 0x9F rest
  else if 0xE1 ≤ lead ∧ lead ≤ 0xEF then continuation 2 (lead.toNat % 16) 0x80 0xBF rest
  else if lead = 0xF0 then continuation 3 0 0x90 0xBF rest
  else if lead = 0xF4 then continuation 3 4 0x80 0x8F rest
  else if 0xF1 ≤ lead ∧ lead ≤ 0xF3 then continuation 3 (lead.toNat % 8) 0x80 0xBF rest
  else (none, rest)

theorem continuation_length_le (due code : Nat) (lo hi : UInt8) (rest : Bytes) :
    (continuation due code lo hi rest).2.length ≤ rest.length := by
  fun_induction continuation due code lo hi rest with
  | case1 => exact Nat.le_refl _
  | case2 => exact Nat.le_refl _
  | case3 _ _ _ _ _ _ _ ih => exact Nat.le_succ_of_le ih
  | case4 => exact Nat.le_refl _

theorem piece_length_le (lead : UInt8) (rest : Bytes) :
    (piece lead rest).2.length ≤ rest.length := by
  unfold piece
  (repeat' split) <;> simp [continuation_length_le]

/-- The pieces of a sequence of bytes, a broken run as `none`. -/
def pieces : Bytes → List (Option Char)
  | [] => []
  | lead :: rest => (piece lead rest).1 :: pieces (piece lead rest).2
  termination_by bs => bs.length
  decreasing_by exact Nat.lt_succ_of_le (piece_length_le lead rest)

/-- The text that the bytes encode, if they encode one. -/
def decode? (bs : Bytes) : Option String := ((pieces bs).mapM id).map String.ofList

/-- The text of the bytes, each broken run replaced by U+FFFD. -/
def decodeLossy (bs : Bytes) : String := String.ofList ((pieces bs).map (·.getD '\uFFFD'))

end Utf8

end Epilogue
