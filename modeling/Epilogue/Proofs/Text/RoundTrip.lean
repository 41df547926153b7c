import Epilogue.Text.Utf8

/-!
# Epilogue — text through its bytes

The bytes of a text are read back piece by piece, and each piece is the character that was written.
The reader has one case for each kind of leading byte, with bounds on the byte after it; the writer
has one for each length. The bounds are met because a character is neither a surrogate nor above
U+10FFFF, and because the writer never uses more bytes than it needs.

Main results:

* `Utf8.piece_encodeChar` — the first piece of an encoded character is that character;
* `Utf8.decode?_encode`, `Utf8.decodeLossy_encode` — a text is read back from its bytes, by the
  reader that refuses broken runs and by the one that replaces them.
-/

namespace Epilogue

/-- A code point outside the surrogates is a character. -/
theorem toNat_ofNat_of_scalar {n : Nat} (h : n < 0xD800 ∨ 0xE000 ≤ n ∧ n < 0x110000) :
    (Char.ofNat n).toNat = n := by
  have hv : n.isValidChar := by
    rcases h with h | h
    · exact .inl h
    · exact .inr ⟨by omega, h.2⟩
  rw [Char.ofNat, dif_pos hv]
  rfl

namespace Utf8

/-! ## Bytes as numbers -/

section Number

variable {n : Nat} (hn : n < 256) (b : UInt8)

include hn

theorem toNat_ofNat_lt : (UInt8.ofNat n).toNat = n := by
  rw [UInt8.toNat_ofNat', Nat.mod_eq_of_lt hn]

theorem ofNat_lt : UInt8.ofNat n < b ↔ n < b.toNat := by
  rw [UInt8.lt_iff_toNat_lt, toNat_ofNat_lt hn]

theorem ofNat_le : UInt8.ofNat n ≤ b ↔ n ≤ b.toNat := by
  rw [UInt8.le_iff_toNat_le, toNat_ofNat_lt hn]

theorem le_ofNat : b ≤ UInt8.ofNat n ↔ b.toNat ≤ n := by
  rw [UInt8.le_iff_toNat_le, toNat_ofNat_lt hn]

theorem ofNat_eq : UInt8.ofNat n = b ↔ n = b.toNat := by
  rw [← UInt8.toNat_inj, toNat_ofNat_lt hn]

/-- The kinds of leading bytes, told apart by numbers. -/
theorem piece_ofNat (rest : Bytes) :
    piece (UInt8.ofNat n) rest =
      if n < 128 then (some (Char.ofNat n), rest)
      else if 194 ≤ n ∧ n ≤ 223 then continuation 1 (n % 32) 0x80 0xBF rest
      else if n = 224 then continuation 2 0 0xA0 0xBF rest
      else if n = 237 then continuation 2 13 0x80 0x9F rest
      else if 225 ≤ n ∧ n ≤ 239 then continuation 2 (n % 16) 0x80 0xBF rest
      else if n = 240 then continuation 3 0 0x90 0xBF rest
      else if n = 244 then continuation 3 4 0x80 0x8F rest
      else if 241 ≤ n ∧ n ≤ 243 then continuation 3 (n % 8) 0x80 0xBF rest
      else (none, rest) := by
  simp only [piece, ofNat_lt hn, ofNat_le hn, le_ofNat hn, ofNat_eq hn, toNat_ofNat_lt hn]
  rfl

end Number

/-! ## Pieces -/

/-- A continuation byte within its bounds gives six more bits. -/
theorem continuation_step {lo hi : UInt8} {n : Nat} (hn : n < 64) (hlo : lo.toNat ≤ n + 128)
    (hhi : n + 128 ≤ hi.toNat) (due code : Nat) (rest : Bytes) :
    continuation (due + 1) code lo hi (UInt8.ofNat (n + 128) :: rest) =
      continuation due (code * 64 + n) 0x80 0xBF rest := by
  have hb : n + 128 < 256 := by omega
  have hm : (n + 128) % 64 = n := by omega
  rw [continuation, if_pos ⟨(le_ofNat hb lo).mpr hlo, (ofNat_le hb hi).mpr hhi⟩,
    toNat_ofNat_lt hb, hm]

/-- Past the second byte the bounds are those of every continuation byte. -/
theorem continuation_next {n : Nat} (hn : n < 64) (due code : Nat) (rest : Bytes) :
    continuation (due + 1) code 0x80 0xBF (UInt8.ofNat (n + 128) :: rest) =
      continuation due (code * 64 + n) 0x80 0xBF rest := by
  have hlo : (0x80 : UInt8).toNat ≤ n + 128 := Nat.le_add_left 128 n
  have hhi : n + 128 ≤ (0xBF : UInt8).toNat := by
    show n + 128 ≤ 191
    omega
  exact continuation_step hn hlo hhi due code rest

/-- A byte below 80 is a character. -/
theorem piece_one {n : Nat} (hn : n < 128) (rest : Bytes) :
    piece (UInt8.ofNat n) rest = (some (Char.ofNat n), rest) := by
  rw [piece_ofNat (by omega), if_pos hn]

/-- Two bytes encode what takes eleven bits. -/
theorem piece_two {a b : Nat} (ha : 2 ≤ a ∧ a < 32) (hb : b < 64) (rest : Bytes) :
    piece (UInt8.ofNat (a + 192)) (UInt8.ofNat (b + 128) :: rest) =
      (some (Char.ofNat (a * 64 + b)), rest) := by
  have hm : (a + 192) % 32 = a := by omega
  rw [piece_ofNat (by omega), if_neg (by omega), if_pos (by omega), continuation_next hb, hm]
  rfl

/-- Of three bytes the first two must not be those of a shorter form, nor of a surrogate. -/
theorem piece_three {a b c : Nat} (ha : a < 16) (hb : b < 64) (hc : c < 64)
    (hlong : a = 0 → 32 ≤ b) (hscalar : a = 13 → b < 32) (rest : Bytes) :
    piece (UInt8.ofNat (a + 224)) (UInt8.ofNat (b + 128) :: UInt8.ofNat (c + 128) :: rest) =
      (some (Char.ofNat ((a * 64 + b) * 64 + c)), rest) := by
  rw [piece_ofNat (by omega), if_neg (by omega), if_neg (by omega)]
  -- behind E0 and ED the second byte has bounds of its own
  by_cases h0 : a = 0
  · subst h0
    rw [if_pos rfl, continuation_step hb, continuation_next hc]
    · rfl
    · show 160 ≤ b + 128
      omega
    · show b + 128 ≤ 191
      omega
  · by_cases h13 : a = 13
    · subst h13
      rw [if_neg (by omega), if_pos rfl, continuation_step hb, continuation_next hc]
      · rfl
      · show 128 ≤ b + 128
        omega
      · show b + 128 ≤ 159
        omega
    · have hm : (a + 224) % 16 = a := by omega
      rw [if_neg (by omega), if_neg (by omega), if_pos (by omega), continuation_next hb,
        continuation_next hc, hm]
      rfl

/-- Of four bytes the first two must not be those of a shorter form, nor lie above U+10FFFF. -/
theorem piece_four {a b c d : Nat} (ha : a < 5) (hb : b < 64) (hc : c < 64) (hd : d < 64)
    (hlong : a = 0 → 16 ≤ b) (hscalar : a = 4 → b < 16) (rest : Bytes) :
    piece (UInt8.ofNat (a + 240))
        (UInt8.ofNat (b + 128) :: UInt8.ofNat (c + 128) :: UInt8.ofNat (d + 128) :: rest) =
      (some (Char.ofNat (((a * 64 + b) * 64 + c) * 64 + d)), rest) := by
  rw [piece_ofNat (by omega), if_neg (by omega), if_neg (by omega), if_neg (by omega),
    if_neg (by omega), if_neg (by omega)]
  -- behind F0 and F4 the second byte has bounds of its own
  by_cases h0 : a = 0
  · subst h0
    rw [if_pos rfl, continuation_step hb, continuation_next hc, continuation_next hd]
    · rfl
    · show 144 ≤ b + 128
      omega
    · show b + 128 ≤ 191
      omega
  · by_cases h4 : a = 4
    · subst h4
      rw [if_neg (by omega), if_pos rfl, continuation_step hb, continuation_next hc,
        continuation_next hd]
      · rfl
      · show 128 ≤ b + 128
        omega
      · show b + 128 ≤ 143
        omega
    · have hm : (a + 240) % 8 = a := by omega
      rw [if_neg (by omega), if_neg (by omega), if_pos (by omega), continuation_next hb,
        continuation_next hc, continuation_next hd, hm]
      rfl

/-! ## Characters -/

/-- The first piece of an encoded character is that character. -/
theorem piece_encodeChar (c : Char) (rest : Bytes) :
    ∃ lead tail, String.utf8EncodeChar c = lead :: tail ∧
      piece lead (tail ++ rest) = (some c, rest) := by
  -- a character is no surrogate and not above the last scalar value
  have hv : c.val.toNat < 55296 ∨ 57343 < c.val.toNat ∧ c.val.toNat < 1114112 := c.valid
  have hc : Char.ofNat c.val.toNat = c := Char.ofNat_toNat c
  unfold String.utf8EncodeChar
  generalize c.val.toNat = v at hv hc
  by_cases h1 : v ≤ 127
  · refine ⟨_, _, if_pos h1, ?_⟩
    rw [List.nil_append, piece_one (by omega), hc]
  · by_cases h2 : v ≤ 2047
    · refine ⟨_, _, (if_neg h1).trans (if_pos h2), ?_⟩
      have hd : v / 64 % 32 * 64 + v % 64 = v := by omega
      rw [List.cons_append, List.nil_append, piece_two (by omega) (by omega), hd, hc]
    · by_cases h3 : v ≤ 65535
      · refine ⟨_, _, (if_neg h1).trans ((if_neg h2).trans (if_pos h3)), ?_⟩
        have hd : (v / 4096 % 16 * 64 + v / 64 % 64) * 64 + v % 64 = v := by omega
        rw [List.cons_append, List.cons_append, List.nil_append,
          piece_three (by omega) (by omega) (by omega) (by omega) (by omega), hd, hc]
      · refine ⟨_, _, (if_neg h1).trans ((if_neg h2).trans (if_neg h3)), ?_⟩
        have hd : ((v / 262144 % 8 * 64 + v / 4096 % 64) * 64 + v / 64 % 64) * 64 + v % 64 = v := by
          omega
        rw [List.cons_append, List.cons_append, List.cons_append, List.nil_append,
          piece_four (by omega) (by omega) (by omega) (by omega) (by omega) (by omega), hd, hc]

/-- A byte below 80 encodes the character of its number and no other: the bytes of the longer forms
are all above. -/
theorem toNat_of_mem_encodeChar {c : Char} {b : UInt8} (h : b ∈ String.utf8EncodeChar c)
    (hb : b < 0x80) : c.toNat = b.toNat := by
  have hbyte {n : Nat} (hn : n < 256) (hbn : b = UInt8.ofNat n) : n = b.toNat ∧ n < 128 :=
    ⟨(ofNat_eq hn b).mp hbn.symm, (ofNat_lt hn 0x80).mp (hbn ▸ hb)⟩
  have hv : c.val.toNat < 55296 ∨ 57343 < c.val.toNat ∧ c.val.toNat < 1114112 := c.valid
  show c.val.toNat = b.toNat
  unfold String.utf8EncodeChar at h
  generalize c.val.toNat = v at h hv
  dsimp only at h
  -- one form after another; only the shortest has a byte that small
  split at h
  · rw [List.mem_singleton] at h
    exact (hbyte (by omega) h).1
  · split at h
    · simp only [List.mem_cons, List.not_mem_nil, or_false] at h
      rcases h with h | h <;> have := hbyte (by omega) h <;> omega
    · split at h
      · simp only [List.mem_cons, List.not_mem_nil, or_false] at h
        rcases h with h | h | h <;> have := hbyte (by omega) h <;> omega
      · simp only [List.mem_cons, List.not_mem_nil, or_false] at h
        rcases h with h | h | h | h <;> have := hbyte (by omega) h <;> omega

/-! ## Texts -/

/-- The pieces of encoded characters are these characters. -/
theorem pieces_encodeChars (cs : List Char) : pieces (encodeChars cs) = cs.map some := by
  induction cs with
  | nil => rw [encodeChars, List.flatMap_nil, pieces, List.map_nil]
  | cons c cs ih =>
    obtain ⟨lead, tail, hc, hp⟩ := piece_encodeChar c (encodeChars cs)
    have he : encodeChars (c :: cs) = lead :: (tail ++ encodeChars cs) := by
      rw [encodeChars, List.flatMap_cons, hc, List.cons_append, encodeChars]
    rw [he, pieces, hp, ih, List.map_cons]

/-- A text comes back from its bytes. -/
theorem decode?_encode (s : String) : decode? (encode s) = some s := by
  have hs (cs : List Char) : (cs.map some).mapM id = some cs := by
    induction cs with
    | nil => rfl
    | cons c cs ih =>
      rw [List.map_cons, List.mapM_cons, ih]
      rfl
  rw [decode?, encode, pieces_encodeChars, hs, Option.map_some, String.ofList_toList]

/-- A text is read back from its bytes, with nothing replaced. -/
theorem decodeLossy_encode (s : String) : decodeLossy (encode s) = s := by
  have hs : (s.toList.map some).map (·.getD '\uFFFD') = s.toList := by
    rw [List.map_map]
    exact List.map_id _
  rw [decodeLossy, encode, pieces_encodeChars, hs, String.ofList_toList]

end Utf8

end Epilogue
