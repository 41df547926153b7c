import Epilogue.Proofs.Text.RoundTrip

/-!
# Epilogue — bytes that are text

Bytes are valid if they encode some characters. The reader takes each piece as a character only if
the bytes of the piece are those that are written for it: the bounds on the second byte leave out
overlong forms, surrogates and what lies above U+10FFFF. So it accepts valid bytes and no others,
and text that is read with replacements is written back as it was only if there was nothing to
replace.

* `Utf8.Valid` — bytes that encode some characters.

Main results:

* `Utf8.piece_sound` — a piece that is a character is what is written for it;
* `Utf8.valid_iff_decode?` — the reader that refuses broken runs accepts valid bytes and no others;
* `Utf8.encode_decodeLossy_iff` — bytes come back from the text that is read of them if they are
  valid.
-/

namespace Epilogue.Utf8

/-- Bytes that encode some characters. -/
def Valid (bs : Bytes) : Prop := ∃ cs, bs = encodeChars cs

theorem valid_encode (s : String) : Valid (encode s) := ⟨s.toList, rfl⟩

theorem encode_ofList (cs : List Char) : encode (String.ofList cs) = encodeChars cs := by
  rw [encode, String.toList_ofList]

/-! ## Continuation bytes -/

/-- Every byte is that of some number. -/
theorem exists_ofNat (b : UInt8) : ∃ n < 256, b = UInt8.ofNat n :=
  ⟨b.toNat, b.toNat_lt, (UInt8.ofNat_toNat).symm⟩

variable {lo hi : UInt8} {code due : Nat} {rest tail : Bytes} {c : Char}

/-- A continuation byte that is taken gives six bits, within its bounds. -/
theorem exists_of_continuation (hlo : 0x80 ≤ lo) (hhi : hi ≤ 0xBF)
    (h : continuation (due + 1) code lo hi rest = (some c, tail)) :
    ∃ n rest', n < 64 ∧ lo.toNat ≤ n + 128 ∧ n + 128 ≤ hi.toNat ∧
      rest = UInt8.ofNat (n + 128) :: rest' ∧
      continuation due (code * 64 + n) 0x80 0xBF rest' = (some c, tail) := by
  have hlo' : 128 ≤ lo.toNat := UInt8.le_iff_toNat_le.mp hlo
  have hhi' : hi.toNat ≤ 191 := UInt8.le_iff_toNat_le.mp hhi
  cases rest with
  | nil => cases h
  | cons b rest' =>
    obtain ⟨m, hm, rfl⟩ := exists_ofNat b
    simp only [continuation, le_ofNat hm, ofNat_le hm, toNat_ofNat_lt hm] at h
    split at h
    · -- the six bits are what the byte has above 80
      next hb =>
      have hmod : m % 64 = m - 128 := by omega
      have hsum : m - 128 + 128 = m := by omega
      rw [hmod] at h
      exact ⟨m - 128, rest', by omega, by omega, by omega, by rw [hsum], h⟩
    · cases h

/-- Past the second byte the bounds are those of every continuation byte. -/
theorem exists_of_continuation_next
    (h : continuation (due + 1) code 0x80 0xBF rest = (some c, tail)) :
    ∃ n rest', n < 64 ∧ rest = UInt8.ofNat (n + 128) :: rest' ∧
      continuation due (code * 64 + n) 0x80 0xBF rest' = (some c, tail) := by
  obtain ⟨n, rest', hn, -, -, hrest, h⟩ := exists_of_continuation (by decide) (by decide) h
  exact ⟨n, rest', hn, hrest, h⟩

theorem continuation_zero (h : continuation 0 code lo hi rest = (some c, tail)) :
    c = Char.ofNat code ∧ rest = tail := by
  rw [continuation] at h
  cases h
  exact ⟨rfl, rfl⟩

/-! ## Characters of several bytes -/

/-- What is written for a character, by its number. -/
theorem encodeChar_ofNat {n : Nat} (h : n < 0xD800 ∨ 0xE000 ≤ n ∧ n < 0x110000) :
    String.utf8EncodeChar (Char.ofNat n) =
      if n ≤ 127 then [UInt8.ofNat n]
      else if n ≤ 2047 then [UInt8.ofNat (n / 64 % 32 + 192), UInt8.ofNat (n % 64 + 128)]
      else if n ≤ 65535 then
        [UInt8.ofNat (n / 4096 % 16 + 224), UInt8.ofNat (n / 64 % 64 + 128),
          UInt8.ofNat (n % 64 + 128)]
      else
        [UInt8.ofNat (n / 262144 % 8 + 240), UInt8.ofNat (n / 4096 % 64 + 128),
          UInt8.ofNat (n / 64 % 64 + 128), UInt8.ofNat (n % 64 + 128)] := by
  have hn : (Char.ofNat n).val.toNat = n := toNat_ofNat_of_scalar h
  unfold String.utf8EncodeChar
  rw [hn]

/-- A scalar value that is read from two bytes has these for its encoding. -/
theorem continuation_one_sound {a : Nat} (ha : 2 ≤ a ∧ a < 32)
    (h : continuation 1 a 0x80 0xBF rest = (some c, tail)) :
    UInt8.ofNat (a + 192) :: rest = String.utf8EncodeChar c ++ tail := by
  obtain ⟨b, rest₁, hb, rfl, hlast⟩ := exists_of_continuation_next h
  obtain ⟨rfl, rfl⟩ := continuation_zero hlast
  have h1 : (a * 64 + b) / 64 % 32 = a := by omega
  have h2 : (a * 64 + b) % 64 = b := by omega
  rw [encodeChar_ofNat (by omega), if_neg (by omega), if_pos (by omega), h1, h2]
  rfl

/-- Of three bytes the second one is bounded where the first would allow a shorter form or a
surrogate. -/
theorem continuation_two_sound {a : Nat} (ha : a < 16) (hlo : 0x80 ≤ lo) (hhi : hi ≤ 0xBF)
    (hlong : a = 0 → lo = 0xA0) (hscalar : a = 13 → hi = 0x9F)
    (h : continuation 2 a lo hi rest = (some c, tail)) :
    UInt8.ofNat (a + 224) :: rest = String.utf8EncodeChar c ++ tail := by
  obtain ⟨b, rest₁, hb, hblo, hbhi, rfl, hsecond⟩ := exists_of_continuation hlo hhi h
  obtain ⟨d, rest₂, hd, rfl, hlast⟩ := exists_of_continuation_next hsecond
  obtain ⟨rfl, rfl⟩ := continuation_zero hlast
  -- so the number needs three bytes, and it is no surrogate
  have hlong' : a = 0 → 32 ≤ b := by
    intro h0
    rw [hlong h0] at hblo
    have h160 : (0xA0 : UInt8).toNat = 160 := rfl
    omega
  have hscalar' : a = 13 → b < 32 := by
    intro h13
    rw [hscalar h13] at hbhi
    have h159 : (0x9F : UInt8).toNat = 159 := rfl
    omega
  have h1 : ((a * 64 + b) * 64 + d) / 4096 % 16 = a := by omega
  have h2 : ((a * 64 + b) * 64 + d) / 64 % 64 = b := by omega
  have h3 : ((a * 64 + b) * 64 + d) % 64 = d := by omega
  rw [encodeChar_ofNat (by omega), if_neg (by omega), if_neg (by omega), if_pos (by omega), h1, h2,
    h3]
  rfl

/-- Of four bytes the second one is bounded where the first would allow a shorter form or a number
that is too great. -/
theorem continuation_three_sound {a : Nat} (ha : a < 5) (hlo : 0x80 ≤ lo) (hhi : hi ≤ 0xBF)
    (hlong : a = 0 → lo = 0x90) (hscalar : a = 4 → hi = 0x8F)
    (h : continuation 3 a lo hi rest = (some c, tail)) :
    UInt8.ofNat (a + 240) :: rest = String.utf8EncodeChar c ++ tail := by
  obtain ⟨b, rest₁, hb, hblo, hbhi, rfl, hsecond⟩ := exists_of_continuation hlo hhi h
  obtain ⟨d, rest₂, hd, rfl, hthird⟩ := exists_of_continuation_next hsecond
  obtain ⟨e, rest₃, he, rfl, hlast⟩ := exists_of_continuation_next hthird
  obtain ⟨rfl, rfl⟩ := continuation_zero hlast
  -- so the number needs four bytes, and it is that of a character
  have hlong' : a = 0 → 16 ≤ b := by
    intro h0
    rw [hlong h0] at hblo
    have h144 : (0x90 : UInt8).toNat = 144 := rfl
    omega
  have hscalar' : a = 4 → b < 16 := by
    intro h4
    rw [hscalar h4] at hbhi
    have h143 : (0x8F : UInt8).toNat = 143 := rfl
    omega
  have h1 : (((a * 64 + b) * 64 + d) * 64 + e) / 262144 % 8 = a := by omega
  have h2 : (((a * 64 + b) * 64 + d) * 64 + e) / 4096 % 64 = b := by omega
  have h3 : (((a * 64 + b) * 64 + d) * 64 + e) / 64 % 64 = d := by omega
  have h4 : (((a * 64 + b) * 64 + d) * 64 + e) % 64 = e := by omega
  rw [encodeChar_ofNat (by omega), if_neg (by omega), if_neg (by omega), if_neg (by omega), h1, h2,
    h3,
    h4]
  rfl

/-! ## Pieces -/

/-- A piece that is a character is what is written for it. -/
theorem piece_sound {lead : UInt8} (h : piece lead rest = (some c, tail)) :
    lead :: rest = String.utf8EncodeChar c ++ tail := by
  obtain ⟨n, hn, rfl⟩ := exists_ofNat lead
  -- the number of a leading byte, from the bits that it gives
  have hlead {a base : Nat} (hbase : n = a + base)
      (hsound : UInt8.ofNat (a + base) :: rest = String.utf8EncodeChar c ++ tail) :
      UInt8.ofNat n :: rest = String.utf8EncodeChar c ++ tail := by
    rwa [hbase]
  rw [piece_ofNat hn] at h
  split at h
  · next h1 =>
    cases h
    rw [encodeChar_ofNat (by omega), if_pos (by omega)]
    rfl
  split at h
  · exact hlead (by omega) (continuation_one_sound (by omega) h)
  -- three bytes: the shortest of them, those before the surrogates, and the others
  split at h
  · next h224 =>
    exact hlead h224
      (continuation_two_sound (by decide) (by decide) (by decide) (fun _ => rfl) nofun h)
  split at h
  · next h237 =>
    exact hlead h237
      (continuation_two_sound (by decide) (by decide) (by decide) nofun (fun _ => rfl) h)
  split at h
  · exact hlead (by omega)
      (continuation_two_sound (by omega) (by decide) (by decide) (by omega) (by omega) h)
  -- four bytes: the shortest of them, the last that there are, and the others
  split at h
  · next h240 =>
    exact hlead h240
      (continuation_three_sound (by decide) (by decide) (by decide) (fun _ => rfl) nofun h)
  split at h
  · next h244 =>
    exact hlead h244
      (continuation_three_sound (by decide) (by decide) (by decide) nofun (fun _ => rfl) h)
  split at h
  · exact hlead (by omega)
      (continuation_three_sound (by omega) (by decide) (by decide) (by omega) (by omega) h)
  · cases h

/-! ## Texts -/

/-- Bytes whose pieces are all characters are the encoding of these characters. -/
theorem encodeChars_of_pieces {bs : Bytes} {cs : List Char} (h : pieces bs = cs.map some) :
    bs = encodeChars cs := by
  fun_induction pieces bs generalizing cs with
  | case1 =>
    cases cs with
    | nil => rfl
    | cons => cases h
  | case2 lead rest ih =>
    cases cs with
    | nil => cases h
    | cons c cs =>
      rw [List.map_cons, List.cons.injEq] at h
      have hpiece : piece lead rest = (some c, (piece lead rest).2) := by rw [← h.1]
      rw [piece_sound hpiece, ih h.2]
      rfl

theorem mapM_id_eq_some {α : Type} {l : List (Option α)} {xs : List α} (h : l.mapM id = some xs) :
    l = xs.map some := by
  induction l generalizing xs with
  | nil =>
    cases h
    rfl
  | cons x l ih =>
    simp only [List.mapM_cons, id_eq, Option.bind_eq_bind, Option.bind_eq_some_iff] at h
    obtain ⟨y, rfl, ys, hys, hxs⟩ := h
    obtain rfl : y :: ys = xs := Option.some.inj hxs
    rw [ih hys, List.map_cons]

/-- The reader that refuses broken runs accepts valid bytes and no others. -/
theorem valid_iff_decode? {bs : Bytes} : Valid bs ↔ (decode? bs).isSome = true := by
  constructor
  · rintro ⟨cs, rfl⟩
    rw [← encode_ofList, decode?_encode]
    rfl
  · intro h
    rw [decode?, Option.isSome_map] at h
    obtain ⟨cs, hcs⟩ := Option.isSome_iff_exists.mp h
    exact ⟨cs, encodeChars_of_pieces (mapM_id_eq_some hcs)⟩

/-- Bytes come back from the text that is read of them, with replacements, exactly if they are
valid. -/
theorem encode_decodeLossy_iff {bs : Bytes} : encode (decodeLossy bs) = bs ↔ Valid bs := by
  constructor
  · intro h
    rw [← h]
    exact valid_encode _
  · rintro ⟨cs, rfl⟩
    rw [← encode_ofList, decodeLossy_encode]

end Epilogue.Utf8
