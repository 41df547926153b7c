import Epilogue.Json.Quoted
import Epilogue.Json.Text
import Epilogue.Proofs.Text.RoundTrip

/-!
# Epilogue — what the characters of a JSON string spell

A text has many spellings as the inside of a JSON string: each of its characters may stand for
itself, or be written by a letter or by its code, and above the basic plane by the codes of the two
halves of a surrogate pair. The grammar here is stated on its own, over the written characters and
the characters that they mean. The reader accepts exactly what it derives.

* `IsHexDigit`, `IsUnit` — hexadecimal digits and the units of sixteen bits that four of them write;
* `Escapes` — what may follow a backslash, and the character that it stands for;
* `Spells` — the inside of a string and its text.

## Main results

* `escape_eq_ok_iff` — an escape is read if and only if it is one.
* `string_eq_ok_iff` — a string is read if and only if a spelling and a quote come first.
* `spells_quotedChar` — what is written for a character spells it.
-/

namespace Epilogue.Json

/-! ## The grammar -/

/-- The hexadecimal digits in lower case, each at the place of its value. -/
def lowerDigits : List Char :=
  ['0', '1', '2', '3', '4', '5', '6', '7', '8', '9', 'a', 'b', 'c', 'd', 'e', 'f']

/-- The hexadecimal digits in upper case. -/
def upperDigits : List Char :=
  ['0', '1', '2', '3', '4', '5', '6', '7', '8', '9', 'A', 'B', 'C', 'D', 'E', 'F']

/-- A hexadecimal digit of either case, and its value. -/
def IsHexDigit (c : Char) (n : Nat) : Prop := lowerDigits[n]? = some c ∨ upperDigits[n]? = some c

/-- Four hexadecimal digits, and the unit that they write. -/
def IsUnit (written : List Char) (n : Nat) : Prop :=
  ∃ a b c d i j k l, written = [a, b, c, d] ∧ IsHexDigit a i ∧ IsHexDigit b j ∧ IsHexDigit c k ∧
    IsHexDigit d l ∧ n = ((i * 16 + j) * 16 + k) * 16 + l

/-- The letters that may follow a backslash, each with the character that it stands for. -/
def escapeLetters : List (Char × Char) :=
  [('"', '"'), ('\\', '\\'), ('/', '/'), ('b', '\x08'), ('f', '\x0c'), ('n', '\n'), ('r', '\r'),
    ('t', '\t')]

/-- What may follow a backslash, and the character that it stands for. A unit that is half of a
surrogate pair is no character, so it stands for one only together with its other half. -/
inductive Escapes : List Char → Char → Prop
  | letter {l c : Char} (h : (l, c) ∈ escapeLetters) : Escapes [l] c
  | unit {w : List Char} {c : Char} (h : IsUnit w c.toNat) : Escapes ('u' :: w) c
  | pair {w w' : List Char} {hi lo : Nat} {c : Char} (h : IsUnit w hi) (h' : IsUnit w' lo)
      (leading : 0xD800 ≤ hi ∧ hi < 0xDC00) (trailing : 0xDC00 ≤ lo ∧ lo < 0xE000)
      (value : c.toNat = 0x10000 + (hi - 0xD800) * 0x400 + (lo - 0xDC00)) :
      Escapes ('u' :: (w ++ '\\' :: 'u' :: w')) c

/-- The inside of a string, and its text. -/
inductive Spells : List Char → List Char → Prop
  | nil : Spells [] []
  | plain {c : Char} {w m : List Char} (quote : c ≠ '"') (backslash : c ≠ '\\')
      (control : 0x20 ≤ c.toNat) (rest : Spells w m) : Spells (c :: w) (c :: m)
  | escaped {e : List Char} {c : Char} {w m : List Char} (h : Escapes e c) (rest : Spells w m) :
      Spells ('\\' :: e ++ w) (c :: m)

/-- Spellings of two texts, one after the other, spell the two texts. -/
theorem Spells.append {w w' m m' : List Char} (h : Spells w m) (h' : Spells w' m') :
    Spells (w ++ w') (m ++ m') := by
  induction h with
  | nil => exact h'
  | plain hq hb hc _ ih => exact .plain hq hb hc ih
  | escaped he _ ih =>
    rw [List.append_assoc]
    exact .escaped he ih

/-! ## Units -/

theorem eq_ofNat_of_toNat {c : Char} {n : Nat} (h : c.toNat = n) : c = Char.ofNat n := by
  rw [← h, Char.ofNat_toNat]

theorem IsHexDigit.lt {c : Char} {n : Nat} (h : IsHexDigit c n) : n < 16 := by
  rcases h with h | h
  · exact (List.getElem?_eq_some_iff.mp h).1
  · exact (List.getElem?_eq_some_iff.mp h).1

/-- The reader knows the hexadecimal digits of the grammar and no others. -/
theorem hexValue?_eq_some_iff {c : Char} {n : Nat} : hexValue? c = some n ↔ IsHexDigit c n := by
  -- the three ranges of digits, by their places in the lists
  have hdecimal : ∀ n < 10, lowerDigits[n]? = some (Char.ofNat (n + 48)) := by decide
  have hlower : ∀ n < 16, 10 ≤ n → lowerDigits[n]? = some (Char.ofNat (n + 87)) := by decide
  have hupper : ∀ n < 16, 10 ≤ n → upperDigits[n]? = some (Char.ofNat (n + 55)) := by decide
  constructor
  · intro h
    unfold hexValue? at h
    split at h
    · next hd =>
      have hlo : 48 ≤ c.toNat := hd.1
      have hhi : c.toNat ≤ 57 := hd.2
      have hn : c.toNat = n + 48 := by
        have := Option.some.inj h
        omega
      rw [eq_ofNat_of_toNat hn]
      exact .inl (hdecimal n (by omega))
    · split at h
      · next hd =>
        have hlo : 97 ≤ c.toNat := hd.1
        have hhi : c.toNat ≤ 102 := hd.2
        have hn : c.toNat = n + 87 := by
          have := Option.some.inj h
          omega
        rw [eq_ofNat_of_toNat hn]
        exact .inl (hlower n (by omega) (by omega))
      · split at h
        · next hd =>
          have hlo : 65 ≤ c.toNat := hd.1
          have hhi : c.toNat ≤ 70 := hd.2
          have hn : c.toNat = n + 55 := by
            have := Option.some.inj h
            omega
          rw [eq_ofNat_of_toNat hn]
          exact .inr (hupper n (by omega) (by omega))
        · cases h
  · intro h
    -- of the places in both lists, each holds a digit of its value
    have hread : ∀ n < 16, (lowerDigits[n]?.all fun c => hexValue? c == some n) = true ∧
        (upperDigits[n]?.all fun c => hexValue? c == some n) = true := by decide
    obtain ⟨hl, hu⟩ := hread n h.lt
    rcases h with h | h
    · rw [h] at hl
      exact eq_of_beq hl
    · rw [h] at hu
      exact eq_of_beq hu

theorem hexValue4?_eq_some {a b c d : Char} {n : Nat} (h : hexValue4? a b c d = some n) :
    IsUnit [a, b, c, d] n := by
  simp only [hexValue4?, Option.bind_eq_bind, Option.bind_eq_some_iff] at h
  obtain ⟨i, hi, j, hj, k, hk, l, hl, h⟩ := h
  have hn : ((i * 16 + j) * 16 + k) * 16 + l = n := Option.some.inj h
  exact ⟨a, b, c, d, i, j, k, l, rfl, hexValue?_eq_some_iff.mp hi, hexValue?_eq_some_iff.mp hj,
    hexValue?_eq_some_iff.mp hk, hexValue?_eq_some_iff.mp hl, hn.symm⟩

/-- The reader takes a unit off the front exactly if there is one. -/
theorem unit16_eq_ok_iff {cs rest : List Char} {n : Nat} :
    unit16 cs = .ok (n, rest) ↔ ∃ w, IsUnit w n ∧ cs = w ++ rest := by
  constructor
  · intro h
    unfold unit16 at h
    split at h
    · next a b c d rest' =>
      split at h
      · next m hm =>
        cases h
        exact ⟨[a, b, c, d], hexValue4?_eq_some hm, rfl⟩
      · cases h
    · split at h <;> cases h
  · rintro ⟨w, ⟨a, b, c, d, i, j, k, l, rfl, hi, hj, hk, hl, rfl⟩, rfl⟩
    rw [← hexValue?_eq_some_iff] at hi hj hk hl
    have hv : hexValue4? a b c d = some (((i * 16 + j) * 16 + k) * 16 + l) := by
      rw [hexValue4?, hi, hj, hk, hl]
      rfl
    rw [List.cons_append, List.cons_append, List.cons_append, List.cons_append, List.nil_append,
      unit16, hv]

theorem IsUnit.lt {w : List Char} {n : Nat} (h : IsUnit w n) : n < 0x10000 := by
  obtain ⟨a, b, c, d, i, j, k, l, -, hi, hj, hk, hl, rfl⟩ := h
  have := hi.lt
  have := hj.lt
  have := hk.lt
  have := hl.lt
  omega

/-! ## Escapes -/

/-- No character is half of a surrogate pair. -/
theorem toNat_not_surrogate (c : Char) : c.toNat < 0xD800 ∨ 0xE000 ≤ c.toNat := by
  have hv : c.toNat < 0xD800 ∨ 0xDFFF < c.toNat ∧ c.toNat < 0x110000 := c.valid
  omega

/-- The reader knows the escape letters of the grammar. -/
theorem letterEscape?_eq_some_iff {l c : Char} :
    letterEscape? l = some c ↔ (l, c) ∈ escapeLetters := by
  constructor
  · intro h
    unfold letterEscape? at h
    split at h
    all_goals first | (cases h; decide) | cases h
  · intro h
    simp only [escapeLetters, List.mem_cons, Prod.mk.injEq, List.not_mem_nil, or_false] at h
    rcases h with ⟨rfl, rfl⟩ | ⟨rfl, rfl⟩ | ⟨rfl, rfl⟩ | ⟨rfl, rfl⟩ | ⟨rfl, rfl⟩ | ⟨rfl, rfl⟩ |
      ⟨rfl, rfl⟩ | ⟨rfl, rfl⟩ <;> rfl

theorem isLeading_iff {n : Nat} : isLeading n = true ↔ 0xD800 ≤ n ∧ n < 0xDC00 := by
  rw [isLeading, Bool.and_eq_true, decide_eq_true_eq, decide_eq_true_eq]
  omega

theorem isTrailing_iff {n : Nat} : isTrailing n = true ↔ 0xDC00 ≤ n ∧ n < 0xE000 := by
  rw [isTrailing, Bool.and_eq_true, decide_eq_true_eq, decide_eq_true_eq]
  omega

/-- The second half of a pair makes a character of the first. -/
theorem trailingHalf_eq_ok_iff {hi : Nat} (hl : 0xD800 ≤ hi ∧ hi < 0xDC00) {cs rest : List Char}
    {c : Char} :
    trailingHalf hi cs = .ok (c, rest) ↔
      ∃ w lo, IsUnit w lo ∧ (0xDC00 ≤ lo ∧ lo < 0xE000) ∧
        c.toNat = 0x10000 + (hi - 0xD800) * 0x400 + (lo - 0xDC00) ∧
        cs = '\\' :: 'u' :: (w ++ rest) := by
  constructor
  · -- one refusal after another is passed: no backslash, no letter, no unit, no second half
    intro h
    unfold trailingHalf at h
    split at h
    · cases h
    · split at h
      · cases h
      · next hb =>
        obtain rfl := Decidable.not_not.mp hb
        split at h
        · cases h
        · split at h
          · cases h
          · next hu =>
            obtain rfl := Decidable.not_not.mp hu
            obtain ⟨lo, tail, hunit, h⟩ := andThen_eq_ok.mp h
            obtain ⟨w, hw, hcs⟩ := unit16_eq_ok_iff.mp hunit
            split at h
            · next ht =>
              simp only [Except.ok.injEq, Prod.mk.injEq] at h
              obtain ⟨rfl, rfl⟩ := h
              rw [isTrailing_iff] at ht
              refine ⟨w, lo, hw, ht, ?_, by rw [hcs]⟩
              rw [joinPair, toNat_ofNat_of_scalar (by omega)]
              omega
            · cases h
  · rintro ⟨w, lo, hw, ht, hc, rfl⟩
    have hread : unit16 (w ++ rest) = .ok (lo, rest) := unit16_eq_ok_iff.mpr ⟨w, hw, rfl⟩
    have hjoin : joinPair hi lo = c.toNat := by
      rw [hc, joinPair]
      omega
    rw [trailingHalf, if_neg (Decidable.not_not.mpr rfl)]
    simp only [ne_eq, not_true_eq_false, if_false]
    rw [hread, andThen_ok, if_pos (isTrailing_iff.mpr ht), hjoin, Char.ofNat_toNat]

/-- The reader takes an escape in units off the front exactly if the grammar has it: a unit that is
no half, or two halves. -/
theorem unicodeEscape_eq_ok_iff {cs rest : List Char} {c : Char} :
    unicodeEscape cs = .ok (c, rest) ↔ ∃ w, Escapes ('u' :: w) c ∧ cs = w ++ rest := by
  constructor
  · intro h
    obtain ⟨n, tail, hunit, h⟩ := andThen_eq_ok.mp h
    obtain ⟨w, hw, hcs⟩ := unit16_eq_ok_iff.mp hunit
    have hlt := hw.lt
    rw [hcs]
    split at h
    · cases h
    · next ht =>
      rw [isTrailing_iff] at ht
      split at h
      · next hl =>
        rw [isLeading_iff] at hl
        obtain ⟨w', lo, hw', ht', hc, rfl⟩ := (trailingHalf_eq_ok_iff hl).mp h
        refine ⟨w ++ '\\' :: 'u' :: w', .pair hw hw' hl ht' hc, ?_⟩
        simp only [List.append_assoc, List.cons_append]
      · next hl =>
        rw [isLeading_iff] at hl
        cases h
        have hn : (Char.ofNat n).toNat = n := toNat_ofNat_of_scalar (by omega)
        exact ⟨w, .unit (by rwa [hn]), rfl⟩
  · rintro ⟨w, h, rfl⟩
    generalize hu : 'u' :: w = e at h
    cases h with
    | letter h =>
      -- no letter of the table is the one of the codes
      obtain ⟨rfl, rfl⟩ := List.cons.inj hu
      simp [escapeLetters] at h
    | unit h =>
      obtain ⟨-, rfl⟩ := List.cons.inj hu
      -- a character is not half of a pair, so its code is read as it stands
      have hs := toNat_not_surrogate c
      rw [unicodeEscape, unit16_eq_ok_iff.mpr ⟨w, h, rfl⟩, andThen_ok,
        if_neg (by rw [isTrailing_iff]; omega), if_neg (by rw [isLeading_iff]; omega),
        Char.ofNat_toNat]
    | pair h h' hl ht hc =>
      next w₁ w₂ hi lo =>
      obtain ⟨-, rfl⟩ := List.cons.inj hu
      have hread : unit16 ((w₁ ++ '\\' :: 'u' :: w₂) ++ rest) =
          .ok (hi, '\\' :: 'u' :: (w₂ ++ rest)) :=
        unit16_eq_ok_iff.mpr ⟨w₁, h, by simp only [List.append_assoc, List.cons_append]⟩
      rw [unicodeEscape, hread, andThen_ok, if_neg (by rw [isTrailing_iff]; omega),
        if_pos (isLeading_iff.mpr hl)]
      exact (trailingHalf_eq_ok_iff hl).mpr ⟨w₂, lo, h', ht, hc, rfl⟩

/-- **Escapes.** An escape is read, after its backslash, if and only if it is one. -/
theorem escape_eq_ok_iff {cs rest : List Char} {c : Char} :
    escape cs = .ok (c, rest) ↔ ∃ e, Escapes e c ∧ cs = e ++ rest := by
  constructor
  · intro h
    unfold escape at h
    split at h
    · cases h
    · next l tail =>
      split at h
      · next hu =>
        subst hu
        obtain ⟨w, hw, rfl⟩ := unicodeEscape_eq_ok_iff.mp h
        exact ⟨'u' :: w, hw, rfl⟩
      · split at h
        · next d hd =>
          cases h
          exact ⟨[l], .letter (letterEscape?_eq_some_iff.mp hd), rfl⟩
        · cases h
  · rintro ⟨e, h, rfl⟩
    have hcode {w : List Char} (h : Escapes ('u' :: w) c) :
        escape ('u' :: w ++ rest) = .ok (c, rest) := by
      rw [List.cons_append, escape, if_pos rfl]
      exact unicodeEscape_eq_ok_iff.mpr ⟨w, h, rfl⟩
    cases h with
    | unit h => exact hcode (.unit h)
    | pair h h' hl ht hc => exact hcode (.pair h h' hl ht hc)
    | @letter l _ h =>
      -- no letter of the table begins a code
      have hu : l ≠ 'u' := by
        rintro rfl
        simp [escapeLetters] at h
      rw [List.singleton_append, escape, if_neg hu, letterEscape?_eq_some_iff.mpr h]

/-! ## Strings -/

theorem map_eq_ok_iff {α β : Type} {r : Except Failure α} {f : α → β} {b : β} :
    r.map f = .ok b ↔ ∃ a, r = .ok a ∧ f a = b := by
  constructor
  · intro h
    cases r with
    | error e => cases h
    | ok a => exact ⟨a, rfl, Except.ok.inj h⟩
  · rintro ⟨a, rfl, rfl⟩
    rfl

/-- Every string that is read is spelled by what comes before its closing quote. -/
theorem spells_of_string {cs rest m : List Char} (h : string cs = .ok (m, rest)) :
    ∃ w, Spells w m ∧ cs = w ++ '"' :: rest := by
  fun_induction string cs generalizing m rest with
  | case1 => cases h
  | case2 rest' =>
    cases h
    exact ⟨[], .nil, rfl⟩
  | case3 rest' e he => cases h
  | case4 rest' d tail hd hne ih =>
    obtain ⟨⟨m', rest''⟩, hs, hm⟩ := map_eq_ok_iff.mp h
    cases hm
    obtain ⟨w, hw, rfl⟩ := ih hs
    obtain ⟨e, he, rfl⟩ := escape_eq_ok_iff.mp hd
    refine ⟨'\\' :: e ++ w, .escaped he hw, ?_⟩
    simp only [List.append_assoc, List.cons_append]
  -- a control character, and then any other character that stands for itself
  | case5 c rest' hq hb hc => cases h
  | case6 c rest' hq hb hc ih =>
    obtain ⟨⟨m', rest''⟩, hs, hm⟩ := map_eq_ok_iff.mp h
    cases hm
    obtain ⟨w, hw, rfl⟩ := ih hs
    exact ⟨c :: w, .plain hq hb (Nat.le_of_not_lt hc) hw, rfl⟩

/-- What spells a text is read as that text, up to the quote behind it. -/
theorem string_of_spells {w m : List Char} (h : Spells w m) (rest : List Char) :
    string (w ++ '"' :: rest) = .ok (m, rest) := by
  induction h with
  | nil => rw [List.nil_append, string, if_pos rfl]
  | plain hq hb hc _ ih =>
    rw [List.cons_append, string, if_neg hq, if_neg hb, if_neg (Nat.not_lt.mpr hc), ih]
    rfl
  | escaped he _ ih =>
    next e c w m _ =>
    -- the escape is read up to where the rest of the spelling begins
    have hread : escape (e ++ (w ++ '"' :: rest)) = .ok (c, w ++ '"' :: rest) :=
      escape_eq_ok_iff.mpr ⟨e, he, rfl⟩
    rw [List.append_assoc, List.cons_append, string, if_neg (by decide), if_pos rfl]
    split
    · next heq =>
      rw [hread] at heq
      cases heq
    · next heq =>
      rw [hread] at heq
      cases heq
      rw [ih]
      rfl

/-- **Strings.** A string is read, after its opening quote, if and only if a spelling of it and the
closing quote come first. -/
theorem string_eq_ok_iff {cs rest m : List Char} :
    string cs = .ok (m, rest) ↔ ∃ w, Spells w m ∧ cs = w ++ '"' :: rest := by
  constructor
  · exact spells_of_string
  · rintro ⟨w, hw, rfl⟩
    exact string_of_spells hw rest

/-! ## What is written -/

/-- A control character without a letter is written by its code. -/
theorem isUnit_control {n : Nat} (h : n < 0x20) :
    IsUnit ['0', '0', hexDigit (n / 16), hexDigit (n % 16)] n := by
  have hdigit {i : Nat} (hi : i < 16) : IsHexDigit (hexDigit i) i := by
    have hwritten : ∀ i < 16, lowerDigits[i]? = some (hexDigit i) := by decide
    exact .inl (hwritten i hi)
  refine ⟨_, _, _, _, 0, 0, n / 16, n % 16, rfl, .inl rfl, .inl rfl, hdigit (by omega),
    hdigit (by omega), ?_⟩
  omega

/-- What is written for a character spells it. -/
theorem spells_quotedChar (c : Char) : Spells (quotedChar c) [c] := by
  have hletter {l c : Char} (h : (l, c) ∈ escapeLetters) : Spells ['\\', l] [c] :=
    .escaped (.letter h) .nil
  unfold quotedChar
  split
  case h_8 hquote hbackslash _ _ _ _ _ =>
    split
    · next hlow => exact .escaped (.unit (isUnit_control hlow)) .nil
    · next hlow => exact .plain hquote hbackslash (Nat.le_of_not_lt hlow) .nil
  all_goals exact hletter (by decide)

end Epilogue.Json
