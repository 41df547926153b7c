import Epilogue.Value.Json

/-!
# Epilogue — integers as JSON literals

An integer has one spelling as a JSON literal without fraction and exponent: its digits without a
zero in front, after a minus sign if it is negative. The reader of numbers keeps 64 bits of the
digits and scales what is left over, so a literal stays whole exactly if it fits; `-0` does not,
because it is read as a floating-point number.

* `Numeral` — digits without a superfluous zero, and the number that they write;
* `IntegerLiteral` — a numeral, after a minus sign if it has one, other than `-0`.

## Main results

* `number_eq_ok_whole` — what is read of a number that stays whole.
* `integerPayload_eq_ok_iff` — an integer is read if and only if its literal comes first.
* `integerLiteral_toString` — what is written for an integer is its literal.
-/

namespace Epilogue

namespace Json

/-! ## The grammar -/

/-- The digits of a number: at least one, with no zero in front of others. -/
structure Numeral (ds : List Char) (n : Nat) : Prop where
  digits : ∀ d ∈ ds, isDigit d = true
  nonempty : ds ≠ []
  leading : ∀ tail, ds = '0' :: tail → tail = []
  value : Nat.ofDigitChars 10 ds 0 = n

/-- An integer without fraction and exponent, other than `-0`. -/
inductive IntegerLiteral : List Char → Int → Prop
  | natural {ds : List Char} {n : Nat} (h : Numeral ds n) : IntegerLiteral ds n
  | negative {ds : List Char} {n : Nat} (h : Numeral ds n) (hn : n ≠ 0) :
      IntegerLiteral ('-' :: ds) (-n)

/-- What may follow a literal: nothing that would go on with it. -/
def EndsNumber (rest : List Char) : Prop :=
  ∀ c tail, rest = c :: tail → isDigit c = false ∧ c ≠ '.' ∧ c ≠ 'e' ∧ c ≠ 'E'

/-- A numeral has no sign. -/
theorem not_numeral_negative {ds : List Char} {n : Nat} : ¬Numeral ('-' :: ds) n := by
  intro h
  cases h.digits '-' List.mem_cons_self

/-- A literal denotes one integer. -/
theorem IntegerLiteral.inj {w : List Char} {i j : Int} (hi : IntegerLiteral w i)
    (hj : IntegerLiteral w j) : i = j := by
  cases hi with
  | natural h =>
    cases hj with
    | natural h' => rw [← h.value, ← h'.value]
    | negative h' => exact absurd h not_numeral_negative
  | negative h =>
    cases hj with
    | natural h' => exact absurd h' not_numeral_negative
    | negative h' => rw [← h.value, ← h'.value]

/-! ## The significand -/

theorem isDigit_iff {c : Char} : isDigit c = true ↔ 48 ≤ c.toNat ∧ c.toNat ≤ 57 := by
  rw [isDigit, Bool.and_eq_true, decide_eq_true_eq, decide_eq_true_eq]
  exact Iff.rfl

/-- The value of the digits is never less than what comes before them. -/
theorem le_ofDigitChars (ds : List Char) (s : Nat) : s ≤ Nat.ofDigitChars 10 ds s := by
  induction ds generalizing s with
  | nil => exact Nat.le_of_eq Nat.ofDigitChars_nil.symm
  | cons d ds ih =>
    rw [Nat.ofDigitChars_cons]
    have := ih (10 * s + (d.toNat - '0'.toNat))
    omega

/-- The step of the reader is that of the value. -/
theorem absorb_step (s : Nat) (d : Char) :
    s * 10 + digitValue d = 10 * s + (d.toNat - '0'.toNat) := by
  rw [Nat.mul_comm]
  rfl

/-- Digits that fit are all taken. -/
theorem absorb_of_le {ds : List Char} {s : Nat} (h : Nat.ofDigitChars 10 ds s ≤ maxSignificand) :
    absorb s ds = (Nat.ofDigitChars 10 ds s, 0) := by
  induction ds generalizing s with
  | nil => rw [absorb, Nat.ofDigitChars_nil]
  | cons d ds ih =>
    rw [Nat.ofDigitChars_cons] at h ⊢
    -- the digits behind only make the number larger
    have hstep : s * 10 + digitValue d ≤ maxSignificand := by
      rw [absorb_step]
      exact Nat.le_trans (le_ofDigitChars ds _) h
    rw [absorb, if_pos hstep, absorb_step]
    exact ih h

/-- If no digit is left over, all of them were taken. -/
theorem absorb_eq_zero {ds : List Char} {s n : Nat} (h : absorb s ds = (n, 0)) :
    n = Nat.ofDigitChars 10 ds s := by
  induction ds generalizing s with
  | nil =>
    rw [absorb] at h
    rw [Nat.ofDigitChars_nil]
    exact (Prod.mk.inj h).1.symm
  | cons d ds ih =>
    rw [Nat.ofDigitChars_cons, ← absorb_step]
    rw [absorb] at h
    -- a digit that finds no room is counted
    split at h
    · exact ih h
    · exact absurd (Prod.mk.inj h).2 (Nat.succ_ne_zero _)

/-- A number that is small enough is read digit by digit and loses none. -/
theorem ofDigits_of_le {ds : List Char} (h : Nat.ofDigitChars 10 ds 0 ≤ maxSignificand) :
    Scientific.ofDigits ds [] = ⟨Nat.ofDigitChars 10 ds 0, 0⟩ := by
  rw [Scientific.ofDigits, absorb_of_le h]
  rfl

/-- No more is taken than fits. -/
theorem absorb_le {s : Nat} (hs : s ≤ maxSignificand) (ds : List Char) :
    (absorb s ds).1 ≤ maxSignificand := by
  induction ds generalizing s with
  | nil => exact hs
  | cons d ds ih =>
    rw [absorb]
    split
    · next hstep => exact ih hstep
    · exact hs

/-- However many digits there are, the significand stays within its bound. -/
theorem significand_le (ds : List Char) :
    (Scientific.ofDigits ds []).significand ≤ maxSignificand :=
  absorb_le (Nat.zero_le _) ds

theorem ofDigits_power_zero {ds : List Char} (h : (Scientific.ofDigits ds []).power = 0) :
    (Scientific.ofDigits ds []).significand = Nat.ofDigitChars 10 ds 0 := by
  unfold Scientific.ofDigits at h ⊢
  rcases hs : absorb 0 ds with ⟨n, dropped⟩
  rw [hs] at h
  -- without a fraction the power of ten counts the digits that are left over
  have hd : (dropped : Int) - ((0 - 0 : Nat) : Int) = 0 := h
  obtain rfl : dropped = 0 := by omega
  exact absorb_eq_zero hs

/-! ## Numbers that stay whole -/

/-- What is read as a fraction or with an exponent is never a whole number. -/
theorem float_ne_whole (s : Scientific) (negative : Bool) (rest rest' : List Char) (i : Int) :
    s.float negative rest ≠ .ok (.whole i, rest') := by
  intro h
  unfold Scientific.float at h
  split at h <;> cases h

/-- An exponent makes a floating-point number, whatever it is. -/
theorem exponent_ne_whole (s : Scientific) (negative : Bool) (cs rest : List Char) (i : Int) :
    exponent s negative cs ≠ .ok (.whole i, rest) := by
  intro h
  unfold exponent at h
  simp only at h
  -- with either sign or none, the digits end in a float or in a failure
  repeat' split at h
  all_goals first
    | exact float_ne_whole _ _ _ _ _ h
    | cases h

/-- The number that a literal writes after its sign. -/
def signed (negative : Bool) (n : Nat) : Int := if negative then -n else n

/-- What a whole number of 64 bits can be: a negative one is neither `-0` nor below the least. -/
def FitsWhole (negative : Bool) (n : Nat) : Prop :=
  if negative then 0 < n ∧ n ≤ 0x8000000000000000 else n ≤ maxSignificand

/-- A whole number is read if its digits fit, and then it is what they write. -/
theorem wholeNumber_eq_ok_iff {negative : Bool} {ds rest rest' : List Char} {i : Int} :
    wholeNumber negative (Scientific.ofDigits ds []) rest = .ok (.whole i, rest') ↔
      i = signed negative (Nat.ofDigitChars 10 ds 0) ∧
        FitsWhole negative (Nat.ofDigitChars 10 ds 0) ∧ rest' = rest := by
  have hmax := significand_le ds
  constructor
  · intro h
    unfold wholeNumber at h
    split at h
    · next hp =>
      have hs := ofDigits_power_zero hp.1
      obtain rfl : negative = false := by simpa using hp.2
      cases h
      rw [hs] at hmax ⊢
      exact ⟨rfl, hmax, rfl⟩
    · next hp =>
      split at h
      · next hfit =>
        have hs := ofDigits_power_zero hfit.1
        obtain rfl : negative = true := by simpa [hfit.1] using hp
        cases h
        rw [hs] at hfit ⊢
        exact ⟨rfl, hfit.2, rfl⟩
      · exact absurd h (float_ne_whole _ _ _ _ _)
  · rintro ⟨rfl, hfit, rfl⟩
    have hle : Nat.ofDigitChars 10 ds 0 ≤ maxSignificand := by
      unfold FitsWhole at hfit
      unfold maxSignificand at *
      split at hfit <;> omega
    -- the digits fit, so all of them are in the significand and no power of ten is left
    rw [ofDigits_of_le hle, wholeNumber]
    cases negative with
    | false => rfl
    | true =>
      have hfit' : 0 < Nat.ofDigitChars 10 ds 0 ∧
        Nat.ofDigitChars 10 ds 0 ≤ 0x8000000000000000 := hfit
      rw [if_neg (by simp), if_pos ⟨rfl, hfit'⟩]
      rfl

/-- A number that stays whole is read from its digits alone. -/
theorem number_eq_ok_whole {negative : Bool} {cs rest : List Char} {i : Int}
    (h : number negative cs = .ok (.whole i, rest)) :
    ∃ ds n, Numeral ds n ∧ FitsWhole negative n ∧ i = signed negative n ∧ cs = ds ++ rest := by
  have hcs : cs = cs.takeWhile isDigit ++ cs.dropWhile isDigit :=
    List.takeWhile_append_dropWhile.symm
  have hdigits : ∀ d ∈ cs.takeWhile isDigit, isDigit d = true :=
    List.all_eq_true.mp List.all_takeWhile
  -- without digits, or with a zero in front of others, nothing is read
  unfold number at h
  simp only at h
  split at h
  · cases h
  · cases h
  · next hnil hzero =>
    -- a point or an exponent would have made a float of it
    have hwhole : wholeNumber negative (Scientific.ofDigits (cs.takeWhile isDigit) [])
        (cs.dropWhile isDigit) = .ok (.whole i, rest) := by
      repeat' split at h
      all_goals first
        | exact h
        | exact absurd h (float_ne_whole _ _ _ _ _)
        | exact absurd h (exponent_ne_whole _ _ _ _ _)
        | cases h
    obtain ⟨rfl, hfit, rfl⟩ := wholeNumber_eq_ok_iff.mp hwhole
    refine ⟨_, _, ⟨hdigits, hnil, ?_, rfl⟩, hfit, rfl, hcs⟩
    intro tail htail
    cases tail with
    | nil => rfl
    | cons d ds => exact absurd htail (hzero d ds)

/-- Digits that nothing goes on with are read as a whole number. -/
theorem number_append {negative : Bool} {ds rest : List Char} {n : Nat} (h : Numeral ds n)
    (hrest : EndsNumber rest) :
    number negative (ds ++ rest) = wholeNumber negative (Scientific.ofDigits ds []) rest := by
  -- the digits that the reader takes are those of the numeral
  have htake : (ds ++ rest).takeWhile isDigit = ds := by
    rw [List.takeWhile_append_of_pos h.digits]
    cases rest with
    | nil => rw [List.takeWhile_nil, List.append_nil]
    | cons c tail =>
      rw [List.takeWhile_cons_of_neg (by simp [(hrest c tail rfl).1]), List.append_nil]
  have hdrop : (ds ++ rest).dropWhile isDigit = rest := by
    rw [List.dropWhile_append_of_pos h.digits]
    cases rest with
    | nil => rfl
    | cons c tail => rw [List.dropWhile_cons_of_neg (by simp [(hrest c tail rfl).1])]
  unfold number
  simp only [htake, hdrop]
  -- of the ways to go on, those but the last need a character that ends no number
  split
  · exact absurd rfl h.nonempty
  · next d ds => exact absurd (h.leading (d :: ds) rfl) (List.cons_ne_nil d ds)
  · split
    · next tail => exact absurd rfl (hrest '.' tail rfl).2.1
    · next tail => exact absurd rfl (hrest 'e' tail rfl).2.2.1
    · next tail => exact absurd rfl (hrest 'E' tail rfl).2.2.2
    · rfl

/-! ## Integers -/

/-- Of the numbers only whole ones within 64 bits are integers. -/
theorem integerOf_eq_ok_iff {x : Number} {cs rest : List Char} {n : Int64} :
    integerOf x cs = .ok (n, rest) ↔
      ∃ i, x = .whole i ∧ i ≤ Int64.maxValue.toInt ∧ n = Int64.ofInt i ∧ rest = cs := by
  constructor
  · intro h
    unfold integerOf at h
    split at h
    · next i =>
      split at h
      · next hi =>
        cases h
        exact ⟨i, rfl, hi, rfl, rfl⟩
      · cases h
    · cases h
  · rintro ⟨i, rfl, hi, rfl, rfl⟩
    rw [integerOf, if_pos hi]

/-- An integer within 64 bits survives the conversion. -/
theorem toInt_ofInt_of_bounds {i : Int} (hlo : -9223372036854775808 ≤ i)
    (hhi : i ≤ Int64.maxValue.toInt) : (Int64.ofInt i).toInt = i := by
  have hmax : Int64.maxValue.toInt = 9223372036854775807 := by decide
  exact Int64.toInt_ofInt_of_le hlo (by omega)

theorem toInt_bounds (n : Int64) :
    -9223372036854775808 ≤ n.toInt ∧ n.toInt ≤ Int64.maxValue.toInt :=
  ⟨n.le_toInt, n.toInt_le⟩

/-- A numeral begins with a digit, and so with no sign. -/
theorem Numeral.exists_cons {ds : List Char} {n : Nat} (h : Numeral ds n) :
    ∃ d tail, ds = d :: tail ∧ isDigit d = true ∧ d ≠ '-' := by
  obtain ⟨d, tail, rfl⟩ := List.exists_cons_of_ne_nil h.nonempty
  have hd := h.digits d List.mem_cons_self
  refine ⟨d, tail, rfl, hd, ?_⟩
  rintro rfl
  exact absurd hd (by decide)

/-- **Integers.** Before something that does not go on with a number, an integer is read if and only
if its literal comes first. -/
theorem integerPayload_eq_ok_iff {cs rest : List Char} {n : Int64} (hrest : EndsNumber rest) :
    integerPayload cs = .ok (n, rest) ↔ ∃ w, IntegerLiteral w n.toInt ∧ cs = w ++ rest := by
  have hmax : Int64.maxValue.toInt = 9223372036854775807 := by decide
  constructor
  · intro h
    -- the sign decides how the digits are bounded below
    have hread {negative : Bool} {digits : List Char}
        (h : andThen (number negative digits) integerOf = .ok (n, rest)) :
        ∃ ds m, Numeral ds m ∧ (negative = true → m ≠ 0) ∧ n.toInt = signed negative m ∧
          digits = ds ++ rest := by
      obtain ⟨x, tail, hx, hi⟩ := andThen_eq_ok.mp h
      obtain ⟨i, rfl, hle, rfl, rfl⟩ := integerOf_eq_ok_iff.mp hi
      obtain ⟨ds, m, hds, hfit, rfl, rfl⟩ := number_eq_ok_whole hx
      refine ⟨ds, m, hds, ?_, ?_, rfl⟩
      · rintro rfl
        exact Nat.pos_iff_ne_zero.mp hfit.1
      · refine toInt_ofInt_of_bounds ?_ hle
        unfold FitsWhole at hfit
        unfold signed
        split at hfit
        · next hneg =>
          rw [if_pos hneg]
          omega
        · next hneg =>
          rw [if_neg hneg]
          omega
    unfold integerPayload at h
    split at h
    · obtain ⟨ds, m, hds, hm, hn, rfl⟩ := hread h
      rw [hn]
      exact ⟨'-' :: ds, .negative hds (hm rfl), rfl⟩
    · split at h
      · obtain ⟨ds, m, hds, -, hn, hcs⟩ := hread h
        rw [hn]
        exact ⟨ds, .natural hds, hcs⟩
      · cases h
    · cases h
  · rintro ⟨w, hw, rfl⟩
    obtain ⟨hlo, hhi⟩ := toInt_bounds n
    have hfrom : Int64.ofInt n.toInt = n := Int64.ofInt_toInt n
    generalize n.toInt = i at hw hlo hhi hfrom
    have hread (negative : Bool) {ds : List Char} {m : Nat} (hds : Numeral ds m)
        (hi : i = signed negative m) (hfit : FitsWhole negative m) :
        andThen (number negative (ds ++ rest)) integerOf = .ok (n, rest) := by
      have hwhole : number negative (ds ++ rest) = .ok (.whole i, rest) := by
        rw [number_append hds hrest, wholeNumber_eq_ok_iff, hds.value]
        exact ⟨hi, hfit, rfl⟩
      rw [hwhole, andThen_ok, integerOf_eq_ok_iff]
      exact ⟨i, rfl, hhi, hfrom.symm, rfl⟩
    cases hw with
    | @negative ds m hds hm =>
      have hfit : FitsWhole true m := ⟨Nat.pos_of_ne_zero hm, by omega⟩
      exact hread true hds rfl hfit
    | @natural ds m hds =>
      obtain ⟨d, tail, rfl, hd, hne⟩ := hds.exists_cons
      have hfit : FitsWhole false m := by
        show m ≤ 0xFFFFFFFFFFFFFFFF
        omega
      have hr := hread false hds rfl hfit
      rw [List.cons_append] at hr ⊢
      unfold integerPayload
      split
      · next heq => exact absurd (List.cons.inj heq).1 hne
      · next heq =>
        obtain ⟨rfl, -⟩ := List.cons.inj heq
        rw [if_pos hd]
        exact hr
      · next heq => cases heq

/-! ## What is written -/

theorem toNat_digitChar {d : Nat} (h : d < 10) : (Nat.digitChar d).toNat = d + 48 := by
  have hall : ∀ d < 10, (Nat.digitChar d).toNat = d + 48 := by decide
  exact hall d h

/-- The digits of a number other than zero begin with one that is not zero. -/
theorem toDigits_head {n : Nat} (hn : n ≠ 0) :
    ∃ d tail, Nat.toDigits 10 n = d :: tail ∧ d ≠ '0' := by
  induction n using Nat.strongRecOn with
  | ind n ih =>
    -- the digits of a tenth of it come first
    by_cases hlt : n < 10
    · refine ⟨Nat.digitChar n, [], Nat.toDigits_of_lt_base hlt, ?_⟩
      intro h
      have := toNat_digitChar hlt
      rw [h] at this
      have h0 : '0'.toNat = 48 := rfl
      omega
    · obtain ⟨d, tail, hd, hne⟩ := ih (n / 10) (by omega) (by omega)
      refine ⟨d, tail ++ [Nat.digitChar (n % 10)], ?_, hne⟩
      rw [Nat.toDigits_of_base_le (by decide) (by omega), hd, List.cons_append]

/-- The decimal digits of a number are a numeral of it. -/
theorem numeral_toDigits (n : Nat) : Numeral (Nat.toDigits 10 n) n where
  digits := by
    intro d hd
    have h := Nat.isDigit_of_mem_toDigits (by decide) (by decide) hd
    rw [Char.isDigit, Bool.and_eq_true, decide_eq_true_eq, decide_eq_true_eq] at h
    exact isDigit_iff.mpr h
  nonempty := Nat.toDigits_ne_nil
  leading := by
    intro tail h
    -- only zero begins with the digit zero
    by_cases hn : n = 0
    · subst hn
      rw [Nat.toDigits_of_lt_base (by decide)] at h
      exact (List.cons.inj h).2.symm
    · obtain ⟨d, tail', hd, hne⟩ := toDigits_head hn
      rw [hd] at h
      exact absurd (List.cons.inj h).1 hne
  value := Nat.ofDigitChars_toDigits (by decide) (by decide)

/-- What is written for an integer is its literal. -/
theorem integerLiteral_toString (i : Int) : IntegerLiteral (toString i).toList i := by
  rw [Int.toString_eq_repr]
  cases i with
  | ofNat m =>
    show IntegerLiteral m.repr.toList m
    rw [Nat.toList_repr]
    exact .natural (numeral_toDigits m)
  | negSucc m =>
    show IntegerLiteral ("-" ++ (m + 1).repr).toList (-((m + 1 : Nat) : Int))
    rw [String.toList_append, Nat.toList_repr]
    exact .negative (numeral_toDigits (m + 1)) (Nat.succ_ne_zero m)

end Json

end Epilogue
