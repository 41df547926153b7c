import Epilogue.Proofs.Json.Numeral
import Epilogue.Proofs.Run.Transcript

/-!
# Epilogue — the text of a value

No two values have the same text. The first characters of a text tell its shape: a digit or a minus
sign begins an integer, a number sign and a backslash a character, and the texts of the other shapes
are fixed. Of the characters, some are written by a name, some by their code and all others as they
are; a name has more than one letter and does not begin with the letter of a code.

* `Printer.Body` — what follows the sign of a character literal, in its three forms;
* `Shape.ofText?` — the shape that a text begins like.

## Main results

* `Shape.ofText?_render` — the text of a value begins like its shape.
* `render_inj` — values with the same text are the same.
* `newline_not_mem_render` — the text of a value is within one line.
-/

namespace Epilogue

/-! ## Character literals -/

namespace Printer

/-- The characters that have names, each with its name. -/
def names : List (Char × String) :=
  [('\x00', "nul"), ('\x08', "backspace"), ('\t', "tab"), ('\n', "newline"), ('\x0b', "vtab"),
    ('\x0c', "page"), ('\r', "return"), (' ', "space"), ('\x7f', "rubout")]

/-- A digit of a code. -/
def codeDigit (n : Nat) : Char := (Nat.digitChar n).toUpper

/-- What follows the sign of a literal of the character: its name, its code, or the character. -/
inductive Body (c : Char) : List Char → Prop
  | named {name : String} (h : (c, name) ∈ names) : Body c name.toList
  | coded (h : c.toNat < 256) :
      Body c ['u', '0', '0', codeDigit (c.toNat / 16), codeDigit (c.toNat % 16)]
  | plain (h : c ≠ '\n') : Body c [c]

theorem mem_names_of_charName? {c : Char} {name : String} (h : charName? c = some name) :
    (c, name) ∈ names := by
  unfold charName? at h
  split at h <;> cases h <;> simp [names]

/-- A code below 256 has two digits once the zeros are in front of them, and two zeros more. -/
theorem code_of_lt {c : Char} (h : c.toNat < 256) : codePadding c ++ codeDigits c =
    ['0', '0', codeDigit (c.toNat / 16), codeDigit (c.toNat % 16)] := by
  unfold codePadding codeDigits codeDigit
  -- one digit and three zeros, or two and two
  by_cases hlt : c.toNat < 16
  · have hdiv : c.toNat / 16 = 0 := by omega
    have hmod : c.toNat % 16 = c.toNat := by omega
    rw [Nat.toDigits_of_lt_base hlt, hdiv, hmod]
    rfl
  · have hdiv : c.toNat / 16 < 16 := by omega
    rw [Nat.toDigits_of_base_le (by decide) (by omega), Nat.toDigits_of_lt_base hdiv]
    rfl

/-- The pieces that follow the sign, taken together, are the body of the literal. -/
theorem body_bodyPieces (c : Char) : Body c (String.join (bodyPieces c)).toList := by
  rw [String.toList_join]
  unfold bodyPieces
  split
  · next name h =>
    rw [List.flatMap_singleton]
    exact .named (mem_names_of_charName? h)
  · next hnone =>
    split
    · next hcontrol =>
      have hlt : c.toNat < 256 := by
        simp only [isControl, Bool.or_eq_true, Bool.and_eq_true, decide_eq_true_eq] at hcontrol
        omega
      have hpieces : ("u" :: ((codePadding c).map Char.toString ++
          [String.ofList (codeDigits c)])).flatMap String.toList =
          'u' :: (codePadding c ++ codeDigits c) := by
        simp [List.flatMap_map, Char.toString, String.toList_singleton]
      rw [hpieces, code_of_lt hlt]
      exact .coded hlt
    · -- the newline has a name, and what has none is written as it is
      have hne : c ≠ '\n' := by
        rintro rfl
        cases hnone
      rw [List.flatMap_singleton, Char.toString, String.toList_singleton]
      exact .plain hne

/-- Digits of a code tell which number they stand for. -/
theorem codeDigit_inj {m n : Nat} (hm : m < 16) (hn : n < 16) (h : codeDigit m = codeDigit n) :
    m = n := by
  have hall : ∀ m < 16, ∀ n < 16, codeDigit m = codeDigit n → m = n := by decide
  exact hall m hm n hn h

/-- The digits of a code tell the character. -/
theorem eq_of_codeDigit {c d : Char} (hc : c.toNat < 256) (hd : d.toNat < 256)
    (hhigh : codeDigit (c.toNat / 16) = codeDigit (d.toNat / 16))
    (hlow : codeDigit (c.toNat % 16) = codeDigit (d.toNat % 16)) : c = d := by
  have h1 := codeDigit_inj (by omega) (by omega) hhigh
  have h2 := codeDigit_inj (by omega) (by omega) hlow
  have hn : c.toNat = d.toNat := by omega
  rw [← Char.ofNat_toNat c, hn, Char.ofNat_toNat]

/-- A name is longer than a character that stands for itself. -/
theorem name_length {c : Char} {name : String} (h : (c, name) ∈ names) :
    1 < name.toList.length := by
  have hall : ∀ x ∈ names, 1 < x.2.toList.length := by decide
  exact hall (c, name) h

/-- No name begins like a code. -/
theorem name_head {c : Char} {name : String} (h : (c, name) ∈ names) :
    name.toList.head? ≠ some 'u' := by
  have hall : ∀ x ∈ names, x.2.toList.head? ≠ some 'u' := by decide
  exact hall (c, name) h

/-- No two characters have the same name. -/
theorem eq_of_name {c d : Char} {name name' : String} (hc : (c, name) ∈ names)
    (hd : (d, name') ∈ names) (h : name.toList = name'.toList) : c = d := by
  have hall : ∀ x ∈ names, ∀ y ∈ names, x.2.toList = y.2.toList → x.1 = y.1 := by decide
  exact hall (c, name) hc (d, name') hd h

/-- Two characters are not written alike. -/
theorem Body.inj {c d : Char} {cs : List Char} (hc : Body c cs) (hd : Body d cs) : c = d := by
  -- a name has more letters than a character that stands for itself, and no name begins like a code
  generalize hds : cs = ds at hd
  cases hc with
  | named hname =>
    cases hd with
    | named hname' => exact eq_of_name hname hname' hds
    | coded => exact absurd (congrArg List.head? hds) (name_head hname)
    | plain =>
      have hlen := name_length hname
      rw [hds] at hlen
      exact absurd hlen (by simp)
  | coded hlt =>
    cases hd with
    | named hname' => exact absurd (congrArg List.head? hds.symm) (name_head hname')
    | coded hlt' =>
      simp only [List.cons.injEq, true_and, and_true] at hds
      exact eq_of_codeDigit hlt hlt' hds.1 hds.2
    | plain => cases hds
  | plain =>
    cases hd with
    | named hname' =>
      have hlen := name_length hname'
      rw [← hds] at hlen
      exact absurd hlen (by simp)
    | coded => cases hds
    | plain => exact (List.cons.inj hds).1

/-- No literal of a character goes over the end of a line. -/
theorem Body.newline_not_mem {c : Char} {cs : List Char} (h : Body c cs) : '\n' ∉ cs := by
  cases h with
  | named hname =>
    have hall : ∀ x ∈ names, '\n' ∉ x.2.toList := by decide
    exact hall _ hname
  | coded hlt =>
    have hall : ∀ n < 16, '\n' ≠ codeDigit n := by decide
    have h1 := hall (c.toNat / 16) (by omega)
    have h2 := hall (c.toNat % 16) (by omega)
    simp [h1, h2]
  | plain hne =>
    rw [List.mem_singleton]
    exact hne.symm

end Printer

/-! ## Literals of integers -/

namespace Json

theorem IntegerLiteral.newline_not_mem {cs : List Char} {i : Int} (h : IntegerLiteral cs i) :
    '\n' ∉ cs := by
  have hdigits {ds : List Char} {n : Nat} (h : Numeral ds n) : '\n' ∉ ds := by
    intro hm
    cases h.digits '\n' hm
  cases h with
  | natural h => exact hdigits h
  | negative h =>
    rw [List.mem_cons, not_or]
    exact ⟨by decide, hdigits h⟩

end Json

/-! ## Texts -/

namespace Value

/-- A number is written in decimal, the pieces being its sign and its digits. -/
theorem join_intPieces (i : Int) : String.join (intPieces i) = toString i := by
  cases i with
  | ofNat n => exact String.empty_append
  | negSucc n => simp [intPieces, String.join]; rfl

theorem render_int (n : Int64) : (int n).render = toString n.toInt :=
  (render_of_printout rfl).trans (join_intPieces n.toInt)

/-- The text of a character is the sign of a literal and its body. -/
theorem exists_body (c : Char) :
    ∃ cs, Printer.Body c cs ∧ (char c).render.toList = '#' :: '\\' :: cs := by
  refine ⟨_, Printer.body_bodyPieces c, ?_⟩
  rw [render_char, String.toList_append]
  rfl

theorem render_bool (b : Bool) : (bool b).render = if b then "#t" else "#f" := by
  cases b <;> exact render_of_text rfl

theorem render_eof : eof.render = "#<eof>" := render_of_text rfl

theorem render_void : void.render = "" := Utf8.decodeLossy_encode ""

theorem render_invalid : invalid.render = invalidText := render_of_text rfl

end Value

/-- The shape that a text begins like, if it is one of a value. -/
def Shape.ofText? : List Char → Option Shape
  | [] => some .void
  | c :: rest =>
    if c = '-' ∨ Json.isDigit c = true then some .int
    else if c = 'i' then some .invalid
    else if c = '#' then
      if rest.head? = some '\\' then some .char
      else if rest.head? = some '<' then some .eof
      else some .bool
    else none

/-- The literal of an integer begins with its sign or with a digit. -/
theorem Shape.ofText?_literal {cs : List Char} {i : Int} (h : Json.IntegerLiteral cs i) :
    ofText? cs = some .int := by
  cases h with
  | natural hn =>
    obtain ⟨d, tail, rfl, hd, -⟩ := hn.exists_cons
    exact if_pos (Or.inr hd)
  | negative hn hne => simp [ofText?]

/-- The first characters of the text of a value tell its shape. -/
theorem Shape.ofText?_render (v : Value) : ofText? v.render.toList = some v.shape := by
  cases v with
  | int n =>
    rw [Value.render_int]
    exact ofText?_literal (Json.integerLiteral_toString n.toInt)
  | char c =>
    obtain ⟨cs, -, hr⟩ := Value.exists_body c
    rw [hr]
    rfl
  | bool b => cases b <;> rw [Value.render_bool] <;> decide
  | eof =>
    rw [Value.render_eof]
    decide
  | void =>
    rw [Value.render_void]
    decide
  | invalid =>
    rw [Value.render_invalid]
    decide

namespace Value

/-- **Values with the same text are the same.** -/
theorem render_inj {v w : Value} (h : v.render = w.render) : v = w := by
  have hshape : v.shape = w.shape := by
    have hv := Shape.ofText?_render v
    rw [h, Shape.ofText?_render w] at hv
    exact (Option.some.inj hv).symm
  -- the shapes are the same, so only payloads are left to compare
  cases v <;> cases w <;> cases hshape
  case int m n =>
    rw [render_int, render_int] at h
    have hm := Json.integerLiteral_toString m.toInt
    rw [h] at hm
    rw [Int64.toInt_inj.mp (hm.inj (Json.integerLiteral_toString n.toInt))]
  case bool b b' =>
    rw [render_bool, render_bool] at h
    cases b <;> cases b' <;> simp at h ⊢
  case char c d =>
    obtain ⟨cs, hc, hcr⟩ := exists_body c
    obtain ⟨ds, hd, hdr⟩ := exists_body d
    rw [h, hdr] at hcr
    cases hcr
    rw [hc.inj hd]
  all_goals rfl

/-- The text of a value is within one line. -/
theorem newline_not_mem_render (v : Value) : '\n' ∉ v.render.toList := by
  cases v with
  | int n =>
    rw [render_int]
    exact (Json.integerLiteral_toString n.toInt).newline_not_mem
  | char c =>
    obtain ⟨cs, hc, hr⟩ := exists_body c
    rw [hr]
    simp [hc.newline_not_mem]
  | bool b => cases b <;> rw [render_bool] <;> decide
  | eof =>
    rw [render_eof]
    decide
  | void =>
    rw [render_void]
    decide
  | invalid =>
    rw [render_invalid]
    decide

end Value

end Epilogue
