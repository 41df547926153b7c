import Epilogue.Proofs.Value.Forms

/-!
# Epilogue — JSON texts

The grammar of JSON, over the written characters and apart from every reader: a text is one value,
blanks may stand around every token, and an array or an object goes up to its closing bracket. A
number goes as far as there are characters of numbers; what may follow a value, which is a blank, a
comma or a bracket, is none of them.

The grammar is unambiguous, so whoever reads a text by it finds the same value in it.

* `Tree` — a JSON value;
* `Next` — the first token of a text;
* `Reads`, `Items`, `Members` — a value, and what is inside brackets and braces;
* `Document` — a whole text;
* `Written` — a text that is read as a value wherever it stands.

## Main results

* `Next.unique`, `Reads.unique` — no text begins with two tokens, nor with two values.
* `Document.unique` — a text has one value.
-/

namespace Epilogue.Json

/-- A JSON value. -/
inductive Tree where
  | null
  | truth (b : Bool)
  /-- a number without fraction and exponent -/
  | integer (i : Int)
  /-- every other number, as it is written -/
  | decimal (written : List Char)
  | text (s : String)
  | array (xs : List Tree)
  /-- the members of an object in order, each with its key -/
  | object (ms : List (String × Tree))

/-! ## Numbers -/

/-- Digits, at least one. -/
def Digits (ds : List Char) : Prop := ds ≠ [] ∧ ∀ d ∈ ds, isDigit d = true

/-- What may come behind the digits of an integer. -/
inductive Fraction : List Char → Prop
  | none : Fraction []
  | some {ds : List Char} (h : Digits ds) : Fraction ('.' :: ds)

/-- What may come behind that. -/
inductive Exponent : List Char → Prop
  | none : Exponent []
  | some {e : Char} {sign ds : List Char} (he : e = 'e' ∨ e = 'E')
      (hsign : sign = [] ∨ sign = ['+'] ∨ sign = ['-']) (h : Digits ds) :
      Exponent (e :: (sign ++ ds))

/-- A number as it is written. -/
inductive NumberLiteral : List Char → Prop
  | mk {sign ds fraction exponent : List Char} {n : Nat} (hsign : sign = [] ∨ sign = ['-'])
      (hds : Numeral ds n) (hfraction : Fraction fraction) (hexponent : Exponent exponent) :
      NumberLiteral (sign ++ (ds ++ (fraction ++ exponent)))

/-- A number and its value. -/
inductive IsNumber : List Char → Tree → Prop
  | integer {w : List Char} {i : Int} (h : IntegerLiteral w i) : IsNumber w (.integer i)
  | decimal {w : List Char} (h : NumberLiteral w) (hw : ∀ i, ¬IntegerLiteral w i) :
      IsNumber w (.decimal w)

/-- The characters of numbers. -/
def inNumber (c : Char) : Bool := isDigit c || ['+', '-', '.', 'e', 'E'].contains c

/-- Nothing is left of a number. -/
def Stops (rest : List Char) : Prop := ∀ c tail, rest = c :: tail → inNumber c = false

/-! ## Tokens -/

/-- The words, each with its value. -/
def words : List (List Char × Tree) :=
  [(['n', 'u', 'l', 'l'], .null), (['t', 'r', 'u', 'e'], .truth true),
    (['f', 'a', 'l', 's', 'e'], .truth false)]

/-- The characters that are tokens of their own. -/
def marks : List Char := ['[', ']', '{', '}', ',', ':']

/-- A token: a value without parts, or a mark. -/
inductive Token where
  | leaf (x : Tree)
  | mark (c : Char)

/-- A token comes first in a text, behind blanks, and the rest comes behind it. -/
inductive Next (cs : List Char) : Token → List Char → Prop
  | word {w rest : List Char} {x : Tree} (h : (w, x) ∈ words) (hcs : skipBlanks cs = w ++ rest) :
      Next cs (.leaf x) rest
  | number {w rest : List Char} {x : Tree} (h : IsNumber w x) (hstop : Stops rest)
      (hcs : skipBlanks cs = w ++ rest) : Next cs (.leaf x) rest
  | text {w rest : List Char} {s : String} (h : Quotes w s.toList)
      (hcs : skipBlanks cs = w ++ rest) : Next cs (.leaf (.text s)) rest
  | mark {c : Char} {rest : List Char} (h : c ∈ marks) (hcs : skipBlanks cs = c :: rest) :
      Next cs (.mark c) rest

/-! ## Values and texts -/

mutual

/-- A value comes first in a text, and the rest comes behind it. -/
inductive Reads : List Char → Tree → List Char → Prop
  | leaf {cs rest : List Char} {x : Tree} (h : Next cs (.leaf x) rest) : Reads cs x rest
  | emptyArray {cs mid rest : List Char} (opened : Next cs (.mark '[') mid)
      (closed : Next mid (.mark ']') rest) : Reads cs (.array []) rest
  | array {cs mid rest : List Char} {xs : List Tree} (opened : Next cs (.mark '[') mid)
      (h : Items mid xs rest) : Reads cs (.array xs) rest
  | emptyObject {cs mid rest : List Char} (opened : Next cs (.mark '{') mid)
      (closed : Next mid (.mark '}') rest) : Reads cs (.object []) rest
  | object {cs mid rest : List Char} {ms : List (String × Tree)} (opened : Next cs (.mark '{') mid)
      (h : Members mid ms rest) : Reads cs (.object ms) rest

/-- The values of an array come first in a text, up to its bracket. -/
inductive Items : List Char → List Tree → List Char → Prop
  | last {cs mid rest : List Char} {x : Tree} (h : Reads cs x mid)
      (closed : Next mid (.mark ']') rest) : Items cs [x] rest
  | more {cs mid next rest : List Char} {x : Tree} {xs : List Tree} (h : Reads cs x mid)
      (comma : Next mid (.mark ',') next) (hs : Items next xs rest) : Items cs (x :: xs) rest

/-- The members of an object come first in a text, up to its brace. -/
inductive Members : List Char → List (String × Tree) → List Char → Prop
  | last {cs named value mid rest : List Char} {key : String} {x : Tree}
      (hkey : Next cs (.leaf (.text key)) named) (colon : Next named (.mark ':') value)
      (h : Reads value x mid) (closed : Next mid (.mark '}') rest) : Members cs [(key, x)] rest
  | more {cs named value mid next rest : List Char} {key : String} {x : Tree}
      {ms : List (String × Tree)} (hkey : Next cs (.leaf (.text key)) named)
      (colon : Next named (.mark ':') value) (h : Reads value x mid)
      (comma : Next mid (.mark ',') next) (hs : Members next ms rest) :
      Members cs ((key, x) :: ms) rest

end

/-- A text that is one value. -/
def Document (cs : List Char) (x : Tree) : Prop := ∃ rest, Reads cs x rest ∧ Blanks rest

/-! ## Numbers by their characters -/

section Numbers

variable {w w' rest rest' : List Char} {x x' : Tree}

theorem inNumber_of_isDigit {c : Char} (h : isDigit c = true) : inNumber c = true := by
  rw [inNumber, h, Bool.true_or]

/-- What the reader of integers accepts is a number to the grammar too. -/
theorem IntegerLiteral.numberLiteral {i : Int} (h : IntegerLiteral w i) : NumberLiteral w := by
  cases h with
  | natural h => simpa using NumberLiteral.mk (.inl rfl) h .none .none
  | negative h => simpa using NumberLiteral.mk (.inr rfl) h .none .none

theorem IsNumber.numberLiteral (h : IsNumber w x) : NumberLiteral w := by
  cases h with
  | integer h => exact h.numberLiteral
  | decimal h => exact h

/-- A number has no characters but those that may stand in one, so that it ends where they do. -/
theorem NumberLiteral.inNumber (h : NumberLiteral w) : ∀ c ∈ w, inNumber c = true := by
  have hdigits {ds : List Char} (h : ∀ d ∈ ds, isDigit d = true) :
      ∀ d ∈ ds, Json.inNumber d = true := fun d hd => inNumber_of_isDigit (h d hd)
  cases h with
  | mk hsign hds hfraction hexponent =>
    -- sign, digits, fraction and exponent, of which the digits are plain
    simp only [List.forall_mem_append]
    refine ⟨?_, hdigits hds.digits, ?_, ?_⟩
    · rcases hsign with rfl | rfl <;> simp [Json.inNumber]
    · cases hfraction with
      | none => nofun
      | some h => exact List.forall_mem_cons.mpr ⟨by decide, hdigits h.2⟩
    · cases hexponent with
      | none => nofun
      | some he hsign h =>
        rw [List.forall_mem_cons, List.forall_mem_append]
        refine ⟨?_, ?_, hdigits h.2⟩
        · rcases he with rfl | rfl <;> decide
        · rcases hsign with rfl | rfl | rfl <;> simp [Json.inNumber]

/-- A number begins with a digit or with a minus sign. -/
theorem NumberLiteral.exists_cons (h : NumberLiteral w) :
    ∃ c tail, w = c :: tail ∧ (isDigit c = true ∨ c = '-') := by
  cases h with
  | mk hsign hds =>
    rcases hsign with rfl | rfl
    · obtain ⟨d, tail, rfl, hd, -⟩ := hds.exists_cons
      exact ⟨d, _, rfl, .inl hd⟩
    · exact ⟨'-', _, rfl, .inr rfl⟩

/-- A number is as much as there is of its characters. -/
theorem IsNumber.takeWhile (h : IsNumber w x) (hstop : Stops rest) :
    (w ++ rest).takeWhile Json.inNumber = w := by
  rw [List.takeWhile_append_of_pos h.numberLiteral.inNumber]
  cases rest with
  | nil => rw [List.takeWhile_nil, List.append_nil]
  | cons c tail => rw [List.takeWhile_cons_of_neg (by simp [hstop c tail rfl]), List.append_nil]

/-- A number is written for one leaf only: its literal tells whether it is whole, and which. -/
theorem IsNumber.unique (h : IsNumber w x) (h' : IsNumber w x') : x = x' := by
  cases h with
  | integer h =>
    cases h' with
    | integer h' => rw [h.inj h']
    | decimal _ hw => exact absurd h (hw _)
  | decimal _ hw =>
    cases h' with
    | integer h' => exact absurd h' (hw _)
    | decimal => rfl

end Numbers

/-! ## One way to read -/

/-- The kinds of tokens, told apart by their first characters. -/
inductive Kind where
  | word
  | number
  | text
  | mark

/-- The kind of a token that begins with a character. -/
def kindOf (c : Char) : Kind :=
  if c = '"' then .text
  else if c ∈ marks then .mark
  else if isDigit c = true ∨ c = '-' then .number
  else .word

section Unique

variable {cs rest rest' : List Char}

/-- The first character of a token tells which rule it is read by. -/
theorem Next.by_kind {t : Token} (h : Next cs t rest) : ∃ c tail, skipBlanks cs = c :: tail ∧
    match kindOf c with
    | .word => ∃ w x, (w, x) ∈ words ∧ t = .leaf x ∧ c :: tail = w ++ rest
    | .number => ∃ w x, IsNumber w x ∧ Stops rest ∧ t = .leaf x ∧ c :: tail = w ++ rest
    | .text => ∃ w s, Quotes w s.toList ∧ t = .leaf (.text s) ∧ c :: tail = w ++ rest
    | .mark => t = .mark c ∧ tail = rest := by
  cases h with
  | @word w _ x h hcs =>
    have hhead : ∃ c tail, w = c :: tail ∧ kindOf c = .word := by
      simp only [words, List.mem_cons, Prod.mk.injEq, List.not_mem_nil, or_false] at h
      rcases h with ⟨rfl, -⟩ | ⟨rfl, -⟩ | ⟨rfl, -⟩ <;> exact ⟨_, _, rfl, rfl⟩
    obtain ⟨c, tail, rfl, hc⟩ := hhead
    refine ⟨c, _, hcs, ?_⟩
    rw [hc]
    exact ⟨_, x, h, rfl, rfl⟩
  | @number w _ x h hstop hcs =>
    obtain ⟨c, tail, rfl, hc⟩ := h.numberLiteral.exists_cons
    have hkind : kindOf c = .number := by
      -- a digit is neither a quote nor a mark, and a minus sign is none either
      have hmark : c ≠ '"' ∧ c ∉ marks := by
        constructor
        · rintro rfl
          revert hc
          decide
        · intro hm
          simp only [marks, List.mem_cons, List.not_mem_nil, or_false] at hm
          rcases hm with rfl | rfl | rfl | rfl | rfl | rfl <;> revert hc <;> decide
      rw [kindOf, if_neg hmark.1, if_neg hmark.2, if_pos hc]
    refine ⟨c, _, hcs, ?_⟩
    rw [hkind]
    exact ⟨_, x, h, hstop, rfl, rfl⟩
  | @text _ _ s h hcs =>
    obtain ⟨w, hw, rfl⟩ := h
    exact ⟨'"', _, hcs, _, s, ⟨w, hw, rfl⟩, rfl, rfl⟩
  | @mark c _ h hcs =>
    have hkind : kindOf c = .mark := by
      have hquote : c ≠ '"' := by
        rintro rfl
        revert h
        decide
      rw [kindOf, if_neg hquote, if_pos h]
    refine ⟨c, _, hcs, ?_⟩
    rw [hkind]
    exact ⟨rfl, rfl⟩

/-- No two words begin alike. -/
theorem words_unique {w w' : List Char} {x x' : Tree} (h : (w, x) ∈ words) (h' : (w', x') ∈ words)
    (heq : w ++ rest = w' ++ rest') : x = x' ∧ rest = rest' := by
  simp only [words, List.mem_cons, Prod.mk.injEq, List.not_mem_nil, or_false] at h h'
  rcases h with ⟨rfl, rfl⟩ | ⟨rfl, rfl⟩ | ⟨rfl, rfl⟩ <;>
    rcases h' with ⟨rfl, rfl⟩ | ⟨rfl, rfl⟩ | ⟨rfl, rfl⟩ <;> simp at heq ⊢
  all_goals exact heq

/-- A quoted text ends at its first bare quote, so that what is read and what is left
are determined. -/
theorem Quotes.unique {w w' text text' : List Char} (h : Quotes w text) (h' : Quotes w' text')
    (heq : w ++ rest = w' ++ rest') : text = text' ∧ rest = rest' := by
  obtain ⟨v, hv, rfl⟩ := h
  obtain ⟨v', hv', rfl⟩ := h'
  simp only [List.cons_append, List.append_assoc, List.nil_append, List.cons.injEq, true_and] at heq
  -- what the reader of strings finds is the one text and the other
  have hread := string_of_spells hv rest
  rw [heq, string_of_spells hv' rest'] at hread
  obtain ⟨rfl, rfl⟩ := Prod.mk.inj (Except.ok.inj hread)
  exact ⟨rfl, rfl⟩

/-- A text begins with one token at most. -/
theorem Next.unique {t t' : Token} (h : Next cs t rest) (h' : Next cs t' rest') :
    t = t' ∧ rest = rest' := by
  obtain ⟨c, tail, hcs, hk⟩ := h.by_kind
  obtain ⟨c', tail', hcs', hk'⟩ := h'.by_kind
  obtain ⟨rfl, rfl⟩ := List.cons.inj (hcs.symm.trans hcs')
  -- the first character is the same, and it says of which kind both tokens are
  generalize kindOf c = k at hk hk'
  cases k with
  | word =>
    obtain ⟨w, x, hw, rfl, heq⟩ := hk
    obtain ⟨w', x', hw', rfl, heq'⟩ := hk'
    obtain ⟨rfl, rfl⟩ := words_unique hw hw' (heq.symm.trans heq')
    exact ⟨rfl, rfl⟩
  | number =>
    obtain ⟨w, x, hw, hstop, rfl, heq⟩ := hk
    obtain ⟨w', x', hw', hstop', rfl, heq'⟩ := hk'
    -- a number goes as far as it can, so both are the same characters
    have hww : w = w' := by
      rw [← hw.takeWhile hstop, ← heq, heq', hw'.takeWhile hstop']
    subst hww
    rw [hw.unique hw']
    exact ⟨rfl, List.append_cancel_left (heq.symm.trans heq')⟩
  | text =>
    obtain ⟨w, s, hw, rfl, heq⟩ := hk
    obtain ⟨w', s', hw', rfl, heq'⟩ := hk'
    obtain ⟨hs, rfl⟩ := hw.unique hw' (heq.symm.trans heq')
    rw [String.toList_inj.mp hs]
    exact ⟨rfl, rfl⟩
  | mark =>
    obtain ⟨rfl, rfl⟩ := hk
    obtain ⟨rfl, rfl⟩ := hk'
    exact ⟨rfl, rfl⟩

/-- A token of a given kind leaves one rest. -/
theorem Next.rest_unique {t : Token} (h : Next cs t rest) (h' : Next cs t rest') : rest = rest' :=
  (h.unique h').2

/-- Two different tokens do not come first both. -/
theorem Next.absurd {p : Prop} {t t' : Token} (h : Next cs t rest) (h' : Next cs t' rest')
    (hne : t ≠ t') : p :=
  False.elim (hne (h.unique h').1)

/-- No mark that closes begins a value. -/
theorem Reads.opens {x : Tree} (h : Reads cs x rest) :
    ∃ t mid, Next cs t mid ∧ (t = .mark '[' ∨ t = .mark '{' ∨ ∃ x, t = .leaf x) := by
  cases h with
  | leaf h => exact ⟨_, _, h, .inr (.inr ⟨_, rfl⟩)⟩
  | emptyArray opened | array opened => exact ⟨_, _, opened, .inl rfl⟩
  | emptyObject opened | object opened => exact ⟨_, _, opened, .inr (.inl rfl)⟩

/-- A value does not begin with the bracket that closes a list. -/
theorem Reads.not_closed {x : Tree} (h : Reads cs x rest) : ¬Next cs (.mark ']') rest' := by
  intro h'
  obtain ⟨t, mid, ht, hopen⟩ := h.opens
  obtain ⟨rfl, -⟩ := h'.unique ht
  simp at hopen

end Unique

mutual

/-- A text begins with one value at most. By recursion on how the value is read: the first token
tells the kind of the value, and what is inside its brackets is read in one way. -/
theorem Reads.unique {cs rest rest' : List Char} {x x' : Tree} (h : Reads cs x rest)
    (h' : Reads cs x' rest') : x = x' ∧ rest = rest' := by
  cases h with
  | leaf h =>
    cases h' with
    | leaf h' =>
      obtain ⟨hx, rfl⟩ := h.unique h'
      cases hx
      exact ⟨rfl, rfl⟩
    | emptyArray opened | array opened | emptyObject opened | object opened =>
      exact h.absurd opened nofun
  | emptyArray opened closed =>
    cases h' with
    | emptyArray opened' closed' =>
      obtain rfl := opened.rest_unique opened'
      exact ⟨rfl, closed.rest_unique closed'⟩
    | array opened' h' =>
      -- what is there closes the array, and no value begins like that
      obtain rfl := opened.rest_unique opened'
      cases h' with
      | last h' | more h' => exact absurd closed h'.not_closed
    | leaf opened' | emptyObject opened' | object opened' => exact opened.absurd opened' nofun
  | array opened h =>
    cases h' with
    | emptyArray opened' closed' =>
      obtain rfl := opened.rest_unique opened'
      cases h with
      | last h | more h => exact absurd closed' h.not_closed
    | array opened' h' =>
      obtain rfl := opened.rest_unique opened'
      obtain ⟨rfl, rfl⟩ := h.unique h'
      exact ⟨rfl, rfl⟩
    | leaf opened' | emptyObject opened' | object opened' => exact opened.absurd opened' nofun
  | emptyObject opened closed =>
    cases h' with
    | emptyObject opened' closed' =>
      obtain rfl := opened.rest_unique opened'
      exact ⟨rfl, closed.rest_unique closed'⟩
    | object opened' h' =>
      -- a brace is no key
      obtain rfl := opened.rest_unique opened'
      cases h' with
      | last hkey | more hkey => exact closed.absurd hkey nofun
    | leaf opened' | emptyArray opened' | array opened' => exact opened.absurd opened' nofun
  | object opened h =>
    cases h' with
    | emptyObject opened' closed' =>
      obtain rfl := opened.rest_unique opened'
      cases h with
      | last hkey | more hkey => exact closed'.absurd hkey nofun
    | object opened' h' =>
      obtain rfl := opened.rest_unique opened'
      obtain ⟨rfl, rfl⟩ := h.unique h'
      exact ⟨rfl, rfl⟩
    | leaf opened' | emptyArray opened' | array opened' => exact opened.absurd opened' nofun

/-- Behind each value of an array there is either a comma or the bracket. -/
theorem Items.unique {cs rest rest' : List Char} {xs xs' : List Tree} (h : Items cs xs rest)
    (h' : Items cs xs' rest') : xs = xs' ∧ rest = rest' := by
  cases h with
  | last h closed =>
    cases h' with
    | last h' closed' =>
      obtain ⟨rfl, rfl⟩ := h.unique h'
      exact ⟨rfl, closed.rest_unique closed'⟩
    | more h' comma' =>
      -- what follows the same value is a bracket in one reading and a comma in the other
      obtain ⟨rfl, rfl⟩ := h.unique h'
      exact closed.absurd comma' nofun
  | more h comma hs =>
    cases h' with
    | last h' closed' =>
      obtain ⟨rfl, rfl⟩ := h.unique h'
      exact comma.absurd closed' nofun
    | more h' comma' hs' =>
      obtain ⟨rfl, rfl⟩ := h.unique h'
      obtain rfl := comma.rest_unique comma'
      obtain ⟨rfl, rfl⟩ := hs.unique hs'
      exact ⟨rfl, rfl⟩

/-- Behind each member of an object there is either a comma or the brace. -/
theorem Members.unique {cs rest rest' : List Char} {ms ms' : List (String × Tree)}
    (h : Members cs ms rest) (h' : Members cs ms' rest') : ms = ms' ∧ rest = rest' := by
  cases h with
  | last hkey colon h closed =>
    cases h' with
    | last hkey' colon' h' closed' =>
      obtain ⟨hk, rfl⟩ := hkey.unique hkey'
      cases hk
      obtain rfl := colon.rest_unique colon'
      obtain ⟨rfl, rfl⟩ := h.unique h'
      exact ⟨rfl, closed.rest_unique closed'⟩
    | more hkey' colon' h' comma' =>
      -- key, colon and value are the same, so what follows them is
      obtain ⟨hk, rfl⟩ := hkey.unique hkey'
      obtain rfl := colon.rest_unique colon'
      obtain ⟨rfl, rfl⟩ := h.unique h'
      exact closed.absurd comma' nofun
  | more hkey colon h comma hs =>
    cases h' with
    | last hkey' colon' h' closed' =>
      obtain ⟨hk, rfl⟩ := hkey.unique hkey'
      obtain rfl := colon.rest_unique colon'
      obtain ⟨rfl, rfl⟩ := h.unique h'
      exact comma.absurd closed' nofun
    | more hkey' colon' h' comma' hs' =>
      obtain ⟨hk, rfl⟩ := hkey.unique hkey'
      cases hk
      obtain rfl := colon.rest_unique colon'
      obtain ⟨rfl, rfl⟩ := h.unique h'
      obtain rfl := comma.rest_unique comma'
      obtain ⟨rfl, rfl⟩ := hs.unique hs'
      exact ⟨rfl, rfl⟩

end

/-- **The grammar is unambiguous.** A text has one value at most. -/
theorem Document.unique {cs : List Char} {x x' : Tree} (h : Document cs x) (h' : Document cs x') :
    x = x' := by
  obtain ⟨rest, hr, -⟩ := h
  obtain ⟨rest', hr', -⟩ := h'
  exact (hr.unique hr').1

/-! ## What is written -/

/-- A text that is read as a value wherever it stands, with no control character in it. -/
structure Written (w : List Char) (x : Tree) : Prop where
  reads : ∀ rest, Stops rest → Reads (w ++ rest) x rest
  plain : ∀ c ∈ w, 0x20 ≤ c.toNat

/-- What is written for a tree is a document of that tree and of no other. -/
theorem Written.document_iff {w : List Char} {x x' : Tree} (h : Written w x) :
    Document w x' ↔ x' = x := by
  have hd : Document w x := by
    have hr := h.reads [] nofun
    rw [List.append_nil] at hr
    exact ⟨[], hr, nofun⟩
  constructor
  · intro h'
    exact h'.unique hd
  · rintro rfl
    exact hd

theorem Next.of_mark {c : Char} (h : c ∈ marks) (rest : List Char) :
    Next (c :: rest) (.mark c) rest := by
  have hall : ∀ c ∈ marks, isBlank c = false := by simp [marks, isBlank]
  exact .mark h (skipBlanks_cons (hall c h) rest)

theorem stops_of_mark {c : Char} (h : c ∈ marks) (rest : List Char) : Stops (c :: rest) := by
  have hall : ∀ c ∈ marks, inNumber c = false := by simp [marks, inNumber, isDigit]
  rintro _ _ ⟨⟩
  exact hall c h

theorem hexDigit_plain {n : Nat} (h : n < 16) : 0x20 ≤ (hexDigit n).toNat := by
  have hall : ∀ n < 16, 0x20 ≤ (hexDigit n).toNat := by decide
  exact hall n h

/-- Whatever character is quoted, no control character is written for it. -/
theorem quotedChar_plain (c : Char) : ∀ d ∈ quotedChar c, 0x20 ≤ d.toNat := by
  unfold quotedChar
  split
  -- what has no short escape is escaped by its code, or written as it is
  case h_8 =>
    split
    · next hlow =>
      have h1 := hexDigit_plain (n := c.toNat / 16) (by omega)
      have h2 := hexDigit_plain (n := c.toNat % 16) (by omega)
      simp only [List.forall_mem_cons]
      exact ⟨by decide, by decide, by decide, by decide, h1, h2, nofun⟩
    · next hlow =>
      intro d hd
      rw [List.mem_singleton.mp hd]
      exact Nat.le_of_not_lt hlow
  all_goals simp

/-- A quoted text is read back as the text. -/
theorem Next.of_quote (s : String) (rest : List Char) :
    Next ((quote s).toList ++ rest) (.leaf (.text s)) rest := by
  rw [quote, String.toList_ofList]
  exact .text (Value.quotes_quoted s.toList) (skipBlanks_cons (by decide) _)

/-- A quoted text is written for the text, without control characters. -/
theorem written_text (s : String) : Written (quote s).toList (.text s) := by
  constructor
  · intro rest _
    exact .leaf (.of_quote s rest)
  · rw [quote, String.toList_ofList]
    intro c hc
    simp only [quoted, List.cons_append, List.mem_cons, List.mem_append, List.mem_flatMap,
      List.not_mem_nil, or_false] at hc
    -- a quote, what is written for a character, or a quote
    rcases hc with rfl | ⟨d, -, hd⟩ | rfl
    · decide
    · exact quotedChar_plain d c hd
    · decide

theorem written_null : Written "null".toList .null := by
  constructor
  · intro rest _
    exact .leaf (.word (List.mem_cons_self : (['n', 'u', 'l', 'l'], Tree.null) ∈ words) rfl)
  · simp

/-- No character of a number is a blank or a control character. -/
theorem visible_of_inNumber {c : Char} (h : inNumber c = true) :
    0x20 ≤ c.toNat ∧ isBlank c = false := by
  rw [inNumber, Bool.or_eq_true, isDigit_iff] at h
  rcases h with h | h
  · refine ⟨by omega, ?_⟩
    rw [Bool.eq_false_iff, ne_eq, isBlank_iff]
    rintro (rfl | rfl | rfl | rfl) <;> exact absurd h (by decide)
  · simp only [List.contains_cons, List.contains_nil, Bool.or_eq_true, beq_iff_eq,
      Bool.or_false] at h
    rcases h with rfl | rfl | rfl | rfl | rfl <;> decide

/-- The literal of an integer is written for it. -/
theorem written_integer {w : List Char} {i : Int} (h : IntegerLiteral w i) :
    Written w (.integer i) := by
  have hw := h.numberLiteral.inNumber
  obtain ⟨c, tail, rfl, -⟩ := h.numberLiteral.exists_cons
  constructor
  · intro rest hstop
    refine .leaf (.number (.integer h) hstop ?_)
    exact skipBlanks_cons (visible_of_inNumber (hw c List.mem_cons_self)).2 _
  · intro c hc
    exact (visible_of_inNumber (hw c hc)).1

end Epilogue.Json
