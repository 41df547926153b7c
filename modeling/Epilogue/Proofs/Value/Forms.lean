import Epilogue.Proofs.Json.Numeral
import Epilogue.Proofs.Json.Spelling

/-!
# Epilogue — the texts that denote a value

A text denotes a value in one of two forms, with blanks around every token: a string that names a
tag without payload, or an object with one member, whose key names the tag and whose value is the
payload, `null` where there is none. The forms are stated here over the written characters, apart
from the reader. The reader gives a value for exactly the texts that have one of its forms, and the
text that is written for a value has one.

* `Blanks`, `Quotes` — blanks, and strings with their quotes;
* `Value.Denotes` — what may stand in the place of the payload of a value;
* `Value.Form` — the texts of a value.

## Main results

* `Value.decodePayload_eq_ok_iff` — a payload is read if and only if it denotes the value.
* `Value.decode_eq_ok_iff` — a value is read if and only if the text has one of its forms.
* `json_forms_exact` — both for texts as strings, and that each value is read back.
-/

namespace Epilogue

namespace Json

/-! ## The grammar -/

/-- Characters that may stand around tokens. -/
def Blanks (cs : List Char) : Prop := ∀ c ∈ cs, c = ' ' ∨ c = '\t' ∨ c = '\n' ∨ c = '\r'

/-- A string with its quotes, and its text. -/
def Quotes (written text : List Char) : Prop := ∃ w, Spells w text ∧ written = '"' :: (w ++ ['"'])

end Json

namespace Value

/-- What may stand in the place of the payload of a value. -/
inductive Denotes : List Char → Value → Prop
  | int {w : List Char} {n : Int64} (h : Json.IntegerLiteral w n.toInt) : Denotes w (int n)
  | true : Denotes ['t', 'r', 'u', 'e'] (bool true)
  | false : Denotes ['f', 'a', 'l', 's', 'e'] (bool false)
  | char {w : List Char} {c : Char} (h : Json.Quotes w [c]) : Denotes w (char c)
  | null {v : Value} (h : v.shape.hasPayload = Bool.false) : Denotes ['n', 'u', 'l', 'l'] v

/-- The texts that denote a value. -/
inductive Form (v : Value) : List Char → Prop
  /-- a string that names the tag of a value without payload -/
  | bare {before name after : List Char} (bare : v.shape.hasPayload = Bool.false)
      (blank : Json.Blanks before) (tag : Json.Quotes name v.shape.tag.toList)
      (blank' : Json.Blanks after) : Form v (before ++ (name ++ after))
  /-- an object with one member: the tag and the payload -/
  | member {b₁ b₂ name b₃ b₄ payload b₅ b₆ : List Char} (blank₁ : Json.Blanks b₁)
      (blank₂ : Json.Blanks b₂) (tag : Json.Quotes name v.shape.tag.toList)
      (blank₃ : Json.Blanks b₃) (blank₄ : Json.Blanks b₄) (denotes : Denotes payload v)
      (blank₅ : Json.Blanks b₅) (blank₆ : Json.Blanks b₆) :
      Form v (b₁ ++ '{' :: (b₂ ++ (name ++ (b₃ ++ ':' :: (b₄ ++ (payload ++ (b₅ ++ '}' :: b₆)))))))

end Value

namespace Json

/-! ## Blanks -/

theorem isBlank_iff {c : Char} : isBlank c = true ↔ c = ' ' ∨ c = '\t' ∨ c = '\n' ∨ c = '\r' := by
  simp only [isBlank, Bool.or_eq_true, beq_iff_eq, or_assoc]

theorem blanks_iff {cs : List Char} : Blanks cs ↔ ∀ c ∈ cs, isBlank c = true := by
  simp only [Blanks, isBlank_iff]

/-- Blanks at the front make no difference. -/
theorem skipBlanks_append {b : List Char} (hb : Blanks b) (cs : List Char) :
    skipBlanks (b ++ cs) = skipBlanks cs :=
  List.dropWhile_append_of_pos (blanks_iff.mp hb)

theorem skipBlanks_cons {c : Char} (hc : isBlank c = false) (rest : List Char) :
    skipBlanks (c :: rest) = c :: rest :=
  List.dropWhile_cons_of_neg (by rw [hc]; exact Bool.false_ne_true)

/-- What is skipped is blank. -/
theorem exists_blanks (cs : List Char) : ∃ b, Blanks b ∧ cs = b ++ skipBlanks cs :=
  ⟨cs.takeWhile isBlank, blanks_iff.mpr (List.all_eq_true.mp List.all_takeWhile),
    List.takeWhile_append_dropWhile.symm⟩

theorem skipBlanks_eq_nil_iff {cs : List Char} : skipBlanks cs = [] ↔ Blanks cs := by
  constructor
  · intro h
    obtain ⟨b, hb, hcs⟩ := exists_blanks cs
    rw [h, List.append_nil] at hcs
    rwa [hcs]
  · intro h
    have hs := skipBlanks_append h []
    rwa [List.append_nil] at hs

/-- A token is found if and only if blanks alone come before it. -/
theorem skipBlanks_eq_cons_iff {c : Char} (hc : isBlank c = false) {cs rest : List Char} :
    skipBlanks cs = c :: rest ↔ ∃ b, Blanks b ∧ cs = b ++ c :: rest := by
  constructor
  · intro h
    obtain ⟨b, hb, hcs⟩ := exists_blanks cs
    rw [h] at hcs
    exact ⟨b, hb, hcs⟩
  · rintro ⟨b, hb, rfl⟩
    rw [skipBlanks_append hb, skipBlanks_cons hc]

/-! ## Tokens -/

theorem word_eq_ok_iff {expected cs rest : List Char} :
    word expected cs = .ok ((), rest) ↔ cs = expected ++ rest := by
  induction expected generalizing cs with
  | nil =>
    rw [word, List.nil_append]
    constructor
    · intro h
      exact (Prod.mk.inj (Except.ok.inj h)).2
    · rintro rfl
      rfl
  | cons e expected ih =>
    cases cs with
    | nil =>
      -- the text ends within the word
      rw [word]
      exact ⟨nofun, nofun⟩
    | cons c cs =>
      rw [word, List.cons_append, List.cons.injEq]
      split
      · next he => rw [ih, and_iff_right he]
      · next he => exact ⟨nofun, fun h => absurd h.1 he⟩

/-- A tag names its shape and no other. -/
theorem ofTag?_eq_some_iff {name : List Char} {s : Shape} :
    Shape.ofTag? (String.ofList name) = some s ↔ name = s.tag.toList := by
  constructor
  · intro h
    have ht : s.tag = String.ofList name := eq_of_beq (List.find?_some h :)
    rw [ht, String.toList_ofList]
  · rintro rfl
    rw [String.ofList_toList]
    exact s.ofTag?_tag

/-- A tag is read, after its opening quote, if and only if a spelling of it comes first. -/
theorem tag_eq_ok_iff {cs rest : List Char} {s : Shape} :
    tag cs = .ok (s, rest) ↔ ∃ w, Spells w s.tag.toList ∧ cs = w ++ '"' :: rest := by
  rw [tag, andThen_eq_ok]
  constructor
  · rintro ⟨name, tail, hread, htag⟩
    unfold tagged at htag
    split at htag
    · next s' hs =>
      obtain ⟨rfl, rfl⟩ := Prod.mk.inj (Except.ok.inj htag)
      rw [ofTag?_eq_some_iff.mp hs] at hread
      exact string_eq_ok_iff.mp hread
    · cases htag
  · intro h
    refine ⟨s.tag.toList, rest, string_eq_ok_iff.mpr h, ?_⟩
    rw [tagged, ofTag?_eq_some_iff.mpr rfl]

/-- A text is at its end exactly if only blanks are left. -/
theorem finished_eq_ok_iff {α : Type} {a b : α} {cs : List Char} :
    finished a cs = .ok b ↔ a = b ∧ Blanks cs := by
  rw [← skipBlanks_eq_nil_iff, finished]
  split
  · next h => rw [h, Except.ok.injEq, and_iff_left rfl]
  · next h => exact ⟨nofun, fun hb => absurd hb.2 h⟩

/-- A variant is closed by a brace, with blanks before it. -/
theorem closing_eq_ok_iff {α : Type} {a b : α} {cs rest : List Char} :
    closing a cs = .ok (b, rest) ↔ a = b ∧ ∃ w, Blanks w ∧ cs = w ++ '}' :: rest := by
  rw [← skipBlanks_eq_cons_iff (by decide), closing]
  split
  · next h => exact ⟨nofun, fun hc => absurd (h.symm.trans hc.2) nofun⟩
  · next h => rw [h, Except.ok.injEq, Prod.mk.injEq, List.cons.injEq, and_iff_right rfl]
  · next h => exact ⟨nofun, fun hc => absurd hc.2 (h rest)⟩

theorem colon_eq_ok_iff {cs rest : List Char} :
    colon cs = .ok ((), rest) ↔ ∃ w, Blanks w ∧ cs = w ++ ':' :: rest := by
  rw [← skipBlanks_eq_cons_iff (by decide), colon]
  split
  · next h => exact ⟨nofun, fun hc => absurd (h.symm.trans hc) nofun⟩
  · next h => rw [h, Except.ok.injEq, Prod.mk.injEq, List.cons.injEq, and_iff_right rfl,
      and_iff_right rfl]
  · next h => exact ⟨nofun, fun hc => absurd hc (h rest)⟩

/-! ## Payloads -/

/-- The payload of a truth value is one of two words. -/
theorem truthPayload_eq_ok_iff {cs rest : List Char} {b : Bool} :
    truthPayload cs = .ok (b, rest) ↔ cs = Value.truthText b ++ rest := by
  constructor
  · intro h
    unfold truthPayload at h
    split at h
    · obtain ⟨⟨_, tail⟩, hw, hb⟩ := map_eq_ok_iff.mp h
      obtain ⟨rfl, rfl⟩ := Prod.mk.inj hb
      rw [word_eq_ok_iff.mp hw]
      rfl
    · obtain ⟨⟨_, tail⟩, hw, hb⟩ := map_eq_ok_iff.mp h
      obtain ⟨rfl, rfl⟩ := Prod.mk.inj hb
      rw [word_eq_ok_iff.mp hw]
      rfl
    · cases h
  · rintro rfl
    -- the word is there, character by character
    cases b <;> rfl

/-- The payload of a variant without one is null. -/
theorem unitPayload_eq_ok_iff {cs rest : List Char} :
    unitPayload cs = .ok ((), rest) ↔ cs = ['n', 'u', 'l', 'l'] ++ rest := by
  constructor
  · intro h
    unfold unitPayload at h
    split at h
    · rw [word_eq_ok_iff.mp h]
      rfl
    · cases h
  · rintro rfl
    exact word_eq_ok_iff.mpr rfl

/-- The payload of a character is a quoted text of just this character. -/
theorem characterPayload_eq_ok_iff {cs rest : List Char} {c : Char} :
    characterPayload cs = .ok (c, rest) ↔ ∃ w, Quotes w [c] ∧ cs = w ++ rest := by
  constructor
  · intro h
    unfold characterPayload at h
    split at h
    · obtain ⟨text, tail, hs, h⟩ := andThen_eq_ok.mp h
      -- the text has one character, or it is refused
      split at h
      · cases h
        obtain ⟨w, hw, rfl⟩ := string_eq_ok_iff.mp hs
        refine ⟨'"' :: (w ++ ['"']), ⟨w, hw, rfl⟩, ?_⟩
        rw [List.cons_append, List.append_assoc, List.singleton_append]
      · cases h
    · cases h
  · rintro ⟨_, ⟨w, hw, rfl⟩, rfl⟩
    have hs : string (w ++ ['"'] ++ rest) = .ok ([c], rest) := by
      rw [List.append_assoc]
      exact string_of_spells hw rest
    rw [List.cons_append]
    unfold characterPayload
    simp only
    rw [hs, andThen_ok]

/-- The end of an object, after blanks, goes on with no number. -/
theorem endsNumber_of_closing {b : List Char} (hb : Blanks b) (rest : List Char) :
    EndsNumber (b ++ '}' :: rest) := by
  intro c tail h
  have hc : c = '}' ∨ c ∈ b := by
    cases b with
    | nil => exact .inl (List.cons.inj h).1.symm
    | cons d b =>
      obtain ⟨rfl, -⟩ := List.cons.inj h
      exact .inr List.mem_cons_self
  rcases hc with rfl | hc
  · decide
  · rcases hb c hc with rfl | rfl | rfl | rfl <;> decide

end Json

namespace Value

/-! ## Payloads of values -/

/-- A payload begins with a character that is no blank. -/
theorem Denotes.exists_cons {w : List Char} {v : Value} (h : Denotes w v) :
    ∃ c tail, w = c :: tail ∧ Json.isBlank c = Bool.false := by
  cases h with
  | true | false | null => exact ⟨_, _, rfl, rfl⟩
  | char h =>
    obtain ⟨w, -, rfl⟩ := h
    exact ⟨_, _, rfl, rfl⟩
  | @int _ n h =>
    generalize n.toInt = i at h
    cases h with
    | negative => exact ⟨_, _, rfl, rfl⟩
    | natural h =>
      obtain ⟨d, tail, rfl, hd, -⟩ := h.exists_cons
      refine ⟨d, tail, rfl, ?_⟩
      -- no digit is a blank
      rw [Bool.eq_false_iff, ne_eq, Json.isBlank_iff]
      rintro (rfl | rfl | rfl | rfl) <;> exact absurd hd (by decide)

/-- A payload is read, where no number goes on, if and only if it denotes the value and the tag is
that of the value. -/
theorem decodePayload_eq_ok_iff {s : Shape} {cs rest : List Char} {v : Value}
    (hrest : Json.EndsNumber rest) :
    decodePayload s cs = .ok (v, rest) ↔ v.shape = s ∧ ∃ w, Denotes w v ∧ cs = w ++ rest := by
  constructor
  · intro h
    -- every tag without payload reads the same word
    have hunit {v' : Value} (hv : v'.shape.hasPayload = Bool.false)
        (h : (Json.unitPayload cs).map (fun r => (v', r.2)) = .ok (v, rest)) :
        v' = v ∧ ∃ w, Denotes w v ∧ cs = w ++ rest := by
      obtain ⟨⟨_, tail⟩, hu, hr⟩ := Json.map_eq_ok_iff.mp h
      obtain ⟨rfl, rfl⟩ := Prod.mk.inj hr
      exact ⟨rfl, _, .null hv, Json.unitPayload_eq_ok_iff.mp hu⟩
    cases s with
    | int =>
      obtain ⟨⟨n, tail⟩, hi, hr⟩ := Json.map_eq_ok_iff.mp h
      obtain ⟨rfl, rfl⟩ := Prod.mk.inj hr
      obtain ⟨w, hw, hcs⟩ := (Json.integerPayload_eq_ok_iff hrest).mp hi
      exact ⟨rfl, w, .int hw, hcs⟩
    | bool =>
      obtain ⟨⟨b, tail⟩, ht, hr⟩ := Json.map_eq_ok_iff.mp h
      obtain ⟨rfl, rfl⟩ := Prod.mk.inj hr
      have hcs := Json.truthPayload_eq_ok_iff.mp ht
      cases b with
      | false => exact ⟨rfl, _, .false, hcs⟩
      | true => exact ⟨rfl, _, .true, hcs⟩
    | char =>
      obtain ⟨⟨c, tail⟩, hc, hr⟩ := Json.map_eq_ok_iff.mp h
      obtain ⟨rfl, rfl⟩ := Prod.mk.inj hr
      obtain ⟨w, hw, hcs⟩ := Json.characterPayload_eq_ok_iff.mp hc
      exact ⟨rfl, w, .char hw, hcs⟩
    | eof | void | invalid =>
      obtain ⟨rfl, hw⟩ := hunit rfl h
      exact ⟨rfl, hw⟩
  · rintro ⟨rfl, w, hw, rfl⟩
    cases hw with
    | int hw =>
      exact Json.map_eq_ok_iff.mpr ⟨_, (Json.integerPayload_eq_ok_iff hrest).mpr ⟨w, hw, rfl⟩, rfl⟩
    | true => rfl
    | false => rfl
    | char hw =>
      exact Json.map_eq_ok_iff.mpr ⟨_, Json.characterPayload_eq_ok_iff.mpr ⟨w, hw, rfl⟩, rfl⟩
    | null hv =>
      cases v with
      | int | bool | char => cases hv
      | eof | void | invalid => rfl

/-! ## Objects -/

/-- An object is read, after its opening brace, if and only if its one member names the tag of the
value and has a payload that denotes it. -/
theorem member_eq_ok_iff {cs rest : List Char} {v : Value} :
    Json.member decodePayload cs = .ok (v, rest) ↔
      ∃ b₂ name b₃ b₄ payload b₅, Json.Blanks b₂ ∧ Json.Quotes name v.shape.tag.toList ∧
        Json.Blanks b₃ ∧ Json.Blanks b₄ ∧ Denotes payload v ∧ Json.Blanks b₅ ∧
        cs = b₂ ++ (name ++ (b₃ ++ ':' :: (b₄ ++ (payload ++ (b₅ ++ '}' :: rest))))) := by
  constructor
  · intro h
    unfold Json.member at h
    split at h
    · cases h
    · next hquote =>
      obtain ⟨b₂, hb₂, rfl⟩ := (Json.skipBlanks_eq_cons_iff (by decide)).mp hquote
      obtain ⟨s, cs₁, htag, hafter⟩ := Json.andThen_eq_ok.mp h
      obtain ⟨w, hw, rfl⟩ := Json.tag_eq_ok_iff.mp htag
      obtain ⟨⟨⟩, cs₂, hcolon, hvalue⟩ := Json.andThen_eq_ok.mp hafter
      obtain ⟨b₃, hb₃, rfl⟩ := Json.colon_eq_ok_iff.mp hcolon
      obtain ⟨v', cs₃, hpayload, hclose⟩ := Json.andThen_eq_ok.mp hvalue
      obtain ⟨rfl, b₅, hb₅, rfl⟩ := Json.closing_eq_ok_iff.mp hclose
      -- the brace that closes the object ends a number, so the payload is read as such
      have hends := Json.endsNumber_of_closing hb₅ rest
      obtain ⟨rfl, payload, hp, hskip⟩ := (decodePayload_eq_ok_iff hends).mp hpayload
      obtain ⟨b₄, hb₄, hcs₂⟩ := Json.exists_blanks cs₂
      rw [hskip] at hcs₂
      refine ⟨b₂, '"' :: (w ++ ['"']), b₃, b₄, payload, b₅, hb₂, ⟨w, hw, rfl⟩, hb₃, hb₄, hp, hb₅,
        ?_⟩
      rw [hcs₂]
      simp only [List.cons_append, List.append_assoc, List.nil_append]
    · cases h
    · cases h
  · rintro ⟨b₂, _, b₃, b₄, payload, b₅, hb₂, ⟨w, hw, rfl⟩, hb₃, hb₄, hp, hb₅, rfl⟩
    -- the blanks before the payload are skipped up to its first character
    obtain ⟨c, tail, rfl, hc⟩ := hp.exists_cons
    have hends := Json.endsNumber_of_closing hb₅ rest
    have hskip : Json.skipBlanks (b₄ ++ (c :: tail ++ (b₅ ++ '}' :: rest))) =
        c :: tail ++ (b₅ ++ '}' :: rest) := by
      rw [Json.skipBlanks_append hb₄, List.cons_append, Json.skipBlanks_cons hc]
    have hquote : Json.skipBlanks (b₂ ++ ('"' :: (w ++ ['"']) ++
        (b₃ ++ ':' :: (b₄ ++ (c :: tail ++ (b₅ ++ '}' :: rest)))))) =
        '"' :: (w ++ '"' :: (b₃ ++ ':' :: (b₄ ++ (c :: tail ++ (b₅ ++ '}' :: rest))))) := by
      rw [Json.skipBlanks_append hb₂, List.cons_append, Json.skipBlanks_cons (by decide),
        List.append_assoc, List.singleton_append]
    unfold Json.member
    rw [hquote]
    simp only
    rw [Json.tag_eq_ok_iff.mpr ⟨w, hw, rfl⟩, Json.andThen_ok,
      Json.colon_eq_ok_iff.mpr ⟨b₃, hb₃, rfl⟩, Json.andThen_ok, hskip,
      (decodePayload_eq_ok_iff hends).mpr ⟨rfl, _, hp, rfl⟩, Json.andThen_ok]
    exact Json.closing_eq_ok_iff.mpr ⟨rfl, b₅, hb₅, rfl⟩

/-! ## Values -/

theorem ofBareTag?_eq_some_iff {s : Shape} {v : Value} :
    ofBareTag? s = some v ↔ v.shape = s ∧ v.shape.hasPayload = Bool.false := by
  cases s <;> cases v <;> simp [ofBareTag?, shape, Shape.hasPayload]

/-- **The reader accepts the grammar and no more.** -/
theorem decode_eq_ok_iff {cs : List Char} {v : Value} : decode cs = .ok v ↔ v.Form cs := by
  constructor
  · intro h
    unfold decode Json.decodeTagged at h
    split at h
    · cases h
    · next hquote =>
      obtain ⟨b, hb, rfl⟩ := (Json.skipBlanks_eq_cons_iff (by decide)).mp hquote
      -- a string alone: its tag has to be one without payload, and nothing may follow
      obtain ⟨s, cs₁, htag, hbare⟩ := Json.andThen_eq_ok.mp h
      split at hbare
      · next v' hv =>
        obtain ⟨rfl, hafter⟩ := Json.finished_eq_ok_iff.mp hbare
        obtain ⟨rfl, hpayload⟩ := ofBareTag?_eq_some_iff.mp hv
        obtain ⟨w, hw, rfl⟩ := Json.tag_eq_ok_iff.mp htag
        have hform := Form.bare hpayload hb ⟨w, hw, rfl⟩ hafter
        rwa [List.cons_append, List.append_assoc, List.singleton_append] at hform
      · cases hbare
    · next hbrace =>
      obtain ⟨b₁, hb₁, rfl⟩ := (Json.skipBlanks_eq_cons_iff (by decide)).mp hbrace
      -- an object: its one member is all of it, and nothing may follow
      obtain ⟨v', cs₁, hmember, hafter⟩ := Json.andThen_eq_ok.mp h
      obtain ⟨rfl, hb₆⟩ := Json.finished_eq_ok_iff.mp hafter
      obtain ⟨b₂, name, b₃, b₄, payload, b₅, hb₂, hname, hb₃, hb₄, hp, hb₅, rfl⟩ :=
        member_eq_ok_iff.mp hmember
      exact .member hb₁ hb₂ hname hb₃ hb₄ hp hb₅ hb₆
    · cases h
  · intro h
    cases h with
    | bare hpayload hb hname hafter =>
      next b name after =>
      obtain ⟨w, hw, rfl⟩ := hname
      have hquote : Json.skipBlanks (b ++ ('"' :: (w ++ ['"']) ++ after)) =
          '"' :: (w ++ '"' :: after) := by
        rw [Json.skipBlanks_append hb, List.cons_append, Json.skipBlanks_cons (by decide),
          List.append_assoc, List.singleton_append]
      -- the first token is a quote, so the text is read as a bare tag
      unfold decode Json.decodeTagged
      rw [hquote]
      simp only
      rw [Json.tag_eq_ok_iff.mpr ⟨w, hw, rfl⟩, Json.andThen_ok,
        ofBareTag?_eq_some_iff.mpr ⟨rfl, hpayload⟩]
      exact Json.finished_eq_ok_iff.mpr ⟨rfl, hafter⟩
    | member hb₁ hb₂ hname hb₃ hb₄ hp hb₅ hb₆ =>
      next b₁ b₂ name b₃ b₄ payload b₅ b₆ =>
      have hmember : Json.member decodePayload
          (b₂ ++ (name ++ (b₃ ++ ':' :: (b₄ ++ (payload ++ (b₅ ++ '}' :: b₆)))))) = .ok (v, b₆) :=
        member_eq_ok_iff.mpr
          ⟨b₂, name, b₃, b₄, payload, b₅, hb₂, hname, hb₃, hb₄, hp, hb₅, rfl⟩
      -- the first token is a brace, so the text is read as an object
      unfold decode Json.decodeTagged
      rw [Json.skipBlanks_append hb₁, Json.skipBlanks_cons (by decide)]
      simp only
      rw [hmember, Json.andThen_ok]
      exact Json.finished_eq_ok_iff.mpr ⟨rfl, hb₆⟩

/-! ## What is written -/

/-- A quoted text quotes the text. -/
theorem quotes_quoted (cs : List Char) : Json.Quotes (Json.quoted cs) cs := by
  refine ⟨cs.flatMap Json.quotedChar, ?_, rfl⟩
  induction cs with
  | nil => exact .nil
  | cons c cs ih => exact (Json.spells_quotedChar c).append ih

/-- What is written for a value is one of its forms. -/
theorem form_encode (v : Value) : v.Form v.encode := by
  have hnone : Json.Blanks [] := nofun
  -- a bare tag, with nothing around it
  have hbare {v : Value} (hp : v.shape.hasPayload = Bool.false) :
      v.Form (Json.quoted v.shape.tag.toList) := by
    have h := Form.bare hp hnone (quotes_quoted _) hnone
    rwa [List.nil_append, List.append_nil] at h
  -- a member, with no blanks between its tokens
  have hmember {v : Value} {payload : List Char} (hp : Denotes payload v) :
      v.Form (tagWith v.shape payload) := by
    have h := Form.member hnone hnone (quotes_quoted _) hnone hnone hp hnone hnone
    simpa only [tagWith, List.nil_append, List.cons_append, List.append_assoc] using h
  cases v with
  | int n => exact hmember (.int (Json.integerLiteral_toString n.toInt))
  | bool b =>
    cases b with
    | true => exact hmember .true
    | false => exact hmember .false
  | char c => exact hmember (.char (quotes_quoted [c]))
  | eof | void | invalid => exact hbare rfl

/-- A text is read character by character. -/
theorem ofJson?_eq_ok_iff {text : String} {v : Value} :
    ofJson? text = .ok v ↔ decode text.toList = .ok v := by
  unfold ofJson?
  cases decode text.toList with
  | error e => exact ⟨nofun, nofun⟩
  | ok v' =>
    rw [Except.ok.injEq]
    exact ⟨Except.ok.inj, congrArg Except.ok⟩

end Value

/-! ## Main results -/

/--
**The JSON forms of a value.** A text is read as a value if and only if it has one of the forms of
that value, and the text that is written for a value is read back as that value.
-/
theorem json_forms_exact :
    (∀ (text : String) (v : Value), Value.ofJson? text = .ok v ↔ v.Form text.toList) ∧
    (∀ v : Value, Value.ofJson? v.toJson = .ok v) := by
  constructor
  · intro text v
    rw [Value.ofJson?_eq_ok_iff, Value.decode_eq_ok_iff]
  · intro v
    rw [Value.ofJson?_eq_ok_iff, Value.decode_eq_ok_iff, Value.toJson, String.toList_ofList]
    exact v.form_encode

end Epilogue
