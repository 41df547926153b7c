import Epilogue.Log.Filter
import Mathlib.Data.List.DropRight

/-!
# Epilogue — settings of the log that are torn

A directive is read without the blanks around it, and its parts are cut from the text that still has
them. Where there is no blank at the front the reader stands between two characters of that text at
every step, and so do the cuts. Where all characters are of one byte every place within the text is
such a place. So a setting is torn only if both fail in one of its parts.

* `Utf8.Boundary` — the places between two characters of a text;
* `Intact` — readings that are not torn.

Main results:

* `Directive.read_intact` — a directive whose characters are read at boundaries is not torn;
* `Filter.torn_part` — what a setting must have to be torn.
-/

namespace Epilogue

/-! ## Places between characters -/

namespace Utf8

/-- The number of bytes of some characters. -/
def size : List Char → Nat
  | [] => 0
  | c :: cs => c.utf8Size + size cs

/-- A place in a text, as a number of bytes, at which one character ends or the next one begins. -/
def Boundary (whole : List Char) (i : Nat) : Prop :=
  ∃ front back, whole = front ++ back ∧ size front = i

@[simp] theorem size_cons (c : Char) (cs : List Char) : size (c :: cs) = c.utf8Size + size cs := rfl

@[simp] theorem size_append (cs cs' : List Char) : size (cs ++ cs') = size cs + size cs' := by
  induction cs with
  | nil => exact (Nat.zero_add _).symm
  | cons c cs ih => rw [List.cons_append, size_cons, size_cons, ih, Nat.add_assoc]

/-- Where all characters are of one byte there are as many bytes as characters. -/
theorem size_of_single {cs : List Char} (h : ∀ c ∈ cs, c.utf8Size = 1) : size cs = cs.length := by
  induction cs with
  | nil => rfl
  | cons c cs ih =>
    rw [size_cons, h c List.mem_cons_self, ih fun c hc => h c (List.mem_cons_of_mem _ hc),
      List.length_cons]
    omega

/-- A place before the first character is inside of none. -/
theorem straddled?_of_le {i first : Nat} (h : i ≤ first) (cs : List Char) :
    straddled? i first cs = none := by
  cases cs with
  | nil => rfl
  | cons c cs => rw [straddled?, if_pos h]

/-- A place behind some characters is inside of none, be there more or not. -/
theorem straddled?_size (first : Nat) (front back : List Char) :
    straddled? (first + size front) first (front ++ back) = none := by
  induction front generalizing first with
  | nil => exact straddled?_of_le (Nat.le_refl first) back
  | cons c front ih =>
    have hpos := c.utf8Size_pos
    -- the place is neither before the first character nor within it
    have hbefore : ¬first + size (c :: front) ≤ first := by
      rw [size_cons]
      omega
    have hinside : ¬first + size (c :: front) < first + c.utf8Size := by
      rw [size_cons]
      omega
    rw [List.cons_append, straddled?, if_neg hbefore, if_neg hinside, size_cons, ← Nat.add_assoc]
    exact ih (first + c.utf8Size)

/-- At a boundary no character is torn. -/
theorem Boundary.straddled? {whole : List Char} {i : Nat} (h : Boundary whole i) :
    straddled? i 0 whole = none := by
  obtain ⟨front, back, rfl, rfl⟩ := h
  have hplace := straddled?_size 0 front back
  rwa [Nat.zero_add] at hplace

end Utf8

open Utf8 (Boundary size)

/-! ## Readings that are not torn -/

/-- A reading that is not torn, and whose result is as `P` says if there is one. -/
def Intact {α : Type} (P : α → Prop) : Except DirectiveFault α → Prop
  | .ok a => P a
  | .error .malformed => True
  | .error (.torn _) => False

/-- Steps one after another are intact if each is on what the one before may have left. -/
theorem Intact.bind {α β : Type} {P : α → Prop} {Q : β → Prop} {r : Except DirectiveFault α}
    (h : Intact P r) {next : α → Except DirectiveFault β} (hn : ∀ a, P a → Intact Q (next a)) :
    Intact Q (r.bind next) := by
  match r, h with
  | .ok a, h => exact hn a h
  | .error .malformed, _ => trivial

theorem Intact.map {α β : Type} {P : α → Prop} {Q : β → Prop} {r : Except DirectiveFault α}
    (h : Intact P r) {f : α → β} (hf : ∀ a, P a → Q (f a)) : Intact Q (r.map f) := by
  match r, h with
  | .ok a, h => exact hf a h
  | .error .malformed, _ => trivial

/-! ## Directives -/

namespace Directive

variable {whole : List Char} {i : Nat}

namespace Draft

/-- A part may begin and end at a boundary. -/
theorem check_boundary (h : Boundary whole i) (edge : Edge) : check whole edge i = .ok () := by
  rw [check, h.straddled?]

/-- A text can be cut between two boundaries. -/
theorem cut_intact {start : Nat} (hs : Boundary whole start) (hi : Boundary whole i) :
    Intact (fun _ => True) (cut whole start i) := by
  unfold cut
  rw [check_boundary hs, check_boundary hi]
  trivial

/-- The part that a draft has begun begins at a boundary. -/
def Sound (whole : List Char) (d : Draft) : Prop :=
  match d.place with
  | .span start | .field start | .level start => Boundary whole start
  | .opening | .target | .afterField | .afterSpan => True

/-- A sign that ends one part begins the next one at the place after it. -/
theorem step_intact {c : Char} {d : Draft} (hi : Boundary whole i)
    (hnext : Boundary whole (i + c.utf8Size)) (hd : d.Sound whole) :
    Intact (Sound whole) (d.step whole i c) := by
  have hsign {b : Char} (hc : c = b) (hb : b.utf8Size = 1) : Boundary whole (i + 1) := by
    rwa [hc, hb] at hnext
  obtain ⟨parts, place⟩ := d
  cases place with
  | opening =>
    simp only [step]
    split
    · next hc => exact hsign hc rfl
    · split <;> trivial
  | target =>
    simp only [step]
    split
    · next hc =>
      refine (cut_intact ⟨[], whole, rfl, rfl⟩ hi).map fun cs _ => ?_
      -- the target ends with a sign, after which the level begins, or the span
      show Sound whole ⟨_, if c = '=' then _ else _⟩
      by_cases heq : c = '='
      · rw [if_pos heq]
        exact hsign heq rfl
      · rw [if_neg heq]
        exact hsign (hc.resolve_left heq) rfl
    · trivial
  | span start =>
    simp only [step]
    split
    · exact (cut_intact hd hi).map fun _ _ => trivial
    · split
      · next hc => exact (cut_intact hd hi).map fun _ _ => hsign hc rfl
      · exact hd
  | field start =>
    simp only [step]
    split
    · refine (cut_intact hd hi).bind fun cs _ => ?_
      cases FieldCondition.parse? cs with
      | some f => trivial
      | none => trivial
    · exact hd
  | afterField =>
    simp only [step]
    split <;> trivial
  | afterSpan =>
    simp only [step]
    split
    · next hc => exact hsign hc rfl
    · trivial
  | level start => exact hd

end Draft

/-- Wherever a reader stands in the rest of a directive, it is at a boundary of the text. -/
def Aligned (whole : List Char) (i : Nat) (rest : List Char) : Prop :=
  ∀ front, front <+: rest → Boundary whole (i + size front)

/-- By induction on what is left to read: the reader stays at boundaries and keeps a sound draft. -/
theorem Draft.steps_intact {rest : List Char} (h : Aligned whole i rest) {d : Draft}
    (hd : d.Sound whole) : Intact (Draft.Sound whole) (d.steps whole i rest) := by
  induction rest generalizing i d with
  | nil => exact hd
  | cons c rest ih =>
    have hi : Boundary whole i := h [] List.nil_prefix
    have hnext : Boundary whole (i + c.utf8Size) := by
      have hc := h [c] ⟨rest, rfl⟩
      rwa [Utf8.size_cons] at hc
    refine (Draft.step_intact hi hnext hd).bind fun d' hd' => ?_
    -- what stands behind the character begins where the next one does
    have hrest : Aligned whole (i + c.utf8Size) rest := by
      intro front hfront
      have hc := h (c :: front) ((List.prefix_cons_inj c).mpr hfront)
      rwa [Utf8.size_cons, ← Nat.add_assoc] at hc
    exact ih hrest hd'

/-- A sound draft can be ended, well or badly. -/
theorem Draft.finish_intact {d : Draft} (hd : d.Sound whole) :
    Intact (fun _ => True) (d.finish whole) := by
  obtain ⟨parts, place⟩ := d
  cases place with
  | opening | target | span | field | afterField | afterSpan => trivial
  | level start =>
    have hcheck : check whole .start start = .ok () := check_boundary hd .start
    -- a level that stands at a boundary is named or it is not
    simp only [finish, hcheck, Bind.bind, Except.bind]
    split
    · trivial
    · split <;> trivial

/-- A directive whose characters are read at boundaries is not torn. -/
theorem read_intact (h : Aligned whole 0 (Text.trim whole)) :
    Intact (fun _ => True) (read whole) :=
  (Draft.steps_intact h (d := Draft.initial) trivial).bind fun _ hd => Draft.finish_intact hd

/-! ## What is read at boundaries -/

/-- Without a blank at the front a directive is read from the front of the text. -/
theorem aligned_of_front (h : ∀ c ∈ whole.head?, Text.isBlankChar c = false) :
    Aligned whole 0 (Text.trim whole) := by
  have hkeep : whole.dropWhile Text.isBlankChar = whole := by
    cases whole with
    | nil => rfl
    | cons c cs => rw [List.dropWhile_cons_of_neg (by simp [h c rfl])]
  have hprefix : Text.trim whole <+: whole := by
    rw [Text.trim, hkeep]
    exact List.rdropWhile_prefix Text.isBlankChar whole
  intro front hfront
  obtain ⟨back, hback⟩ := hfront.trans hprefix
  exact ⟨front, back, hback.symm, (Nat.zero_add _).symm⟩

/-- Where all characters are of one byte every place within the text is a boundary. -/
theorem aligned_of_single (h : ∀ c ∈ whole, c.utf8Size = 1) :
    Aligned whole 0 (Text.trim whole) := by
  have hsub : (Text.trim whole).Sublist whole :=
    (List.rdropWhile_prefix Text.isBlankChar _).sublist.trans (List.dropWhile_suffix _).sublist
  intro front hfront
  have hf := hfront.sublist.trans hsub
  -- as many characters from the front of the whole take as many bytes
  have hlen : (whole.take front.length).length = front.length :=
    List.length_take_of_le hf.length_le
  have htake : size (whole.take front.length) = size front := by
    rw [Utf8.size_of_single fun c hc => h c (List.mem_of_mem_take hc),
      Utf8.size_of_single fun c hc => h c (hf.subset hc), hlen]
  refine ⟨whole.take front.length, whole.drop front.length, (List.take_append_drop _ _).symm, ?_⟩
  rw [htake, Nat.zero_add]

/-- A torn directive has a blank at the front, and a character of more than one byte. -/
theorem blank_of_read_torn {tear : Tear} (h : read whole = .error (.torn tear)) :
    (∃ c ∈ whole.head?, Text.isBlankChar c = true) ∧ ∃ c ∈ whole, 1 < c.utf8Size := by
  have htorn (hi : Aligned whole 0 (Text.trim whole)) : False := by
    have hread := read_intact hi
    rwa [h] at hread
  constructor
  · -- without a blank at the front the trimmed text begins where the whole does
    by_contra hnone
    refine htorn (aligned_of_front fun c hc => ?_)
    by_contra hblank
    exact hnone ⟨c, hc, by simpa using hblank⟩
  · -- in a text of single bytes every byte is a boundary
    by_contra hnone
    refine htorn (aligned_of_single fun c hc => ?_)
    have hpos := c.utf8Size_pos
    by_contra hone
    exact hnone ⟨c, hc, by omega⟩

end Directive

/-! ## Settings -/

/-- Of directives that are read one after the other, one is at fault if the whole is. -/
theorem Directive.exists_of_mapM {parts : List (List Char)} {fault : DirectiveFault}
    (h : parts.mapM Directive.read = .error fault) :
    ∃ p ∈ parts, Directive.read p = .error fault := by
  induction parts with
  | nil => cases h
  | cons p parts ih =>
    rw [List.mapM_cons] at h
    cases hp : Directive.read p with
    | error fault' =>
      rw [hp] at h
      exact ⟨p, List.mem_cons_self, by rw [hp]; exact congrArg _ (Except.error.inj h)⟩
    | ok d =>
      -- the first one is read, so the fault is in the rest
      rw [hp] at h
      cases hps : parts.mapM Directive.read with
      | ok ds =>
        rw [hps] at h
        cases h
      | error fault' =>
        rw [hps] at h
        obtain ⟨q, hq, hread⟩ := ih (hps.trans (congrArg _ (Except.error.inj h)))
        exact ⟨q, List.mem_cons_of_mem p hq, hread⟩

/-- A setting is torn only if one of its parts has a blank at the front and a character of more than
one byte. -/
theorem Filter.torn_part {text : String} {tear : Tear} (h : Filter.ofSetting text = .error tear) :
    ∃ part ∈ text.toList.splitOn ',',
      (∃ c ∈ part.head?, Text.isBlankChar c = true) ∧ ∃ c ∈ part, 1 < c.utf8Size := by
  have htorn : Filter.parse text = .error (.torn tear) := by
    unfold Filter.ofSetting at h
    split at h
    · cases h
    · cases h
    · next hparse =>
      cases h
      exact hparse
  obtain ⟨part, hpart, hread⟩ := Directive.exists_of_mapM htorn
  exact ⟨part, List.mem_of_mem_filter hpart, Directive.blank_of_read_torn hread⟩

end Epilogue
