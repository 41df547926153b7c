import Epilogue.Program
import Mathlib.Data.List.Forall2

/-!
# Epilogue — programs that differ in the wording of messages

A message is stashed for the log and for the report. Two programs may differ in the texts of their
messages and in nothing else: in those that they stash and raise with, in those that their hooks
stash, and in those with which their printers raise. What they come to then differs in what they are
told when they take a message or when a run within them has raised, and in what the log is told.

A program that goes on by what it has been told goes on alike if it does not look at the texts. So a
choice is one of the same kind on both sides if what is told alike leads to programs that differ in
texts alone.

* `Hook.Reworded`, `Printer.Reworded`, `Act.Reworded`, `Block.Reworded` — the same but for texts;
* `Happening.Reworded`, `Event.Reworded`, `RunEnd.Reworded` — what they come to, but for texts;
* `Thread.Reworded` — two threads side by side.

Main results:

* `Hook.invoke_reworded`, `Value.write_reworded` — hooks and printers that correspond, on two such
  threads.
-/

namespace Epilogue

/-! ## The same but for texts -/

/-- Two texts in the place of one another: either there is one on both sides, or on neither. -/
def Alongside (m m' : Option String) : Prop := m.isSome = m'.isSome

/-- Hooks that differ in what they stash; `W` says by which texts. Where it is equality the two
hooks are one. -/
inductive Hook.Reworded (W : String → String → Prop) : Hook → Hook → Prop where
  | exit : Reworded W .exit .exit
  | unwind : Reworded W .unwind .unwind
  | panics (p : Payload) : Reworded W (.panics p) (.panics p)
  | stashes {m m' : String} {next next' : Hook} (hm : W m m') (h : Reworded W next next') :
    Reworded W (.stashes m next) (.stashes m' next')
  | replaces {m m' : String} {next next' : Hook} (hm : W m m') (h : Reworded W next next') :
    Reworded W (.replaces next m) (.replaces next' m')
  | recovers {m m' : String} (hm : W m m') (p : Payload) :
    Reworded W (.recovers m p) (.recovers m' p)

/-- The ends of two printers that may raise with different messages. -/
inductive Finish.Reworded : Finish → Finish → Prop where
  | raises (m m' : String) : Reworded (.raises m) (.raises m')
  | same (finish : Finish) : Reworded finish finish

/-- Printers that write the same and may raise with different messages. -/
def Printer.Reworded (printer printer' : Printer) : Prop :=
  ∀ c, (printer c).writes = (printer' c).writes ∧ (printer c).finish.Reworded (printer' c).finish

/-- The ends of two runs that may report different messages. -/
inductive RunEnd.Reworded : RunEnd → RunEnd → Prop where
  | raised {m m' : Option String} (h : Alongside m m') :
    Reworded (.finished (.ok (.raised m))) (.finished (.ok (.raised m')))
  | same (how : RunEnd) : Reworded how how

section

variable (W : String → String → Prop)

/-- What two programs are told that differ in texts. -/
inductive Happening.Reworded : Happening → Happening → Prop where
  | messageTaken {m m' : Option String} (h : Alongside m m') :
    Reworded (.messageTaken m) (.messageTaken m')
  | hookReplaced {old old' : Hook} (h : old.Reworded W old') :
    Reworded (.hookReplaced old) (.hookReplaced old')
  | runLeft (own : Option StreamsView) {how how' : RunEnd} (h : how.Reworded how') :
    Reworded (.runLeft own how) (.runLeft own how')
  | same (what : Happening) : Reworded what what

/-- What the log is told of them. -/
inductive Record.Reworded : Record → Record → Prop where
  | entryRaised {m m' : Option String} (h : Alongside m m') :
    Reworded (.entryRaised m) (.entryRaised m')
  | same (r : Record) : Reworded r r

/-- The entries of their traces. At each note the slots correspond, and a message is stashed on both
sides or on neither. -/
inductive Event.Reworded : Event → Event → Prop where
  | note {what what' : Happening} {hook hook' : Hook} (h : what.Reworded W what')
    (hh : hook.Reworded W hook') (hasMessage : Bool) :
    Reworded (.note what hook hasMessage) (.note what' hook' hasMessage)
  | record {r r' : Record} (h : r.Reworded r') : Reworded (.record r) (.record r')
  | captured {r r' : Record} (h : r.Reworded r') : Reworded (.captured r) (.captured r')
  | alarm (p : Payload) (spawned : Bool) : Reworded (.alarm p spawned) (.alarm p spawned)

/-- What two programs see that differ in texts. -/
structure Sight.Reworded (s s' : Sight) : Prop where
  hook : s.hook.Reworded W s'.hook
  hasMessage : s.hasMessage = s'.hasMessage
  told : List.Forall₂ (Happening.Reworded W) s.told s'.told

/-- A step in which there may be a text of a message: its own, that of a hook or that of
a printer. -/
def Act.MayStash : Act → Prop
  | setMessage _ | raise _ | replaceHook _ | install _ _ | render _ _ => True
  | _ => False

/-- Steps that differ in texts. -/
inductive Act.Reworded : Act → Act → Prop where
  | setMessage (m m' : String) : Reworded (.setMessage m) (.setMessage m')
  | raise {m m' : Option String} (h : Alongside m m') : Reworded (.raise m) (.raise m')
  | replaceHook {h h' : Hook} (hh : h.Reworded W h') : Reworded (.replaceHook h) (.replaceHook h')
  | install {h h' : Hook} (hh : h.Reworded W h') (name : String) :
    Reworded (.install h name) (.install h' name)
  | render (v : Value) {printer printer' : Printer} (hp : printer.Reworded printer') :
    Reworded (.render v printer) (.render v printer')
  | same {a : Act} (ha : ¬a.MayStash) : Reworded a a

/-- Blocks that differ in texts. A choice may go by all that is told but the texts. -/
inductive Block.Reworded : Block → Block → Prop where
  | done : Reworded .done .done
  | act {a a' : Act} {rest rest' : Block} (ha : a.Reworded W a') (hr : Reworded rest rest') :
    Reworded (.act a rest) (.act a' rest')
  | scope {body body' rest rest' : Block} (hb : Reworded body body') (hr : Reworded rest rest') :
    Reworded (.scope body rest) (.scope body' rest')
  | trap {body body' handler handler' rest rest' : Block} (hb : Reworded body body')
    (hh : Reworded handler handler') (hr : Reworded rest rest') :
    Reworded (.trap body handler rest) (.trap body' handler' rest')
  | contain {body body' rest rest' : Block} (hb : Reworded body body') (hr : Reworded rest rest') :
    Reworded (.contain body rest) (.contain body' rest')
  | spawn {host : Host} {body body' rest rest' : Block} (hb : Reworded body body')
      (hr : Reworded rest rest') : Reworded (.spawn host body rest) (.spawn host body' rest')
  | run {printer printer' : Printer} (shared : Bool) (streams : Streams)
    {entry entry' rest rest' : Block} (hp : printer.Reworded printer') (he : Reworded entry entry')
    (hr : Reworded rest rest') :
    Reworded (.run ⟨printer, shared, streams⟩ entry rest)
      (.run ⟨printer', shared, streams⟩ entry' rest')
  | choose {next next' : Sight → Block}
    (h : ∀ s s' : Sight, s.Reworded W s' → Reworded (next s) (next' s')) :
    Reworded (.choose next) (.choose next')

/-- Guards of the same name that have saved corresponding hooks. -/
structure Guard.Reworded (g g' : Guard) : Prop where
  name : g.name = g'.name
  displaced : g.displaced.Reworded W g'.displaced

/-- The hook that a note tells of. -/
def Event.slot? : Event → Option Hook
  | note _ hook _ => some hook
  | record _ | captured _ | alarm _ _ => none

/-- Two threads side by side. Their streams are the same, and a message is stashed on both or on
neither. -/
structure Thread.Reworded (s t : Thread) : Prop where
  hook : s.hook.Reworded W t.hook
  stash : Alongside s.stash t.stash
  streams : s.streams = t.streams
  trace : List.Forall₂ (Event.Reworded W) s.trace t.trace
  told : List.Forall₂ (Happening.Reworded W) s.told t.told

/-- Two outcomes side by side: ends that correspond, and threads side by side. -/
structure SideBySide {ε : Type} (E : ε → ε → Prop) (r r' : ε × Thread) : Prop where
  ending : E r.1 r'.1
  thread : r.2.Reworded W r'.2

/-- Two states within a block side by side. -/
structure Progress.Reworded (p q : Progress) : Prop where
  ending : p.ending = q.ending
  guards : List.Forall₂ (Guard.Reworded W) p.guards q.guards
  thread : p.thread.Reworded W q.thread

end

variable {W : String → String → Prop}

/-! ## Hooks and guards -/

namespace Hook

/-- Hooks that may not differ in any text are the same. -/
theorem reworded_eq_iff {h h' : Hook} : h.Reworded Eq h' ↔ h = h' := by
  constructor
  · intro hh
    induction hh with
    | exit | unwind | panics => rfl
    | stashes hm _ ih | replaces hm _ ih => rw [hm, ih]
    | recovers hm => rw [hm]
  · rintro rfl
    induction h with
    | exit => exact .exit
    | unwind => exact .unwind
    | panics p => exact .panics p
    | stashes m next ih => exact .stashes rfl ih
    | replaces next m ih => exact .replaces rfl ih
    | recovers m p => exact .recovers rfl p

theorem Reworded.refl (hW : ∀ m, W m m) (h : Hook) : h.Reworded W h := by
  induction h with
  | exit => exact .exit
  | unwind => exact .unwind
  | panics p => exact .panics p
  | stashes m next ih => exact .stashes (hW m) ih
  | replaces next m ih => exact .replaces (hW m) ih
  | recovers m p => exact .recovers (hW m) p

/-- Only the exit hook corresponds to the exit hook. -/
theorem Reworded.exit_iff {h h' : Hook} (hh : h.Reworded W h') : h = .exit ↔ h' = .exit := by
  cases hh <;> simp

end Hook

/-- Where hooks stash the same texts the slots are the same, note by note. -/
theorem Event.slots_reworded {es es' : List Event} (h : List.Forall₂ (Event.Reworded Eq) es es') :
    es.filterMap Event.slot? = es'.filterMap Event.slot? := by
  induction h with
  | nil => rfl
  | cons he _ ih =>
    cases he with
    | note _ hh _ =>
      simp only [List.filterMap_cons, Event.slot?, Hook.reworded_eq_iff.mp hh, ih]
    | record | captured | alarm => exact ih

/-- The guard that a name finds, and the guards without it. -/
theorem Guard.find_reworded {gs gs' : List Guard} (h : List.Forall₂ (Guard.Reworded W) gs gs')
    (name : String) :
    Option.Rel (Guard.Reworded W) (gs.find? fun g => g.name == name)
        (gs'.find? fun g => g.name == name) ∧
      List.Forall₂ (Guard.Reworded W) (gs.eraseP fun g => g.name == name)
        (gs'.eraseP fun g => g.name == name) := by
  induction h with
  | nil => exact ⟨.none, .nil⟩
  | @cons g g' gs gs' hg hgs ih =>
    obtain ⟨hfind, herase⟩ := ih
    by_cases hname : g.name = name
    · -- both first guards bear the name
      have hname' : g'.name = name := hg.name.symm.trans hname
      simp only [List.find?_cons, List.eraseP_cons, hname, hname', beq_self_eq_true, cond_true]
      exact ⟨.some hg, hgs⟩
    · have hname' : ¬g'.name = name := fun h => hname (hg.name.trans h)
      simp only [List.find?_cons, List.eraseP_cons, beq_eq_false_iff_ne.mpr hname,
        beq_eq_false_iff_ne.mpr hname', cond_false]
      exact ⟨hfind, .cons hg herase⟩

/-! ## Threads side by side -/

/-- Outcomes with one end for both threads. -/
theorem SideBySide.elim {ε : Type} {r r' : ε × Thread} (h : SideBySide W Eq r r') :
    ∃ e s t, r = (e, s) ∧ r' = (e, t) ∧ s.Reworded W t :=
  ⟨r.1, r.2, r'.2, rfl, Prod.ext h.ending.symm rfl, h.thread⟩

namespace Thread.Reworded

variable {s t : Thread}

/-- A thread is beside itself. -/
theorem refl (hW : ∀ m, W m m) (t : Thread) : t.Reworded W t where
  hook := .refl hW t.hook
  stash := rfl
  streams := rfl
  trace := List.forall₂_same.mpr fun e _ => by
    cases e with
    | note what hook b => exact .note (.same what) (.refl hW hook) b
    | record r => exact .record (.same r)
    | captured r => exact .captured (.same r)
    | alarm p spawned => exact .alarm p spawned
  told := List.forall₂_same.mpr fun what _ => .same what

theorem emit (hst : s.Reworded W t) {e e' : Event} (he : e.Reworded W e') :
    (s.emit e).Reworded W (t.emit e') where
  hook := hst.hook
  stash := hst.stash
  streams := hst.streams
  trace := List.rel_append hst.trace (.cons he .nil)
  told := hst.told

theorem log (hst : s.Reworded W t) {r r' : Record} (hr : r.Reworded r') :
    (s.log r).Reworded W (t.log r') :=
  hst.emit (.record hr)

theorem alarm (hst : s.Reworded W t) (p : Payload) : (s.alarm p).Reworded W (t.alarm p) :=
  hst.emit (.alarm p false)

/-- A note says of both slots and both stashes what is the same of them. -/
theorem note (hst : s.Reworded W t) {what what' : Happening} (hw : what.Reworded W what') :
    (s.note what).Reworded W (t.note what') := by
  have he : Event.Reworded W (.note what s.hook s.stash.isSome)
      (.note what' t.hook t.stash.isSome) := by
    rw [show s.stash.isSome = t.stash.isSome from hst.stash]
    exact .note hw hst.hook _
  exact { hst.emit he with told := List.rel_append hst.told (.cons hw .nil) }

/-- The texts that are stashed do not matter, only that there are two. -/
theorem setMessage (hst : s.Reworded W t) (m m' : String) :
    (s.setMessage m).Reworded W (t.setMessage m') := { hst with stash := rfl }

theorem clearMessage (hst : s.Reworded W t) : s.clearMessage.Reworded W t.clearMessage :=
  { hst with stash := rfl }

theorem setHook (hst : s.Reworded W t) {h h' : Hook} (hh : h.Reworded W h') :
    (s.setHook h).Reworded W (t.setHook h') := { hst with hook := hh }

theorem replaceHook (hst : s.Reworded W t) {h h' : Hook} (hh : h.Reworded W h') :
    (s.replaceHook h).Reworded W (t.replaceHook h') :=
  (hst.log (.same .hookReplaced)).setHook hh

theorem setStreams (hst : s.Reworded W t) (r : Streams) :
    (s.setStreams r).Reworded W (t.setStreams r) := by
  have hs : (s.setStreams r).streams = (t.setStreams r).streams := by
    simp only [Thread.setStreams, hst.streams]
  exact { hst with streams := hs }

theorem setOutput (hst : s.Reworded W t) (o : Output) :
    (s.setOutput o).Reworded W (t.setOutput o) := by
  have hs : (s.setOutput o).streams = (t.setOutput o).streams := by
    simp only [Thread.setOutput, hst.streams]
  exact { hst with streams := hs }

/-- What a spawned thread has logged enters both traces alike. -/
theorem join (hst : s.Reworded W t) {es es' : List Event}
    (hes : List.Forall₂ (Event.Reworded W) es es') : (s.join es).Reworded W (t.join es') := by
  have hcapture :
      List.Forall₂ (Event.Reworded W) (es.map Event.capture) (es'.map Event.capture) := by
    rw [List.forall₂_map_left_iff, List.forall₂_map_right_iff]
    refine hes.imp fun e e' he => ?_
    cases he with
    | note hw hh b => exact .note hw hh b
    | record hr | captured hr => exact .captured hr
    | alarm p => exact .alarm p true
  exact { hst with trace := List.rel_append hst.trace hcapture }

theorem currentStreams (hst : s.Reworded W t) : s.currentStreams = t.currentStreams := by
  simp only [Thread.currentStreams, hst.streams]

theorem output (hst : s.Reworded W t) : s.output = t.output := by
  simp only [Thread.output, hst.streams]

/-- What two programs see corresponds. -/
theorem sight (hst : s.Reworded W t) : s.sight.Reworded W t.sight :=
  ⟨hst.hook, hst.stash, hst.told⟩

/-- Of guards that are dropped each puts back a hook that corresponds. -/
theorem dropGuards (hst : s.Reworded W t) {gs gs' : List Guard}
    (hgs : List.Forall₂ (Guard.Reworded W) gs gs') :
    (s.dropGuards gs).Reworded W (t.dropGuards gs') := by
  unfold Thread.dropGuards
  have hrev := List.rel_reverse hgs
  generalize gs.reverse = rs at hrev ⊢
  generalize gs'.reverse = rs' at hrev ⊢
  induction hrev generalizing s t with
  | nil => exact hst
  | cons hg _ ih => exact ih (hst.setHook hg.displaced)

end Thread.Reworded

/-! ## Raises and printers -/

section

variable {s t : Thread}

/-- Two hooks that correspond leave in the same way. What they stash on the way is not looked at. -/
theorem Hook.invoke_reworded {h h' : Hook} (hh : h.Reworded W h') (hst : s.Reworded W t) :
    SideBySide W Eq (h.invoke s) (h'.invoke t) := by
  induction hh generalizing s t with
  | exit | unwind => exact ⟨rfl, hst⟩
  | panics p => exact ⟨rfl, hst.alarm p⟩
  | @stashes m m' next next' hm hn ih => exact ih (hst.setMessage m m')
  | @replaces m m' next next' hm hn ih =>
    exact ih (((hst.replaceHook hn).setMessage m m').log (.same .raise))
  | @recovers m m' hm p =>
    -- the raise is caught inside, and its message stays in the stash
    have hinner := ((hst.replaceHook .unwind).setMessage m m').log (.same .raise)
    exact ⟨rfl, (hinner.setHook hst.hook).alarm p⟩

/-- Raises into hooks that correspond leave in the same way, with two messages or with none. -/
theorem Thread.raiseUnder_reworded (hst : s.Reworded W t) (host : Host) {m m' : Option String}
    (hm : Alongside m m') : SideBySide W Eq (s.raiseUnder host m) (t.raiseUnder host m') := by
  have hexit : (host = .probe ∧ s.hook = .exit) ↔ (host = .probe ∧ t.hook = .exit) :=
    and_congr_right fun _ => hst.hook.exit_iff
  unfold raiseUnder
  by_cases hprobe : host = .probe ∧ s.hook = .exit
  · rw [if_pos hprobe, if_pos (hexit.mp hprobe)]
    exact ⟨rfl, hst.note (.same .wouldExit)⟩
  · rw [if_neg hprobe, if_neg (fun h => hprobe (hexit.mpr h))]
    -- a message is given on both sides or on neither
    match m, m', hm with
    | none, none, _ => exact Hook.invoke_reworded hst.hook (hst.log (.same .raise))
    | some m, some m', _ =>
      exact Hook.invoke_reworded hst.hook ((hst.setMessage m m').log (.same .raise))

/-- Printers that correspond end in the same way on the same output. -/
theorem Finish.after_reworded {finish finish' : Finish} (hf : finish.Reworded finish')
    (hst : s.Reworded W t) (host : Host) (r : Attempt Output) :
    ∃ e o s' t', finish.after host s r = (e, o, s') ∧ finish'.after host t r = (e, o, t') ∧
      s'.Reworded W t' := by
  obtain ⟨o, fault⟩ := r
  -- a printer that raises ends with the raise on both sides, whatever the two messages are
  have hraise (m m' : String) : ∃ e o' s' t',
      (Finish.raises m).after host s ⟨o, none⟩ = (e, o', s') ∧
      (Finish.raises m').after host t ⟨o, none⟩ = (e, o', t') ∧ s'.Reworded W t' := by
    have hm : Alongside (some m) (some m') := rfl
    obtain ⟨e, s', t', hs, ht, hst'⟩ := (Thread.raiseUnder_reworded hst host hm).elim
    exact ⟨.ofRaise e, o, s', t', by simp only [after, hs], by simp only [after, ht], hst'⟩
  cases fault with
  | some f => exact ⟨.failed f, o, s, t, rfl, rfl, hst⟩
  | none =>
    cases hf with
    | raises m m' => exact hraise m m'
    | same =>
      cases finish with
      | raises m => exact hraise m m
      | done | fails => exact ⟨_, o, s, t, rfl, rfl, hst⟩
      | panics p => exact ⟨.unwound p, o, _, _, rfl, rfl, hst.alarm p⟩

/-- Only a character is handed to the printer; the same is written for it, and what follows is as
the printers end. -/
theorem Value.printout_reworded {printer printer' : Printer} (hp : printer.Reworded printer')
    (v : Value) : (v.printout printer).writes = (v.printout printer').writes ∧
      (v.printout printer).finish.Reworded (v.printout printer').finish := by
  cases v with
  | char c => exact hp c
  | bool b => cases b <;> exact ⟨rfl, .same _⟩
  | int | eof | void | invalid => exact ⟨rfl, .same _⟩

/-- A value is written alike, up to a message with which the printers raise. -/
theorem Value.write_reworded {printer printer' : Printer} (hp : printer.Reworded printer')
    (hst : s.Reworded W t) (host : Host) (v : Value) (o : Output) :
    ∃ e o' s' t', v.write host printer o s = (e, o', s') ∧ v.write host printer' o t = (e, o', t') ∧
      s'.Reworded W t' := by
  obtain ⟨hwrites, hfinish⟩ := v.printout_reworded hp
  simp only [write, Printout.write, hwrites]
  split
  · exact Finish.after_reworded hfinish (hst.log (.same .invalidRendered)) host _
  · exact Finish.after_reworded hfinish hst host _

end

end Epilogue
