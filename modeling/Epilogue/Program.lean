import Epilogue.Run.Driver
import Epilogue.Value.Construction

/-!
# Epilogue — programs

Programs as data. A *block* is a sequence of steps. The guards that its steps make belong to it and
are dropped, the latest first, when it ends in whatever way other than the end of the process. A
block can go on as it sees fit: what follows may depend on what it has been told so far.

A spawned thread that calls the exit hook ends the process. Under a driver on standard output it
would wait for ever for the output that the driver holds; a probe as its host leaves such a raise
out.

* `Act.perform` — one step that holds no block;
* `Block.steps` — the steps of a block, with the guards that are alive;
* `Block.exec` — a block from end to end.
-/

namespace Epilogue

/-! ## Syntax -/

/-- A step that holds no block. -/
inductive Act where
  | look
  | setMessage (m : String)
  | clearMessage
  | takeMessage
  | raise (message : Option String)
  | panic (p : Payload)
  /-- demand a payload of the given shape -/
  | unwrap (expected : Shape) (v : Value)
  | replaceHook (h : Hook)
  /-- install a hook and keep its guard under a name -/
  | install (h : Hook) (name : String)
  /-- drop the first guard of that name that the block still has -/
  | drop (name : String)
  | render (v : Value) (printer : Printer)
  | write (bs : Bytes)
  | flush
  | read (n : Nat)
  | readLine
  /-- read one byte and return it as a character -/
  | returnByte
  | return (v : Value)

/-- How a run is set up: its printer, and the streams it has unless it shares those of the entry
around it. -/
structure RunSetup where
  printer : Printer
  shared : Bool
  streams : Streams

/-- A sequence of steps. -/
inductive Block where
  | done
  | act (a : Act) (rest : Block)
  /-- a block with guards of its own -/
  | scope (body rest : Block)
  /-- a block inside a trap, and the block that follows a raise in it -/
  | trap (body handler rest : Block)
  /-- a block in which every unwinding is stopped -/
  | contain (body rest : Block)
  /-- a block on a thread of its own, with a host of its own, which is joined -/
  | spawn (host : Host) (body rest : Block)
  /-- a run of the driver -/
  | run (setup : RunSetup) (entry rest : Block)
  /-- the block that follows depends on what the program sees -/
  | choose (next : Sight → Block)

/-! ## Guards -/

/-- What a scoped installation leaves behind: the hook that it displaced. -/
structure Guard where
  name : String
  displaced : Hook
  deriving DecidableEq

namespace Thread

/-- Drops a guard: the hook that it displaced is put back. -/
def dropGuard (t : Thread) (g : Guard) : Thread := t.setHook g.displaced

/-- Drops guards, given in the order in which they were made, the latest first. -/
def dropGuards (t : Thread) (gs : List Guard) : Thread := gs.reverse.foldl dropGuard t

end Thread

/-- A state within a block: how the steps so far ended, the guards that are alive, the thread. -/
structure Progress where
  ending : Ending
  guards : List Guard
  thread : Thread

namespace Progress

/-- Goes on while the steps run off their end. -/
def andThen (p : Progress) (next : List Guard → Thread → Progress) : Progress :=
  match p.ending with
  | .next => next p.guards p.thread
  | _ => p

/-- Leaves the block. The end of the process leaves the guards alone. -/
def leave (p : Progress) : Ending × Thread :=
  match p.ending with
  | .exited => (.exited, p.thread)
  | e => (e, p.thread.dropGuards p.guards)

/-- Where no guard is alive there is nothing to put back. -/
theorem leave_of_no_guards {p : Progress} (h : p.guards = []) : p.leave = (p.ending, p.thread) := by
  obtain ⟨e, gs, t⟩ := p
  subst h
  cases e <;> rfl

end Progress

/-! ## Steps -/

namespace Thread

/-- The streams on which a program acts; outside an entry there is nothing to read and nobody to
write to. -/
def currentStreams (t : Thread) : Streams := t.streams.getD .detached

/-- The character that a byte stands for. -/
def byteValue (bs : Bytes) : Value :=
  match bs with
  | [] => .eof
  | b :: _ => .char (Char.ofNat b.toNat)

end Thread

/-- Performs a step that holds no block. The note of a raise, a panic, a demand and a return comes
before what it is about, every other note after it. -/
def Act.perform (host : Host) (a : Act) (gs : List Guard) (t : Thread) : Progress :=
  match a with
  | look => ⟨.next, gs, t.note .looked⟩
  | setMessage m => ⟨.next, gs, (t.setMessage m).note .messageSet⟩
  | clearMessage => ⟨.next, gs, t.clearMessage.note .messageCleared⟩
  | takeMessage => ⟨.next, gs, t.clearMessage.note (.messageTaken t.stash)⟩
  | raise m =>
    let (e, t) := (t.note .raising).raiseUnder host m
    ⟨e, gs, t⟩
  | panic p => ⟨.unwound p, gs, (t.note .panicking).alarm p⟩
  | unwrap expected v =>
    let t := t.note .unwrapping
    match WrongShape.find? expected v with
    | some w => ⟨.unwound (.words w.message), gs, t.alarm (.words w.message)⟩
    | none => ⟨.next, gs, t.note (.unwrapped v)⟩
  | replaceHook h => ⟨.next, gs, (t.replaceHook h).note (.hookReplaced t.hook)⟩
  | install h name => ⟨.next, gs ++ [⟨name, t.hook⟩], (t.replaceHook h).note .guardMade⟩
  | drop name =>
    -- of several guards of that name the oldest is meant
    match gs.find? fun g => g.name == name with
    | none => ⟨.next, gs, t.note (.guardDropped false)⟩
    | some g =>
      ⟨.next, gs.eraseP fun g => g.name == name, (t.dropGuard g).note (.guardDropped true)⟩
  | render v printer =>
    -- a printer that unwinds leaves no note: the program does not get to it
    match v.renderWith host printer t with
    | (.done, text, t) => ⟨.next, gs, t.note (.rendered text)⟩
    | (.failed f, _, t) => ⟨.next, gs, t.note (.renderFailed f)⟩
    | (.unwound p, _, t) => ⟨.unwound p, gs, t⟩
    | (.exited, _, t) => ⟨.exited, gs, t⟩
  | write bs =>
    let r := t.currentStreams.writeAll bs
    ⟨.next, gs, (t.setStreams r.state).note (.wrote r.fault)⟩
  | flush =>
    let r := t.currentStreams.flush
    ⟨.next, gs, (t.setStreams r.state).note (.flushed r.fault)⟩
  | read n =>
    let (bs, s) := t.currentStreams.read n
    ⟨.next, gs, (t.setStreams s).note (.hasRead bs)⟩
  | readLine =>
    let (bs, s) := t.currentStreams.readLine
    ⟨.next, gs, (t.setStreams s).note (.lineRead bs)⟩
  | returnByte =>
    let (bs, s) := t.currentStreams.read 1
    ⟨.returned (Thread.byteValue bs), gs, (t.setStreams s).note (.byteReturned bs)⟩
  | Act.return v => ⟨.returned v, gs, t.note .returning⟩

namespace Thread

/-- The thread as a run finds it: on the streams of the entry around it if the setup shares them and
there are any, else on streams of its own. -/
def enterRun (t : Thread) (setup : RunSetup) : Thread :=
  if setup.shared && t.streams.isSome then t else { t with streams := some setup.streams }

/-- The thread after a run: streams that the run had to itself give way to those from before. -/
def leaveRun (t : Thread) (setup : RunSetup) (after : Thread) : Thread :=
  if setup.shared && t.streams.isSome then after else { after with streams := t.streams }

/-- How the program goes on after a run that ended in the given way. A run that comes to an end lets
it go on whatever its result. -/
def afterRun (t : Thread) (setup : RunSetup) : RunEnd × Thread → Ending × Thread
  | (.finished r, after) => (.next, (t.leaveRun setup after).note
      (.runLeft (if setup.shared then none else after.streams.map Streams.view) (.finished r)))
  | (.unwound p, after) => (.unwound p, (t.leaveRun setup after).note
      (.runLeft (if setup.shared then none else after.streams.map Streams.view) (.unwound p)))
  | (.exited, after) => (.exited, t.leaveRun setup after)

/-- Runs a driver on streams of its own or on those of the entry around it. -/
def runWith (host : Host) (setup : RunSetup) (entry : Computation) (t : Thread) :
    Ending × Thread :=
  t.afterRun setup ((t.enterRun setup).drive host setup.printer entry)

@[simp] theorem enterRun_hook (t : Thread) (setup : RunSetup) :
    (t.enterRun setup).hook = t.hook := by
  unfold enterRun
  split <;> rfl

@[simp] theorem enterRun_stash (t : Thread) (setup : RunSetup) :
    (t.enterRun setup).stash = t.stash := by
  unfold enterRun
  split <;> rfl

@[simp] theorem leaveRun_hook (t : Thread) (setup : RunSetup) (after : Thread) :
    (t.leaveRun setup after).hook = after.hook := by
  unfold leaveRun
  split <;> rfl

@[simp] theorem leaveRun_stash (t : Thread) (setup : RunSetup) (after : Thread) :
    (t.leaveRun setup after).stash = after.stash := by
  unfold leaveRun
  split <;> rfl

@[simp] theorem leaveRun_told (t : Thread) (setup : RunSetup) (after : Thread) :
    (t.leaveRun setup after).told = after.told := by
  unfold leaveRun
  split <;> rfl

@[simp] theorem afterRun_hook (t : Thread) (setup : RunSetup) (r : RunEnd × Thread) :
    (t.afterRun setup r).2.hook = r.2.hook := by
  obtain ⟨e, after⟩ := r
  cases e <;> exact t.leaveRun_hook setup after

end Thread

/-- The value that a body yields to what contains it. -/
def Ending.value? : Ending → Option Value
  | returned v => some v
  | next | unwound _ | exited => none

/-! ## What follows a block

How the steps go on after a block within them, given how it ended and the thread it left. -/

namespace Block

variable (next : List Guard → Thread → Progress) (gs : List Guard)

/-- After a handler or a run: an ending other than the ordinary one is that of the whole. -/
def afterPlain : Ending × Thread → Progress
  | (.next, t) => next gs t
  | (e, t) => ⟨e, gs, t⟩

/-- After a block with guards of its own. -/
def afterScope : Ending × Thread → Progress
  | (.next, t) => next gs (t.note .scopeLeft)
  | (.returned v, t) => ⟨.returned v, gs, t.note .scopeLeft⟩
  | (e, t) => ⟨e, gs, t⟩

/-- After the body of a trap. -/
def afterTrap (handler : Computation) : Ending × Thread → Progress
  | (.unwound .raised, t) => afterPlain next gs (handler (t.note .trapCaught))
  | (.unwound p, t) => ⟨.unwound p, gs, t.note .trapPassed⟩
  | (.exited, t) => ⟨.exited, gs, t⟩
  | (e, t) => next gs (t.note (.trapLeft e.value?))

/-- After a block in which every unwinding is stopped. -/
def afterContain : Ending × Thread → Progress
  | (.unwound p, t) => next gs (t.note (.panicContained p))
  | (.exited, t) => ⟨.exited, gs, t⟩
  | (e, t) => next gs (t.note (.containLeft e.value?))

/-- After the join of a thread that ended in the given way. -/
def afterSpawn (t : Thread) : Ending → Progress
  | .unwound p => next gs (t.note (.threadJoined (some p)))
  | .exited => ⟨.exited, gs, t⟩
  | _ => next gs (t.note (.threadJoined none))

end Block

/-! ## Blocks -/

/-- Performs the steps of a block, given the guards that are alive. -/
def Block.steps : Block → Host → List Guard → Thread → Progress
  | done, _, gs, t => ⟨.next, gs, t⟩
  | act a rest, host, gs, t => (a.perform host gs t).andThen (rest.steps host)
  | scope body rest, host, gs, t => afterScope (rest.steps host) gs (body.steps host [] t).leave
  | trap body handler rest, host, gs, t =>
    afterTrap (rest.steps host) gs (fun t => (handler.steps host [] t).leave)
      (t.catching fun t => (body.steps host [] t).leave)
  | contain body rest, host, gs, t => afterContain (rest.steps host) gs (body.steps host [] t).leave
  | spawn own body rest, host, gs, t =>
    -- the thread has a slot and a stash of its own, and only its trace comes back
    let joined := (body.steps own [] .fresh).leave
    afterSpawn (rest.steps host) gs (t.join joined.2.trace) joined.1
  | run setup entry rest, host, gs, t =>
    afterPlain (rest.steps host) gs
      (t.runWith host setup fun t => (entry.steps host [] t).leave)
  | choose next, host, gs, t => (next t.sight).steps host gs t

/-- Runs a block from end to end. -/
def Block.exec (b : Block) (host : Host) : Computation := fun t => (b.steps host [] t).leave

/-- The trace of a block that a probe runs on a fresh thread, with its end. -/
def Block.probe (b : Block) : List Event :=
  let (e, t) := b.exec .probe .fresh
  (t.note (.ended e)).trace

/-! ## The steps of a block, block by block -/

namespace Block

variable (gs : List Guard) (host : Host) (t : Thread) (body handler rest : Block)

theorem steps_scope : (scope body rest).steps host gs t =
    afterScope (rest.steps host) gs (body.exec host t) := rfl

theorem steps_trap : (trap body handler rest).steps host gs t =
    afterTrap (rest.steps host) gs (handler.exec host) (t.catching (body.exec host)) := rfl

theorem steps_contain : (contain body rest).steps host gs t =
    afterContain (rest.steps host) gs (body.exec host t) := rfl

theorem steps_spawn (own : Host) : (spawn own body rest).steps host gs t =
    afterSpawn (rest.steps host) gs (t.join (body.exec own .fresh).2.trace)
      (body.exec own .fresh).1 := rfl

theorem steps_run (setup : RunSetup) (entry : Block) : (run setup entry rest).steps host gs t =
    afterPlain (rest.steps host) gs (t.runWith host setup (entry.exec host)) := rfl

end Block

end Epilogue
