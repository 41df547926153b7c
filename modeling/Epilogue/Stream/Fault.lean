/-!
# Epilogue — stream faults

Why a stream refused to take bytes or to be flushed, and the outcome of an operation on a stream:
the stream as it is left, and the fault that ended the operation, if one did.
-/

namespace Epilogue

/-- The kind of a fault. -/
inductive FaultKind where
  | brokenPipe
  | invalidData
  | invalidInput
  | writeZero
  | interrupted
  | unexpectedEof
  | notFound
  | permissionDenied
  | alreadyExists
  | storageFull
  | timedOut
  | wouldBlock
  | outOfMemory
  | unsupported
  | other
  deriving DecidableEq

/-- What a kind is called where nothing more is known. -/
def FaultKind.description : FaultKind → String
  | brokenPipe => "broken pipe"
  | invalidData => "invalid data"
  | invalidInput => "invalid input parameter"
  | writeZero => "write zero"
  | interrupted => "operation interrupted"
  | unexpectedEof => "unexpected end of file"
  | notFound => "entity not found"
  | permissionDenied => "permission denied"
  | alreadyExists => "entity already exists"
  | storageFull => "no storage space"
  | timedOut => "timed out"
  | wouldBlock => "operation would block"
  | outOfMemory => "out of memory"
  | unsupported => "unsupported"
  | other => "other error"

/-- A fault of a stream, with words of its own or only its kind. -/
structure Fault where
  kind : FaultKind
  detail : Option String
  deriving DecidableEq

namespace Fault

/-- The fault in words. -/
def message (f : Fault) : String := f.detail.getD f.kind.description

/-- A write that is to be complete was offered no room. -/
def writeStalled : Fault := ⟨.writeZero, some "failed to write whole buffer"⟩

/-- Buffered bytes that are to go out were offered no room. -/
def drainStalled : Fault := ⟨.writeZero, some "failed to write the buffered data"⟩

/-- The device behind a stream has no room left. -/
def deviceFull : Fault := ⟨.storageFull, some "No space left on device (os error 28)"⟩

end Fault

/-- A fault that ends a write. A call that is interrupted is made again, so an interruption
is none. -/
structure FinalFault where
  fault : Fault
  final : fault.kind ≠ .interrupted
  deriving DecidableEq

/-- The device behind a stream has no room left. -/
def FinalFault.deviceFull : FinalFault := ⟨.deviceFull, by decide⟩

/-- The outcome of an operation on a stream. -/
structure Attempt (α : Type) where
  state : α
  fault : Option Fault

namespace Attempt

variable {α β : Type}

/-- An operation that did what it was to do. -/
def done (a : α) : Attempt α := ⟨a, none⟩

/-- Goes on with a second operation unless the first one failed. -/
def next (t : Attempt α) (op : α → Attempt α) : Attempt α :=
  match t.fault with
  | none => op t.state
  | some _ => t

/-- The same outcome for something that contains the stream. -/
def lift (t : Attempt α) (f : α → β) : Attempt β := ⟨f t.state, t.fault⟩

@[simp] theorem next_of_none {a : α} {op : α → Attempt α} : next ⟨a, none⟩ op = op a := rfl

@[simp] theorem next_of_some {a : α} {f : Fault} {op : α → Attempt α} :
    next ⟨a, some f⟩ op = ⟨a, some f⟩ := rfl

@[simp] theorem done_next {a : α} {op : α → Attempt α} : (done a).next op = op a := rfl

end Attempt

end Epilogue
