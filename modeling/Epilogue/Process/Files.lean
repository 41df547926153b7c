import Epilogue.Text.Utf8

/-!
# Epilogue — files

As much of a file system as it takes to leave a report in it: what its files hold, and what it does
with a file that is to be written anew. Which paths lead anywhere is up to the machine on which the
process runs.

* `FileSystem.replace` — creates or empties a file and writes to it;
* `FileSystem.vacant` — a file system with no files but a device that is full.
-/

namespace Epilogue

/-- What a file system does with a file that is to be written anew. -/
inductive Admission where
  /-- it is not opened, and keeps what it holds -/
  | refuses
  /-- it is emptied and takes that many bytes, all of them if there is no limit -/
  | takes (room : Option Nat)
  deriving DecidableEq

/-- A file system. -/
structure FileSystem where
  content : (path : String) → Option Bytes
  admission : (path : String) → Admission

namespace FileSystem

/-- Creates or empties a file and writes bytes to it, as far as there is room. Nothing happens to a
file that is not opened. -/
def replace (fs : FileSystem) (path : String) (bs : Bytes) : Option FileSystem :=
  match fs.admission path with
  | .refuses => none
  | .takes room =>
    some { fs with
      content := fun p => if p = path then some (room.elim bs bs.take) else fs.content p }

/-- A file system with no files but the device that is always full. Each file can be made and takes
what it is given. -/
def vacant : FileSystem where
  content path := if path = "/dev/full" then some [] else none
  admission path := .takes (if path = "/dev/full" then some 0 else none)

end FileSystem

end Epilogue
