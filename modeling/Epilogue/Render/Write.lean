import Epilogue.Render.Printer
import Epilogue.Trap.Thread

/-!
# Epilogue — writing values

A value is written to an output piece by piece. The first piece that the output refuses ends the
printing with its fault; the printer itself may fail, panic or raise.
-/

namespace Epilogue

/-- How the printing of a value ends. -/
inductive Printed where
  | done
  | failed (f : Fault)
  | unwound (p : Payload)
  | exited

/-- A raise that was not made lets the printer go on to its end. -/
def Printed.ofRaise : Ending → Printed
  | .unwound p => unwound p
  | .exited => exited
  | .next | .returned _ => done

namespace Output

/-- Writes pieces until one is refused. -/
def writePieces (o : Output) (pieces : List Bytes) : Attempt Output :=
  pieces.foldl (fun t bs => t.next (·.writeAll bs)) (.done o)

end Output

/-- How the printing ends after an attempt to write the pieces. -/
def Finish.after (host : Host) (t : Thread) (finish : Finish) :
    Attempt Output → Printed × Output × Thread
  | ⟨o, some f⟩ => (.failed f, o, t)
  | ⟨o, none⟩ =>
    match finish with
    | .done => (.done, o, t)
    | .fails f => (.failed f, o, t)
    | .panics p => (.unwound p, o, t.alarm p)
    | .raises m => (.ofRaise (t.raiseUnder host (some m)).1, o, (t.raiseUnder host (some m)).2)

/-- Carries out a printout. -/
def Printout.write (host : Host) (p : Printout) (o : Output) (t : Thread) :
    Printed × Output × Thread :=
  p.finish.after host t (o.writePieces p.writes)

namespace Value

/-- Writes a value. A value that no well-formed program produces is logged. -/
def write (host : Host) (v : Value) (printer : Printer) (o : Output) (t : Thread) :
    Printed × Output × Thread :=
  (v.printout printer).write host o (if v = .invalid then t.log .invalidRendered else t)

/-- Renders a value to a text. The text is there only if the printing is done. -/
def renderWith (host : Host) (v : Value) (printer : Printer) (t : Thread) :
    Printed × String × Thread :=
  let (ending, o, t) := v.write host printer (.direct .unlimited) t
  (ending, Utf8.decodeLossy o.sink.content, t)

end Value

end Epilogue
