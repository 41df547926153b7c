import Epilogue.Text.Quoted
import Epilogue.Value

/-!
# Epilogue — values in messages

A value as it would be written to construct it, `Int(7)` or `Char('\n')`, and the message of a
mismatch, which shows the value that was found.
-/

namespace Epilogue

/-- How a value is constructed. -/
def Value.construction (v : Value) : String :=
  match v with
  | .int n => "Int(" ++ toString n.toInt ++ ")"
  | .bool b => "Bool(" ++ (if b then "true" else "false") ++ ")"
  | .char c => "Char(" ++ Text.quoteChar c ++ ")"
  | .eof | .void | .invalid => v.shape.tag

/-- A mismatch in words. -/
def WrongShape.message (w : WrongShape) : String :=
  "value: expected " ++ w.expected.name ++ " payload, got " ++ w.found.shape.name ++ " (" ++
    w.found.construction ++ ")"

/-- The mismatch of a value that is not of the expected shape. -/
def WrongShape.find? (expected : Shape) (v : Value) : Option WrongShape :=
  if v.shape = expected then none else some ⟨expected, v⟩

end Epilogue
