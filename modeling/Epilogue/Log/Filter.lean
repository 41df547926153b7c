import Epilogue.Log.Directive

/-!
# Epilogue — log filters

A filter is a list of directives separated by commas. Of those that speak for a record the most
specific one decides: the one with the longest target, of these one that names a field. A record for
which none speaks is not written.

* `Filter.parse` — the directives of a text;
* `Filter.ofSetting` — the filter of a setting, with a default one for a text that is malformed;
* `Filter.admits` — whether a record is written.
-/

namespace Epilogue

/-- A filter. -/
abbrev Filter := List Directive

namespace Filter

/-- The directives of a text, empty parts being skipped. The first part at fault decides how the
text is. -/
def parse (text : String) : Except DirectiveFault Filter :=
  ((text.toList.splitOn ',').filter (!·.isEmpty)).mapM Directive.read

/-- The filter that lets warnings and errors through. -/
def warnings : Filter := [⟨none, none, none, 2⟩]

/-- The filter of a setting, or the tear of one that is torn. -/
def ofSetting (text : String) : Except Tear Filter :=
  match parse text with
  | .ok f => .ok f
  | .error .malformed => .ok warnings
  | .error (.torn tear) => .error tear

/-- The directive that decides about a record: the most specific one that speaks for it, and the
last of several. -/
def deciding? (f : Filter) (r : Record) : Option Directive :=
  (f.filter (·.covers r)).foldl
    (fun best d =>
      match best with
      | some b => if b.yieldsTo d then some d else best
      | none => some d)
    none

/-- Whether a record is written. -/
def admits (f : Filter) (r : Record) : Bool :=
  (f.deciding? r).any (r.level.rank ≤ ·.rank)

end Filter

end Epilogue
