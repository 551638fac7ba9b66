import Rechristen.Advisory
import Rechristen.Attempt
import Rechristen.Log.Event
import Rechristen.Source

/-!
# Passes over source files

After the declarations are renamed, further passes go over all files one by one.  A pass counts what
it changes in a file and may have something to tell.  The first failure ends it; the files before
keep their changes.
-/

namespace Rechristen

/-- What a pass has to tell. -/
structure Notes where
  diagnostics : List Diagnostic := []
  events : List Event := []

namespace Notes

/-- What two parts of a pass have to tell. -/
def append (a b : Notes) : Notes :=
  ⟨a.diagnostics ++ b.diagnostics, a.events ++ b.events⟩

instance : Append Notes := ⟨append⟩

end Notes

/-- A pass over one file: the number of changes, the file and what is told. -/
abbrev Pass := Source → Attempt (Source × Notes) Nat

namespace Pass

/-- A pass over files, one after the other. -/
def overAll (pass : Pass) : List Source → Attempt (List Source × Notes) Nat
  | [] => .success 0 ([], {})
  | source :: rest =>
    let head := pass source
    match head.result with
    | .error cause => .failure cause (head.state.1 :: rest, head.state.2)
    | .ok count =>
      let tail := overAll pass rest
      ⟨tail.result.map (count + ·), (head.state.1 :: tail.state.1, head.state.2 ++ tail.state.2)⟩

end Pass

end Rechristen
