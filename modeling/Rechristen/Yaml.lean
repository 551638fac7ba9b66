import Rechristen.Text.Lines
import Rechristen.Yaml.Build
import Rechristen.Yaml.Compose

/-!
# Data in configuration files

A configuration file that is well formed holds one datum, unless a scalar has no value.
-/

namespace Rechristen.Yaml

/-- How deep the data of settings go: the settings, their sections, the fields of these, and the
items of a field. -/
def depthOfSettings : Nat :=
  4

/-- The datum a configuration file holds, as deep as settings go.  A file without a document holds
nothing. -/
def read (text : String) : Except Failure Datum := do
  let (root, graph) ← compose (scan (Text.unifyLineEnds text.toList))
  match root with
  | none => return .null
  | some id => return (← Builder.complete graph id).datum depthOfSettings id

end Rechristen.Yaml
