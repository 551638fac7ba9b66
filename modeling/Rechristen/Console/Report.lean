import Rechristen.Console.Block
import Rechristen.Run

/-!
# Reports on the terminal

What a run did is shown as a table of the renamed declarations, the differences in the files if they
are asked for, the diagnostics and a line of counts.
-/

namespace Rechristen

namespace RunReport

/-- The move of a file by the names of the file. -/
def moveText (r : RenameRecord) : String :=
  match r.newPath with
  | none => ""
  | some target => r.oldPath.name ++ " -> " ++ target.name

/-- The renamed declarations. -/
def renamesBlock (r : RunReport) : Block :=
  if r.renames.isEmpty then .text "[green]No naming violations found.[/green]"
  else
    .table
      { title := "Renamed declarations"
        headings := ["Policy", "Old name", "New name", "File move"]
        rows := r.renames.map fun n => [n.policy, n.old, n.new, moveText n] }

/-- The differences, each below the path of its file. -/
def diffBlocks (r : RunReport) : List Block :=
  r.diffs.flatMap fun (path, diff) => [.text ("\n[bold]" ++ path.toString ++ "[/bold]"), .code diff]

/-- Where a diagnostic points to. -/
def placeText (d : Diagnostic) : String :=
  match d.path with
  | none => "-"
  | some path => path.toString ++ ":" ++ toString d.line

/-- The colour of a diagnostic. -/
def colourOf (d : Diagnostic) : String :=
  if d.severity = .error then "red" else "yellow"

/-- One diagnostic. -/
def diagnosticText (d : Diagnostic) : String :=
  "  [" ++ colourOf d ++ "]" ++ d.rule ++ "[/" ++ colourOf d ++ "] " ++ placeText d ++ " " ++
    d.message

/-- The diagnostics. -/
def diagnosticBlocks (r : RunReport) : List Block :=
  if r.diagnostics.isEmpty then []
  else .text "\n[bold]Diagnostics:[/bold]" :: r.diagnostics.map fun d => .text (diagnosticText d)

/-- The counts. -/
def counts (r : RunReport) : Block :=
  let part := fun (n : Nat) (word : String) => toString n ++ " " ++ word
  .text ("\n[bold]Files:[/bold] " ++ ", ".intercalate
    [part r.filesScanned "scanned", part r.modifiedFiles.length "modified",
      part r.moves.applied.length "moved", part r.moves.skipped.length "skipped",
      part r.moves.discarded.length "planned (dry-run)"])

/-- What is printed of a report. -/
def blocks (r : RunReport) (showDiff : Bool) : List Block :=
  r.renamesBlock :: (if showDiff then r.diffBlocks else []) ++ r.diagnosticBlocks ++ [r.counts]

end RunReport

/-- The table of policies and advisories. -/
def policyTable : Table :=
  let scopeText := fun (s : Option Scope) => (s.map Scope.written).getD "everywhere"
  { title := "Naming policies"
    headings := ["#", "Name", "Scope", "Description"]
    firstToRight := true
    rows := (Policy.catalog.zipIdx 1).map (fun (p, i) =>
        [toString i, p.name, scopeText p.scope, p.description]) ++
      Advisory.catalog.map fun a =>
        ["-", a.name, scopeText a.scope, a.description ++ " (advisory)"] }

end Rechristen
