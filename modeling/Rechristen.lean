import Rechristen.Advisory
import Rechristen.Attempt
import Rechristen.Call
import Rechristen.CommandLine
import Rechristen.CommandLine.Request
import Rechristen.Console.Block
import Rechristen.Console.Emoji
import Rechristen.Console.Emoji.Names
import Rechristen.Console.Literal
import Rechristen.Console.Literal.Layout
import Rechristen.Console.Literal.Number
import Rechristen.Console.Literal.Quoted
import Rechristen.Console.Markup
import Rechristen.Console.Report
import Rechristen.Console.Style
import Rechristen.Console.Table
import Rechristen.Datum
import Rechristen.Decimal
import Rechristen.Declaration
import Rechristen.DeclarationTable
import Rechristen.Diff
import Rechristen.Diff.Matching
import Rechristen.Discovery
import Rechristen.Failure
import Rechristen.Fault
import Rechristen.Fault.Arguments
import Rechristen.FileTree
import Rechristen.Json
import Rechristen.Language
import Rechristen.Log.Event
import Rechristen.Log.Line
import Rechristen.Log.Recording
import Rechristen.Main
import Rechristen.MovePlan
import Rechristen.Name
import Rechristen.Name.Resolver
import Rechristen.Pass
import Rechristen.Pass.ArgumentLayout
import Rechristen.Pass.NamedArguments
import Rechristen.Pass.References
import Rechristen.Path
import Rechristen.Policy
import Rechristen.Policy.Catalog
import Rechristen.Policy.Rule
import Rechristen.Policy.Scope
import Rechristen.Proofs.Attempt
import Rechristen.Proofs.DeclarationTable
import Rechristen.Proofs.DeclarationTable.Lineage
import Rechristen.Proofs.DeclarationTable.Search
import Rechristen.Proofs.Discovery
import Rechristen.Proofs.Edits.Absorption
import Rechristen.Proofs.Edits.Conflicts
import Rechristen.Proofs.Edits.Ranges
import Rechristen.Proofs.Edits.Splice
import Rechristen.Proofs.FileTree.Moves
import Rechristen.Proofs.FileTree.Waypoints
import Rechristen.Proofs.Keyed
import Rechristen.Proofs.MovePlan.Commit
import Rechristen.Proofs.MovePlan.Planning
import Rechristen.Proofs.MovePlan.Resumption
import Rechristen.Proofs.Name.Key
import Rechristen.Proofs.Name.Segments
import Rechristen.Proofs.Pass.Conflicts
import Rechristen.Proofs.Pass.Endings
import Rechristen.Proofs.Pass.NamedArguments
import Rechristen.Proofs.Pass.RecursiveLayout
import Rechristen.Proofs.Pass.References
import Rechristen.Proofs.Path.Names
import Rechristen.Proofs.Policy.Idempotence
import Rechristen.Proofs.Policy.Manners
import Rechristen.Proofs.Policy.ShortNames
import Rechristen.Proofs.Policy.ShrinkingEndings
import Rechristen.Proofs.Policy.Undoing
import Rechristen.Proofs.Reference.Aliases
import Rechristen.Proofs.Reference.Meaning
import Rechristen.Proofs.Reference.Recasing
import Rechristen.Proofs.Registry.Commuting
import Rechristen.Proofs.Registry.Replay
import Rechristen.Proofs.Registry.SharedTargets
import Rechristen.Proofs.Registry.Spaces
import Rechristen.Proofs.Run.Conflicts
import Rechristen.Proofs.Run.Deferral
import Rechristen.Proofs.Run.DryRun
import Rechristen.Proofs.Run.EagerReferences
import Rechristen.Proofs.Run.Following
import Rechristen.Proofs.Run.ReferenceIntegrity
import Rechristen.Proofs.Run.SecondRun
import Rechristen.Proofs.Run.VisitingOrder
import Rechristen.Proofs.Run.Visits
import Rechristen.Proofs.Run.Writing
import Rechristen.Proofs.Session.Conflicts
import Rechristen.Proofs.Session.FilePlan
import Rechristen.Proofs.Session.Finality
import Rechristen.Proofs.Session.FirstHolders
import Rechristen.Proofs.Session.Indexing
import Rechristen.Proofs.Session.Interruptions
import Rechristen.Proofs.Session.Mode
import Rechristen.Proofs.Session.Origins
import Rechristen.Proofs.Session.Outcome
import Rechristen.Proofs.Session.Parameters
import Rechristen.Proofs.Session.Refusals
import Rechristen.Proofs.Session.Renaming
import Rechristen.Proofs.Session.Respelling
import Rechristen.Proofs.Session.Targets
import Rechristen.Proofs.Session.ToldApart
import Rechristen.Proofs.Session.Wishes
import Rechristen.Proofs.Sites.Assembly
import Rechristen.Proofs.Sites.Places
import Rechristen.Proofs.Sites.Scanning
import Rechristen.Proofs.Sites.Sightings
import Rechristen.Proofs.Sites.Structure
import Rechristen.Proofs.Source.Refusals
import Rechristen.Proofs.Source.Rewording
import Rechristen.Proofs.SyntaxTree.Places
import Rechristen.Proofs.Text.Lowercase
import Rechristen.Proofs.Text.Recasing
import Rechristen.Proofs.Text.Utf8
import Rechristen.Reference
import Rechristen.Registry
import Rechristen.Run
import Rechristen.Session
import Rechristen.Session.Apply
import Rechristen.Session.LocalReferences
import Rechristen.Settings
import Rechristen.Settings.Coercion
import Rechristen.Settings.Environment
import Rechristen.Settings.Options
import Rechristen.Settings.Reading
import Rechristen.Settings.Sources
import Rechristen.Sites
import Rechristen.Source
import Rechristen.Source.Edits
import Rechristen.Span
import Rechristen.SyntaxTree
import Rechristen.SyntaxTree.Outline
import Rechristen.Text.Affix
import Rechristen.Text.Base64
import Rechristen.Text.Blank
import Rechristen.Text.Case
import Rechristen.Text.CaseTable
import Rechristen.Text.CharacterName
import Rechristen.Text.Codes
import Rechristen.Text.Encoding
import Rechristen.Text.Lines
import Rechristen.Text.Numeral
import Rechristen.Text.Printable
import Rechristen.Text.Quoted
import Rechristen.Text.Ranges
import Rechristen.Text.Width
import Rechristen.Text.Word
import Rechristen.Text.Wrap
import Rechristen.Yaml
import Rechristen.Yaml.Build
import Rechristen.Yaml.Compose
import Rechristen.Yaml.Failure
import Rechristen.Yaml.Graph
import Rechristen.Yaml.Tag
import Rechristen.Yaml.Token
import Rechristen.Yaml.Token.Property
import Rechristen.Yaml.Token.Scalar
import Rechristen.Yaml.Token.Scanner
import Rechristen.Yaml.Token.Stream
import Rechristen.Yaml.Value
