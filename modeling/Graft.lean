import Graft.Text.Basic
import Graft.Text.Word
import Graft.Text.Case
import Graft.Text.Digit
import Graft.Text.CharacterNameTable
import Graft.Text.CharacterName
import Graft.Text.Printable
import Graft.Text.Pattern
import Graft.Text.Quoted
import Graft.Text.Utf8
import Graft.Number.Binary64
import Graft.Number.Shortest
import Graft.Value.Basic
import Graft.Value.Writer
import Graft.Value.Reader
import Graft.Path
import Graft.Fault
import Graft.Log
import Graft.Script.Region
import Graft.Script.Info
import Graft.Script.Import
import Graft.Script.Repair
import Graft.Script.Registration
import Graft.Markup
import Graft.Spec
import Graft.Injection
import Graft.Targets
import Graft.Outcome
import Graft.Draft
import Graft.Disk
import Graft.Component
import Graft.Options
import Graft.Config
import Graft.Diagnosis
import Graft.Console.Color
import Graft.Console.Style
import Graft.Console.EmojiTable
import Graft.Console.Emoji
import Graft.Console.Token
import Graft.Console.Literal
import Graft.Console.Styled
import Graft.Console
import Graft.Command.Arguments
import Graft.Command.Session
import Graft.Command.Run
import Graft.Command.Footprint
import Graft.Main
import Graft.Proofs.Words
import Graft.Proofs.Markers
import Graft.Proofs.Names
import Graft.Proofs.Fitting
import Graft.Proofs.ScriptRegion
import Graft.Proofs.RepairRules
import Graft.Proofs.Convergence
import Graft.Proofs.Edits
import Graft.Proofs.Presence
import Graft.Proofs.Survival
import Graft.Proofs.Origins
import Graft.Proofs.HalfInjection
import Graft.Proofs.Separation
import Graft.Proofs.Detection
import Graft.Proofs.Nesting
import Graft.Proofs.Stability
import Graft.Proofs.Steering
import Graft.Proofs.PageReach
import Graft.Proofs.Mentions
import Graft.Proofs.Exports
import Graft.Proofs.ComponentMap
import Graft.Proofs.Idempotence
import Graft.Proofs.Entries
import Graft.Proofs.Sessions
import Graft.Proofs.DryRun
import Graft.Proofs.Forecast
import Graft.Proofs.Merging
import Graft.Proofs.Reports
import Graft.Proofs.Completion
import Graft.Proofs.DefaultExport
import Graft.Proofs.NewScript
import Graft.Proofs.BoundNames
import Graft.Proofs.ReadBack
import Graft.Proofs.Placement
import Graft.Proofs.Summaries
import Graft.Proofs.PageDocuments
import Graft.Proofs.TagAttributes
import Graft.Proofs.Offsets
