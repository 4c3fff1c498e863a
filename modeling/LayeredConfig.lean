import LayeredConfig.Command.Arguments
import LayeredConfig.Command.Execute
import LayeredConfig.Command.Failure
import LayeredConfig.Command.Program
import LayeredConfig.Command.Show
import LayeredConfig.Command.Usage
import LayeredConfig.Configuration.Error
import LayeredConfig.Configuration.Layer
import LayeredConfig.Configuration.Request
import LayeredConfig.Configuration.Resolution
import LayeredConfig.Configuration.Root
import LayeredConfig.Configuration.Settings
import LayeredConfig.Configuration.TemplateFiles
import LayeredConfig.Configuration.WorkDirectory
import LayeredConfig.Files.Access
import LayeredConfig.Files.Path
import LayeredConfig.Files.Tree
import LayeredConfig.Main
import LayeredConfig.Number.Binary64
import LayeredConfig.Number.Read
import LayeredConfig.Number.Shortest
import LayeredConfig.Proofs.Command.LayerReports
import LayeredConfig.Proofs.Command.PrintedAsWritten
import LayeredConfig.Proofs.Command.ShownVariables
import LayeredConfig.Proofs.Command.SingleCall
import LayeredConfig.Proofs.Configuration.DerivedSettings
import LayeredConfig.Proofs.Configuration.ExtraVariables
import LayeredConfig.Proofs.Configuration.LayerFiles
import LayeredConfig.Proofs.Configuration.LayerPrecedence
import LayeredConfig.Proofs.Configuration.LenientResolution
import LayeredConfig.Proofs.Configuration.OutputCollisions
import LayeredConfig.Proofs.Configuration.OutputPlaces
import LayeredConfig.Proofs.Configuration.OwnLayers
import LayeredConfig.Proofs.Configuration.Preparation
import LayeredConfig.Proofs.Configuration.PrintedOutputs
import LayeredConfig.Proofs.Configuration.Reads
import LayeredConfig.Proofs.Configuration.TemplateSelection
import LayeredConfig.Proofs.Files.Changes
import LayeredConfig.Proofs.Files.Connected
import LayeredConfig.Proofs.Files.Growth
import LayeredConfig.Proofs.Files.Listing
import LayeredConfig.Proofs.Files.Names
import LayeredConfig.Proofs.Files.Temporary
import LayeredConfig.Proofs.Files.Walking
import LayeredConfig.Proofs.Files.WellFormed
import LayeredConfig.Proofs.Files.Writing
import LayeredConfig.Proofs.Lookup
import LayeredConfig.Proofs.Outcome
import LayeredConfig.Proofs.Runner.CapturedLines
import LayeredConfig.Proofs.Runner.RehearsalHistory
import LayeredConfig.Proofs.Template.CleanPass
import LayeredConfig.Proofs.Template.CleanText
import LayeredConfig.Proofs.Template.ClosedLines
import LayeredConfig.Proofs.Template.Convergence
import LayeredConfig.Proofs.Template.Filling
import LayeredConfig.Proofs.Template.FullExpansion
import LayeredConfig.Proofs.Template.InertComments
import LayeredConfig.Proofs.Template.JoinedTexts
import LayeredConfig.Proofs.Template.Leaves
import LayeredConfig.Proofs.Template.Leniency
import LayeredConfig.Proofs.Template.LineByLine
import LayeredConfig.Proofs.Template.MissingReport
import LayeredConfig.Proofs.Template.MoreVariables
import LayeredConfig.Proofs.Template.PlainStructures
import LayeredConfig.Proofs.Template.QuotedTexts
import LayeredConfig.Proofs.Template.References
import LayeredConfig.Proofs.Template.RenderedText
import LayeredConfig.Proofs.Template.RenderedValues
import LayeredConfig.Proofs.Template.ResolvedFirst
import LayeredConfig.Proofs.Template.SafeNames
import LayeredConfig.Proofs.Template.Settled
import LayeredConfig.Proofs.Template.TokenNames
import LayeredConfig.Proofs.Text.ByteOrder
import LayeredConfig.Proofs.Text.Lines
import LayeredConfig.Proofs.Traversal
import LayeredConfig.Proofs.Value.Spelling
import LayeredConfig.Runner.Capture
import LayeredConfig.Runner.Execution
import LayeredConfig.Runner.Rehearsal
import LayeredConfig.Runner.SharedRehearsal
import LayeredConfig.Runner.Shell
import LayeredConfig.Script.Arithmetic
import LayeredConfig.Script.Builtin
import LayeredConfig.Script.Command
import LayeredConfig.Script.Condition
import LayeredConfig.Script.Cursor
import LayeredConfig.Script.Evaluation
import LayeredConfig.Script.Expansion
import LayeredConfig.Script.Format
import LayeredConfig.Script.LinePattern
import LayeredConfig.Script.Octets
import LayeredConfig.Script.Pattern
import LayeredConfig.Script.Reader
import LayeredConfig.Script.Shell
import LayeredConfig.Script.Utility.Files
import LayeredConfig.Script.Utility.Lines
import LayeredConfig.Script.Utility.Names
import LayeredConfig.Script.Utility.Operand
import LayeredConfig.SortedMap
import LayeredConfig.Template.Error
import LayeredConfig.Template.FileName
import LayeredConfig.Template.Renderer
import LayeredConfig.Template.Segment
import LayeredConfig.Text.Blank
import LayeredConfig.Text.Cut
import LayeredConfig.Text.Printable
import LayeredConfig.Value.Basic
import LayeredConfig.Value.Debug
import LayeredConfig.Value.Json
import LayeredConfig.Value.Text
import LayeredConfig.Yaml.Block
import LayeredConfig.Yaml.Cursor
import LayeredConfig.Yaml.Document
import LayeredConfig.Yaml.Event
import LayeredConfig.Yaml.Flow
import LayeredConfig.Yaml.Scalar
import LayeredConfig.Yaml.Token
