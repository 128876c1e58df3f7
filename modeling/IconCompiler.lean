import IconCompiler.Asset
import IconCompiler.Collection
import IconCompiler.CommandLine.Command
import IconCompiler.CommandLine.Footprint
import IconCompiler.CommandLine.Program
import IconCompiler.CommandLine.Reading
import IconCompiler.CommandLine.Scope
import IconCompiler.Container
import IconCompiler.Diagnostic
import IconCompiler.Digest
import IconCompiler.Disk.Basic
import IconCompiler.Disk.Difference
import IconCompiler.Disk.Fault
import IconCompiler.Disk.Path
import IconCompiler.Disk.Walk
import IconCompiler.Disk.Workspace
import IconCompiler.Failure
import IconCompiler.FileState
import IconCompiler.GeneratedFile
import IconCompiler.Generation
import IconCompiler.Icon
import IconCompiler.ItemName
import IconCompiler.Json.Printer
import IconCompiler.Json.Reader
import IconCompiler.Json.Record
import IconCompiler.Json.Token
import IconCompiler.Json.Value
import IconCompiler.Main
import IconCompiler.Manifest
import IconCompiler.Markup.Document
import IconCompiler.Markup.Error
import IconCompiler.Markup.Event
import IconCompiler.Markup.Lexeme
import IconCompiler.Markup.Name
import IconCompiler.Markup.Node
import IconCompiler.Markup.Reference
import IconCompiler.Markup.Tag
import IconCompiler.OrderedMap
import IconCompiler.PathPattern
import IconCompiler.Proofs.Collection
import IconCompiler.Proofs.CommandLine.Ending
import IconCompiler.Proofs.CommandLine.Listing
import IconCompiler.Proofs.CommandLine.Words
import IconCompiler.Proofs.Confinement
import IconCompiler.Proofs.Disk.Alike
import IconCompiler.Proofs.Disk.Below
import IconCompiler.Proofs.Disk.Changes
import IconCompiler.Proofs.Disk.Destination
import IconCompiler.Proofs.Disk.PathName
import IconCompiler.Proofs.Disk.Paving
import IconCompiler.Proofs.Disk.Plain
import IconCompiler.Proofs.Disk.Straight
import IconCompiler.Proofs.Disk.Walk
import IconCompiler.Proofs.Discovery
import IconCompiler.Proofs.GeneratedFile
import IconCompiler.Proofs.Generation.Account
import IconCompiler.Proofs.Generation.Companion
import IconCompiler.Proofs.Generation.Ending
import IconCompiler.Proofs.Generation.Files
import IconCompiler.Proofs.Generation.Independence
import IconCompiler.Proofs.Generation.Naming
import IconCompiler.Proofs.Generation.Order
import IconCompiler.Proofs.Generation.Rehearsal
import IconCompiler.Proofs.Generation.Rerun
import IconCompiler.Proofs.Generation.Root
import IconCompiler.Proofs.ItemName
import IconCompiler.Proofs.Json.RoundTrip
import IconCompiler.Proofs.Json.Spelling
import IconCompiler.Proofs.Manifest
import IconCompiler.Proofs.Markup.Attributes
import IconCompiler.Proofs.Markup.Building
import IconCompiler.Proofs.Markup.Cutting
import IconCompiler.Proofs.Markup.Declarations
import IconCompiler.Proofs.Markup.Legible
import IconCompiler.Proofs.Markup.Names
import IconCompiler.Proofs.Markup.Reading
import IconCompiler.Proofs.Markup.References
import IconCompiler.Proofs.Markup.RoundTrip
import IconCompiler.Proofs.Markup.Separate
import IconCompiler.Proofs.Markup.Tags
import IconCompiler.Proofs.OrderedMap
import IconCompiler.Proofs.PathPattern.Language
import IconCompiler.Proofs.PathPattern.Shortcuts
import IconCompiler.Proofs.Provision
import IconCompiler.Proofs.RelativePath
import IconCompiler.Proofs.Replacement
import IconCompiler.Proofs.Results
import IconCompiler.Proofs.Search
import IconCompiler.Proofs.Settings
import IconCompiler.Proofs.Settling
import IconCompiler.Proofs.Source.Declaration
import IconCompiler.Proofs.Source.Decoding
import IconCompiler.Proofs.Source.Token
import IconCompiler.Proofs.Source.TokenTree
import IconCompiler.Proofs.Source.Writing
import IconCompiler.Proofs.Text.Bytes
import IconCompiler.Proofs.Text.Split
import IconCompiler.Proofs.Toml.Document
import IconCompiler.Proofs.Toml.Literal
import IconCompiler.Proofs.Toml.Statement
import IconCompiler.RelativePath
import IconCompiler.Search
import IconCompiler.Settings
import IconCompiler.Source.Layout
import IconCompiler.Source.Rendering
import IconCompiler.SupportType
import IconCompiler.Svg
import IconCompiler.Target
import IconCompiler.Text.Blank
import IconCompiler.Text.Case
import IconCompiler.Text.CaseTable
import IconCompiler.Text.CodeRange
import IconCompiler.Text.Hex
import IconCompiler.Text.Quoted
import IconCompiler.Text.ShapeTable
import IconCompiler.Text.Split
import IconCompiler.Toml.Document
import IconCompiler.Toml.Expression
import IconCompiler.Toml.Key
import IconCompiler.Toml.Literal
import IconCompiler.Toml.Printer
import IconCompiler.Toml.Scalar
import IconCompiler.Toml.Statement
import IconCompiler.Toml.Table
import IconCompiler.Toml.Value
import IconCompiler.Proofs.KebabName
import IconCompiler.Proofs.Generation.Isolation
import IconCompiler.Proofs.Markup.Forest
import IconCompiler.Markup.Arena
import IconCompiler.Proofs.Markup.Arena
import IconCompiler.Proofs.Markup.Draft
import IconCompiler.Proofs.Markup.OpenElements
import IconCompiler.Proofs.Markup.Stream
import IconCompiler.Proofs.ConstantName
import IconCompiler.Proofs.RelativeWay
import IconCompiler.Proofs.PathPattern.Stars
import IconCompiler.Proofs.AtomicUpdate
import IconCompiler.Proofs.HyphenRuns
import IconCompiler.Proofs.Markup.IconTag
import IconCompiler.Proofs.Markup.WhiteSpace
import IconCompiler.Proofs.Markup.Refusals
import IconCompiler.Proofs.Markup.ErrorPlace
import IconCompiler.Proofs.LetterCase
