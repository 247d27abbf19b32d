import RuleMetadata.Artifact.Assembly
import RuleMetadata.Artifact.Basic
import RuleMetadata.Artifact.Document
import RuleMetadata.Attributes
import RuleMetadata.Command.Arguments
import RuleMetadata.Command.Documents
import RuleMetadata.Command.Inspection
import RuleMetadata.Command.Invocation
import RuleMetadata.Command.Problem
import RuleMetadata.Command.Run
import RuleMetadata.Declaration.Basic
import RuleMetadata.Declaration.Document
import RuleMetadata.Declaration.Marker
import RuleMetadata.Description.Cache
import RuleMetadata.Description.Key
import RuleMetadata.Description.Store
import RuleMetadata.Files.Error
import RuleMetadata.Files.Path
import RuleMetadata.Files.Pattern
import RuleMetadata.Files.System
import RuleMetadata.Files.Tree
import RuleMetadata.Filter.Access
import RuleMetadata.Filter.Builtin
import RuleMetadata.Filter.Environment
import RuleMetadata.Filter.Machine.Basic
import RuleMetadata.Filter.Machine.Changing
import RuleMetadata.Filter.Machine.Reading
import RuleMetadata.Filter.Machine.Step
import RuleMetadata.Filter.Number
import RuleMetadata.Filter.Operation
import RuleMetadata.Filter.Parser
import RuleMetadata.Filter.Prelude
import RuleMetadata.Filter.Run
import RuleMetadata.Filter.Term
import RuleMetadata.Filter.Token
import RuleMetadata.Filter.Value
import RuleMetadata.Json.Basic
import RuleMetadata.Json.Fault
import RuleMetadata.Json.Literal
import RuleMetadata.Json.Number
import RuleMetadata.Json.Numeral
import RuleMetadata.Json.Passage
import RuleMetadata.Json.Pointer
import RuleMetadata.Json.Printer
import RuleMetadata.Json.Reader
import RuleMetadata.Json.Refusal
import RuleMetadata.Main
import RuleMetadata.Model.Basic
import RuleMetadata.Model.Build
import RuleMetadata.Model.Container
import RuleMetadata.Model.Element
import RuleMetadata.Options.Basic
import RuleMetadata.Options.Document
import RuleMetadata.Proofs.Artifact.Acceptance
import RuleMetadata.Proofs.Artifact.Assembly
import RuleMetadata.Proofs.Artifact.Layout
import RuleMetadata.Proofs.Artifact.Portability
import RuleMetadata.Proofs.Artifact.RoundTrip
import RuleMetadata.Proofs.Attributes
import RuleMetadata.Proofs.Declaration.Marker
import RuleMetadata.Proofs.Declaration.Reading
import RuleMetadata.Proofs.Declaration.Record
import RuleMetadata.Proofs.Declaration.Refusal
import RuleMetadata.Proofs.Declaration.Rendering
import RuleMetadata.Proofs.Description.Cache
import RuleMetadata.Proofs.Description.Confinement
import RuleMetadata.Proofs.Description.Key
import RuleMetadata.Proofs.Description.Reading
import RuleMetadata.Proofs.Description.Sharing
import RuleMetadata.Proofs.Files.Closed
import RuleMetadata.Proofs.Files.Faults
import RuleMetadata.Proofs.Files.Growth
import RuleMetadata.Proofs.Files.Path
import RuleMetadata.Proofs.Files.Repetition
import RuleMetadata.Proofs.Files.Tree
import RuleMetadata.Proofs.Lists
import RuleMetadata.Proofs.Model.Ancestry
import RuleMetadata.Proofs.Model.Build
import RuleMetadata.Proofs.Model.Container
import RuleMetadata.Proofs.Model.Containment
import RuleMetadata.Proofs.Model.Enclosure
import RuleMetadata.Proofs.Model.Extension
import RuleMetadata.Proofs.Model.Forest
import RuleMetadata.Proofs.Model.Layout
import RuleMetadata.Proofs.Model.Moving
import RuleMetadata.Proofs.Model.Outline
import RuleMetadata.Proofs.Model.Preorder
import RuleMetadata.Proofs.Model.Rearrangement
import RuleMetadata.Proofs.Model.Resolution
import RuleMetadata.Proofs.Model.Shadowing
import RuleMetadata.Proofs.Model.Validity
import RuleMetadata.Proofs.Options
import RuleMetadata.Proofs.Round.Accounting
import RuleMetadata.Proofs.Round.Delivery
import RuleMetadata.Proofs.Round.Emission
import RuleMetadata.Proofs.Round.Footprint
import RuleMetadata.Proofs.Round.Halting
import RuleMetadata.Proofs.Round.InMemory
import RuleMetadata.Proofs.Round.Incremental
import RuleMetadata.Proofs.Round.Interruption
import RuleMetadata.Proofs.Round.Placement
import RuleMetadata.Proofs.Round.Repetition
import RuleMetadata.Proofs.Round.Tasks
import RuleMetadata.Proofs.Round.Turns
import RuleMetadata.Proofs.Round.Writing
import RuleMetadata.Proofs.Signature
import RuleMetadata.Proofs.State
import RuleMetadata.Proofs.Text.Blank
import RuleMetadata.Proofs.TypeExpr.Arguments
import RuleMetadata.Proofs.TypeExpr.Balance
import RuleMetadata.Proofs.TypeExpr.Erasure
import RuleMetadata.Proofs.TypeExpr.Grammar
import RuleMetadata.Proofs.TypeExpr.Scanning
import RuleMetadata.Proofs.Walk.Embedding
import RuleMetadata.Proofs.Walk.Flattening
import RuleMetadata.Proofs.Walk.Lineage
import RuleMetadata.Proofs.Walk.Overriding
import RuleMetadata.Proofs.Walk.Relocation
import RuleMetadata.Proofs.Walk.Ways
import RuleMetadata.Proofs.Xml.Conformance
import RuleMetadata.Proofs.Xml.Content
import RuleMetadata.Proofs.Xml.Escaping
import RuleMetadata.Proofs.Xml.Grammar
import RuleMetadata.Proofs.Xml.Layout
import RuleMetadata.Proofs.Xml.Lexing
import RuleMetadata.Proofs.Xml.Likeness
import RuleMetadata.Proofs.Xml.Parsing
import RuleMetadata.Proofs.Xml.Pieces
import RuleMetadata.Proofs.Xml.Places
import RuleMetadata.Proofs.Xml.Recognition
import RuleMetadata.Proofs.Xml.Tokenization
import RuleMetadata.Proofs.Xml.Truncation
import RuleMetadata.Round.Report
import RuleMetadata.Round.Run
import RuleMetadata.Round.Writing
import RuleMetadata.Signature
import RuleMetadata.Text.Blank
import RuleMetadata.Text.Decimal
import RuleMetadata.Text.Hidden
import RuleMetadata.Text.Printable
import RuleMetadata.Text.Regex.Basic
import RuleMetadata.Text.Regex.Parser
import RuleMetadata.Text.Regex.Search
import RuleMetadata.TypeExpr
import RuleMetadata.Walk
import RuleMetadata.Xml.Basic
import RuleMetadata.Xml.Lexer
import RuleMetadata.Xml.Parser
import RuleMetadata.Xml.Token
