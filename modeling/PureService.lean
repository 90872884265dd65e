import PureService.Analysis.Analyzer
import PureService.Analysis.Classification
import PureService.Analysis.State
import PureService.Command.Arguments
import PureService.Command.Basic
import PureService.Command.Init
import PureService.Command.Run
import PureService.Config
import PureService.Config.OfText
import PureService.Declaration
import PureService.Decoding.Cause
import PureService.Decoding.Config
import PureService.Decoding.Declaration
import PureService.Decoding.OfValue
import PureService.Decoding.Source
import PureService.Diagnostic.Basic
import PureService.Diagnostic.Collector
import PureService.Digest
import PureService.Document
import PureService.Document.OfText
import PureService.Files.FileAction
import PureService.Files.FilePath
import PureService.Files.FileTree
import PureService.Main
import PureService.Number.Binary64
import PureService.Number.Shortest
import PureService.Project
import PureService.Project.Loading
import PureService.Service.Basic
import PureService.Service.Writing
import PureService.Sorting
import PureService.Text.Blank
import PureService.Text.Invisible
import PureService.Text.Line
import PureService.Text.Quoted
import PureService.TypeDescriptor.Basic
import PureService.TypeDescriptor.Reading
import PureService.Value.Basic
import PureService.Value.Encoding
import PureService.Value.Printer
import PureService.Yaml.Cursor
import PureService.Yaml.Event
import PureService.Yaml.Node
import PureService.Yaml.Reading
import PureService.Yaml.Scalar
import PureService.Yaml.Token
import PureService.Yaml.Token.OfText
import PureService.Yaml.Token.ScalarText
import PureService.Yaml.Token.Tag
import PureService.Proofs.Analysis.Classification
import PureService.Proofs.Analysis.Interleaving
import PureService.Proofs.Analysis.Conservation
import PureService.Proofs.Analysis.Absence
import PureService.Proofs.Analysis.Acceptance
import PureService.Proofs.Analysis.Names
import PureService.Proofs.Analysis.Delivery
import PureService.Proofs.Analysis.Exposure
import PureService.Proofs.Analysis.Findings
import PureService.Proofs.Attempts
import PureService.Proofs.Command.Check
import PureService.Proofs.Command.Generate
import PureService.Proofs.Decoding.Parts
import PureService.Proofs.Decoding.Record
import PureService.Proofs.Decoding.RoundTrip
import PureService.Proofs.Decoding.Writable
import PureService.Proofs.Diagnostic.Collector
import PureService.Proofs.Diagnostic.Order
import PureService.Proofs.Files.FilePath
import PureService.Proofs.Files.FileTree
import PureService.Proofs.Files.Resolution
import PureService.Proofs.Files.Change
import PureService.Proofs.Files.FileAction
import PureService.Proofs.Files.Filling
import PureService.Proofs.Document
import PureService.Proofs.Project.Layout
import PureService.Proofs.Project.Loading
import PureService.Proofs.Project.Reloading
import PureService.Proofs.Project.Spelling
import PureService.Proofs.Service.Writing
import PureService.Proofs.Service.Rewriting
import PureService.Proofs.Text.Blank
import PureService.Proofs.Text.Utf8
import PureService.Proofs.TypeDescriptor.Reading
import PureService.Proofs.TypeDescriptor.NormalForm
import PureService.Proofs.Value.Rearrangement
import PureService.Proofs.Command.Init
import PureService.Proofs.Command.InitEffects
import PureService.Proofs.Analysis.Latch
import PureService.Proofs.Analysis.Ownership
import PureService.Proofs.TypeDescriptor.Refusal
import PureService.Proofs.TypeDescriptor.Brackets
import PureService.Proofs.TypeDescriptor.Union
import PureService.Proofs.TypeDescriptor.Nesting
import PureService.Proofs.Service.Source
import PureService.Proofs.Service.Resources
import PureService.Proofs.Service.Placement
import PureService.Proofs.TypeDescriptor.Serializability
import PureService.Proofs.TypeDescriptor.Quotation
import PureService.Proofs.Analysis.Presentation
import PureService.Proofs.Analysis.Schedules
