import HeaderMock.CType.Basic
import HeaderMock.CType.Spelling
import HeaderMock.Code.Expr
import HeaderMock.Code.Matcher
import HeaderMock.CommandLine.Arguments
import HeaderMock.CommandLine.Command
import HeaderMock.CommandLine.ConfigFile
import HeaderMock.CommandLine.Help
import HeaderMock.CommandLine.Token
import HeaderMock.CommandLine.Usage
import HeaderMock.Decl.Basic
import HeaderMock.Decl.Mockable
import HeaderMock.Decl.Scope
import HeaderMock.Event
import HeaderMock.Expectation
import HeaderMock.Fault
import HeaderMock.FileTree
import HeaderMock.Generate
import HeaderMock.Layout
import HeaderMock.Main
import HeaderMock.Mock
import HeaderMock.Output.Banner
import HeaderMock.Output.File
import HeaderMock.Output.UserCode
import HeaderMock.Override.Basic
import HeaderMock.Override.Config
import HeaderMock.Override.Template
import HeaderMock.Parser
import HeaderMock.Path
import HeaderMock.Proofs.CType.Bare
import HeaderMock.Proofs.CType.Brackets
import HeaderMock.Proofs.CType.Declare
import HeaderMock.Proofs.CType.Stripping
import HeaderMock.Proofs.Code.Brackets
import HeaderMock.Proofs.CommandLine.FileArguments
import HeaderMock.Proofs.CommandLine.Inclusion
import HeaderMock.Proofs.CommandLine.LeftoverFiles
import HeaderMock.Proofs.CommandLine.OverrideOrder
import HeaderMock.Proofs.CommandLine.Regeneration
import HeaderMock.Proofs.CommandLine.Scan
import HeaderMock.Proofs.CommandLine.SingleOverride
import HeaderMock.Proofs.Decl.Occurrence
import HeaderMock.Proofs.Decl.ScopePath
import HeaderMock.Proofs.FileTree.Lookup
import HeaderMock.Proofs.FileTree.Spelling
import HeaderMock.Proofs.FileTree.Write
import HeaderMock.Proofs.Generate.Collision
import HeaderMock.Proofs.Generate.Emitted
import HeaderMock.Proofs.Generate.Entries
import HeaderMock.Proofs.Generate.Locality
import HeaderMock.Proofs.Generate.Reference
import HeaderMock.Proofs.Generate.TagChoice
import HeaderMock.Proofs.Helper.Capture
import HeaderMock.Proofs.Helper.DistinctNames
import HeaderMock.Proofs.Helper.Execution
import HeaderMock.Proofs.Helper.Forwarding
import HeaderMock.Proofs.Helper.PlainData
import HeaderMock.Proofs.Helper.Prototype
import HeaderMock.Proofs.Lockstep
import HeaderMock.Proofs.Output.Banner
import HeaderMock.Proofs.Output.UserCode
import HeaderMock.Proofs.Override.Grammar
import HeaderMock.Proofs.Override.Key
import HeaderMock.Proofs.Override.Table
import HeaderMock.Proofs.Path.Absolute
import HeaderMock.Proofs.Rendering.Agreement
import HeaderMock.Proofs.Rendering.Answer
import HeaderMock.Proofs.Rendering.Brackets
import HeaderMock.Proofs.Rendering.Parts
import HeaderMock.Proofs.Rendering.Tag
import HeaderMock.Proofs.Rendering.Total
import HeaderMock.Proofs.Run.Outputs
import HeaderMock.Proofs.Sequencing
import HeaderMock.Proofs.ShellWords
import HeaderMock.Proofs.Signature.Collected
import HeaderMock.Proofs.Signature.Locality
import HeaderMock.Proofs.Signature.Refusal
import HeaderMock.Proofs.Signature.Target
import HeaderMock.Proofs.Slot.Brackets
import HeaderMock.Proofs.Slot.Constness
import HeaderMock.Proofs.Slot.Elements
import HeaderMock.Proofs.Slot.FunctionAccess
import HeaderMock.Proofs.Slot.Range
import HeaderMock.Proofs.Slot.RecordTag
import HeaderMock.Proofs.Slot.Tag
import HeaderMock.Proofs.Slot.Transparency
import HeaderMock.Proofs.Text.Brackets
import HeaderMock.Proofs.Text.Lines
import HeaderMock.Proofs.Text.Split
import HeaderMock.Report
import HeaderMock.Run
import HeaderMock.ShellWords
import HeaderMock.Signature.Basic
import HeaderMock.Signature.Collect
import HeaderMock.Slot.Classification
import HeaderMock.Slot.Classify
import HeaderMock.Slot.Kind
import HeaderMock.Text.Blank
import HeaderMock.Text.Lines
import HeaderMock.Text.Literal
import HeaderMock.Text.Printable
import HeaderMock.Text.Ranges
import HeaderMock.Text.Split
import HeaderMock.Text.WordChar
