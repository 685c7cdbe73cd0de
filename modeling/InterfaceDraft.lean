import InterfaceDraft.CommandLine.Arguments
import InterfaceDraft.CommandLine.ExitCode
import InterfaceDraft.CommandLine.Message
import InterfaceDraft.CommandLine.Run
import InterfaceDraft.Extraction.Error
import InterfaceDraft.Extraction.Pool
import InterfaceDraft.Extraction.Run
import InterfaceDraft.Extraction.Stats
import InterfaceDraft.Extraction.Tally
import InterfaceDraft.Files.IoError
import InterfaceDraft.Files.Path
import InterfaceDraft.Files.Tree
import InterfaceDraft.Files.Workspace
import InterfaceDraft.Interface.Draft
import InterfaceDraft.Main
import InterfaceDraft.Number.Binary64
import InterfaceDraft.Number.Decimal
import InterfaceDraft.Number.Numeral
import InterfaceDraft.Output.Sink
import InterfaceDraft.Proofs.CommandLine.Exit
import InterfaceDraft.Proofs.CommandLine.Severity
import InterfaceDraft.Proofs.Extraction.Ending
import InterfaceDraft.Proofs.Extraction.Gathering
import InterfaceDraft.Proofs.Extraction.Rescan
import InterfaceDraft.Proofs.Extraction.Schedule
import InterfaceDraft.Proofs.Extraction.Tally
import InterfaceDraft.Proofs.Files.Components
import InterfaceDraft.Proofs.Files.Descent
import InterfaceDraft.Proofs.Files.Directories
import InterfaceDraft.Proofs.Files.LastName
import InterfaceDraft.Proofs.Files.NewFile
import InterfaceDraft.Proofs.Files.Resolution
import InterfaceDraft.Proofs.Files.Standing
import InterfaceDraft.Proofs.Files.Upwards
import InterfaceDraft.Proofs.Files.Writing
import InterfaceDraft.Proofs.Interface.Cut
import InterfaceDraft.Proofs.Interface.Escapes
import InterfaceDraft.Proofs.Interface.Inert
import InterfaceDraft.Proofs.Interface.ReadBack
import InterfaceDraft.Proofs.Output.Naming
import InterfaceDraft.Proofs.Output.Opening
import InterfaceDraft.Proofs.Pool.Accounting
import InterfaceDraft.Proofs.Pool.Completion
import InterfaceDraft.Proofs.Pool.Drain
import InterfaceDraft.Proofs.Pool.Intake
import InterfaceDraft.Proofs.Pool.Order
import InterfaceDraft.Proofs.Settings.Document
import InterfaceDraft.Proofs.Settings.Layers
import InterfaceDraft.Proofs.Settings.Lookup
import InterfaceDraft.Proofs.Settings.Merging
import InterfaceDraft.Proofs.Settings.RoundTrip
import InterfaceDraft.Proofs.Settings.Setting
import InterfaceDraft.Proofs.Signature.Characters
import InterfaceDraft.Proofs.Signature.Dangling
import InterfaceDraft.Proofs.Signature.Edits
import InterfaceDraft.Proofs.Signature.Exported
import InterfaceDraft.Proofs.Signature.Layout
import InterfaceDraft.Proofs.Signature.Normalised
import InterfaceDraft.Proofs.Signature.OneLineComment
import InterfaceDraft.Proofs.Signature.Reader
import InterfaceDraft.Proofs.Signature.TrailingComment
import InterfaceDraft.Proofs.Signature.Trimmed
import InterfaceDraft.Proofs.Signature.TwoPhase
import InterfaceDraft.Proofs.Signature.Written
import InterfaceDraft.Proofs.Source.Acceptance
import InterfaceDraft.Proofs.Source.Discovery
import InterfaceDraft.Proofs.Text.Blank
import InterfaceDraft.Proofs.Text.Lines
import InterfaceDraft.Proofs.Text.Search
import InterfaceDraft.Proofs.Text.Utf8
import InterfaceDraft.Proofs.Toml.Keys
import InterfaceDraft.Proofs.Toml.Statements
import InterfaceDraft.Proofs.Toml.Strings
import InterfaceDraft.Settings.Basic
import InterfaceDraft.Settings.Decode
import InterfaceDraft.Settings.Document
import InterfaceDraft.Settings.Environment
import InterfaceDraft.Settings.Fault
import InterfaceDraft.Settings.Inline
import InterfaceDraft.Settings.Layer
import InterfaceDraft.Settings.Store
import InterfaceDraft.Settings.Value
import InterfaceDraft.Settings.Wrapped
import InterfaceDraft.Signature.Declaration
import InterfaceDraft.Signature.Reader
import InterfaceDraft.Signature.Scan
import InterfaceDraft.Source.Discover
import InterfaceDraft.Source.Filter
import InterfaceDraft.Text.Blank
import InterfaceDraft.Text.Casing
import InterfaceDraft.Text.ControlSequence
import InterfaceDraft.Text.Lines
import InterfaceDraft.Text.Lowercase
import InterfaceDraft.Text.Printable
import InterfaceDraft.Text.Quoted
import InterfaceDraft.Text.Search
import InterfaceDraft.Text.Uppercase
import InterfaceDraft.Text.Utf8
import InterfaceDraft.Toml.Reader
import InterfaceDraft.Toml.Scalar
import InterfaceDraft.Toml.Table
import InterfaceDraft.Toml.Text
