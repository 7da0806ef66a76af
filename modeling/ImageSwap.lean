import ImageSwap.CommandLine.Basic
import ImageSwap.CommandLine.HelpText
import ImageSwap.CommandLine.Parser
import ImageSwap.CommandLine.Usage
import ImageSwap.Config
import ImageSwap.Decimal.Binary64
import ImageSwap.Decimal.Shortest
import ImageSwap.Errno
import ImageSwap.Exec.Loader
import ImageSwap.Exec.PathSearch
import ImageSwap.Exec.Request
import ImageSwap.Exec.SearchPath
import ImageSwap.Failure
import ImageSwap.FileSystem.Basic
import ImageSwap.FileSystem.Edit
import ImageSwap.FileSystem.Lookup
import ImageSwap.Guide
import ImageSwap.Host
import ImageSwap.Image.Completion
import ImageSwap.Image.Signal
import ImageSwap.Image.Start
import ImageSwap.Json.Basic
import ImageSwap.Json.Decoder
import ImageSwap.Json.Number
import ImageSwap.Json.Printer
import ImageSwap.Log.Filter
import ImageSwap.Log.Level
import ImageSwap.Log.Record
import ImageSwap.Main
import ImageSwap.Output
import ImageSwap.Process
import ImageSwap.Regex.CharSet
import ImageSwap.Regex.Cursor
import ImageSwap.Regex.Escape
import ImageSwap.Regex.Fault
import ImageSwap.Regex.Match
import ImageSwap.Regex.Meaning
import ImageSwap.Regex.Parse
import ImageSwap.Regex.Pattern
import ImageSwap.Regex.Reader
import ImageSwap.Regex.SetReader
import ImageSwap.Regex.Syntax
import ImageSwap.Regex.Weight
import ImageSwap.Run.Command
import ImageSwap.Run.Replace
import ImageSwap.Run.Session
import ImageSwap.Run.World
import ImageSwap.Search
import ImageSwap.Shell.Format
import ImageSwap.Shell.Interpreter
import ImageSwap.Shell.Reader
import ImageSwap.Shell.Syntax
import ImageSwap.Text.Bytes
import ImageSwap.Text.CharClass
import ImageSwap.Text.Hexadecimal
import ImageSwap.Text.Plain
import ImageSwap.Text.Printable
import ImageSwap.Text.Quoted
import ImageSwap.Text.Split
import ImageSwap.Timestamp
import ImageSwap.Toml.Blank
import ImageSwap.Toml.Document
import ImageSwap.Toml.Moment
import ImageSwap.Toml.Number
import ImageSwap.Toml.Place
import ImageSwap.Toml.Table
import ImageSwap.Toml.Text
import ImageSwap.Toml.Value
import ImageSwap.Proofs.Results
import ImageSwap.Proofs.Loading
import ImageSwap.Proofs.PathSearch
import ImageSwap.Proofs.Replacement
import ImageSwap.Proofs.SearchAgreement
import ImageSwap.Proofs.ReportAgreement
import ImageSwap.Proofs.DistinctDocuments
import ImageSwap.Proofs.ConfigSchema
import ImageSwap.Proofs.WrittenStatements
import ImageSwap.Proofs.WrittenFields
import ImageSwap.Proofs.WrittenConfig
import ImageSwap.Proofs.ClosedPipe
import ImageSwap.Proofs.AnnouncedFirst
import ImageSwap.Proofs.RefusedOutput
import ImageSwap.Proofs.JsonScalars
import ImageSwap.Proofs.JsonDocuments
import ImageSwap.Proofs.PrintedOutput
import ImageSwap.Proofs.QuieterRuns
import ImageSwap.Proofs.TrailingArguments
import ImageSwap.Proofs.GlobalOptions
import ImageSwap.Proofs.VerbosityCount
import ImageSwap.Proofs.OverrideSequences
import ImageSwap.Proofs.JoinedParts
import ImageSwap.Proofs.SearchAnswers
import ImageSwap.Proofs.FollowedHints
import ImageSwap.Proofs.JoinedSearchPaths
import ImageSwap.Proofs.FoundAgain
import ImageSwap.Proofs.SearchReports
import ImageSwap.Proofs.ArgumentVector
import ImageSwap.Proofs.DocumentedStatuses
import ImageSwap.Proofs.EmittedDocuments
import ImageSwap.Proofs.QuotedArguments
import ImageSwap.Proofs.LogDirectives
import ImageSwap.Proofs.ShownRecords
import ImageSwap.Proofs.ConfigLoading
