import FlowGraph.Command
import FlowGraph.Command.Escapes
import FlowGraph.Command.Shell
import FlowGraph.Command.Standard
import FlowGraph.Command.Words
import FlowGraph.CommandLine
import FlowGraph.Config
import FlowGraph.Decimal.Layout
import FlowGraph.Decimal.Places
import FlowGraph.Decimal.Reading
import FlowGraph.Decimal.Remainder
import FlowGraph.Decimal.Shortest
import FlowGraph.Dict
import FlowGraph.Files.Changes
import FlowGraph.Files.Error
import FlowGraph.Files.Loading
import FlowGraph.Files.Matching
import FlowGraph.Files.Tree
import FlowGraph.Flow.Basic
import FlowGraph.Flow.Part
import FlowGraph.Flow.Stored
import FlowGraph.Json.Basic
import FlowGraph.Json.Decode
import FlowGraph.Json.Draft
import FlowGraph.Json.Number
import FlowGraph.Json.Reading
import FlowGraph.Json.Text
import FlowGraph.Json.Token
import FlowGraph.Main
import FlowGraph.Path
import FlowGraph.Pattern.CharSet
import FlowGraph.Pattern.FilePattern
import FlowGraph.Pattern.Notation
import FlowGraph.Pattern.Regex
import FlowGraph.Registration
import FlowGraph.Registry
import FlowGraph.Run.Context
import FlowGraph.Run.Instant
import FlowGraph.Run.Iteration
import FlowGraph.Run.Ledger
import FlowGraph.Run.Log
import FlowGraph.Run.LogFile
import FlowGraph.Run.Notice
import FlowGraph.Run.Result
import FlowGraph.Run.Scope
import FlowGraph.Run.Standing
import FlowGraph.Run.State
import FlowGraph.Run.Turn
import FlowGraph.Run.Walk
import FlowGraph.Script.Assignment
import FlowGraph.Script.Call
import FlowGraph.Script.Evaluation
import FlowGraph.Script.Exchange
import FlowGraph.Script.Expr
import FlowGraph.Script.Fault
import FlowGraph.Script.Library
import FlowGraph.Script.Machine
import FlowGraph.Script.Mistake
import FlowGraph.Script.Numeral
import FlowGraph.Script.Operand
import FlowGraph.Script.Operator
import FlowGraph.Script.Place
import FlowGraph.Script.Reader
import FlowGraph.Script.Run
import FlowGraph.Script.Scan
import FlowGraph.Script.Statement
import FlowGraph.Script.Text
import FlowGraph.Script.Token
import FlowGraph.Script.Value
import FlowGraph.Settings
import FlowGraph.Step.Basic
import FlowGraph.Step.Binding
import FlowGraph.Step.EachFile
import FlowGraph.Step.Plain
import FlowGraph.Step.RunCommand
import FlowGraph.Step.Script
import FlowGraph.StepRef
import FlowGraph.StepResult
import FlowGraph.Task
import FlowGraph.Text.Ascii
import FlowGraph.Text.Blank
import FlowGraph.Text.CaseFold
import FlowGraph.Text.Category
import FlowGraph.Text.CharTable
import FlowGraph.Text.LetterCase
import FlowGraph.Text.Quoted
import FlowGraph.Text.Search
import FlowGraph.Text.Unprintable
import FlowGraph.Text.Utf8
import FlowGraph.Text.Word
import FlowGraph.Uuid
import FlowGraph.Variables
import FlowGraph.Worker
import FlowGraph.Proofs.Account
import FlowGraph.Proofs.Acyclic
import FlowGraph.Proofs.Alike
import FlowGraph.Proofs.Arguments
import FlowGraph.Proofs.Barring
import FlowGraph.Proofs.Blame
import FlowGraph.Proofs.Brackets
import FlowGraph.Proofs.ByteOrder
import FlowGraph.Proofs.Calls
import FlowGraph.Proofs.CanceledStart
import FlowGraph.Proofs.Cancellation
import FlowGraph.Proofs.CaseVariants
import FlowGraph.Proofs.Ceiling
import FlowGraph.Proofs.Connecting
import FlowGraph.Proofs.Decoding
import FlowGraph.Proofs.Designations
import FlowGraph.Proofs.Drafts
import FlowGraph.Proofs.Ends
import FlowGraph.Proofs.Expressions
import FlowGraph.Proofs.FailureFlow
import FlowGraph.Proofs.FileFacts
import FlowGraph.Proofs.FileNames
import FlowGraph.Proofs.FileWriting
import FlowGraph.Proofs.FolderFiles
import FlowGraph.Proofs.InnerPaths
import FlowGraph.Proofs.Isolation
import FlowGraph.Proofs.Iterating
import FlowGraph.Proofs.Journals
import FlowGraph.Proofs.Limits
import FlowGraph.Proofs.Lockstep
import FlowGraph.Proofs.Lookup
import FlowGraph.Proofs.NumberedExits
import FlowGraph.Proofs.Numerals
import FlowGraph.Proofs.Overrides
import FlowGraph.Proofs.PatternTexts
import FlowGraph.Proofs.Placeholders
import FlowGraph.Proofs.Problems
import FlowGraph.Proofs.Progress
import FlowGraph.Proofs.PublishedNames
import FlowGraph.Proofs.Reach
import FlowGraph.Proofs.Rearrangement
import FlowGraph.Proofs.Records
import FlowGraph.Proofs.References
import FlowGraph.Proofs.Registrations
import FlowGraph.Proofs.Replay
import FlowGraph.Proofs.Reports
import FlowGraph.Proofs.Rules
import FlowGraph.Proofs.Scoping
import FlowGraph.Proofs.ScriptEffects
import FlowGraph.Proofs.Spellings
import FlowGraph.Proofs.Stopping
import FlowGraph.Proofs.StoredFlows
import FlowGraph.Proofs.StoredLogs
import FlowGraph.Proofs.Switching
import FlowGraph.Proofs.Telling
import FlowGraph.Proofs.TextSettings
import FlowGraph.Proofs.Tokens
import FlowGraph.Proofs.Trail
import FlowGraph.Proofs.WellFormed
import FlowGraph.Proofs.Wildcards
import FlowGraph.Proofs.Yields
