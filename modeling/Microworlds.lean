import Microworlds.AiChat.Basic
import Microworlds.AiChat.Codec
import Microworlds.AiChat.Quality
import Microworlds.AiChat.Rules
import Microworlds.Algorithm.Basic
import Microworlds.Algorithm.Codec
import Microworlds.Algorithm.Rules
import Microworlds.Algorithm.Sort
import Microworlds.Colony.Basic
import Microworlds.Colony.Codec
import Microworlds.Colony.Rules
import Microworlds.CommandLine.Arguments
import Microworlds.CommandLine.Run
import Microworlds.Config
import Microworlds.Counter
import Microworlds.DataStructure.Basic
import Microworlds.DataStructure.Codec
import Microworlds.DataStructure.Heap
import Microworlds.DataStructure.Rules
import Microworlds.DataStructure.Tree
import Microworlds.Decimal.Binary
import Microworlds.Decimal.Layout
import Microworlds.Decimal.Read
import Microworlds.Decimal.Shortest
import Microworlds.Digest.Sha256
import Microworlds.Effect
import Microworlds.Failure
import Microworlds.Formula.Parser
import Microworlds.Formula.Token
import Microworlds.Formula.Tree
import Microworlds.Game.Basic
import Microworlds.Game.Codec
import Microworlds.Game.Rules
import Microworlds.Handler
import Microworlds.Hash.Basic
import Microworlds.Hash.Codec
import Microworlds.Hash.Rules
import Microworlds.Json.Coded
import Microworlds.Json.Printer
import Microworlds.Json.Reader
import Microworlds.Json.Value
import Microworlds.Language
import Microworlds.Lesson
import Microworlds.LineResult
import Microworlds.Literal
import Microworlds.Main
import Microworlds.Math.Basic
import Microworlds.Math.Codec
import Microworlds.Math.Rules
import Microworlds.Physics.Basic
import Microworlds.Physics.Codec
import Microworlds.Physics.Rules
import Microworlds.Programming.Basic
import Microworlds.Programming.Codec
import Microworlds.Programming.Rules
import Microworlds.Progress.Catalog
import Microworlds.Progress.File
import Microworlds.Progress.Record
import Microworlds.Progress.Tracker
import Microworlds.Proofs.Atomicity
import Microworlds.Proofs.Board
import Microworlds.Proofs.Calls
import Microworlds.Proofs.Codec.Laws
import Microworlds.Proofs.Codec.Shape
import Microworlds.Proofs.Codec.States
import Microworlds.Proofs.Codec.Survival
import Microworlds.Proofs.Codec.Tolerance
import Microworlds.Proofs.Composition
import Microworlds.Proofs.Counter
import Microworlds.Proofs.Decimal.Magnitude
import Microworlds.Proofs.Decimal.Quotient
import Microworlds.Proofs.Formula.Grammar
import Microworlds.Proofs.Formula.Parsing
import Microworlds.Proofs.Formula.Nesting
import Microworlds.Proofs.Formula.Substitution
import Microworlds.Proofs.Handler
import Microworlds.Proofs.History
import Microworlds.Proofs.Host.Exchange
import Microworlds.Proofs.Host.Transport
import Microworlds.Proofs.Invariant
import Microworlds.Proofs.Reached
import Microworlds.Proofs.Statement.Apart
import Microworlds.Proofs.Statement.Disjoint
import Microworlds.Proofs.Statement.Forms
import Microworlds.Proofs.Statement.Literals
import Microworlds.Proofs.Statement.Order
import Microworlds.Proofs.Statement.Rendering
import Microworlds.Proofs.Statement.Slots
import Microworlds.Proofs.Stock
import Microworlds.Proofs.Text
import Microworlds.Proofs.Timing
import Microworlds.Random.ChaCha
import Microworlds.Replay
import Microworlds.Request
import Microworlds.Scenario
import Microworlds.Session
import Microworlds.State
import Microworlds.Statement.Form
import Microworlds.Statement.Slot
import Microworlds.Statement.Vocabulary
import Microworlds.Stock
import Microworlds.Strategy.Basic
import Microworlds.Strategy.Codec
import Microworlds.Strategy.Rules
import Microworlds.Table
import Microworlds.Text.Cased
import Microworlds.Text.Class
import Microworlds.Text.Invisible
import Microworlds.Text.Lines
import Microworlds.Text.Lowercase
import Microworlds.Time.Instant
import Microworlds.Transcript
import Microworlds.Word
import Microworlds.Proofs.Strategy.Ledger
import Microworlds.Proofs.Colony.Change
import Microworlds.Proofs.Colony.Worth
import Microworlds.Proofs.Colony.Settlement
import Microworlds.Proofs.Game.Coins
import Microworlds.Proofs.DataStructure.Insertion
import Microworlds.Proofs.DataStructure.Discipline
import Microworlds.Proofs.DataStructure.SearchTree
import Microworlds.Proofs.DataStructure.HeapOrder
import Microworlds.Proofs.Hash.Remainder
import Microworlds.Proofs.Hash.Walkthrough
import Microworlds.Proofs.Hash.RunningSums
import Microworlds.Proofs.Progress.Account
import Microworlds.Proofs.AiChat.Analysis
import Microworlds.Proofs.Progress.Retry
import Microworlds.Proofs.Progress.File
import Microworlds.Proofs.Careful.Run
import Microworlds.Proofs.Algorithm.Sorting
import Microworlds.Proofs.Algorithm.Trace
import Microworlds.Proofs.Algorithm.Inversions
import Microworlds.Proofs.Replay
import Microworlds.Proofs.AiChat.Conversation
import Microworlds.Proofs.Codec.Results
import Microworlds.Proofs.Pauses
import Microworlds.Proofs.Statement.Quoting
import Microworlds.Proofs.Progress.Limits
import Microworlds.Proofs.Decimal.Bits
import Microworlds.Proofs.Decimal.Rounded
import Microworlds.Proofs.Decimal.Whole
import Microworlds.Proofs.Decimal.Search
import Microworlds.Proofs.Decimal.Roundest
import Microworlds.Proofs.Positions
import Microworlds.Proofs.Overflow
import Microworlds.Proofs.Physics.Simulation
import Microworlds.Proofs.Lines
import Microworlds.Proofs.Lessons
import Microworlds.Proofs.AiChat.Marks
import Microworlds.Proofs.Math.PlotRange
import Microworlds.Proofs.Decimal.Infinite
import Microworlds.Proofs.Statement.Numerals
import Microworlds.Proofs.Statement.Integers
import Microworlds.Proofs.Statement.Coercion
import Microworlds.Proofs.Formula.Lexemes
import Microworlds.Proofs.Formula.Descent
import Microworlds.Proofs.Formula.Agreement
