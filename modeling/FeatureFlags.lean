import FeatureFlags.Attribute.Basic
import FeatureFlags.Attribute.Text
import FeatureFlags.Cache.Basic
import FeatureFlags.Cache.Provider
import FeatureFlags.Cache.Settings
import FeatureFlags.Client
import FeatureFlags.Context
import FeatureFlags.Context.Merge
import FeatureFlags.Date.Calendar
import FeatureFlags.Date.Header
import FeatureFlags.Digest.Md5
import FeatureFlags.Double.Basic
import FeatureFlags.Double.Rounding
import FeatureFlags.Double.Shortest
import FeatureFlags.Double.Text
import FeatureFlags.EvaluationError
import FeatureFlags.Fault
import FeatureFlags.Flag
import FeatureFlags.Hook.Context
import FeatureFlags.Hook.Lifecycle
import FeatureFlags.Hook.Validator
import FeatureFlags.Isolation.Isolator
import FeatureFlags.Json.Basic
import FeatureFlags.Json.Document
import FeatureFlags.Json.Printer
import FeatureFlags.Json.Reading
import FeatureFlags.Memory.Flag
import FeatureFlags.Memory.Provider
import FeatureFlags.Multi.Names
import FeatureFlags.Multi.Provider
import FeatureFlags.Multi.Strategy
import FeatureFlags.Proofs.Assembly.Basic
import FeatureFlags.Proofs.Assembly.Fanout
import FeatureFlags.Proofs.Assembly.Gate
import FeatureFlags.Proofs.Cache.Capacity
import FeatureFlags.Proofs.Cache.Consistency
import FeatureFlags.Proofs.Cache.Contents
import FeatureFlags.Proofs.Cache.Keys
import FeatureFlags.Proofs.Cache.Memory
import FeatureFlags.Proofs.Cache.Ranking
import FeatureFlags.Proofs.Cache.Recall
import FeatureFlags.Proofs.Cache.Recency
import FeatureFlags.Proofs.Cache.Variables
import FeatureFlags.Proofs.Calls
import FeatureFlags.Proofs.Client
import FeatureFlags.Proofs.Composition
import FeatureFlags.Proofs.Context.Carried
import FeatureFlags.Proofs.Context.Flat
import FeatureFlags.Proofs.Context.Grouping
import FeatureFlags.Proofs.Context.Inverse
import FeatureFlags.Proofs.Context.Merging
import FeatureFlags.Proofs.Context.Texts
import FeatureFlags.Proofs.Double.Rounding
import FeatureFlags.Proofs.Double.Shortest
import FeatureFlags.Proofs.Double.Value
import FeatureFlags.Proofs.Failures
import FeatureFlags.Proofs.Histories
import FeatureFlags.Proofs.Isolation.Alike
import FeatureFlags.Proofs.Isolation.Captures
import FeatureFlags.Proofs.Isolation.Operations
import FeatureFlags.Proofs.Isolation.Transparency
import FeatureFlags.Proofs.Json.Agreement
import FeatureFlags.Proofs.Json.Levels
import FeatureFlags.Proofs.Json.Numerals
import FeatureFlags.Proofs.Json.Printed
import FeatureFlags.Proofs.Json.Records
import FeatureFlags.Proofs.Lifecycle.Course
import FeatureFlags.Proofs.Lifecycle.Passed
import FeatureFlags.Proofs.Lifecycle.Seen
import FeatureFlags.Proofs.Multi.Agreement
import FeatureFlags.Proofs.Multi.Chosen
import FeatureFlags.Proofs.Multi.Disagreement
import FeatureFlags.Proofs.Multi.Isolation
import FeatureFlags.Proofs.Multi.Names
import FeatureFlags.Proofs.Multi.Sequence
import FeatureFlags.Proofs.Multi.Turns
import FeatureFlags.Proofs.Multi.Verdicts
import FeatureFlags.Proofs.Nesting
import FeatureFlags.Proofs.Regex.Drafts
import FeatureFlags.Proofs.Regex.Hexadecimal
import FeatureFlags.Proofs.Regex.Matches
import FeatureFlags.Proofs.Regex.Search
import FeatureFlags.Proofs.Remote.Addresses
import FeatureFlags.Proofs.Remote.BackOff
import FeatureFlags.Proofs.Remote.Bodies
import FeatureFlags.Proofs.Remote.Contract
import FeatureFlags.Proofs.Remote.Exchange
import FeatureFlags.Proofs.Remote.Key
import FeatureFlags.Proofs.Remote.Loop
import FeatureFlags.Proofs.Remote.NormalForm
import FeatureFlags.Proofs.Remote.Seconds
import FeatureFlags.Proofs.Remote.Stages
import FeatureFlags.Proofs.Runs
import FeatureFlags.Proofs.Settings.Pairs
import FeatureFlags.Proofs.Table.Listing
import FeatureFlags.Proofs.Targeting.Numbers
import FeatureFlags.Proofs.Targeting.Selection
import FeatureFlags.Proofs.Text.Pieces
import FeatureFlags.Proofs.Text.Symbols
import FeatureFlags.Proofs.Url.Decoded
import FeatureFlags.Proofs.Url.Extended
import FeatureFlags.Proofs.Url.Written
import FeatureFlags.Proofs.Validation
import FeatureFlags.Provider.Basic
import FeatureFlags.Provider.Status
import FeatureFlags.Regex.Basic
import FeatureFlags.Regex.Bracket
import FeatureFlags.Regex.Build
import FeatureFlags.Regex.Cursor
import FeatureFlags.Regex.Escape
import FeatureFlags.Regex.Lead
import FeatureFlags.Regex.Machine
import FeatureFlags.Regex.Property
import FeatureFlags.Regex.Reader
import FeatureFlags.Regex.Size.Basic
import FeatureFlags.Regex.Size.ByteRun
import FeatureFlags.Regex.Size.Room
import FeatureFlags.Regex.Size.SetStates
import FeatureFlags.Regex.Size.Slots
import FeatureFlags.Regex.Size.TextTrie
import FeatureFlags.Regex.Texts
import FeatureFlags.Remote.Handler
import FeatureFlags.Remote.Provider
import FeatureFlags.Remote.Settings
import FeatureFlags.Remote.Wire
import FeatureFlags.Resolution
import FeatureFlags.Scripted.Hook
import FeatureFlags.Scripted.Provider
import FeatureFlags.Scripted.Transport
import FeatureFlags.Settings.Lookup
import FeatureFlags.Settings.SetupError
import FeatureFlags.Store.Basic
import FeatureFlags.Store.Journal
import FeatureFlags.Table
import FeatureFlags.Table.Lookup
import FeatureFlags.Text.Alphabetic
import FeatureFlags.Text.Break.Grapheme
import FeatureFlags.Text.Break.Sentence
import FeatureFlags.Text.Break.Word
import FeatureFlags.Text.CaseFolding
import FeatureFlags.Text.Category.Basic
import FeatureFlags.Text.Category.Invisible
import FeatureFlags.Text.Category.Letter
import FeatureFlags.Text.Category.Mark
import FeatureFlags.Text.Category.Number
import FeatureFlags.Text.Category.Punctuation
import FeatureFlags.Text.Category.Symbol
import FeatureFlags.Text.CharSet
import FeatureFlags.Text.Composition
import FeatureFlags.Text.Edition
import FeatureFlags.Text.Emoji
import FeatureFlags.Text.Hexadecimal
import FeatureFlags.Text.Identifier
import FeatureFlags.Text.Ideograph
import FeatureFlags.Text.LetterCase
import FeatureFlags.Text.Pieces
import FeatureFlags.Text.Quoted
import FeatureFlags.Text.Recent
import FeatureFlags.Text.Script.Basic
import FeatureFlags.Text.Script.Extension
import FeatureFlags.Text.Sign
import FeatureFlags.Text.Symbols
import FeatureFlags.Text.Unsigned
import FeatureFlags.Url.Address
import FeatureFlags.Url.Basic
import FeatureFlags.Url.Domain
import FeatureFlags.Url.Domain.Direction
import FeatureFlags.Url.Domain.Equivalent
import FeatureFlags.Url.Domain.Joining
import FeatureFlags.Url.Domain.Punycode
import FeatureFlags.Url.PercentEncoding
import FeatureFlags.Url.Reader
import FeatureFlags.Url.Segments
import FeatureFlags.Variables.Definition
import FeatureFlags.Variables.Provider
