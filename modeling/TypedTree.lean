import TypedTree.About
import TypedTree.Build.Engine
import TypedTree.Build.Node
import TypedTree.Build.Outcome
import TypedTree.Build.Run
import TypedTree.Build.Session
import TypedTree.Build.State
import TypedTree.Data.Basic
import TypedTree.Data.Json
import TypedTree.Data.Merge
import TypedTree.Data.SetOrder
import TypedTree.Extract.Spec
import TypedTree.Extract.Value
import TypedTree.Fault.Call
import TypedTree.Fault.Code
import TypedTree.Fault.Recipe
import TypedTree.Fault.Report
import TypedTree.Grammar.Basic
import TypedTree.Grammar.Dispatch
import TypedTree.Grammar.Registry
import TypedTree.Log.Disk
import TypedTree.Log.Line
import TypedTree.Log.Record
import TypedTree.Log.Routing
import TypedTree.Log.Template
import TypedTree.Number.Binary64
import TypedTree.Number.Literal
import TypedTree.Number.Places
import TypedTree.Number.Real
import TypedTree.Number.Shortest
import TypedTree.Number.Whole
import TypedTree.Proofs.Abandoned
import TypedTree.Proofs.Account
import TypedTree.Proofs.Annotations
import TypedTree.Proofs.Caches
import TypedTree.Proofs.Conformance
import TypedTree.Proofs.Deliveries
import TypedTree.Proofs.Demands
import TypedTree.Proofs.Destinations
import TypedTree.Proofs.Dispatch
import TypedTree.Proofs.EncodingNames
import TypedTree.Proofs.EntryPoints
import TypedTree.Proofs.Faults
import TypedTree.Proofs.FieldNames
import TypedTree.Proofs.FileSettings
import TypedTree.Proofs.Flattening
import TypedTree.Proofs.Grouping
import TypedTree.Proofs.Inheritance
import TypedTree.Proofs.Journey
import TypedTree.Proofs.Keys
import TypedTree.Proofs.Layers
import TypedTree.Proofs.Lenience
import TypedTree.Proofs.LoadFaults
import TypedTree.Proofs.Loading
import TypedTree.Proofs.LogCalls
import TypedTree.Proofs.Malformed
import TypedTree.Proofs.Merging
import TypedTree.Proofs.Nesting
import TypedTree.Proofs.Noninterference
import TypedTree.Proofs.Occurrences
import TypedTree.Proofs.OptionFaults
import TypedTree.Proofs.Origins
import TypedTree.Proofs.Outcome
import TypedTree.Proofs.Overlay
import TypedTree.Proofs.Partition
import TypedTree.Proofs.Plain
import TypedTree.Proofs.Precedence
import TypedTree.Proofs.Pruning
import TypedTree.Proofs.Ranges
import TypedTree.Proofs.Rechecking
import TypedTree.Proofs.Refinement
import TypedTree.Proofs.Refusals
import TypedTree.Proofs.Regrouping
import TypedTree.Proofs.Results
import TypedTree.Proofs.Screening
import TypedTree.Proofs.SecondCheck
import TypedTree.Proofs.Sessions
import TypedTree.Proofs.Simulation
import TypedTree.Proofs.Spelling
import TypedTree.Proofs.StablePartition
import TypedTree.Proofs.TokenNames
import TypedTree.Proofs.Unfolding
import TypedTree.Proofs.VariableFaults
import TypedTree.Proofs.Variables
import TypedTree.Proofs.Variants
import TypedTree.Proofs.Verdicts
import TypedTree.Proofs.Violations
import TypedTree.Proofs.Walk
import TypedTree.Proofs.Widening
import TypedTree.Schema.Decl
import TypedTree.Schema.Instance
import TypedTree.Schema.Layout
import TypedTree.Schema.ParameterName
import TypedTree.Schema.Plan
import TypedTree.Schema.Target
import TypedTree.Schema.Variants
import TypedTree.Settings.Check
import TypedTree.Settings.Destination
import TypedTree.Settings.Environment
import TypedTree.Settings.FileStore
import TypedTree.Settings.Files
import TypedTree.Settings.Load
import TypedTree.Settings.Model
import TypedTree.Settings.Options
import TypedTree.Settings.Verdict
import TypedTree.Text.Base64
import TypedTree.Text.Bounds
import TypedTree.Text.CodePage
import TypedTree.Text.CodePage.Basic
import TypedTree.Text.CodePage.Dos
import TypedTree.Text.CodePage.Ebcdic
import TypedTree.Text.CodePage.Iso
import TypedTree.Text.CodePage.Koi
import TypedTree.Text.CodePage.Mac
import TypedTree.Text.CodePage.Windows
import TypedTree.Text.Decode
import TypedTree.Text.Digits
import TypedTree.Text.Encoding
import TypedTree.Text.Escape
import TypedTree.Text.FileName
import TypedTree.Text.Gbk
import TypedTree.Text.Grid.Basic
import TypedTree.Text.Grid.Big5
import TypedTree.Text.Grid.Gb2312
import TypedTree.Text.Grid.Jisx0208
import TypedTree.Text.Grid.Jisx0212
import TypedTree.Text.Grid.Ksx1001
import TypedTree.Text.LowerCase
import TypedTree.Text.MultiByte
import TypedTree.Text.NameChar
import TypedTree.Text.Piece
import TypedTree.Text.Printable
import TypedTree.Text.Punycode
import TypedTree.Text.Quoted
import TypedTree.Text.Reader
import TypedTree.Text.Utf
import TypedTree.Text.Utf7
import TypedTree.Text.WordMark
import TypedTree.Tree.Buckets
import TypedTree.Tree.Cursor
import TypedTree.Tree.FieldName
import TypedTree.Tree.Handle
import TypedTree.Tree.Node
import TypedTree.Yaml.Cursor
import TypedTree.Yaml.Node
import TypedTree.Yaml.Number
import TypedTree.Yaml.Scalar
import TypedTree.Yaml.Tag
import TypedTree.Yaml.Time
import TypedTree.Yaml.Token
import TypedTree.Yaml.Value
