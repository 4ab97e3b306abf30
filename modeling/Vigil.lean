import Vigil.Analytic.Basic
import Vigil.Analytic.Document
import Vigil.Analytic.Uuid
import Vigil.Coverage
import Vigil.Decimal.Binary64
import Vigil.Decimal.Shortest
import Vigil.Event.Basic
import Vigil.Event.Description
import Vigil.Event.Json
import Vigil.Event.Value
import Vigil.Json.Basic
import Vigil.Json.Lexer
import Vigil.Json.Mismatch
import Vigil.Json.Reader
import Vigil.Library.Basic
import Vigil.Library.ServiceControlStart
import Vigil.Library.Sysmon
import Vigil.Normalizer.Basic
import Vigil.Normalizer.Description
import Vigil.Normalizer.Document
import Vigil.Normalizer.Mapping
import Vigil.Pattern.Basic
import Vigil.Pattern.Bracket
import Vigil.Pattern.CharClass
import Vigil.Pattern.Expr
import Vigil.Pattern.Machine
import Vigil.Pattern.Node
import Vigil.Pattern.Preference
import Vigil.Pattern.Program
import Vigil.Pattern.PropertyName
import Vigil.Pattern.Reach
import Vigil.Pattern.Reader
import Vigil.ProcessRecord.Basic
import Vigil.ProcessRecord.Document
import Vigil.ProcessRecord.Json
import Vigil.Proofs.Analytic.CustomFields
import Vigil.Proofs.Analytic.Reloading
import Vigil.Proofs.Analytic.Uuid
import Vigil.Proofs.Coverage.Grouping
import Vigil.Proofs.Coverage.SortedTables
import Vigil.Proofs.Decimal.Exact
import Vigil.Proofs.Event.Conversion
import Vigil.Proofs.Event.DottedNames
import Vigil.Proofs.Event.Equality
import Vigil.Proofs.Event.Fields
import Vigil.Proofs.Event.Insertion
import Vigil.Proofs.Event.Integers
import Vigil.Proofs.Event.Reading
import Vigil.Proofs.Int64
import Vigil.Proofs.Json.Endings
import Vigil.Proofs.Json.Integers
import Vigil.Proofs.Json.Members
import Vigil.Proofs.Json.Passing
import Vigil.Proofs.Json.Skipping
import Vigil.Proofs.Json.WellFormed
import Vigil.Proofs.Library.Records
import Vigil.Proofs.Library.ServiceControlStart
import Vigil.Proofs.Library.Sysmon
import Vigil.Proofs.Lookup
import Vigil.Proofs.Normalizer.Dependence
import Vigil.Proofs.Normalizer.Documents
import Vigil.Proofs.Normalizer.LastWriter
import Vigil.Proofs.Normalizer.Loading
import Vigil.Proofs.Normalizer.Mappings
import Vigil.Proofs.Normalizer.Paths
import Vigil.Proofs.Normalizer.Sameness
import Vigil.Proofs.Normalizer.Timestamps
import Vigil.Proofs.Normalizer.Validation
import Vigil.Proofs.Pattern.Between
import Vigil.Proofs.Pattern.Continuing
import Vigil.Proofs.Pattern.Enclosing
import Vigil.Proofs.Pattern.Escaping
import Vigil.Proofs.Pattern.Exploring
import Vigil.Proofs.Pattern.Literals
import Vigil.Proofs.Pattern.Matching
import Vigil.Proofs.Pattern.Mirroring
import Vigil.Proofs.Pattern.Parts
import Vigil.Proofs.Pattern.Pieces
import Vigil.Proofs.Pattern.Places
import Vigil.Proofs.Pattern.Recasing
import Vigil.Proofs.Pattern.Relocation
import Vigil.Proofs.Pattern.Standalone
import Vigil.Proofs.Pattern.Wildcard
import Vigil.Proofs.ProcessRecord.Attributes
import Vigil.Proofs.ProcessRecord.Lenience
import Vigil.Proofs.ProcessRecord.Reading
import Vigil.Proofs.Query.Affixes
import Vigil.Proofs.Query.Alternatives
import Vigil.Proofs.Query.Blanks
import Vigil.Proofs.Query.Comparisons
import Vigil.Proofs.Query.Dependence
import Vigil.Proofs.Query.ErrorOffsets
import Vigil.Proofs.Query.Fields
import Vigil.Proofs.Query.Grammar
import Vigil.Proofs.Query.Heads
import Vigil.Proofs.Query.Identifiers
import Vigil.Proofs.Query.Indistinguishable
import Vigil.Proofs.Query.Integers
import Vigil.Proofs.Query.Leaves
import Vigil.Proofs.Query.Literals
import Vigil.Proofs.Query.Reading
import Vigil.Proofs.Query.Recasing
import Vigil.Proofs.Query.Rendering
import Vigil.Proofs.Query.Rereading
import Vigil.Proofs.Query.Satisfaction
import Vigil.Proofs.Query.Spelling
import Vigil.Proofs.Query.Tests
import Vigil.Proofs.Query.TextLiterals
import Vigil.Proofs.Query.Thinning
import Vigil.Proofs.Query.Trees
import Vigil.Proofs.Results
import Vigil.Proofs.Text.Blanks
import Vigil.Proofs.Text.Casing
import Vigil.Proofs.Text.Digits
import Vigil.Proofs.Text.Folding
import Vigil.Proofs.Text.Recasing
import Vigil.Proofs.Text.Tables
import Vigil.Proofs.Timestamp.Days
import Vigil.Proofs.Timestamp.Moments
import Vigil.Proofs.Timestamp.Ticks
import Vigil.Proofs.Yaml.Fields
import Vigil.Proofs.Yaml.Holding
import Vigil.Proofs.Yaml.Numbers
import Vigil.Proofs.Yaml.Writing
import Vigil.Query.Basic
import Vigil.Query.Condition
import Vigil.Query.Error
import Vigil.Query.Lexer
import Vigil.Query.Parser
import Vigil.Query.Test
import Vigil.Query.Token
import Vigil.Text.Casing
import Vigil.Text.Character
import Vigil.Text.Digits
import Vigil.Text.Quoted
import Vigil.Timestamp.Calendar
import Vigil.Timestamp.Format
import Vigil.Timestamp.Reader
import Vigil.Timestamp.Readings
import Vigil.Timestamp.Resolution
import Vigil.Timestamp.Ticks
import Vigil.Unicode.Age
import Vigil.Unicode.Alphabetic
import Vigil.Unicode.Cased
import Vigil.Unicode.Category
import Vigil.Unicode.DecimalDigit
import Vigil.Unicode.Folding
import Vigil.Unicode.GraphemeExtend
import Vigil.Unicode.Lowercase
import Vigil.Unicode.Numeric
import Vigil.Unicode.Property
import Vigil.Unicode.Ranges
import Vigil.Unicode.Script
import Vigil.Unicode.WordCharacter
import Vigil.Yaml.Atom
import Vigil.Yaml.Basic
import Vigil.Yaml.Cursor
import Vigil.Yaml.Datum
import Vigil.Yaml.Lexer
import Vigil.Yaml.Node
import Vigil.Yaml.Reader
import Vigil.Yaml.Scalar
import Vigil.Yaml.Tag
import Vigil.Yaml.Token
