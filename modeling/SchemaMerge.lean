import SchemaMerge.CommandLine.Arguments
import SchemaMerge.CommandLine.Fault
import SchemaMerge.CommandLine.Options
import SchemaMerge.CommandLine.Report
import SchemaMerge.CommandLine.Run
import SchemaMerge.Draft.Basic
import SchemaMerge.Draft.Fit
import SchemaMerge.Draft.Form
import SchemaMerge.Failure
import SchemaMerge.Json.Basic
import SchemaMerge.Json.Canonical
import SchemaMerge.Json.Decimal
import SchemaMerge.Json.Display
import SchemaMerge.Json.Double
import SchemaMerge.Json.Reader
import SchemaMerge.Json.Writer
import SchemaMerge.Main
import SchemaMerge.OpenApi.Grammar
import SchemaMerge.OpenApi.Merge
import SchemaMerge.OpenApi.Notice
import SchemaMerge.OpenApi.Traversal
import SchemaMerge.Pattern.Basic
import SchemaMerge.Pattern.Branches
import SchemaMerge.Pattern.Cursor
import SchemaMerge.Pattern.Fault
import SchemaMerge.Pattern.Matcher
import SchemaMerge.Pattern.Parser
import SchemaMerge.Schema.Alternatives
import SchemaMerge.Schema.Basic
import SchemaMerge.Schema.Bounds
import SchemaMerge.Schema.Check
import SchemaMerge.Schema.Keyword
import SchemaMerge.Schema.Meet
import SchemaMerge.Schema.Multiple
import SchemaMerge.Schema.Properties
import SchemaMerge.Text.Blank
import SchemaMerge.Text.Case
import SchemaMerge.Text.Hexadecimal
import SchemaMerge.Text.Identifier
import SchemaMerge.Text.Letter
import SchemaMerge.Text.Name.Alias
import SchemaMerge.Text.Name.Composed
import SchemaMerge.Text.Name.From0020
import SchemaMerge.Text.Name.From0CAA
import SchemaMerge.Text.Name.From10CC0
import SchemaMerge.Text.Name.From16AF0
import SchemaMerge.Text.Name.From1D00
import SchemaMerge.Text.Name.From1D7CE
import SchemaMerge.Text.Name.From1F6F0
import SchemaMerge.Text.Name.From2460
import SchemaMerge.Text.Name.From2B97
import SchemaMerge.Text.Name.FromAB11
import SchemaMerge.Text.Name.Lookup
import SchemaMerge.Text.Name.Run
import SchemaMerge.Text.Printable
import SchemaMerge.Text.Quoted
import SchemaMerge.Text.Ranges
import SchemaMerge.Proofs.Json.Equality
import SchemaMerge.Proofs.Validity.Basic
import SchemaMerge.Proofs.Validity.WellFormed
import SchemaMerge.Proofs.Validity.Congruence
import SchemaMerge.Proofs.Keyword.Number
import SchemaMerge.Proofs.Keyword.Multiple
import SchemaMerge.Proofs.Keyword.DependentRequired
import SchemaMerge.Proofs.Validity.Argument
import SchemaMerge.Proofs.Keyword.Rule
import SchemaMerge.Proofs.Meet.Alternatives
import SchemaMerge.Proofs.Meet.Entries
import SchemaMerge.Proofs.Meet.Properties
import SchemaMerge.Proofs.Meet.Keywords
import SchemaMerge.Proofs.Meet.Space
import SchemaMerge.Proofs.Meet.Objects
import SchemaMerge.Proofs.Meet.Merged
import SchemaMerge.Proofs.Meet.Exact
import SchemaMerge.Proofs.Transform.Visited
import SchemaMerge.Proofs.Transform.Rewritten
import SchemaMerge.Proofs.Transform.Preserved
import SchemaMerge.Proofs.Transform.Merging
import SchemaMerge.Proofs.Transform.Position
import SchemaMerge.Proofs.Meet.Lasting
import SchemaMerge.Proofs.Companion.Joined
import SchemaMerge.Proofs.Companion.Needed
import SchemaMerge.Proofs.Meet.Restricted
import SchemaMerge.Proofs.Companion.Gathered
import SchemaMerge.Proofs.Companion.Exact
import SchemaMerge.Proofs.Meet.Kept
import SchemaMerge.Proofs.Failing.Source
import SchemaMerge.Proofs.Failing.Keyword
import SchemaMerge.Proofs.Failing.Empty
import SchemaMerge.Proofs.Json.Rounding
import SchemaMerge.Proofs.Json.Shortest
import SchemaMerge.Proofs.Keyword.Fraction
import SchemaMerge.Proofs.Proper.Basic
import SchemaMerge.Proofs.Proper.Keyword
import SchemaMerge.Proofs.Proper.Meet
import SchemaMerge.Proofs.Symmetry.Keyword
import SchemaMerge.Proofs.Symmetry.Meet
import SchemaMerge.Proofs.Transform.Stable
import SchemaMerge.Proofs.Transform.Normal
import SchemaMerge.Proofs.Transform.Refined
import SchemaMerge.Proofs.Transform.Standing
import SchemaMerge.Proofs.Transform.Annotated
import SchemaMerge.Proofs.Transform.Authored
import SchemaMerge.Proofs.Transform.Repeated
import SchemaMerge.Proofs.Json.NumberText
import SchemaMerge.Proofs.Json.Paired
import SchemaMerge.Proofs.Json.RoundTrip
import SchemaMerge.Proofs.Json.Agreement
import SchemaMerge.Proofs.Json.NormalForm
import SchemaMerge.Proofs.Meet.Crossing
import SchemaMerge.Proofs.Json.Parsed
import SchemaMerge.Proofs.Meet.Unrepeated
import SchemaMerge.Proofs.Transform.Stepped
import SchemaMerge.Proofs.Transform.Unrepeated
import SchemaMerge.Proofs.CommandLine.Run
import SchemaMerge.Proofs.Pattern.Follows
import SchemaMerge.Proofs.Pattern.Branches
import SchemaMerge.Proofs.Pattern.Groupless
import SchemaMerge.Proofs.Pattern.Escapes
import SchemaMerge.Proofs.Pattern.Items
import SchemaMerge.Proofs.Pattern.Enclosed
import SchemaMerge.Proofs.Pattern.Choice
import SchemaMerge.Proofs.Pattern.Spliced
import SchemaMerge.Proofs.Pattern.Search
import SchemaMerge.Proofs.Keyword.Pattern
import SchemaMerge.Proofs.Depth.Deeper
import SchemaMerge.Proofs.Depth.Nesting
import SchemaMerge.Proofs.Keyword.LeastMultiple
import SchemaMerge.Proofs.Meet.Bounds
import SchemaMerge.Proofs.Meet.Named
import SchemaMerge.Proofs.Meet.Covered
import SchemaMerge.Proofs.Meet.Spared
import SchemaMerge.Proofs.Meet.Counted
import SchemaMerge.Proofs.Keyword.Common
import SchemaMerge.Proofs.Json.Union
import SchemaMerge.Proofs.Meet.Grouped
import SchemaMerge.Proofs.Json.Digits
import SchemaMerge.Proofs.Keyword.Rounded
