import TreeSelector.Unicode.Ranges
import TreeSelector.Unicode.Alphabetic
import TreeSelector.Unicode.Numeric
import TreeSelector.Unicode.WhiteSpace
import TreeSelector.Unicode.GraphemeExtend
import TreeSelector.Unicode.Unprintable
import TreeSelector.Text.Quoted
import TreeSelector.Text.Styled
import TreeSelector.Text.Padded
import TreeSelector.Json
import TreeSelector.Token
import TreeSelector.Token.Scanner
import TreeSelector.Selector
import TreeSelector.Selector.Render
import TreeSelector.Selector.Construction
import TreeSelector.Selector.Error
import TreeSelector.Selector.Reading
import TreeSelector.Selector.Parse
import TreeSelector.Selector.Json
import TreeSelector.Document
import TreeSelector.Document.Walk
import TreeSelector.Matching
import TreeSelector.Axis
import TreeSelector.Warning
import TreeSelector.Query
import TreeSelector.Query.Trace
import TreeSelector.Selection
import TreeSelector.CommandLine
import TreeSelector.Main
import TreeSelector.Proofs.Token.Emission
import TreeSelector.Proofs.Token.Spelling
import TreeSelector.Proofs.Token.Squeeze
import TreeSelector.Proofs.Token.Legal
import TreeSelector.Proofs.Token.Calls
import TreeSelector.Proofs.Token.Modes
import TreeSelector.Proofs.Selector.WellFormed
import TreeSelector.Proofs.Selector.Tokens
import TreeSelector.Proofs.Reading.Transition
import TreeSelector.Proofs.Reading.Draft
import TreeSelector.Proofs.Reading.Outcome
import TreeSelector.Proofs.Selector.RoundTrip
import TreeSelector.Proofs.Selector.Image
import TreeSelector.Proofs.Selector.JsonForms
import TreeSelector.Proofs.Grammar
import TreeSelector.Proofs.Grammar.Viability
import TreeSelector.Proofs.Reading.Normal
import TreeSelector.Proofs.Document.Growth
import TreeSelector.Proofs.Document.Linked
import TreeSelector.Proofs.Document.AnyUse
import TreeSelector.Proofs.Document.Walks
import TreeSelector.Proofs.Document.Preorder
import TreeSelector.Proofs.Document.Order
import TreeSelector.Proofs.Query.Contribution
import TreeSelector.Proofs.Query.Axes
import TreeSelector.Proofs.Query.Descent
import TreeSelector.Proofs.Query.Order
import TreeSelector.Proofs.Query.Paths
import TreeSelector.Proofs.Query.Leaf
import TreeSelector.Proofs.Reading.Seam
import TreeSelector.Proofs.Selector.Concatenation
import TreeSelector.Proofs.Selector.Linking
import TreeSelector.Proofs.Query.Containment
import TreeSelector.Proofs.Query.Steps
import TreeSelector.Proofs.Query.Links
import TreeSelector.Proofs.Query.Inverse
import TreeSelector.Proofs.Query.Search
import TreeSelector.Proofs.Query.Filtering
import TreeSelector.Proofs.Query.Exclusion
import TreeSelector.Proofs.Query.Additivity
import TreeSelector.Proofs.Query.Conditions
import TreeSelector.Proofs.Text.ByteOrder
import TreeSelector.Proofs.Warning.Registry
import TreeSelector.Proofs.Warning.Overlap
import TreeSelector.Proofs.Query.Meaning
import TreeSelector.Proofs.Query.Trace
import TreeSelector.Proofs.Token.Failure
import TreeSelector.Proofs.Token.Cursor
import TreeSelector.Proofs.Reading.Lookahead
import TreeSelector.Proofs.Reading.Agreement
import TreeSelector.Proofs.Reading.Stopping
import TreeSelector.Proofs.Reading.Stack
