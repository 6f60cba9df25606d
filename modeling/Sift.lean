import Sift.Main
import Sift.Proofs.Agreement
import Sift.Proofs.Recorded
import Sift.Proofs.Confinement
import Sift.Proofs.Error
import Sift.Proofs.Sequence.Chain
import Sift.Proofs.Sequence.Filter
import Sift.Proofs.Sequence.Pairing
import Sift.Proofs.Sequence.Deciding
import Sift.Proofs.Sequence.Staging
import Sift.Proofs.Sequence.Fates
import Sift.Proofs.Sequence.Laziness
import Sift.Proofs.Sequence.Calls
import Sift.Proofs.Sequence.Index
import Sift.Proofs.Path.Grammar
import Sift.Proofs.Path.RoundTrip
import Sift.Proofs.Path.Position
import Sift.Proofs.Number.Exact
import Sift.Proofs.Number.Words
import Sift.Proofs.Json.WellFormed
import Sift.Proofs.Json.NormalForm
import Sift.Proofs.Json.Text
import Sift.Proofs.Cursor.Simulation
import Sift.Proofs.Cursor.Resolution
import Sift.Proofs.Cursor.Lookup
import Sift.Proofs.Cursor.Elements
import Sift.Proofs.Cursor.Subtree
import Sift.Proofs.Cursor.Ancestry
import Sift.Proofs.Cursor.Composition
import Sift.Proofs.Cursor.Stored
import Sift.Proofs.Cursor.Consistency
import Sift.Proofs.Cursor.WellFormed
import Sift.Proofs.Cursor.Alignment
import Sift.Proofs.Pattern.Plain
import Sift.Proofs.Pattern.Literal
import Sift.Proofs.Pattern.Flags
import Sift.Proofs.Condition.Agreement
import Sift.Proofs.Condition.Induction
import Sift.Proofs.Condition.Reading
import Sift.Proofs.Condition.Faults
import Sift.Proofs.Condition.Grammar
import Sift.Proofs.Condition.Single
import Sift.Proofs.Condition.Nesting
import Sift.Proofs.Condition.Expectation
import Sift.Proofs.Condition.Presence
import Sift.Proofs.Condition.Positions
import Sift.Proofs.Condition.Quantifier
import Sift.Proofs.Condition.References
import Sift.Proofs.Condition.Locality
import Sift.Proofs.Condition.Inlining
import Sift.Proofs.Condition.Literals
import Sift.Proofs.Condition.Equality
import Sift.Proofs.Condition.Order
import Sift.Proofs.Condition.Containment
import Sift.Proofs.Condition.Membership
import Sift.Proofs.Condition.Duality
import Sift.Proofs.Condition.Tracing
import Sift.Proofs.Condition.Grounding
import Sift.Proofs.Condition.Origins
import Sift.Proofs.Condition.Null
import Sift.Proofs.Condition.Entries
import Sift.Proofs.Condition.Frame
import Sift.Proofs.Query.Reading
import Sift.Proofs.Query.Levels
import Sift.Proofs.Query.Selection
import Sift.Proofs.Query.Members
import Sift.Proofs.Query.Pruning
import Sift.Proofs.Query.Filtering
import Sift.Proofs.Query.Confinement
import Sift.Proofs.Query.Grounding
import Sift.Proofs.Query.Repetition
import Sift.Proofs.Query.Fusion
import Sift.Proofs.Query.Indexing
import Sift.Proofs.Query.Fields
