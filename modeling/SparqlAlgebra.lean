import SparqlAlgebra.Proofs.Aggregate.Extremes
import SparqlAlgebra.Proofs.Aggregate.IntegerSum
import SparqlAlgebra.Proofs.Aggregate.Joined
import SparqlAlgebra.Proofs.Expression.Connectives
import SparqlAlgebra.Proofs.Expression.Meaning
import SparqlAlgebra.Proofs.Join.Components
import SparqlAlgebra.Proofs.Path.Closure
import SparqlAlgebra.Proofs.Plan.AggregatedValue
import SparqlAlgebra.Proofs.Plan.Conjunction
import SparqlAlgebra.Proofs.Plan.Distinct
import SparqlAlgebra.Proofs.Plan.Failures
import SparqlAlgebra.Proofs.Plan.InScope
import SparqlAlgebra.Proofs.Plan.Inequality
import SparqlAlgebra.Proofs.Plan.NestedFilter
import SparqlAlgebra.Proofs.Plan.Optional
import SparqlAlgebra.Proofs.Plan.PathRows
import SparqlAlgebra.Proofs.Plan.PredicatePath
import SparqlAlgebra.Proofs.Plan.SearchFilter
import SparqlAlgebra.Proofs.Plan.SearchResults
import SparqlAlgebra.Proofs.Plan.SortedByValue
import SparqlAlgebra.Proofs.Query.Choice
import SparqlAlgebra.Proofs.Query.Construct
import SparqlAlgebra.Proofs.Query.Describe
import SparqlAlgebra.Proofs.Session.Found
import SparqlAlgebra.Proofs.Session.Requests
import SparqlAlgebra.Proofs.Stage.Pipeline
import SparqlAlgebra.Proofs.Storage.Ranked
import SparqlAlgebra.Proofs.Storage.Union
import SparqlAlgebra.Proofs.Text.Escapes
import SparqlAlgebra.Proofs.Text.Occurrences
import SparqlAlgebra.Proofs.Text.Windows
import SparqlAlgebra.Proofs.Update.Failing
import SparqlAlgebra.Proofs.Update.Replace
import SparqlAlgebra.Proofs.Update.Transfer
import SparqlAlgebra.Proofs.Value.Extends
import SparqlAlgebra.Results.Document
