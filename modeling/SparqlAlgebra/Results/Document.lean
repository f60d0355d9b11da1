import SparqlAlgebra.Results.Json
import SparqlAlgebra.Results.Separated
import SparqlAlgebra.Results.Xml

/-!
# Results documents

The answer to a query as a text in one of four formats.
-/

namespace SparqlAlgebra

/-- The formats of results. -/
inductive ResultsFormat where
  | json
  | xml
  | commaSeparated
  | tabSeparated
  deriving DecidableEq, Inhabited

namespace ResultsFormat

/-- The document of a truth value. -/
def boolean : ResultsFormat → Bool → String
  | .json, b => JsonResults.boolean b
  | .xml, b => XmlResults.boolean b
  | .commaSeparated, b => if b then "true" else "false"
  | .tabSeparated, b => if b then "true" else "false"

/-- The document of a table. -/
def table : ResultsFormat → ResultTable → String
  | .json => JsonResults.table
  | .xml => XmlResults.table
  | .commaSeparated => CommaSeparated.table
  | .tabSeparated => TabSeparated.table

end ResultsFormat

/-- The document that shows an answer. -/
def QueryResult.write (format : ResultsFormat) : QueryResult → String
  | .boolean b => format.boolean b
  | .solutions vs rows => format.table ⟨vs, rows⟩
  | .graph ts => format.table (.ofTriples ts)

end SparqlAlgebra
