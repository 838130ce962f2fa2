import EntityGraph.Query.Basic

/-!
# Queries as they are shown for diagnosis

A query with all its parts on one line: names of parts, texts in quotes, and lists in brackets. An
owner is shown by its discriminator and type only.
-/

namespace EntityGraph

open Sql (Filter OrderBy Scope)
open Text (quoted shownList shownOption shownParts)

def Sql.Filter.diagnostic : Filter → String
  | .compare field op value =>
    shownParts "Comparison"
      [("field", quoted field), ("op", op.diagnostic), ("value", value.diagnostic)]
  | .isNull field => shownParts "IsNull" [("field", quoted field)]
  | .isNotNull field => shownParts "IsNotNull" [("field", quoted field)]
  | .inList field values =>
    shownParts "InList"
      [("field", quoted field), ("values", shownList (values.map Sql.Value.diagnostic))]
  | .notInList field values =>
    shownParts "NotInList"
      [("field", quoted field), ("values", shownList (values.map Sql.Value.diagnostic))]
  | .like field pattern =>
    shownParts "Like" [("field", quoted field), ("pattern", quoted pattern)]
  | .between field low high =>
    shownParts "Between"
      [("field", quoted field), ("low", low.diagnostic), ("high", high.diagnostic)]
  | .and left right => "And(" ++ left.diagnostic ++ ", " ++ right.diagnostic ++ ")"
  | .or left right => "Or(" ++ left.diagnostic ++ ", " ++ right.diagnostic ++ ")"
  | .not inner => "Not(" ++ inner.diagnostic ++ ")"
  | .nothing => "Nothing"

def Sql.OrderBy.diagnostic (o : OrderBy) : String :=
  shownParts "OrderBy"
    [("column", quoted o.column), ("direction", if o.descending then "Desc" else "Asc")]

def Sql.Scope.diagnostic (s : Scope) : String :=
  shownParts "Scope"
    [("filters", shownList (s.filters.map Filter.diagnostic)),
      ("excludes", shownList (s.excludes.map Filter.diagnostic)),
      ("order_by", shownList (s.order.map OrderBy.diagnostic)),
      ("limit", shownOption (s.limit.map Scope.integerText)),
      ("offset", shownOption (s.offset.map Scope.integerText)),
      ("distinct", toString s.distinct)]

def Query.diagnostic (q : Query) : String :=
  shownParts "QuerySet"
    [("scope", q.scope.diagnostic),
      ("columns", shownOption (q.columns.map fun cs => shownList (cs.map quoted))),
      ("eager", q.eager.diagnostic)]

/-- An owner under a discriminator. -/
def Row.ownerDiagnostic (discriminator : String) (e : Entity) : String :=
  "Morphed \x7b discriminator: " ++ quoted discriminator ++ ", type_name: " ++ quoted e.type
    ++ ", .. \x7d"

end EntityGraph
