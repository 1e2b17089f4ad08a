import SearchFilter.Filter.Predicate

/-!
Search queries. A query that matches everything is no query at all, so it can only be the whole
document; negation stands only in front of a single test.
-/

namespace SearchFilter

inductive FieldQuery where
  | term (field : String) (value : Scalar)
  | analyzed (field : String) (value : Scalar)
  | terms (field : String) (values : List Scalar)
  | exists (field : String)
  | range (field : String) (bounds : List Bound)
  | startsWith (field : String) (text : String)
  | wildcard (field : String) (pattern : String) (ignoreCase : Bool)
  | queryString (field : String) (query : String)
deriving DecidableEq

inductive Query where
  | test (test : FieldQuery)
  | except (test : FieldQuery)
  | all (parts : List Query)
  | any (parts : List Query)
deriving Inhabited

/-- Setting a bound of a range; a bound of the same comparison is replaced. -/
def Bound.set (bound : Bound) : List Bound → List Bound
  | [] => [bound]
  | other :: rest =>
    if other.comparison = bound.comparison then bound :: rest else other :: bound.set rest

namespace FieldQuery

def about (kind field : String) (body : Json) : Json :=
  .object [(kind, .object [(field, body)])]

def toJson : FieldQuery → Json
  | term field value => about "term" field value.toJson
  | analyzed field value => about "match" field value.toJson
  | terms field values => about "terms" field (.list (values.map Scalar.toJson))
  | .exists field => .object [("exists", .object [("field", .text field)])]
  | range field bounds =>
    about "range" field (Json.object (bounds.map fun bound =>
      (bound.comparison.key, bound.value.toJson))).canonical
  | startsWith field text => about "prefix" field (.text text)
  | wildcard field pattern ignoreCase =>
    about "wildcard" field
      (.object [("case_insensitive", .bool ignoreCase), ("value", .text pattern)])
  | queryString field query =>
    .object [("query_string",
      .object [("default_field", .text field), ("query", .text query)])]

end FieldQuery

namespace Query

mutual

def toJson : Query → Json
  | test query => query.toJson
  | except query => .object [("bool", .object [("must_not", .list [query.toJson])])]
  | all parts => .object [("bool", .object [("must", .list (toJsonAll parts))])]
  | any parts =>
    .object [("bool", .object [("minimum_should_match", Json.nat 1),
      ("should", .list (toJsonAll parts))])]

def toJsonAll : List Query → List Json
  | [] => []
  | part :: parts => part.toJson :: toJsonAll parts

end

theorem toJsonAll_eq_map (parts : List Query) : toJsonAll parts = parts.map toJson := by
  induction parts with
  | nil => rfl
  | cons part parts ih => rw [toJsonAll, ih, List.map_cons]

/-- What a query contributes to a combination: its parts when it combines in the same way,
otherwise itself. -/
def spliced (connector : Connector) (query : Query) : List Query :=
  match connector, query with
  | .and, all parts => parts
  | .or, any parts => parts
  | _, other => [other]

def gather? (connector : Connector) (queries : List Query) : Option Query :=
  match queries.flatMap (spliced connector) with
  | [] => none
  | [only] => some only
  | parts => some (match connector with
    | .and => all parts
    | .or => any parts)

def document (query : Option Query) : Json :=
  match query with
  | some query => query.toJson
  | none => .object [("match_all", .object [])]

def searchDocument (query : Option Query) : Json := .object [("query", document query)]

end Query

end SearchFilter
