import Mathlib.Data.List.Basic
import SearchFilter.Filter.Compile

/-!
Documents of queries, told apart by their keys alone. A document that combines others in the same
way is opened up when it becomes a part. Assembling documents directly gives the documents of
queries, because neither the test of a field nor its negation has the keys of a combination.
-/

namespace SearchFilter

namespace Document

def matchAll : Json := .object [("match_all", .object [])]

def isMatchAll : Json → Bool
  | .object [(key, .object [])] => key == "match_all"
  | _ => false

def isOne : Json → Bool
  | .number (.integer value _) => value == 1
  | _ => false

def fields? : Json → Option (List (String × Json))
  | .object fields => some fields
  | _ => none

def body? (document : Json) : Option (List (String × Json)) := do
  let outer ← fields? document
  if outer.length = 1 then (outer.lookup "bool").bind fields? else none

/-- The parts of a document that combines by a connector and does nothing else. -/
def parts? (connector : Connector) (document : Json) : Option (List Json) := do
  let body ← body? document
  let inner ← match connector with
    | .and => if body.length = 1 then body.lookup "must" else none
    | .or =>
      if body.length = 2 && (body.lookup "minimum_should_match").any isOne then
        body.lookup "should"
      else none
  inner.list?

def combined : Connector → List Json → Json
  | .and, parts => .object [("bool", .object [("must", .list parts)])]
  | .or, parts =>
    .object [("bool", .object [("minimum_should_match", Json.nat 1), ("should", .list parts)])]

def negation (document : Json) : Json :=
  .object [("bool", .object [("must_not", .list [document])])]

def spliced (connector : Connector) (document : Json) : List Json :=
  (parts? connector document).getD [document]

def gather? (connector : Connector) (documents : List Json) : Option Json :=
  match (documents.filter fun document => !isMatchAll document).flatMap (spliced connector) with
  | [] => none
  | [only] => some only
  | parts => some (combined connector parts)

end Document

namespace Compiler

mutual

def assembled? (compiler : Compiler) : Tree → Option Json
  | .leaf clause =>
    match compiler.rules.complete clause with
    | .ok predicate => some (compiler.leafQuery predicate).toJson
    | .error _ => none
  | .node connector children => Document.gather? connector (compiler.assembledAll children)

def assembledAll (compiler : Compiler) : List Tree → List Json
  | [] => []
  | tree :: trees => (compiler.assembled? tree).toList ++ compiler.assembledAll trees

end

theorem assembledAll_eq_flatMap (compiler : Compiler) (trees : List Tree) :
    compiler.assembledAll trees = trees.flatMap fun tree => (compiler.assembled? tree).toList := by
  induction trees with
  | nil => rfl
  | cons tree trees ih => rw [assembledAll, ih, List.flatMap_cons]

def assembled (compiler : Compiler) (tree : Option Tree) : Json :=
  (tree.bind compiler.assembled?).getD Document.matchAll

end Compiler

/-! The documents of queries. -/

def FieldQuery.kind : FieldQuery → String
  | term _ _ => "term"
  | analyzed _ _ => "match"
  | terms _ _ => "terms"
  | .exists _ => "exists"
  | range _ _ => "range"
  | startsWith _ _ => "prefix"
  | wildcard _ _ _ => "wildcard"
  | queryString _ _ => "query_string"

theorem FieldQuery.toJson_eq_object (test : FieldQuery) :
    ∃ body, test.toJson = .object [(test.kind, .object body)] := by
  cases test <;> exact ⟨_, rfl⟩

theorem FieldQuery.kind_ne_bool (test : FieldQuery) : test.kind ≠ "bool" := by
  cases test <;> simp [kind]

theorem FieldQuery.kind_ne_match_all (test : FieldQuery) : test.kind ≠ "match_all" := by
  cases test <;> simp [kind]

namespace Document

theorem body?_test (test : FieldQuery) : body? test.toJson = none := by
  obtain ⟨body, shape⟩ := test.toJson_eq_object
  have other : ("bool" == test.kind) = false := beq_false_of_ne (Ne.symm test.kind_ne_bool)
  simp [shape, body?, fields?, List.lookup_cons, other]

theorem isMatchAll_test (test : FieldQuery) : isMatchAll test.toJson = false := by
  obtain ⟨body, shape⟩ := test.toJson_eq_object
  cases body with
  | nil => simp [shape, isMatchAll, test.kind_ne_match_all]
  | cons field fields => simp [shape, isMatchAll]

theorem isMatchAll_toJson (query : Query) : isMatchAll query.toJson = false := by
  cases query with
  | test test => exact isMatchAll_test test
  | except test => rfl
  | all parts => rfl
  | any parts => rfl

theorem combined_toJson (parts : List Query) :
    combined .and (parts.map Query.toJson) = (Query.all parts).toJson ∧
      combined .or (parts.map Query.toJson) = (Query.any parts).toJson := by
  simp [combined, Query.toJson, Query.toJsonAll_eq_map]

/-- By its keys, a document is opened up only when its query combines in the same way. -/
theorem spliced_toJson (connector : Connector) (query : Query) :
    spliced connector query.toJson = (query.spliced connector).map Query.toJson := by
  cases query with
  | test test =>
    have closed : parts? connector (Query.test test).toJson = none := by
      simp [parts?, Query.toJson, body?_test]
    cases connector <;> simp [spliced, closed, Query.spliced]
  | except test => cases connector <;> rfl
  | all parts =>
    cases connector with
    | and =>
      rw [← (combined_toJson parts).1]
      rfl
    | or => rfl
  | any parts =>
    cases connector with
    | and => rfl
    | or =>
      rw [← (combined_toJson parts).2]
      rfl

theorem gather?_toJson (connector : Connector) (queries : List Query) :
    gather? connector (queries.map Query.toJson) =
      (Query.gather? connector queries).map Query.toJson := by
  have kept : (queries.map Query.toJson).filter (fun document => !isMatchAll document) =
      queries.map Query.toJson := by
    rw [List.filter_eq_self]
    intro document member
    obtain ⟨query, -, rfl⟩ := List.mem_map.mp member
    rw [isMatchAll_toJson, Bool.not_false]
  have parts : (queries.map Query.toJson).flatMap (spliced connector) =
      (queries.flatMap (Query.spliced connector)).map Query.toJson := by
    rw [List.flatMap_map, List.map_flatMap]
    exact List.flatMap_congr fun query _ => spliced_toJson connector query
  rw [gather?, Query.gather?, kept, parts]
  match queries.flatMap (Query.spliced connector) with
  | [] => rfl
  | [only] => rfl
  | first :: second :: rest =>
    cases connector with
    | and => exact congrArg some (combined_toJson (first :: second :: rest)).1
    | or => exact congrArg some (combined_toJson (first :: second :: rest)).2

end Document

theorem Compiler.assembled?_eq_map (compiler : Compiler) (tree : Tree) :
    compiler.assembled? tree = (compiler.query? tree).map Query.toJson := by
  induction tree with
  | leaf clause =>
    rw [assembled?, query?]
    cases compiler.rules.complete clause <;> rfl
  | node connector children ih =>
    have parts : compiler.assembledAll children =
        (compiler.queries children).map Query.toJson := by
      rw [assembledAll_eq_flatMap, queries_eq_flatMap, List.map_flatMap]
      apply List.flatMap_congr
      intro child member
      rw [ih child member]
      cases compiler.query? child <;> rfl
    rw [assembled?, query?, parts, Document.gather?_toJson]

theorem Compiler.assembled_eq_document (compiler : Compiler) (tree : Option Tree) :
    compiler.assembled tree = Query.document (compiler.compile tree) := by
  cases tree with
  | none => rfl
  | some tree =>
    simp only [assembled, compile, Option.bind_some, assembled?_eq_map]
    cases compiler.query? tree <;> rfl

end SearchFilter
