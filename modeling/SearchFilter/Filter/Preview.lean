import SearchFilter.Filter.Predicate
import SearchFilter.Filter.Tree

/-!
The readable form of a tree. Parts are parenthesized only under another connector, and clauses that
are not complete leave nothing behind.
-/

namespace SearchFilter

namespace Predicate

def boundText (bound : Bound) : String := bound.comparison.symbol ++ bound.value.toText

def quotedText (word text : String) : String := word ++ " \"" ++ text ++ "\""

def body : Condition → String
  | .equals _ value => value.toText
  | .oneOf _ values => String.intercalate ", " (values.map Scalar.toText)
  | .exists _ => "exists"
  | .range min max => String.intercalate " and " ((min.toList ++ max.toList).map boundText)
  | .startsWith text => quotedText "prefix" text
  | .wildcard pattern => quotedText "wildcard" pattern
  | .queryString query => quotedText "query_string" query

def phrase (predicate : Predicate) : String :=
  (if predicate.condition.isNegated then "NOT " else "") ++ predicate.field ++ ": " ++
    body predicate.condition

end Predicate

/-- A readable text with the connector that joins its parts, if it has several. -/
structure Phrase where
  connector : Option Connector
  text : String
deriving DecidableEq

namespace Phrase

def within (phrase : Phrase) (parent : Option Connector) : String :=
  match phrase.connector, parent with
  | some own, some parent => if own = parent then phrase.text else "(" ++ phrase.text ++ ")"
  | _, _ => phrase.text

def gather? (connector : Connector) : List Phrase → Option Phrase
  | [] => none
  | [only] => some only
  | parts =>
    some ⟨some connector, String.intercalate (" " ++ connector.name ++ " ")
      (parts.map fun part => part.within (some connector))⟩

end Phrase

namespace Rules

mutual

def phrase? (rules : Rules) : Tree → Option Phrase
  | .leaf clause =>
    match rules.complete clause with
    | .ok predicate => some ⟨none, predicate.phrase⟩
    | .error _ => none
  | .node connector children => Phrase.gather? connector (rules.phrases children)

def phrases (rules : Rules) : List Tree → List Phrase
  | [] => []
  | tree :: trees => (rules.phrase? tree).toList ++ rules.phrases trees

end

theorem phrases_eq_flatMap (rules : Rules) (trees : List Tree) :
    rules.phrases trees = trees.flatMap fun tree => (rules.phrase? tree).toList := by
  induction trees with
  | nil => rfl
  | cons tree trees ih => rw [phrases, ih, List.flatMap_cons]

def render? (rules : Rules) (tree : Tree) (parent : Option Connector) : Option String :=
  (rules.phrase? tree).map fun phrase => phrase.within parent

def preview (rules : Rules) (tree : Option Tree) : String :=
  ((tree.bind fun tree => rules.render? tree none)).getD ""

end Rules

end SearchFilter
