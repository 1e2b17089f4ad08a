import SearchFilter.Catalog
import SearchFilter.Filter.Compile
import SearchFilter.Toml.Parser

/-! Settings: the rules for clauses and queries, and the fields of the index. -/

namespace SearchFilter

structure Settings where
  /-- A label without effect. -/
  profile : String := "base"
  rules : Rules := {}
  ignoreCase : Bool := true
  catalog : Catalog := .empty

namespace Settings

def compiler (settings : Settings) : Compiler := ⟨settings.rules, settings.ignoreCase⟩

def part? (dialect : Json.Dialect) (names : List String) :
    Option Json → Option (String → Option Json)
  | none => some fun _ => none
  | some json => dialect.record? names json

/-- Reading a comparison by its key. Either bound takes any of them. -/
def comparison? (dialect : Json.Dialect) (json : Json) : Option Comparison :=
  (dialect.name? json).bind Comparison.ofKey?

def fieldNames : List String := ["profile_name", "normalizer", "range", "query", "catalog"]

def ofJson? (dialect : Json.Dialect) (json : Json) : Option Settings := do
  let standard : Settings := {}
  let part ← dialect.record? fieldNames json
  let normalizer ← part? dialect ["keyword_suffix"] (part "normalizer")
  let range ← part? dialect ["default_min_operator", "default_max_operator"] (part "range")
  let query ← part? dialect ["case_insensitive"] (part "query")
  let profile ← Json.orDefault Json.text? standard.profile (part "profile_name")
  let suffix ← Json.orDefault Json.text? standard.rules.suffix (normalizer "keyword_suffix")
  let read := comparison? dialect
  let lower ← Json.orDefault read standard.rules.lower (range "default_min_operator")
  let upper ← Json.orDefault read standard.rules.upper (range "default_max_operator")
  let ignoreCase ← Json.orDefault Json.bool? standard.ignoreCase (query "case_insensitive")
  let catalog ← Json.orDefault (Catalog.ofJson? dialect) standard.catalog (part "catalog")
  some ⟨profile, ⟨suffix, lower, upper⟩, ignoreCase, catalog⟩

def ofText? (source : String) : Option Settings := (Toml.parse? source).bind (ofJson? .toml)

def toJson (settings : Settings) : Json :=
  .object [("catalog", settings.catalog.toJson),
    ("normalizer", .object [("keyword_suffix", .text settings.rules.suffix)]),
    ("profile_name", .text settings.profile),
    ("query", .object [("case_insensitive", .bool settings.ignoreCase)]),
    ("range", .object [("default_max_operator", .text settings.rules.upper.key),
      ("default_min_operator", .text settings.rules.lower.key)])]

end Settings

end SearchFilter
