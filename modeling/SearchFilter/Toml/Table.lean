import SearchFilter.Json.Basic

/-!
Tables of a TOML text while it is read. A table is made by its own header, by the header of a table
inside it, or by dotted keys, and this decides where it may still be extended.
-/

namespace SearchFilter.Toml

inductive Origin where
  | header
  | path
  | dotted
deriving DecidableEq

inductive Entry where
  | value (json : Json)
  | table (origin : Origin) (entries : List (String × Entry))
  /-- An array of tables, of which only the last one can be extended. -/
  | tables (closed : List Json) (last : List (String × Entry))

mutual

def Entry.toJson : Entry → Json
  | .value json => json
  | .table _ entries => .object (entriesToJson entries)
  | .tables closed last => .list (closed ++ [.object (entriesToJson last)])

def entriesToJson : List (String × Entry) → List (String × Json)
  | [] => []
  | (key, entry) :: entries => (key, entry.toJson) :: entriesToJson entries

end

structure Key where
  path : List String
  name : String

namespace Entry

def put (name : String) (entry : Entry) : List (String × Entry) → List (String × Entry)
  | [] => [(name, entry)]
  | (other, held) :: rest =>
    if other = name then (name, entry) :: rest else (other, held) :: put name entry rest

theorem lookup_put (name : String) (entry : Entry) (entries : List (String × Entry)) :
    (put name entry entries).lookup name = some entry := by
  induction entries with
  | nil => simp [put]
  | cons first rest ih =>
    obtain ⟨other, held⟩ := first
    simp only [put]
    split
    · simp
    · next different => simpa [List.lookup_cons, beq_false_of_ne (Ne.symm different)] using ih

/-- A change to the table at the end of a path. Tables that are missing on the way come to be by
the given origin. Dotted keys do not lead through a table that has a header. -/
def within? (origin : Origin)
    (change : Origin → List (String × Entry) → Option (List (String × Entry))) :
    List String → Origin → List (String × Entry) → Option (List (String × Entry))
  | [], own, entries => change own entries
  | name :: path, _, entries =>
    let entry := match entries.lookup name with
      | none => (within? origin change path origin []).map (table origin)
      | some (value _) => none
      | some (table inner held) =>
        if origin = Origin.dotted ∧ inner = Origin.header then none
        else (within? origin change path inner held).map (table inner)
      | some (tables closed last) => (within? origin change path .header last).map (tables closed)
    entry.map fun entry => put name entry entries

def insert? (name : String) (entry : Entry) (entries : List (String × Entry)) :
    Option (List (String × Entry)) :=
  if (entries.lookup name).isSome then none else some (put name entry entries)

/-- A value under a key. A dotted key ends in a table that dotted keys made, a plain one in a table
that they did not make. -/
def assign? (key : Key) (json : Json) (entries : List (String × Entry)) :
    Option (List (String × Entry)) :=
  let change := fun own held =>
    if (own = Origin.dotted ↔ key.path ≠ []) then insert? key.name (value json) held else none
  within? .dotted change key.path .header entries

def openTable? (key : Key) : List (String × Entry) → Option (List (String × Entry)) :=
  let change := fun _ held =>
    match held.lookup key.name with
    | none => some (put key.name (table .header []) held)
    | some (table .path inner) => some (put key.name (table .header inner) held)
    | some _ => none
  within? .path change key.path .header

def openElement? (key : Key) : List (String × Entry) → Option (List (String × Entry)) :=
  let change := fun _ held =>
    match held.lookup key.name with
    | none => some (put key.name (tables [] []) held)
    | some (tables closed last) =>
      some (put key.name (tables (closed ++ [.object (entriesToJson last)]) []) held)
    | some _ => none
  within? .path change key.path .header

end Entry

end SearchFilter.Toml
