import SearchFilter.Proofs.Bar.Validity
import SearchFilter.Proofs.Filter.Replaced
import SearchFilter.Proofs.Filter.Stored
import SearchFilter.Proofs.Json5.Documents

/-!
A bar that is stored as a text, read and loaded is the bar that it was, apart from values that are
null.
-/

namespace SearchFilter

namespace State

def withoutNulls (state : State) : State :=
  { state with clauses := state.clauses.map Clause.withoutNulls }

variable {state : State}

theorem isPlain_toJson (fits : ∀ group ∈ state.groups, ∀ index ∈ group.indices, FitsWord index) :
    state.toJson.isPlain = true := by
  have clauses : Json.itemsPlain (state.clauses.map Clause.toJson) = true :=
    Json.itemsPlain_iff.mpr (List.forall_mem_map.mpr fun clause _ => clause.isPlain_toJson)
  have groups : Json.itemsPlain (state.groups.map Group.toJson) = true :=
    Json.itemsPlain_iff.mpr (List.forall_mem_map.mpr fun group member =>
      Group.isPlain_toJson (fits group member))
  refine Json.fieldsPlain_iff.mpr ?_
  simp only [List.forall_mem_cons]
  exact ⟨clauses, groups, by simp⟩

theorem ofJson?_toJson (fits : ∀ group ∈ state.groups, ∀ index ∈ group.indices, FitsWord index) :
    ofJson? .json5 state.toJson = some state.withoutNulls := by
  have clauses : Json.listOf? (Clause.ofJson? .json5) (.list (state.clauses.map Clause.toJson)) =
      some (state.clauses.map Clause.withoutNulls) :=
    Json.listOf?_map_map fun clause _ => clause.ofJson?_toJson
  have groups : Json.listOf? (Group.ofJson? .json5) (.list (state.groups.map Group.toJson)) =
      some state.groups :=
    Json.listOf?_map fun group member => Group.ofJson?_toJson (fits group member)
  simp [ofJson?, toJson, Json.Dialect.record?, fieldNames, Json.named, Json.orDefault, clauses,
    groups, withoutNulls]

theorem ofText?_toText (fits : ∀ group ∈ state.groups, ∀ index ∈ group.indices, FitsWord index) :
    ofText? state.toText = some state.withoutNulls := by
  rw [ofText?, toText, Json5.parse?_compact (isPlain_toJson fits), Option.bind_some,
    ofJson?_toJson fits]

end State

theorem keeps_withoutNulls : Keeps Clause.withoutNulls := ⟨fun _ => rfl, fun _ => rfl⟩

theorem separatorsFrom_map {change : Clause → Clause} (keeps : Keeps change) (groups : List Group)
    (index : Nat) (clauses : List Clause) :
    separatorsFrom groups index (clauses.map change) = separatorsFrom groups index clauses := by
  induction clauses generalizing index with
  | nil => rfl
  | cons first rest ih =>
      cases rest with
      | nil => rfl
      | cons second rest =>
          have later := ih (index + 1)
          rw [List.map_cons] at later
          rw [List.map_cons, List.map_cons, separatorsFrom, separatorsFrom, later]
          simp only [Separator.of, keeps.connector]

namespace Bar

variable {bar : Bar}

def restored (bar : Bar) : Bar :=
  ⟨bar.clauses.map Clause.withoutNulls, bar.groups, .empty, freshNumber bar.groups⟩

theorem load_withoutNulls (sound : bar.Sound) :
    load bar.state.withoutNulls = .ok bar.restored := by
  have arranged : Arranged (bar.clauses.map Clause.withoutNulls).length bar.groups := by
    rw [List.length_map]
    exact sound.arranged
  have notes : Marked bar.groups (bar.clauses.map Clause.withoutNulls) := by
    intro index clause found
    rw [List.getElem?_map] at found
    obtain ⟨old, present, rfl⟩ := Option.map_eq_some_iff.mp found
    exact sound.notes index old present
  exact load_arranged arranged sound.ids notes

theorem InBounds.fitsWord (bounded : bar.InBounds) (counted : bar.clauses.length < 2 ^ 64) :
    ∀ group ∈ bar.groups, ∀ index ∈ group.indices, FitsWord index := by
  intro group member index inside
  have bound := bounded.members group member index inside
  constructor <;> omega

theorem tree?_restored (bar : Bar) :
    bar.restored.tree? = bar.tree?.map (Tree.replaced Clause.withoutNulls) :=
  Tree.ofGroups?_map keeps_withoutNulls bar.clauses bar.groups

theorem compile_restored (compiler : Compiler) (bar : Bar) :
    compiler.compile bar.restored.tree? = compiler.compile bar.tree? := by
  rw [tree?_restored]
  exact compiler.compile_replaced compiler.rules.complete_withoutNulls bar.tree?

theorem preview_restored (rules : Rules) (bar : Bar) :
    rules.preview bar.restored.tree? = rules.preview bar.tree? := by
  rw [tree?_restored]
  exact rules.preview_replaced rules.complete_withoutNulls bar.tree?

theorem separators_restored (bar : Bar) : bar.restored.separators = bar.separators :=
  separatorsFrom_map keeps_withoutNulls bar.groups 0 bar.clauses

end Bar

end SearchFilter
