import Mathlib.Data.Finset.Basic
import Mathlib.Data.Finset.Card
import Mathlib.Data.Finset.Filter
import Mathlib.Data.Finset.Image
import SearchFilter.Bar.Action
import SearchFilter.Proofs.Filter.Grouping

/-!
Rosters: bars without indices. Each clause has an identity of its own from when it is loaded, pushed
or inserted. Groups and the selection are sets of identities, so no change has to move them. A roster
says by itself which actions are done, and runs without a bar.
-/

namespace SearchFilter

structure Entry where
  identity : Nat
  content : Clause

structure Circle where
  id : String
  connector : Connector
  members : Finset Nat

structure Roster where
  entries : List Entry
  circles : List Circle
  picked : Finset Nat
  anchor : Option Nat
  /-- Identities from this one on are not given yet. -/
  nextIdentity : Nat
  nextNumber : UInt64

def Circle.without (identity : Nat) (circle : Circle) : Circle :=
  { circle with members := circle.members.erase identity }

namespace Roster

def ofState (state : State) : Roster where
  entries := state.clauses.mapIdx fun index clause => ⟨index, clause.unmarked⟩
  circles := state.groups.map fun group => ⟨group.id, group.connector, group.indices.toFinset⟩
  picked := ∅
  anchor := none
  nextIdentity := state.clauses.length
  nextNumber := Bar.freshNumber state.groups

def identities (roster : Roster) : List Nat := roster.entries.map Entry.identity

def position (roster : Roster) (identity : Nat) : Nat := roster.identities.idxOf identity

def positions (roster : Roster) (chosen : Finset Nat) : List Nat :=
  roster.identities.findIdxs fun identity => identity ∈ chosen

def located (roster : Roster) (circle : Circle) : Group :=
  ⟨circle.id, circle.connector, roster.positions circle.members⟩

/-! Changes. -/

def unpicked (roster : Roster) : Roster := { roster with picked := ∅, anchor := none }

def inserted (roster : Roster) (index : Nat) (content : Clause) : Roster :=
  { roster with
    entries := roster.entries.insertIdx index ⟨roster.nextIdentity, content⟩
    nextIdentity := roster.nextIdentity + 1 }

def edited (roster : Roster) (index : Nat) (change : Clause → Clause) : Roster :=
  { roster with
    entries := roster.entries.modify index fun entry =>
      { entry with content := change entry.content } }

def between (roster : Roster) (first second : Nat) : Finset Nat :=
  roster.identities.toFinset.filter fun identity =>
    min first second ≤ roster.position identity ∧ roster.position identity ≤ max first second

def clicked (roster : Roster) (identity : Nat) (how : Click) : Roster :=
  let picked := match how, roster.anchor with
    | .toggle, _ =>
      if identity ∈ roster.picked then roster.picked.erase identity
      else insert identity roster.picked
    | .extend, some anchor =>
      roster.between (roster.position anchor) (roster.position identity)
    | _, _ => {identity}
  { roster with picked, anchor := some identity }

def without (roster : Roster) (index identity : Nat) : Roster :=
  { roster with
    entries := roster.entries.eraseIdx index
    circles := (roster.circles.map (Circle.without identity)).filter fun circle =>
      2 ≤ circle.members.card }

def joined (roster : Roster) (connector : Connector) : Roster :=
  { roster with
    circles := (roster.circles.filter fun circle => Disjoint circle.members roster.picked) ++
      [⟨Bar.idOf roster.nextNumber, connector, roster.picked⟩]
    nextNumber := roster.nextNumber + 1 }

def changed (roster : Roster) : Action → Roster
  | .push clause =>
    { roster with
      entries := roster.entries ++ [⟨roster.nextIdentity, clause.unmarked⟩]
      nextIdentity := roster.nextIdentity + 1 }
  | .insertAfter index connector =>
    (roster.inserted (index + 1) (Clause.empty (some connector))).unpicked
  | .update index content => roster.edited index fun current =>
    { content with connector := current.connector, mark := GroupMark.none }
  | .setConnector index connector => roster.edited index fun current =>
    { current with connector := some connector }
  | .toggleDisabled index => roster.edited index fun current =>
    { current with disabled := !current.disabled }
  | .remove index =>
    match roster.identities[index]? with
    | some identity => (roster.without index identity).unpicked
    | none => roster
  | .select index how =>
    match roster.identities[index]? with
    | some identity => roster.clicked identity how
    | none => roster
  | .clearSelection => roster.unpicked
  | .createGroup connector => (roster.joined connector).unpicked
  | .removeGroup id =>
    { roster with circles := roster.circles.filter fun circle => circle.id ≠ id }
  | .reload =>
    { roster.unpicked with
      nextNumber := Bar.freshNumber (roster.circles.map roster.located) }

/-! Runs. -/

/-- The actions that are done. A clause is not inserted between two members of a circle, and a
circle is made of two or more identities with no other between them. -/
def Allows (roster : Roster) : Action → Prop
  | .push _ | .clearSelection | .reload => True
  | .update index _ | .setConnector index _ | .toggleDisabled index | .remove index
  | .select index _ => index < roster.entries.length
  | .insertAfter index _ =>
    index < roster.entries.length ∧ ∀ circle ∈ roster.circles,
      index ∈ roster.positions circle.members → index + 1 ∉ roster.positions circle.members
  | .createGroup _ =>
    2 ≤ roster.picked.card ∧ Grouping.Gapless (roster.positions roster.picked)
  | .removeGroup id => ∃ circle ∈ roster.circles, circle.id = id

instance (roster : Roster) : (action : Action) → Decidable (roster.Allows action)
  | .push _ | .clearSelection | .reload => inferInstanceAs (Decidable True)
  | .update index _ | .setConnector index _ | .toggleDisabled index | .remove index
  | .select index _ => inferInstanceAs (Decidable (index < roster.entries.length))
  | .insertAfter index _ =>
    inferInstanceAs (Decidable (index < roster.entries.length ∧ ∀ circle ∈ roster.circles,
      index ∈ roster.positions circle.members → index + 1 ∉ roster.positions circle.members))
  | .createGroup _ =>
    inferInstanceAs (Decidable (2 ≤ roster.picked.card ∧
      Grouping.Gapless (roster.positions roster.picked)))
  | .removeGroup id => inferInstanceAs (Decidable (∃ circle ∈ roster.circles, circle.id = id))

def after (roster : Roster) (action : Action) : Roster :=
  if roster.Allows action then roster.changed action else roster

def run (roster : Roster) (actions : List Action) : Roster := actions.foldl after roster

/-- The bar shows the roster: its clauses have the contents of the entries, its groups are the
circles where their members stand, and its selection is what is picked. -/
structure Describes (roster : Roster) (bar : Bar) : Prop where
  contents : bar.clauses.map Clause.unmarked = roster.entries.map Entry.content
  distinct : roster.identities.Nodup
  given : ∀ identity ∈ roster.identities, identity < roster.nextIdentity
  groups : bar.groups.Perm (roster.circles.map roster.located)
  number : bar.nextNumber = roster.nextNumber
  members : ∀ circle ∈ roster.circles, ∀ identity ∈ circle.members, identity ∈ roster.identities
  picked : bar.selection.indices = roster.positions roster.picked
  pickedGiven : ∀ identity ∈ roster.picked, identity ∈ roster.identities
  anchor : bar.selection.lastClicked = roster.anchor.map roster.position
  anchorGiven : ∀ identity, roster.anchor = some identity → identity ∈ roster.identities

/-! Positions. -/

variable {roster : Roster} {chosen : Finset Nat} {index identity : Nat}

theorem mem_positions :
    index ∈ roster.positions chosen ↔
      ∃ identity ∈ chosen, roster.identities[index]? = some identity := by
  rw [positions, List.mem_findIdxs_iff_exists_getElem_pos]
  constructor
  · rintro ⟨inside, member⟩
    exact ⟨_, of_decide_eq_true member, List.getElem?_eq_getElem inside⟩
  · rintro ⟨identity, member, stands⟩
    obtain ⟨inside, rfl⟩ := List.getElem?_eq_some_iff.mp stands
    exact ⟨inside, decide_eq_true member⟩

theorem positions_ascending (roster : Roster) (chosen : Finset Nat) :
    (roster.positions chosen).Pairwise (· < ·) :=
  List.pairwise_findIdxs

theorem positions_empty (roster : Roster) : roster.positions ∅ = [] := by
  rw [positions, List.findIdxs_eq_nil_iff]
  simp

theorem positions_eq_of_mem_iff {indices : List Nat} (ascending : indices.Pairwise (· < ·))
    (same : ∀ index, index ∈ indices ↔
      ∃ identity ∈ chosen, roster.identities[index]? = some identity) :
    indices = roster.positions chosen := by
  refine Indices.eq_of_ascending ascending (roster.positions_ascending chosen) ?_
  intro index
  rw [same, mem_positions]

theorem length_positions (distinct : roster.identities.Nodup)
    (given : ∀ identity ∈ chosen, identity ∈ roster.identities) :
    (roster.positions chosen).length = chosen.card := by
  have same : (roster.identities.filter fun identity => identity ∈ chosen).toFinset = chosen := by
    ext identity
    simp only [List.mem_toFinset, List.mem_filter, decide_eq_true_eq]
    exact ⟨And.right, fun member => ⟨given identity member, member⟩⟩
  rw [positions, List.length_findIdxs, List.countP_eq_length_filter,
    ← List.toFinset_card_of_nodup (distinct.filter _), same]

theorem position_of_getElem? (distinct : roster.identities.Nodup)
    (stands : roster.identities[index]? = some identity) : roster.position identity = index := by
  obtain ⟨inside, rfl⟩ := List.getElem?_eq_some_iff.mp stands
  exact distinct.idxOf_getElem index inside

theorem getElem?_position (given : identity ∈ roster.identities) :
    roster.identities[roster.position identity]? = some identity := by
  have inside := List.idxOf_lt_length_of_mem given
  rw [position, List.getElem?_eq_getElem inside, List.getElem_idxOf inside]

end Roster

end SearchFilter
