import Mathlib.Data.List.DropRight
import SearchFilter.Proofs.Bar.Separators
import SearchFilter.Proofs.Filter.Operands

/-!
The filter of a bar, read from the notes on its clauses. Clauses side by side with the same note of
a group are one operand, and no index is looked at.
-/

namespace SearchFilter

namespace Bar

def sameNote (first second : Clause) : Bool := first.mark.group == second.mark.group

theorem sameNote_eq_true_iff {first second : Clause} :
    sameNote first second = true ↔ first.mark.group = second.mark.group := beq_iff_eq

theorem sameNote_eq_false_iff {first second : Clause} :
    sameNote first second = false ↔ first.mark.group ≠ second.mark.group := beq_eq_false_iff_ne

def stretches (clauses : List Clause) : List (List Clause) := clauses.splitBy sameNote

def connectorOf? (groups : List Group) (id : Option String) : Option Connector :=
  id.bind fun id => (groups.find? fun group => group.id == id).map Group.connector

def ownConnector? (groups : List Group) (stretch : List Clause) : Option Connector :=
  stretch.head?.bind fun first => connectorOf? groups first.mark.group

def operands (rules : Rules) (groups : List Group) (clauses : List Clause) :
    List (Connector × Option Formula) :=
  (stretches clauses).filterMap fun stretch =>
    rules.operand? (ownConnector? groups stretch) stretch

variable {bar : Bar} {index : Nat} {clause : Clause}

theorem markAt_group (groups : List Group) (index : Nat) :
    (markAt groups index).group = (groupAt groups index).map Group.id := by
  rw [markAt]
  cases groupAt groups index <;> rfl

theorem note_eq (sound : bar.Sound) (present : bar.clauses[index]? = some clause) :
    clause.mark.group = (groupAt bar.groups index).map Group.id := by
  rw [sound.notes index clause present, markAt_group]

theorem sameNote_iff (sound : bar.Sound) {first second : Nat} {left right : Clause}
    (here : bar.clauses[first]? = some left) (there : bar.clauses[second]? = some right) :
    sameNote left right = true ↔
      Grouping.ownerOf? (Grouping.owners bar.clauses.length bar.groups) first =
        Grouping.ownerOf? (Grouping.owners bar.clauses.length bar.groups) second := by
  rw [sameNote_eq_true_iff, note_eq sound here, note_eq sound there,
    Grouping.ownerOf?_arranged sound.arranged, Grouping.ownerOf?_arranged sound.arranged]
  cases leftHolds : groupAt bar.groups first with
  | none => cases groupAt bar.groups second <;> simp
  | some own =>
      cases rightHolds : groupAt bar.groups second with
      | none => simp
      | some other =>
          simp only [Option.map_some, Option.some.injEq]
          constructor
          · intro same
            rw [groupAt_eq_of_id sound leftHolds rightHolds same]
          · intro same
            have apart := sound.arranged.apart
            have indices : own.indices = other.indices := congrArg Grouping.Owner.members same
            have inside := ((groupAt_eq_some_iff apart).mp leftHolds).2
            have member := ((groupAt_eq_some_iff apart).mp rightHolds).1
            have found := (groupAt_eq_some_iff apart).mpr ⟨member, indices ▸ inside⟩
            rw [Option.some.inj (leftHolds.symm.trans found)]

theorem mem_slice {segment : Segment} {clauses : List Clause} :
    clause ∈ segment.slice clauses ↔ ∃ index ∈ segment.indices, clauses[index]? = some clause := by
  rw [Segment.slice, Grouping.take_drop_eq_filterMap, List.mem_filterMap]
  rfl

theorem slice_ne_nil {segment : Segment}
    (member : segment ∈ segments bar.clauses.length bar.groups) :
    segment.slice bar.clauses ≠ [] := by
  have nonempty := segments_nonempty _ _ segment member
  have first : segment.bounds.1 ∈ segment.indices :=
    Segment.mem_indices.mpr ⟨Nat.le_refl _, nonempty⟩
  have bound : segment.bounds.1 ∈ List.range bar.clauses.length := by
    rw [← segments_indices bar.clauses.length bar.groups]
    exact List.mem_flatMap.mpr ⟨segment, member, first⟩
  have found := List.getElem?_eq_getElem (List.mem_range.mp bound)
  exact List.ne_nil_of_mem (mem_slice.mpr ⟨segment.bounds.1, first, found⟩)

theorem flatMap_slice (bar : Bar) :
    (segments bar.clauses.length bar.groups).flatMap (fun segment => segment.slice bar.clauses) =
      bar.clauses := by
  have all := Grouping.take_drop_eq_filterMap bar.clauses 0 bar.clauses.length
  rw [List.drop_zero, List.take_length, ← List.range_eq_range',
    ← segments_indices bar.clauses.length bar.groups, List.filterMap_flatMap] at all
  conv_rhs => rw [all]
  apply List.flatMap_congr
  intro segment _
  rw [Segment.slice, Grouping.take_drop_eq_filterMap]
  rfl

theorem stretches_eq (sound : bar.Sound) :
    stretches bar.clauses =
      (segments bar.clauses.length bar.groups).map fun segment => segment.slice bar.clauses := by
  rw [stretches, List.splitBy_eq_iff]
  refine ⟨?_, ?_, ?_, ?_⟩
  · rw [← List.flatMap_def, flatMap_slice]
  · intro empty
    obtain ⟨segment, member, none⟩ := List.mem_map.mp empty
    exact slice_ne_nil member none
  · intro stretch member
    obtain ⟨segment, segmentMember, rfl⟩ := List.mem_map.mp member
    apply List.Pairwise.isChain
    apply List.pairwise_of_forall_mem_list
    intro left leftMember right rightMember
    obtain ⟨first, firstInside, here⟩ := mem_slice.mp leftMember
    obtain ⟨second, secondInside, there⟩ := mem_slice.mp rightMember
    rw [sameNote_iff sound here there, Grouping.ownerOf?_segment segmentMember firstInside,
      Grouping.ownerOf?_segment segmentMember secondInside]
  · rw [List.isChain_map]
    refine (segments_isChain bar.clauses.length bar.groups).imp_of_mem_imp ?_
    intro first second firstMember secondMember different
    have last := slice_ne_nil firstMember
    have head := slice_ne_nil secondMember
    obtain ⟨low, lowInside, here⟩ := mem_slice.mp (List.getLast_mem last)
    obtain ⟨high, highInside, there⟩ := mem_slice.mp (List.head_mem head)
    refine ⟨last, head, ?_⟩
    rw [← Bool.not_eq_true, sameNote_iff sound here there,
      Grouping.ownerOf?_segment firstMember lowInside,
      Grouping.ownerOf?_segment secondMember highInside]
    exact Grouping.segmentOwner?_ne firstMember secondMember different

theorem connectorOf?_id (sound : bar.Sound) {group : Group} (member : group ∈ bar.groups) :
    connectorOf? bar.groups (some group.id) = some group.connector := by
  have found : (bar.groups.find? fun other => other.id == group.id) = some group := by
    refine Indices.find?_eq_some_of_pairwise ?_ member (beq_self_eq_true _)
    refine (List.pairwise_map.mp sound.ids).imp ?_
    intro first second different both
    exact different ((beq_iff_eq.mp both.1).trans (beq_iff_eq.mp both.2).symm)
  rw [connectorOf?, Option.bind_some, found, Option.map_some]

theorem ownConnector?_slice (sound : bar.Sound) {segment : Segment}
    (member : segment ∈ segments bar.clauses.length bar.groups) :
    ownConnector? bar.groups (segment.slice bar.clauses) = segment.connector? := by
  have head := slice_ne_nil member
  obtain ⟨index, inside, present⟩ := mem_slice.mp (List.head_mem head)
  have owner : (groupAt bar.groups index).map Grouping.ownerOf =
      Grouping.segmentOwner? bar.clauses.length segment := by
    rw [← Grouping.ownerOf?_arranged sound.arranged, Grouping.ownerOf?_segment member inside]
  have connector : segment.connector? =
      (Grouping.segmentOwner? bar.clauses.length segment).map Grouping.Owner.connector := by
    cases segment <;> rfl
  rw [ownConnector?, List.head?_eq_some_head head, Option.bind_some, note_eq sound present,
    connector, ← owner, Option.map_map]
  cases found : groupAt bar.groups index with
  | none => rfl
  | some group =>
      exact connectorOf?_id sound ((groupAt_eq_some_iff sound.arranged.apart).mp found).1

theorem canonical?_tree? (sound : bar.Sound) (rules : Rules) :
    bar.tree?.bind (Tree.canonical? rules) =
      Formula.fold? (Formula.present (operands rules bar.groups bar.clauses)) := by
  rw [tree?, Tree.canonical?_ofGroups?, operands, stretches_eq sound, List.filterMap_map]
  refine congrArg (fun items => Formula.fold? (Formula.present items)) ?_
  apply List.filterMap_congr
  intro segment member
  rw [Function.comp_apply, ownConnector?_slice sound member]

theorem same_views {next : Bar} (same : next.tree?.bind (Tree.canonical? {}) =
    bar.tree?.bind (Tree.canonical? {})) :
    next.query = bar.query ∧ next.preview = bar.preview := by
  rw [query, query, Compiler.compile_eq_canonical, Compiler.compile_eq_canonical, preview, preview,
    Rules.preview_eq_canonical, Rules.preview_eq_canonical, same]
  exact ⟨rfl, rfl⟩

/-! A stretch among other clauses. -/

/-- Clauses with one note, as many in a row as there are. -/
structure IsStretch (note : Option String) (before stretch behind : List Clause) : Prop where
  noted : ∀ clause ∈ stretch, clause.mark.group = note
  left : ∀ last ∈ before.getLast?, last.mark.group ≠ note
  right : ∀ next ∈ behind.head?, next.mark.group ≠ note

section

variable {rules : Rules} {groups : List Group} {before stretch behind : List Clause}
  {note : Option String}

theorem last_of_rdropWhile {test : Clause → Bool} {clauses : List Clause} :
    ∀ last ∈ (clauses.rdropWhile test).getLast?, test last = false := by
  intro last member
  obtain ⟨nonempty, rfl⟩ := List.mem_getLast?_eq_getLast member
  exact Bool.eq_false_of_not_eq_true (List.rdropWhile_last_not _ _ nonempty)

theorem head_of_dropWhile {test : Clause → Bool} {clauses : List Clause} :
    ∀ next ∈ (clauses.dropWhile test).head?, test next = false := by
  intro next member
  have stopped := List.head?_dropWhile_not test clauses
  rw [member] at stopped
  exact stopped

theorem operands_append {first second : List Clause}
    (apart : ∀ last ∈ first.getLast?, ∀ next ∈ second.head?, sameNote last next = false) :
    operands rules groups (first ++ second) =
      operands rules groups first ++ operands rules groups second := by
  rw [operands, stretches, List.splitBy_append apart, List.filterMap_append]
  rfl

theorem operands_noted (noted : ∀ clause ∈ stretch, clause.mark.group = note) :
    operands rules groups stretch =
      (rules.operand? (connectorOf? groups note) stretch).toList := by
  cases stretch with
  | nil => rfl
  | cons first rest =>
      have chain : (first :: rest).IsChain fun left right => sameNote left right = true := by
        apply List.Pairwise.isChain
        apply List.pairwise_of_forall_mem_list
        intro left leftMember right rightMember
        rw [sameNote_eq_true_iff, noted left leftMember, noted right rightMember]
      have owner : ownConnector? groups (first :: rest) = connectorOf? groups note := by
        rw [ownConnector?, List.head?_cons, Option.bind_some, noted first List.mem_cons_self]
      rw [operands, stretches, List.splitBy_of_isChain (List.cons_ne_nil first rest) chain,
        List.filterMap_cons, owner]
      cases rules.operand? (connectorOf? groups note) (first :: rest) <;> rfl

theorem operands_stretch (isStretch : IsStretch note before stretch behind)
    (apart : stretch = [] → ∀ last ∈ before.getLast?, ∀ next ∈ behind.head?,
      sameNote last next = false) :
    operands rules groups (before ++ stretch ++ behind) =
      operands rules groups before ++
        (rules.operand? (connectorOf? groups note) stretch).toList ++
          operands rules groups behind := by
  rw [← operands_noted isStretch.noted]
  by_cases empty : stretch = []
  -- Two stretches could be one when nothing stands between them.
  · subst empty
    rw [List.append_nil, operands_append (apart rfl)]
    exact (congrArg (· ++ _) (List.append_nil _)).symm
  · have left : ∀ last ∈ before.getLast?, ∀ next ∈ stretch.head?, sameNote last next = false := by
      intro last lastMember next nextMember
      rw [sameNote_eq_false_iff]
      rw [isStretch.noted next (List.mem_of_mem_head? nextMember)]
      exact isStretch.left last lastMember
    have right : ∀ last ∈ (before ++ stretch).getLast?, ∀ next ∈ behind.head?,
        sameNote last next = false := by
      intro last lastMember next nextMember
      rw [List.getLast?_append_of_ne_nil before empty] at lastMember
      rw [sameNote_eq_false_iff]
      rw [isStretch.noted last (List.mem_of_getLast? lastMember)]
      exact (isStretch.right next nextMember).symm
    rw [operands_append right, operands_append left]

theorem operands_map_groups (change : Group → Group) (ids : ∀ group, (change group).id = group.id)
    (connectors : ∀ group, (change group).connector = group.connector) (clauses : List Clause) :
    operands rules (groups.map change) clauses = operands rules groups clauses := by
  have same (id : Option String) :
      connectorOf? (groups.map change) id = connectorOf? groups id := by
    cases id with
    | none => rfl
    | some id =>
        rw [connectorOf?, connectorOf?, Option.bind_some, Option.bind_some, List.find?_map,
          Option.map_map]
        simp only [Function.comp_def, ids, connectors]
  simp only [operands, ownConnector?, same]

theorem operands_normal (clauses : List Clause) :
    ∀ item ∈ operands rules groups clauses, ∀ formula ∈ item.2, formula.Normal := by
  intro item member
  obtain ⟨stretch, -, found⟩ := List.mem_filterMap.mp member
  obtain ⟨first, -, rfl⟩ := Option.map_eq_some_iff.mp found
  exact Formula.ofSegment_normal

end

end Bar

end SearchFilter
