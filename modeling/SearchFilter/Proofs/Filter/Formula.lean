import Mathlib.Data.List.Basic
import Mathlib.Logic.Relation
import SearchFilter.Filter.Predicate
import SearchFilter.Filter.Tree

/-!
Formulas are trees of complete clauses. Empty nodes, nodes with one part, and parts with the
connector of their node can be simplified away in any order; the outcome is always the same normal
form, which is the canonical form of a tree once its incomplete clauses are left out.
-/

namespace SearchFilter

inductive Formula where
  | leaf (predicate : Predicate)
  | node (connector : Connector) (parts : List Formula)

namespace Formula

@[elab_as_elim, induction_eliminator]
theorem induction {motive : Formula → Prop} (leaf : ∀ predicate, motive (.leaf predicate))
    (node : ∀ connector parts, (∀ part ∈ parts, motive part) → motive (.node connector parts))
    (formula : Formula) : motive formula :=
  @Formula.rec motive (fun parts => ∀ part ∈ parts, motive part) leaf node
    (fun _ absent => nomatch absent)
    (fun _ _ first rest => List.forall_mem_cons.mpr ⟨first, rest⟩) formula

def connector? : Formula → Option Connector
  | leaf _ => none
  | node connector _ => some connector

/-! Simplification. -/

inductive Step : List Formula → List Formula → Prop
  | prune (connector) : Step [node connector []] []
  | unwrap (connector part) : Step [node connector [part]] [part]
  | splice (connector before inner after) :
      Step [node connector (before ++ node connector inner :: after)]
        [node connector (before ++ inner ++ after)]
  | inside {parts next} (connector) : Step parts next →
      Step [node connector parts] [node connector next]
  | beside {parts next} (before after) : Step parts next →
      Step (before ++ parts ++ after) (before ++ next ++ after)

def Simplifies (formulas outcome : List Formula) : Prop :=
  Relation.ReflTransGen Step formulas outcome

def IsOutcome (formulas outcome : List Formula) : Prop :=
  Simplifies formulas outcome ∧ ∀ next, ¬ Step outcome next

theorem Simplifies.inside {parts next : List Formula} (connector : Connector)
    (steps : Simplifies parts next) : Simplifies [node connector parts] [node connector next] :=
  Relation.ReflTransGen.lift (fun parts => [node connector parts])
    (fun _ _ step => Step.inside connector step) _ _ steps

theorem Simplifies.beside {parts next : List Formula} (before after : List Formula)
    (steps : Simplifies parts next) :
    Simplifies (before ++ parts ++ after) (before ++ next ++ after) :=
  Relation.ReflTransGen.lift (fun parts => before ++ parts ++ after)
    (fun _ _ step => Step.beside before after step) _ _ steps

theorem Simplifies.append {first firstNext second secondNext : List Formula}
    (left : Simplifies first firstNext) (right : Simplifies second secondNext) :
    Simplifies (first ++ second) (firstNext ++ secondNext) := by
  have done := left.beside [] second
  have rest := right.beside firstNext []
  simp only [List.nil_append, List.append_nil] at done rest
  exact done.trans rest

theorem Simplifies.flatMap (formulas : List Formula) (next : Formula → List Formula)
    (each : ∀ formula ∈ formulas, Simplifies [formula] (next formula)) :
    Simplifies formulas (formulas.flatMap next) := by
  induction formulas with
  | nil => exact .refl
  | cons formula rest ih =>
      have tail := ih fun other member => each other (List.mem_cons_of_mem _ member)
      exact (each formula List.mem_cons_self).append tail

/-! The normal form. -/

def spliced (connector : Connector) : Formula → List Formula
  | node own parts => if own = connector then parts else [node own parts]
  | leaf predicate => [leaf predicate]

def gather? (connector : Connector) (parts : List Formula) : Option Formula :=
  match parts.flatMap (spliced connector) with
  | [] => none
  | [only] => some only
  | several => some (node connector several)

mutual

def normal? : Formula → Option Formula
  | leaf predicate => some (leaf predicate)
  | node connector parts => gather? connector (normals parts)

def normals : List Formula → List Formula
  | [] => []
  | formula :: formulas => formula.normal?.toList ++ normals formulas

end

theorem normals_eq_flatMap (formulas : List Formula) :
    normals formulas = formulas.flatMap fun formula => formula.normal?.toList := by
  induction formulas with
  | nil => rfl
  | cons formula rest ih => rw [normals, ih, List.flatMap_cons]

theorem normals_singleton (formula : Formula) : normals [formula] = formula.normal?.toList := by
  rw [normals, normals, List.append_nil]

theorem normals_append (first second : List Formula) :
    normals (first ++ second) = normals first ++ normals second := by
  simp only [normals_eq_flatMap, List.flatMap_append]

/-- Each node of a normal formula combines at least two parts, none with the connector of the
node. -/
inductive Normal : Formula → Prop
  | leaf (predicate) : Normal (leaf predicate)
  | node (connector parts) : 2 ≤ parts.length →
      (∀ part ∈ parts, part.connector? ≠ some connector) → (∀ part ∈ parts, Normal part) →
      Normal (node connector parts)

theorem spliced_of_ne {connector : Connector} {formula : Formula}
    (other : formula.connector? ≠ some connector) : spliced connector formula = [formula] := by
  cases formula with
  | leaf predicate => rfl
  | node own parts =>
      have different : own ≠ connector := fun same => other (congrArg some same)
      rw [spliced, if_neg different]

theorem flatMap_spliced_of_ne {connector : Connector} (parts : List Formula)
    (others : ∀ part ∈ parts, part.connector? ≠ some connector) :
    parts.flatMap (spliced connector) = parts := by
  rw [List.flatMap_congr fun part member => spliced_of_ne (others part member)]
  exact List.flatMap_singleton' parts

theorem Normal.spliced {connector : Connector} {formula : Formula} (normal : formula.Normal) :
    ∀ part ∈ spliced connector formula, part.Normal ∧ part.connector? ≠ some connector := by
  cases normal with
  | leaf predicate => simp [Formula.spliced, Normal.leaf, connector?]
  | node own parts several others normals =>
      rw [Formula.spliced]
      split
      · rename_i same
        intro part member
        exact ⟨normals part member, same ▸ others part member⟩
      · rename_i different
        intro part member
        rw [List.mem_singleton.mp member]
        exact ⟨.node own parts several others normals, fun same => different (Option.some.inj same)⟩

theorem gather?_normal {connector : Connector} {parts : List Formula} {formula : Formula}
    (normal : ∀ part ∈ parts, part.Normal) (found : gather? connector parts = some formula) :
    formula.Normal := by
  have each : ∀ part ∈ parts.flatMap (spliced connector),
      part.Normal ∧ part.connector? ≠ some connector := by
    intro part member
    obtain ⟨source, sourceMember, inside⟩ := List.mem_flatMap.mp member
    exact (normal source sourceMember).spliced part inside
  rw [gather?] at found
  split at found
  · simp at found
  · rename_i only single
    obtain rfl := Option.some.inj found
    exact (each only (by rw [single]; exact List.mem_cons_self)).1
  · rename_i none notSingle
    obtain rfl := Option.some.inj found
    refine .node connector _ ?_ (fun part member => (each part member).2)
      fun part member => (each part member).1
    match several : parts.flatMap (Formula.spliced connector) with
    | [] => exact absurd several none
    | [only] => exact absurd several (notSingle only)
    | first :: second :: rest => simp

theorem normal?_normal (formula : Formula) :
    ∀ result, formula.normal? = some result → result.Normal := by
  induction formula with
  | leaf predicate =>
      intro result found
      obtain rfl := Option.some.inj found
      exact .leaf predicate
  | node connector parts ih =>
      intro result found
      apply gather?_normal _ found
      intro part member
      rw [normals_eq_flatMap] at member
      obtain ⟨source, sourceMember, inside⟩ := List.mem_flatMap.mp member
      exact ih source sourceMember part (Option.mem_toList.mp inside)

theorem normals_eq_self {formulas : List Formula}
    (kept : ∀ formula ∈ formulas, formula.normal? = some formula) :
    normals formulas = formulas := by
  rw [normals_eq_flatMap, List.flatMap_congr fun formula member => by rw [kept formula member]]
  exact List.flatMap_singleton' formulas

theorem Normal.normal?_eq {formula : Formula} (normal : formula.Normal) :
    formula.normal? = some formula := by
  induction normal with
  | leaf predicate => rfl
  | node connector parts several others _ ih =>
      have kept : normals parts = parts := normals_eq_self ih
      rw [Formula.normal?, kept, gather?, flatMap_spliced_of_ne parts others]
      match parts, several with
      | _ :: _ :: _, _ => rfl

/-! Simplification leads to the normal form and nowhere else. -/

theorem gather?_singleton {connector : Connector} {formula : Formula} (normal : formula.Normal) :
    gather? connector [formula] = some formula := by
  rw [gather?, List.flatMap_singleton]
  cases normal with
  | leaf predicate => rfl
  | node own parts several others normals =>
      by_cases same : own = connector
      · rw [Formula.spliced, if_pos same, ← same]
        match parts, several with
        | _ :: _ :: _, _ => rfl
      · rw [Formula.spliced, if_neg same]

theorem flatMap_spliced_normals_node (connector : Connector) (inner : List Formula) :
    (normals [node connector inner]).flatMap (spliced connector) =
      (normals inner).flatMap (spliced connector) := by
  have others : ∀ part ∈ (normals inner).flatMap (Formula.spliced connector),
      part.connector? ≠ some connector := by
    intro part member
    obtain ⟨source, sourceMember, inside⟩ := List.mem_flatMap.mp member
    rw [normals_eq_flatMap] at sourceMember
    obtain ⟨origin, -, found⟩ := List.mem_flatMap.mp sourceMember
    exact ((normal?_normal origin source (Option.mem_toList.mp found)).spliced part inside).2
  rw [normals_singleton, normal?, gather?]
  split
  · rename_i empty
    rw [empty]
    rfl
  · rename_i only single
    rw [single, Option.toList_some, List.flatMap_singleton]
    exact spliced_of_ne (others only (by rw [single]; exact List.mem_cons_self))
  · rw [Option.toList_some, List.flatMap_singleton, Formula.spliced, if_pos rfl]

theorem Step.normals_eq {formulas next : List Formula} (step : Step formulas next) :
    normals formulas = normals next := by
  induction step with
  | prune connector => rfl
  | unwrap connector part =>
      simp only [normals_singleton, normal?]
      cases found : part.normal? with
      | none => rfl
      | some result =>
          rw [Option.toList_some, gather?_singleton (normal?_normal part result found)]
          rfl
  | splice connector before inner after =>
      have same : (normals (before ++ node connector inner :: after)).flatMap (spliced connector) =
          (normals (before ++ inner ++ after)).flatMap (spliced connector) := by
        have taken := flatMap_spliced_normals_node connector inner
        rw [List.append_cons]
        simp only [normals_append, List.flatMap_append, taken]
      simp only [normals_singleton, normal?, gather?, same]
  | inside connector _ ih => simp only [normals_singleton, normal?, ih]
  | beside before after _ ih => simp only [normals_append, ih]

theorem Step.not_normal {formulas next : List Formula} (step : Step formulas next) :
    ∃ formula ∈ formulas, ¬ formula.Normal := by
  induction step with
  | prune connector =>
      refine ⟨_, List.mem_cons_self, fun normal => ?_⟩
      cases normal with
      | node _ _ several => simp at several
  | unwrap connector part =>
      refine ⟨_, List.mem_cons_self, fun normal => ?_⟩
      cases normal with
      | node _ _ several => simp at several
  | splice connector before inner after =>
      refine ⟨_, List.mem_cons_self, fun normal => ?_⟩
      cases normal with
      | node _ _ _ others => exact others (node connector inner) (by simp) rfl
  | inside connector _ ih =>
      obtain ⟨part, member, abnormal⟩ := ih
      refine ⟨_, List.mem_cons_self, fun normal => ?_⟩
      cases normal with
      | node _ _ _ _ normals => exact abnormal (normals part member)
  | beside before after _ ih =>
      obtain ⟨formula, member, abnormal⟩ := ih
      exact ⟨formula, by simp [member], abnormal⟩

theorem normal_of_final (formula : Formula) (final : ∀ next, ¬ Step [formula] next) :
    formula.Normal := by
  induction formula with
  | leaf predicate => exact .leaf predicate
  | node connector parts ih =>
      refine .node connector parts ?_ ?_ ?_
      · match parts with
        | [] => exact absurd (.prune connector) (final _)
        | [part] => exact absurd (.unwrap connector part) (final _)
        | _ :: _ :: _ => simp
      · intro part member same
        obtain ⟨before, after, rfl⟩ := List.append_of_mem member
        cases part with
        | leaf predicate => simp [connector?] at same
        | node own inner =>
            obtain rfl := Option.some.inj same
            exact final _ (.splice own before inner after)
      · intro part member
        apply ih part member
        intro next step
        obtain ⟨before, after, rfl⟩ := List.append_of_mem member
        have wider := Step.beside before after step
        rw [List.append_assoc, List.singleton_append] at wider
        exact final _ (.inside connector wider)

theorem normal_of_irreducible {formulas : List Formula} (final : ∀ next, ¬ Step formulas next) :
    ∀ formula ∈ formulas, formula.Normal := by
  intro formula member
  apply normal_of_final
  intro next step
  obtain ⟨before, after, rfl⟩ := List.append_of_mem member
  have wider := Step.beside before after step
  rw [List.append_assoc, List.singleton_append] at wider
  exact final _ wider

theorem simplifies_splice (connector : Connector) (done parts : List Formula) :
    Simplifies [node connector (done ++ parts)]
      [node connector (done ++ parts.flatMap (spliced connector))] := by
  induction parts generalizing done with
  | nil => exact .refl
  | cons part rest ih =>
      rw [List.flatMap_cons, ← List.append_assoc]
      refine Relation.ReflTransGen.trans ?_ (ih (done ++ spliced connector part))
      cases part with
      | leaf predicate =>
          rw [Formula.spliced, List.append_assoc, List.singleton_append]
      | node own inner =>
          by_cases same : own = connector
          · rw [Formula.spliced, if_pos same, ← same]
            exact .single (.splice own done inner rest)
          · rw [Formula.spliced, if_neg same, List.append_assoc, List.singleton_append]

theorem simplifies_gather (connector : Connector) (parts : List Formula) :
    Simplifies [node connector parts] (gather? connector parts).toList := by
  have flat := simplifies_splice connector [] parts
  rw [List.nil_append, List.nil_append] at flat
  refine flat.trans ?_
  rw [gather?]
  match parts.flatMap (Formula.spliced connector) with
  | [] => exact .single (.prune connector)
  | [only] => exact .single (.unwrap connector only)
  | first :: second :: rest => exact .refl

theorem simplifies_normal (formula : Formula) : Simplifies [formula] formula.normal?.toList := by
  induction formula with
  | leaf predicate => exact .refl
  | node connector parts ih =>
      have inner : Simplifies parts (normals parts) := by
        rw [normals_eq_flatMap]
        exact Simplifies.flatMap parts _ ih
      exact (inner.inside connector).trans (simplifies_gather connector (normals parts))

theorem simplifies_normals (formulas : List Formula) : Simplifies formulas (normals formulas) := by
  rw [normals_eq_flatMap]
  exact Simplifies.flatMap formulas _ fun formula _ => simplifies_normal formula

theorem Simplifies.normals_eq {formulas next : List Formula} (steps : Simplifies formulas next) :
    normals formulas = normals next := by
  induction steps with
  | refl => rfl
  | tail _ step ih => exact ih.trans step.normals_eq

/-- In whatever order formulas are simplified, the outcome is their normal forms. -/
theorem isOutcome_iff (formulas outcome : List Formula) :
    IsOutcome formulas outcome ↔ outcome = normals formulas := by
  constructor
  · rintro ⟨steps, final⟩
    rw [steps.normals_eq]
    exact (normals_eq_self fun formula member =>
      (normal_of_irreducible final formula member).normal?_eq).symm
  · rintro rfl
    refine ⟨simplifies_normals formulas, fun next step => ?_⟩
    obtain ⟨formula, member, abnormal⟩ := step.not_normal
    rw [normals_eq_flatMap] at member
    obtain ⟨source, -, found⟩ := List.mem_flatMap.mp member
    exact abnormal (normal?_normal source formula (Option.mem_toList.mp found))

end Formula

end SearchFilter
