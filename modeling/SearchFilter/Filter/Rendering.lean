import SearchFilter.Filter.Preview

/-!
Rendering under a parent, straight from the tree. A node of which a single child is left renders
that child once more, now under the parent of the node. The texts are those of readable phrases,
which carry their own connector instead.
-/

namespace SearchFilter

namespace Rules

mutual

def rendered? (rules : Rules) (parent : Option Connector) : Tree → Option String
  | .leaf clause =>
    match rules.complete clause with
    | .ok predicate => some predicate.phrase
    | .error _ => none
  | .node connector children =>
    match rules.renderedFrom connector 0 children with
    | [] => none
    | [(only, _)] => rules.renderedAt parent only children
    | parts =>
      let joined := String.intercalate (" " ++ connector.name ++ " ") (parts.map Prod.snd)
      some (if parent.any (· ≠ connector) then "(" ++ joined ++ ")" else joined)

def renderedFrom (rules : Rules) (connector : Connector) (index : Nat) :
    List Tree → List (Nat × String)
  | [] => []
  | tree :: trees =>
    ((rules.rendered? (some connector) tree).map fun text => (index, text)).toList ++
      rules.renderedFrom connector (index + 1) trees

def renderedAt (rules : Rules) (parent : Option Connector) : Nat → List Tree → Option String
  | _, [] => none
  | 0, tree :: _ => rules.rendered? parent tree
  | index + 1, _ :: trees => rules.renderedAt parent index trees

end

variable {rules : Rules} {connector : Connector}

theorem map_snd_renderedFrom (index : Nat) (children : List Tree)
    (rendered : ∀ child ∈ children,
      rules.rendered? (some connector) child = rules.render? child (some connector)) :
    (rules.renderedFrom connector index children).map Prod.snd =
      (rules.phrases children).map fun part => part.within (some connector) := by
  induction children generalizing index with
  | nil => rfl
  | cons tree trees ih =>
      have tail := ih (index + 1) fun child member => rendered child (List.mem_cons_of_mem _ member)
      have head := rendered tree List.mem_cons_self
      rw [renderedFrom, phrases, head, render?]
      cases rules.phrase? tree <;> simp [tail]

theorem renderedAt_only (parent : Option Connector) {index only : Nat} {text : String}
    (children : List Tree)
    (rendered : ∀ child ∈ children, ∀ parent,
      rules.rendered? parent child = rules.render? child parent)
    (single : rules.renderedFrom connector index children = [(only, text)]) :
    index ≤ only ∧ ∃ phrase, rules.phrases children = [phrase] ∧
      rules.renderedAt parent (only - index) children = some (phrase.within parent) := by
  induction children generalizing index with
  | nil => simp [renderedFrom] at single
  | cons tree trees ih =>
      have later : ∀ child ∈ trees, ∀ parent,
          rules.rendered? parent child = rules.render? child parent :=
        fun child member => rendered child (List.mem_cons_of_mem _ member)
      rw [renderedFrom, rendered tree List.mem_cons_self, render?] at single
      cases found : rules.phrase? tree with
      | none =>
          simp only [found, Option.map_none, Option.toList_none, List.nil_append] at single
          obtain ⟨above, phrase, phrases, text⟩ := ih later single
          refine ⟨by omega, phrase, by simp [Rules.phrases, found, phrases], ?_⟩
          have next : only - index = (only - (index + 1)) + 1 := by omega
          rw [next, renderedAt, text]
      | some phrase =>
          simp only [found, Option.map_some, Option.toList_some, List.singleton_append,
            List.cons.injEq, Prod.mk.injEq] at single
          obtain ⟨⟨rfl, -⟩, none⟩ := single
          have empty : rules.phrases trees = [] := by
            have texts := map_snd_renderedFrom (index + 1) trees fun child member =>
              later child member (some connector)
            simpa [none] using texts.symm
          refine ⟨Nat.le_refl _, phrase, by simp [Rules.phrases, found, empty], ?_⟩
          rw [Nat.sub_self, renderedAt, rendered tree List.mem_cons_self, render?, found,
            Option.map_some]

theorem rendered?_eq_render? (tree : Tree) (parent : Option Connector) :
    rules.rendered? parent tree = rules.render? tree parent := by
  induction tree generalizing parent with
  | leaf clause =>
      rw [rendered?, render?, phrase?]
      cases rules.complete clause <;> rfl
  | node connector children ih =>
      have texts : (rules.renderedFrom connector 0 children).map Prod.snd =
          (rules.phrases children).map fun phrase => phrase.within (some connector) :=
        map_snd_renderedFrom 0 children fun child member => ih child member (some connector)
      rw [rendered?, render?, phrase?]
      match survivors : rules.renderedFrom connector 0 children with
      | [] =>
          rw [survivors] at texts
          have empty : rules.phrases children = [] := by simpa using texts.symm
          rw [empty]
          rfl
      | [(only, text)] =>
          obtain ⟨-, phrase, single, again⟩ := renderedAt_only parent children ih survivors
          rw [single]
          exact again
      | first :: second :: rest =>
          rw [survivors] at texts
          match parts : rules.phrases children with
          | [] => simp [parts] at texts
          | [part] => simp [parts] at texts
          | left :: right :: others =>
              rw [parts] at texts
              simp only [Phrase.gather?, Option.map_some, ← texts]
              cases parent with
              | none => rfl
              | some parent =>
                  by_cases same : connector = parent
                  · simp [Phrase.within, same]
                  · simp [Phrase.within, same, Ne.symm same]

end Rules

end SearchFilter
