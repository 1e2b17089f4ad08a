import Mathlib.Data.List.Infix
import SearchFilter.Filter.Compile
import SearchFilter.Proofs.Filter.NormalForm

/-!
Previews read back. A text is split at parentheses and at the words between parts, and its parts are
gathered level by level. As long as no phrase looks like one of these, the reading of a preview is
its canonical formula with a phrase for each predicate.
-/

namespace SearchFilter

inductive Reading where
  | phrase (text : String)
  | joined (connector : Connector) (parts : List Reading)

namespace Reading

/-! Tokens. -/

inductive Token where
  | phrase (chars : List Char)
  | joiner (connector : Connector)
  | opening
  | closing
deriving DecidableEq

def glued (char : Char) : List Token → List Token
  | .phrase chars :: rest => .phrase (char :: chars) :: rest
  | tokens => .phrase [char] :: tokens

def tokens : List Char → List Token
  | [] => []
  | '(' :: rest => .opening :: tokens rest
  | ')' :: rest => .closing :: tokens rest
  | ' ' :: 'A' :: 'N' :: 'D' :: ' ' :: rest => .joiner .and :: tokens rest
  | ' ' :: 'O' :: 'R' :: ' ' :: rest => .joiner .or :: tokens rest
  | char :: rest => glued char (tokens rest)

/-! Levels. -/

/-- What was read inside some parentheses: the connector between the parts so far, and the parts. -/
structure Level where
  connector : Option Connector
  parts : List Reading

namespace Level

def empty : Level := ⟨none, []⟩

def add (level : Level) (part : Reading) : Level := { level with parts := level.parts ++ [part] }

def joined? (level : Level) (connector : Connector) : Option Level :=
  if level.connector.all (· = connector) then some { level with connector := some connector }
  else none

def reading? : Level → Option Reading
  | ⟨none, [only]⟩ => some only
  | ⟨some connector, parts⟩ => some (.joined connector parts)
  | _ => none

end Level

def step : List Level → Token → Option (List Level)
  | level :: outer, .phrase chars => some (level.add (.phrase (String.ofList chars)) :: outer)
  | level :: outer, .joiner connector => (level.joined? connector).map (· :: outer)
  | levels, .opening => some (.empty :: levels)
  | level :: next :: outer, .closing => level.reading?.map fun part => next.add part :: outer
  | _, _ => none

def advance? (levels : List Level) (chars : List Char) : Option (List Level) :=
  (tokens chars).foldlM step levels

def ofText? (text : String) : Option Reading :=
  (advance? [.empty] text.toList).bind fun levels =>
    match levels with
    | [level] => level.reading?
    | _ => none

structure Plain (chars : List Char) : Prop where
  opening : '(' ∉ chars
  closing : ')' ∉ chars
  apart : ∀ connector : Connector, ¬ connector.name.toList <:+: chars

theorem plain_iff {chars : List Char} :
    '(' ∉ chars ∧ ')' ∉ chars ∧ ¬ Connector.and.name.toList <:+: chars ∧
      ¬ Connector.or.name.toList <:+: chars ↔ Plain chars := by
  constructor
  · rintro ⟨opening, closing, noAnd, noOr⟩
    refine ⟨opening, closing, ?_⟩
    intro connector
    cases connector with
    | and => exact noAnd
    | or => exact noOr
  · intro plain
    exact ⟨plain.opening, plain.closing, plain.apart .and, plain.apart .or⟩

instance (chars : List Char) : Decidable (Plain chars) := decidable_of_iff _ plain_iff

theorem Plain.tail {char : Char} {chars : List Char} (plain : Plain (char :: chars)) :
    Plain chars where
  opening := fun inside => plain.opening (List.mem_cons_of_mem char inside)
  closing := fun inside => plain.closing (List.mem_cons_of_mem char inside)
  apart := fun connector inside =>
    plain.apart connector (inside.trans (List.suffix_cons char chars).isInfix)

/-- What may follow a part: nothing, the end of parentheses, or a word and another part. -/
inductive Boundary : List Char → Prop
  | stop : Boundary []
  | closing (rest) : Boundary (')' :: rest)
  | joiner (connector rest) : Boundary ((Formula.between connector).toList ++ rest)

theorem tokens_between (connector : Connector) (rest : List Char) :
    tokens ((Formula.between connector).toList ++ rest) = .joiner connector :: tokens rest := by
  cases connector <;> rfl

theorem Boundary.glued {rest : List Char} (boundary : Boundary rest) (char : Char) :
    glued char (tokens rest) = .phrase [char] :: tokens rest := by
  cases boundary with
  | stop => rfl
  | closing rest => rfl
  | joiner connector rest =>
      rw [tokens_between]
      rfl

theorem Boundary.head {rest : List Char} (boundary : Boundary rest) :
    ∀ char ∈ rest.head?, char = ' ' ∨ char = ')' := by
  cases boundary with
  | stop => simp
  | closing rest => simp
  | joiner connector rest => cases connector <;> simp [Formula.between, Connector.name]

theorem tokens_cons {char : Char} {rest : List Char} (opening : char ≠ '(') (closing : char ≠ ')')
    (apart : ∀ connector : Connector, ¬ connector.name.toList <+: rest) :
    tokens (char :: rest) = glued char (tokens rest) := by
  rw [tokens]
  · exact fun same => absurd same opening
  · exact fun same => absurd same closing
  · rintro tail rfl rfl
    exact apart .and ⟨_, rfl⟩
  · rintro tail rfl rfl
    exact apart .or ⟨_, rfl⟩

theorem Plain.not_prefix {chars rest : List Char} (plain : Plain chars) (boundary : Boundary rest)
    (connector : Connector) : ¬ connector.name.toList <+: chars ++ rest := by
  intro found
  rcases List.prefix_or_prefix_of_prefix found (List.prefix_append chars rest) with inside | short
  · exact plain.apart connector inside.isInfix
  · obtain ⟨letters, name⟩ := short
    rw [← name, List.prefix_append_right_inj] at found
    cases letters with
    | nil =>
        rw [List.append_nil] at name
        exact plain.apart connector (name ▸ List.infix_refl chars)
    | cons letter letters =>
        -- The rest would begin with a letter of the name.
        obtain ⟨behind, rfl⟩ := found
        have member : letter ∈ connector.name.toList := by
          rw [← name]
          exact List.mem_append_right chars List.mem_cons_self
        have stop := boundary.head letter rfl
        cases connector <;> simp [Connector.name] at member <;> grind

theorem tokens_phrase {chars rest : List Char} (plain : Plain chars) (present : chars ≠ [])
    (boundary : Boundary rest) : tokens (chars ++ rest) = .phrase chars :: tokens rest := by
  induction chars with
  | nil => exact absurd rfl present
  | cons char chars ih =>
      have opening : char ≠ '(' := fun same => plain.opening (same ▸ List.mem_cons_self)
      have closing : char ≠ ')' := fun same => plain.closing (same ▸ List.mem_cons_self)
      rw [List.cons_append, tokens_cons opening closing (plain.tail.not_prefix boundary)]
      cases chars with
      | nil => exact boundary.glued char
      | cons next chars =>
          rw [ih plain.tail (List.cons_ne_nil next chars)]
          rfl

/-! Steps over a text. -/

variable {level : Level} {outer : List Level}

theorem advance?_opening (levels : List Level) (rest : List Char) :
    advance? levels ('(' :: rest) = advance? (.empty :: levels) rest := by
  rw [advance?, tokens, List.foldlM_cons]
  cases levels with
  | nil => rfl
  | cons level outer => rfl

theorem advance?_closing {part : Reading} {next : Level} (read : level.reading? = some part)
    (rest : List Char) :
    advance? (level :: next :: outer) (')' :: rest) = advance? (next.add part :: outer) rest := by
  rw [advance?, tokens, List.foldlM_cons, step, read]
  rfl

theorem advance?_between {connector : Connector} {next : Level}
    (joined : level.joined? connector = some next) (rest : List Char) :
    advance? (level :: outer) ((Formula.between connector).toList ++ rest) =
      advance? (next :: outer) rest := by
  rw [advance?, tokens_between, List.foldlM_cons, step, joined]
  rfl

theorem advance?_phrase {text : String} {rest : List Char} (plain : Plain text.toList)
    (present : text ≠ "") (boundary : Boundary rest) :
    advance? (level :: outer) (text.toList ++ rest) =
      advance? (level.add (.phrase text) :: outer) rest := by
  have chars : text.toList ≠ [] := by simpa using present
  rw [advance?, tokens_phrase plain chars boundary, List.foldlM_cons, step, String.ofList_toList]
  rfl

end Reading

namespace Formula

mutual

def reading : Formula → Reading
  | leaf predicate => .phrase predicate.phrase
  | node connector parts => .joined connector (readings parts)

def readings : List Formula → List Reading
  | [] => []
  | part :: parts => part.reading :: readings parts

end

theorem readings_eq_map (parts : List Formula) : readings parts = parts.map reading := by
  induction parts with
  | nil => rfl
  | cons part parts ih => rw [readings, ih, List.map_cons]

open Reading

/-- The text of a part in front of a boundary adds the part to the innermost level. -/
def Reads (connector : Connector) (part : Formula) : Prop :=
  ∀ level outer rest, Boundary rest →
    advance? (level :: outer) ((part.print (some connector)).toList ++ rest) =
      advance? (level.add part.reading :: outer) rest

def further (connector : Connector) (parts : List Formula) : List Char :=
  parts.flatMap fun part => (between connector).toList ++ (part.print (some connector)).toList

theorem toList_intercalate_cons (joint first : String) (rest : List String) :
    (String.intercalate joint (first :: rest)).toList =
      first.toList ++ rest.flatMap fun text => joint.toList ++ text.toList := by
  induction rest generalizing first with
  | nil => simp [String.intercalate_singleton]
  | cons next rest ih =>
      rw [String.intercalate_cons_cons, String.toList_append, String.toList_append, ih]
      simp

theorem toList_print_node (connector : Connector) (first : Formula) (rest : List Formula) :
    ((node connector (first :: rest)).print none).toList =
      (first.print (some connector)).toList ++ further connector rest := by
  rw [print, if_neg (by simp), prints, toList_intercalate_cons, prints_eq_map, List.flatMap_map]
  rfl

theorem boundary_further (connector : Connector) {rest : List Char} (boundary : Boundary rest)
    (parts : List Formula) : Boundary (further connector parts ++ rest) := by
  cases parts with
  | nil => exact boundary
  | cons part parts =>
      rw [further, List.flatMap_cons, List.append_assoc, List.append_assoc]
      exact .joiner connector _

theorem advance?_further {connector : Connector} {part : Formula} {parts : List Formula}
    (reads : ∀ other ∈ part :: parts, other.Reads connector) {level : Level}
    (joins : level.connector.all (· = connector)) (outer : List Level) {rest : List Char}
    (boundary : Boundary rest) :
    advance? (level :: outer) (further connector (part :: parts) ++ rest) =
      advance? (⟨some connector, level.parts ++ (part :: parts).map reading⟩ :: outer) rest := by
  induction parts generalizing level part with
  | nil =>
      rw [further, List.flatMap_singleton, List.append_assoc, advance?_between (if_pos joins),
        reads part List.mem_cons_self _ _ _ boundary]
      rfl
  | cons next parts ih =>
      have tail := boundary_further connector boundary (next :: parts)
      rw [further, List.flatMap_cons, List.append_assoc, List.append_assoc,
        advance?_between (if_pos joins), ← further, reads part List.mem_cons_self _ _ _ tail,
        ih (fun other member => reads other (List.mem_cons_of_mem part member))
          (by simp [Level.add]),
        Level.add, List.append_assoc]
      rfl

theorem advance?_node {connector : Connector} {parts : List Formula} (several : 2 ≤ parts.length)
    (reads : ∀ part ∈ parts, part.Reads connector) (outer : List Level) {rest : List Char}
    (boundary : Boundary rest) :
    advance? (.empty :: outer) (((node connector parts).print none).toList ++ rest) =
      advance? (⟨some connector, parts.map reading⟩ :: outer) rest := by
  match parts, several with
  | first :: second :: others, _ =>
      have tail := boundary_further connector boundary (second :: others)
      rw [toList_print_node, List.append_assoc, reads first List.mem_cons_self _ _ _ tail,
        advance?_further (fun other member => reads other (List.mem_cons_of_mem first member)) rfl
          outer boundary]
      rfl

theorem Normal.reads {formula : Formula} (normal : formula.Normal)
    (plain : ∀ predicate ∈ formula.predicates, Plain predicate.phrase.toList)
    {parent : Connector} (other : formula.connector? ≠ some parent) : formula.Reads parent := by
  induction normal generalizing parent with
  | leaf predicate =>
      intro level outer rest boundary
      have phrase := plain predicate List.mem_cons_self
      exact advance?_phrase phrase (phrase_ne_empty predicate) boundary
  | node connector parts several others normals ih =>
      intro level outer rest boundary
      have reads : ∀ part ∈ parts, part.Reads connector := by
        intro part member
        refine ih part member ?_ (others part member)
        exact fun predicate inside => plain predicate (mem_predicates_node member inside)
      -- Under another connector the parts are read on a level of their own.
      have enclosed : some parent ≠ some connector := fun same => other same.symm
      have text : ((Formula.node connector parts).print (some parent)).toList ++ rest =
          '(' :: (((Formula.node connector parts).print none).toList ++ ')' :: rest) := by
        rw [print_node, if_pos ⟨rfl, enclosed⟩]
        simp
      rw [text, advance?_opening, advance?_node several reads _ (.closing rest), reading,
        readings_eq_map]
      exact advance?_closing rfl rest

theorem Normal.ofText?_print {formula : Formula} (normal : formula.Normal)
    (plain : ∀ predicate ∈ formula.predicates, Plain predicate.phrase.toList) :
    ofText? (formula.print none) = some formula.reading := by
  rw [ofText?, ← List.append_nil (formula.print none).toList]
  cases normal with
  | leaf predicate =>
      have phrase := plain predicate List.mem_cons_self
      rw [print, advance?_phrase phrase (phrase_ne_empty predicate) .stop]
      rfl
  | node connector parts several others normals =>
      have reads : ∀ part ∈ parts, part.Reads connector := by
        intro part member
        refine (normals part member).reads ?_ (others part member)
        exact fun predicate inside => plain predicate (mem_predicates_node member inside)
      rw [advance?_node several reads [] .stop, reading, readings_eq_map]
      rfl

end Formula

/-! The structure of queries. -/

inductive Shape where
  | test
  | joined (connector : Connector) (parts : List Shape)

namespace Query

mutual

def shape : Query → Shape
  | test _ | except _ => .test
  | all parts => .joined .and (shapes parts)
  | any parts => .joined .or (shapes parts)

def shapes : List Query → List Shape
  | [] => []
  | part :: parts => part.shape :: shapes parts

end

theorem shapes_eq_map (parts : List Query) : shapes parts = parts.map shape := by
  induction parts with
  | nil => rfl
  | cons part parts ih => rw [shapes, ih, List.map_cons]

end Query

namespace Reading

mutual

def shape : Reading → Shape
  | phrase _ => .test
  | joined connector parts => .joined connector (shapes parts)

def shapes : List Reading → List Shape
  | [] => []
  | part :: parts => part.shape :: shapes parts

end

theorem shapes_eq_map (parts : List Reading) : shapes parts = parts.map shape := by
  induction parts with
  | nil => rfl
  | cons part parts ih => rw [shapes, ih, List.map_cons]

end Reading

theorem Formula.shape_query (compiler : Compiler) (formula : Formula) :
    (formula.query compiler).shape = formula.reading.shape := by
  induction formula with
  | leaf predicate =>
      rw [query, Compiler.leafQuery]
      split <;> rfl
  | node connector parts ih =>
      have each : Query.shapes (queries compiler parts) = Reading.shapes (readings parts) := by
        rw [Query.shapes_eq_map, queries_eq_map, Reading.shapes_eq_map, readings_eq_map,
          List.map_map, List.map_map]
        exact List.map_congr_left ih
      cases connector <;> rw [query, Query.shape, reading, Reading.shape, each]

/-! Previews of trees. -/

def Tree.Plain (rules : Rules) (tree : Tree) : Prop :=
  ∀ clause ∈ tree.leaves, ∀ predicate, rules.complete clause = .ok predicate →
    Reading.Plain predicate.phrase.toList

instance (rules : Rules) (tree : Tree) : Decidable (tree.Plain rules) :=
  decidable_of_iff (∀ clause ∈ tree.leaves, ∀ predicate ∈ (rules.complete clause).toOption,
    Reading.Plain predicate.phrase.toList)
    (by simp only [Tree.Plain, Option.mem_def, Tree.toOption_complete_eq_some_iff])

theorem Rules.ofText?_preview {rules : Rules} {tree : Tree} (plain : tree.Plain rules)
    (shown : rules.preview (some tree) ≠ "") :
    ∃ reading, Reading.ofText? (rules.preview (some tree)) = some reading ∧
      (tree.canonical? rules).map Formula.reading = some reading ∧
      ∀ ignoreCase,
        (Compiler.query? ⟨rules, ignoreCase⟩ tree).map Query.shape = some reading.shape := by
  rw [Rules.preview, Option.bind_some, render?_eq_canonical] at shown ⊢
  cases found : tree.canonical? rules with
  | none => simp [found] at shown
  | some formula =>
      have phrases : ∀ predicate ∈ formula.predicates,
          Reading.Plain predicate.phrase.toList := by
        intro predicate member
        obtain ⟨clause, known, complete⟩ := Tree.complete_of_mem found member
        exact plain clause known predicate complete
      refine ⟨formula.reading, (Tree.canonical?_normal found).ofText?_print phrases, rfl, ?_⟩
      intro ignoreCase
      have query := Compiler.query?_eq_canonical ⟨rules, ignoreCase⟩ tree
      rw [query, found]
      exact congrArg some (formula.shape_query ⟨rules, ignoreCase⟩)

/-- Trees with the same text have the same canonical form up to what their phrases do not tell. The
text alone says what it is, and how the query of each tree is combined. -/
theorem preview_unambiguous {rules : Rules} {first second : Tree} (firstPlain : first.Plain rules)
    (secondPlain : second.Plain rules)
    (same : rules.preview (some first) = rules.preview (some second))
    (shown : rules.preview (some first) ≠ "") :
    ∃ reading, Reading.ofText? (rules.preview (some first)) = some reading ∧
      ∀ tree ∈ [first, second], (tree.canonical? rules).map Formula.reading = some reading ∧
        ∀ ignoreCase,
          (Compiler.query? ⟨rules, ignoreCase⟩ tree).map Query.shape = some reading.shape := by
  obtain ⟨reading, read, canonical⟩ := Rules.ofText?_preview firstPlain shown
  obtain ⟨other, otherRead, otherCanonical⟩ := Rules.ofText?_preview secondPlain (same ▸ shown)
  obtain rfl : reading = other := by
    rw [← same, read] at otherRead
    exact Option.some.inj otherRead
  exact ⟨reading, read,
    List.forall_mem_cons.mpr ⟨canonical, List.forall_mem_singleton.mpr otherCanonical⟩⟩

theorem preview_unambiguous_of_nested :
    let leaf := fun name => Tree.leaf (Clause.of name .present)
    let alternatives := Tree.node .or [leaf "c", leaf "d"]
    let nested := Tree.node .and [leaf "a", .node .and [leaf "b", alternatives], .leaf {}]
    let flat := Tree.node .and [leaf "a", leaf "b", alternatives]
    nested.Plain {} ∧ flat.Plain {} ∧
      Rules.preview {} (some nested) = "a: exists AND b: exists AND (c: exists OR d: exists)" ∧
      Rules.preview {} (some nested) = Rules.preview {} (some flat) ∧
      (nested.canonical? {}).map Formula.reading = (flat.canonical? {}).map Formula.reading := by
  intro leaf alternatives nested flat
  have plain : nested.Plain {} ∧ flat.Plain {} := by decide +kernel
  have text : Rules.preview {} (some nested) =
      "a: exists AND b: exists AND (c: exists OR d: exists)" := by rfl
  have same : Rules.preview {} (some nested) = Rules.preview {} (some flat) := by rfl
  obtain ⟨reading, -, each⟩ := preview_unambiguous plain.1 plain.2 same (by simp [text])
  have first := (each nested (by simp)).1
  have second := (each flat (by simp)).1
  exact ⟨plain.1, plain.2, text, same, first.trans second.symm⟩

end SearchFilter
