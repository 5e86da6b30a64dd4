import BindingStubs.Proofs.Keyed
import BindingStubs.Proofs.Tree.Orderly
import Mathlib.Data.List.Forall2
import Mathlib.Data.List.Sort
import Mathlib.Order.Monotone.Basic

namespace BindingStubs

/-!
# Units with more wrappers

A compiler puts casts, parentheses and temporaries around expressions as it sees fit.  Two units
are compared here that differ in such wrappers only: every node of the one has its place in the
other, and where it was the child of a node, it now lies below any number of wrappers.  What is
read by position, by kind or by name from the one is found at the corresponding places of the
other.
-/

namespace NodeKind

/-- Whether a node of this kind is an expression, a wrapper included. -/
def isExpression : NodeKind → Bool
  | .call | .construct | .lambda | .memberReference | .declarationReference | .stringLiteral
  | .integerLiteral | .floatingLiteral | .boolLiteral | .nullPointerLiteral | .initializerList
  | .binaryOperator | .unaryOperator | .implicitCast | .parenthesized | .unexposed => true
  | _ => false

/-- What is answered alike for the three kinds of wrappers is answered so for every wrapper. -/
theorem answer_of_isTransparent
    {Answer : Type}
    (question : NodeKind → Answer)
    {answer : Answer}
    (ofCast : question .implicitCast = answer)
    (ofParentheses : question .parenthesized = answer)
    (ofUnexposed : question .unexposed = answer)
    {kind : NodeKind}
    (transparent : kind.isTransparent) :
    question kind = answer := by
  cases kind <;> first | assumption | cases transparent

theorem isExpression_of_isTransparent
    {kind : NodeKind}
    (transparent : kind.isTransparent) :
    kind.isExpression :=
  answer_of_isTransparent isExpression rfl rfl rfl transparent

/-- Whether a question about kinds has one answer for all expressions. -/
def SameForExpressions
    (question : NodeKind → Bool) :
    Prop :=
  ∀ first second : NodeKind,
    first.isExpression → second.isExpression → question first = question second

/-- No expression is of another kind. -/
theorem beq_eq_false_of_isExpression
    {kind found : NodeKind}
    (noExpression : kind.isExpression = false)
    (expression : found.isExpression) :
    (found == kind) = false := by
  refine beq_eq_false_iff_ne.mpr fun same => ?_
  rw [same, noExpression] at expression
  cases expression

theorem sameForExpressions_beq
    (kind : NodeKind)
    (noExpression : kind.isExpression = false) :
    SameForExpressions (· == kind) := by
  intro first second isFirst isSecond
  simp only [beq_eq_false_of_isExpression noExpression isFirst,
    beq_eq_false_of_isExpression noExpression isSecond]

theorem sameForExpressions_bne
    (kind : NodeKind)
    (noExpression : kind.isExpression = false) :
    SameForExpressions (· != kind) := by
  intro first second isFirst isSecond
  simp only [bne, beq_eq_false_of_isExpression noExpression isFirst,
    beq_eq_false_of_isExpression noExpression isSecond]

end NodeKind

namespace TranslationUnit

/-- Whether a node of the unit with more wrappers is a node of the other unit at its place, or
lies above it with nothing but added wrappers between.  An added wrapper has the type of the
expression that it wraps; its value is never read. -/
inductive Carries
    (unit wrapped : TranslationUnit)
    (place : NodeId → NodeId) :
    NodeId → NodeId → Prop
  | here (id : NodeId) : Carries unit wrapped place id (place id)
  | wrapper {id inner outer : NodeId} :
      Carries unit wrapped place id inner →
      (unit.kind id).isExpression →
      (wrapped.kind outer).isTransparent →
      wrapped.children outer = [inner] →
      wrapped.typeSpelling? outer = wrapped.typeSpelling? inner →
      Carries unit wrapped place id outer

/-- Whether a unit is another one with any number of wrappers added above expressions.  Nodes
keep their order and what is known of them; positions beyond the last node go beyond the last
node. -/
structure AddsWrappers
    (unit wrapped : TranslationUnit)
    (place : NodeId → NodeId) :
    Prop where
  place_root : place root = root
  strictMono : StrictMono place
  place_lt : ∀ id, place id < wrapped.nodes.size ↔ id < unit.nodes.size
  spec : ∀ id, (wrapped.node (place id)).toNodeSpec = (unit.node id).toNodeSpec
  referenced : ∀ id, wrapped.referenced? (place id) = (unit.referenced? id).map place
  children : ∀ id,
    List.Forall₂ (Carries unit wrapped place) (unit.children id) (wrapped.children (place id))
  detached : ∀ id, (unit.node id).parent = none → (wrapped.node (place id)).parent = none
  carried : ∀ other < wrapped.nodes.size, ∃ id, Carries unit wrapped place id other

/-- Two orderly units of which one adds wrappers to the other. -/
structure Wrapping
    (unit wrapped : TranslationUnit)
    (place : NodeId → NodeId) : Prop
    extends AddsWrappers unit wrapped place where
  orderly : unit.IsOrderly
  wrappedOrderly : wrapped.IsOrderly

variable {unit wrapped : TranslationUnit} {place : NodeId → NodeId} {id other : NodeId}

namespace Wrapping

/-! ## What a node says at its place -/

theorem kind_place
    (wrapping : Wrapping unit wrapped place)
    (id : NodeId) :
    wrapped.kind (place id) = unit.kind id :=
  congrArg NodeSpec.kind (wrapping.spec id)

theorem spelling_place
    (wrapping : Wrapping unit wrapped place)
    (id : NodeId) :
    wrapped.spelling (place id) = unit.spelling id :=
  congrArg NodeSpec.spelling (wrapping.spec id)

theorem location_place
    (wrapping : Wrapping unit wrapped place)
    (id : NodeId) :
    wrapped.location (place id) = unit.location id :=
  congrArg NodeSpec.location (wrapping.spec id)

theorem value?_place
    (wrapping : Wrapping unit wrapped place)
    (id : NodeId) :
    wrapped.value? (place id) = unit.value? id :=
  congrArg NodeSpec.value (wrapping.spec id)

theorem typeSpelling?_place
    (wrapping : Wrapping unit wrapped place)
    (id : NodeId) :
    wrapped.typeSpelling? (place id) = unit.typeSpelling? id :=
  congrArg NodeSpec.type (wrapping.spec id)

theorem type?_place
    (wrapping : Wrapping unit wrapped place)
    (id : NodeId) :
    wrapped.type? (place id) = unit.type? id := by
  rw [type?, typeSpelling?_place wrapping, type?]

theorem referenced?_place
    (wrapping : Wrapping unit wrapped place)
    (id : NodeId) :
    wrapped.referenced? (place id) = (unit.referenced? id).map place :=
  wrapping.referenced id

/-- A node that a question about kinds picks is picked at its place. -/
theorem filter_map_place
    (wrapping : Wrapping unit wrapped place)
    (question : NodeKind → Bool)
    (found : Option NodeId) :
    ((found.map place).filter fun other => question (wrapped.kind other)) =
      (found.filter fun id => question (unit.kind id)).map place := by
  cases found with
  | none => rfl
  | some id =>
      simp only [Option.map_some, Option.filter_some, wrapping.kind_place]
      split <;> rfl

/-- The units without their tables of type declarations correspond in the same way. -/
theorem bare
    (wrapping : Wrapping unit wrapped place) :
    Wrapping unit.bare wrapped.bare place where
  place_root := wrapping.place_root
  strictMono := wrapping.strictMono
  place_lt := wrapping.place_lt
  spec := wrapping.spec
  referenced := wrapping.referenced
  children id := (wrapping.children id).imp fun _ _ => carries_bare
  detached := wrapping.detached
  carried other inside := (wrapping.carried other inside).imp fun _ => carries_bare
  orderly := wrapping.orderly.bare
  wrappedOrderly := wrapping.wrappedOrderly.bare
where
  /-- What is carried does not depend on the tables. -/
  carries_bare {id other : NodeId}
      (carries : Carries unit wrapped place id other) :
      Carries unit.bare wrapped.bare place id other := by
    induction carries with
    | here => exact .here _
    | wrapper _ expression transparent child sameType inductionHypothesis =>
        exact .wrapper inductionHypothesis expression transparent child sameType

end Wrapping

/-! ## What a wrapper shows of the node that it carries -/

namespace Carries

/-- A wrapper has the type of the node that it carries. -/
theorem typeSpelling?_eq
    (carries : Carries unit wrapped place id other)
    (wrapping : Wrapping unit wrapped place) :
    wrapped.typeSpelling? other = unit.typeSpelling? id := by
  induction carries with
  | here => exact wrapping.typeSpelling?_place _
  | wrapper _ _ _ _ sameType inductionHypothesis => exact sameType.trans inductionHypothesis

theorem type?_eq
    (carries : Carries unit wrapped place id other)
    (wrapping : Wrapping unit wrapped place) :
    wrapped.type? other = unit.type? id := by
  rw [type?, carries.typeSpelling?_eq wrapping, type?]

/-- Only an expression is carried by another node than the one at its place. -/
theorem eq_place_of_not_isExpression
    (carries : Carries unit wrapped place id other)
    (noExpression : (unit.kind id).isExpression = false) :
    other = place id := by
  cases carries with
  | here => rfl
  | wrapper _ expression => rw [noExpression] at expression; cases expression

/-- A question that does not tell expressions apart has the same answer for a wrapper and for the
node that it carries. -/
theorem question_kind
    (carries : Carries unit wrapped place id other)
    (wrapping : Wrapping unit wrapped place)
    {question : NodeKind → Bool}
    (same : NodeKind.SameForExpressions question) :
    question (wrapped.kind other) = question (unit.kind id) := by
  cases carries with
  | here => rw [wrapping.kind_place]
  | wrapper _ expression transparent =>
      exact same _ _ (NodeKind.isExpression_of_isTransparent transparent) expression

theorem kind_eq_iff
    (carries : Carries unit wrapped place id other)
    (wrapping : Wrapping unit wrapped place)
    (kind : NodeKind)
    (noExpression : kind.isExpression = false) :
    wrapped.kind other = kind ↔ unit.kind id = kind := by
  have same := NodeKind.sameForExpressions_beq kind noExpression
  rw [← beq_iff_eq, carries.question_kind wrapping same, beq_iff_eq]

end Carries

namespace Wrapping

/-- Children are filtered alike by a question that does not tell expressions apart. -/
theorem forall₂_filter
    (wrapping : Wrapping unit wrapped place)
    {nodes others : List NodeId}
    (carries : List.Forall₂ (Carries unit wrapped place) nodes others)
    {question : NodeKind → Bool}
    (same : NodeKind.SameForExpressions question) :
    List.Forall₂ (Carries unit wrapped place)
      (nodes.filter fun id => question (unit.kind id))
      (others.filter fun other => question (wrapped.kind other)) := by
  refine List.rel_filter (fun id other carried => ?_) carries
  simp only [carried.question_kind wrapping same]

/-- The children that a question picks which no expression passes are at their places. -/
theorem filter_children_place
    (wrapping : Wrapping unit wrapped place)
    (question : NodeKind → Bool)
    (refuses : ∀ kind : NodeKind, kind.isExpression → question kind = false)
    (id : NodeId) :
    ((wrapped.children (place id)).filter fun other => question (wrapped.kind other)) =
      ((unit.children id).filter fun child => question (unit.kind child)).map place := by
  have same : NodeKind.SameForExpressions question := fun first second isFirst isSecond =>
    (refuses first isFirst).trans (refuses second isSecond).symm
  have carried := wrapping.forall₂_filter (wrapping.children id) same
  have picked : ∀ child ∈ (unit.children id).filter fun child => question (unit.kind child),
      (unit.kind child).isExpression = false := by
    intro child member
    have passes := (List.mem_filter.mp member).2
    cases expression : (unit.kind child).isExpression with
    | false => rfl
    | true => rw [refuses _ expression] at passes; cases passes
  generalize (unit.children id).filter (fun child => question (unit.kind child)) = nodes
    at carried picked
  generalize (wrapped.children (place id)).filter (fun other => question (wrapped.kind other)) =
    others at carried
  induction carried with
  | nil => rfl
  | cons carries _ inductionHypothesis =>
      rw [List.map_cons, inductionHypothesis fun child member =>
          picked child (List.mem_cons_of_mem _ member),
        carries.eq_place_of_not_isExpression (picked _ List.mem_cons_self)]

theorem childrenOfKind_place
    (wrapping : Wrapping unit wrapped place)
    (kind : NodeKind)
    (noExpression : kind.isExpression = false)
    (id : NodeId) :
    wrapped.childrenOfKind (place id) kind = (unit.childrenOfKind id kind).map place := by
  have refuses : ∀ found : NodeKind, found.isExpression → (found == kind) = false := fun _ =>
    NodeKind.beq_eq_false_of_isExpression noExpression
  exact wrapping.filter_children_place (· == kind) refuses id

/-- Lists of carried nodes agree at every position. -/
theorem rel_getElem?
    {Left Right : Type}
    {relation : Left → Right → Prop}
    {lefts : List Left}
    {rights : List Right}
    (related : List.Forall₂ relation lefts rights)
    (index : Nat) :
    Option.Rel relation lefts[index]? rights[index]? := by
  induction related generalizing index with
  | nil => exact .none
  | cons head _ inductionHypothesis =>
      cases index with
      | zero => exact .some head
      | succ index => exact inductionHypothesis index

/-- A child at a position is carried by the child at that position. -/
theorem rel_child?
    (wrapping : Wrapping unit wrapped place)
    (id : NodeId)
    (index : Nat) :
    Option.Rel (Carries unit wrapped place)
      (unit.child? id index) (wrapped.child? (place id) index) :=
  rel_getElem? (wrapping.children id) index

theorem isEmpty_children_place
    (wrapping : Wrapping unit wrapped place)
    (id : NodeId) :
    (wrapped.children (place id)).isEmpty = (unit.children id).isEmpty := by
  have sameLength := (wrapping.children id).length_eq
  rw [Bool.eq_iff_iff, List.isEmpty_iff_length_eq_zero, List.isEmpty_iff_length_eq_zero,
    sameLength]

/-! ## Ancestors and names -/

/-- The child of a node lies, with the wrappers above it, below the place of the node. -/
theorem exists_carries_of_parent
    (wrapping : Wrapping unit wrapped place)
    {id parent : NodeId}
    (above : (unit.node id).parent = some parent) :
    ∃ top, Carries unit wrapped place id top ∧ (wrapped.node top).parent = some (place parent) := by
  have member := wrapping.orderly.mem_children above
  obtain ⟨top, isChild, carries⟩ := exists_of_mem (wrapping.children parent) member
  exact ⟨top, carries, wrapping.wrappedOrderly.parent_child isChild⟩
where
  /-- Every element of one list has a related one in the other. -/
  exists_of_mem {nodes others : List NodeId} {id : NodeId}
      (carried : List.Forall₂ (Carries unit wrapped place) nodes others)
      (member : id ∈ nodes) :
      ∃ top ∈ others, Carries unit wrapped place id top := by
    induction carried with
    | nil => cases member
    | cons carries _ inductionHypothesis =>
        rcases List.mem_cons.mp member with rfl | later
        · exact ⟨_, List.mem_cons_self, carries⟩
        · obtain ⟨top, isChild, carriesTop⟩ := inductionHypothesis later
          exact ⟨top, List.mem_cons_of_mem _ isChild, carriesTop⟩

/-- A node that is no expression keeps its parent. -/
theorem parent_place_of_not_isExpression
    (wrapping : Wrapping unit wrapped place)
    (noExpression : (unit.kind id).isExpression = false) :
    (wrapped.node (place id)).parent = (unit.node id).parent.map place := by
  cases above : (unit.node id).parent with
  | none => exact wrapping.detached id above
  | some parent =>
      obtain ⟨top, carries, topParent⟩ := wrapping.exists_carries_of_parent above
      rwa [carries.eq_place_of_not_isExpression noExpression] at topParent

end Wrapping

/-- The nodes of a list that are no wrappers. -/
def plain
    (unit : TranslationUnit)
    (nodes : List NodeId) :
    List NodeId :=
  nodes.filter fun id => !(unit.kind id).isTransparent

/-- The wrappers above a carried node add nothing but wrappers to its ancestors. -/
theorem Carries.plain_ancestors
    (carries : Carries unit wrapped place id other)
    (wrappedOrderly : wrapped.IsOrderly) :
    wrapped.plain (wrapped.ancestors (place id)) = wrapped.plain (wrapped.ancestors other) := by
  induction carries with
  | here => rfl
  | @wrapper inner outer _ _ transparent child _ inductionHypothesis =>
      have member : inner ∈ wrapped.children outer := child ▸ List.mem_singleton_self inner
      have above := wrappedOrderly.ancestors_of_parent (wrappedOrderly.parent_child member)
      rw [inductionHypothesis, above, plain, List.filter_cons_of_neg (by simp [transparent]), plain]

namespace Wrapping

/-- A node and its place have the same ancestors, up to wrappers. -/
theorem plain_ancestors_place
    (wrapping : Wrapping unit wrapped place)
    (id : NodeId) :
    wrapped.plain (wrapped.ancestors (place id)) =
      (unit.plain (unit.ancestors id)).map place := by
  induction id using wrapping.orderly.induction_on_parent with
  | step id inductionHypothesis =>
      cases above : (unit.node id).parent with
      | none =>
          rw [IsOrderly.ancestors_of_parent_eq_none above,
            IsOrderly.ancestors_of_parent_eq_none (wrapping.detached id above)]
          rfl
      | some parent =>
          obtain ⟨top, carries, topParent⟩ := wrapping.exists_carries_of_parent above
          rw [carries.plain_ancestors wrapping.wrappedOrderly,
            wrapping.wrappedOrderly.ancestors_of_parent topParent,
            wrapping.orderly.ancestors_of_parent above]
          have upper := inductionHypothesis parent above
          rw [plain, plain] at upper ⊢
          rw [List.filter_cons, List.filter_cons, upper, wrapping.kind_place]
          split <;> rfl

/-- What a reading that passes over wrappers finds among the ancestors of a node, it finds among
those of its place. -/
theorem filterMap_ancestors_place
    {Result : Type}
    (wrapping : Wrapping unit wrapped place)
    {read : NodeId → Option Result}
    {readWrapped : NodeId → Option Result}
    (same : ∀ id, readWrapped (place id) = read id)
    (passes : ∀ id, (unit.kind id).isTransparent → read id = none)
    (passesWrapped : ∀ id, (wrapped.kind id).isTransparent → readWrapped id = none)
    (id : NodeId) :
    (wrapped.ancestors (place id)).filterMap readWrapped =
      (unit.ancestors id).filterMap read := by
  rw [← filterMap_plain passes, ← filterMap_plain passesWrapped, wrapping.plain_ancestors_place,
    List.filterMap_map]
  exact congrArg (List.filterMap · _) (funext same)
where
  /-- Wrappers can be left out before a reading that passes over them. -/
  filterMap_plain {unit : TranslationUnit} {read : NodeId → Option Result}
      (passes : ∀ id, (unit.kind id).isTransparent → read id = none)
      {nodes : List NodeId} :
      (unit.plain nodes).filterMap read = nodes.filterMap read := by
    induction nodes with
    | nil => rfl
    | cons id rest inductionHypothesis =>
        rw [plain] at inductionHypothesis ⊢
        cases transparent : (unit.kind id).isTransparent with
        | false => simp [transparent, List.filterMap_cons, inductionHypothesis]
        | true => simp [transparent, passes id transparent, inductionHypothesis]

theorem scopeName?_place
    (wrapping : Wrapping unit wrapped place)
    (id : NodeId) :
    wrapped.scopeName? (place id) = unit.scopeName? id := by
  rw [scopeName?, scopeName?, wrapping.kind_place, wrapping.spelling_place]

theorem scopeName?_of_isTransparent
    (transparent : (unit.kind id).isTransparent) :
    unit.scopeName? id = none := by
  rw [scopeName?]
  split <;> first | rfl | simp_all [NodeKind.isTransparent]

/-- A declaration keeps its qualified name. -/
theorem qualifiedName_place
    (wrapping : Wrapping unit wrapped place)
    (id : NodeId) :
    wrapped.qualifiedName (place id) = unit.qualifiedName id := by
  rw [qualifiedName, wrapping.spelling_place,
    wrapping.filterMap_ancestors_place wrapping.scopeName?_place
      (fun _ => scopeName?_of_isTransparent) (fun _ => scopeName?_of_isTransparent),
    qualifiedName]

/-! ## The table of type declarations -/

/-- The nodes that a question picks are found in the same order, if it picks no added wrapper. -/
theorem filter_range_place
    (wrapping : Wrapping unit wrapped place)
    {picks picksWrapped : NodeId → Bool}
    (same : ∀ id, picksWrapped (place id) = picks id)
    (atPlace : ∀ id other, Carries unit wrapped place id other → picksWrapped other →
      place id = other) :
    (List.range wrapped.nodes.size).filter picksWrapped =
      ((List.range unit.nodes.size).filter picks).map place := by
  refine List.Pairwise.eq_of_mem_iff (List.pairwise_lt_range.filter _) ?_ ?_
  · exact List.pairwise_map.mpr
      ((List.pairwise_lt_range.filter _).imp fun before => wrapping.strictMono before)
  · intro other
    simp only [List.mem_filter, List.mem_map, List.mem_range]
    constructor
    · rintro ⟨inside, picked⟩
      obtain ⟨id, carries⟩ := wrapping.carried other inside
      obtain rfl := atPlace id other carries picked
      exact ⟨id, ⟨(wrapping.place_lt id).mp inside, same id ▸ picked⟩, rfl⟩
    · rintro ⟨id, ⟨inside, picked⟩, rfl⟩
      exact ⟨(wrapping.place_lt id).mpr inside, (same id).trans picked⟩

/-- Whether a node declares a record or an enum. -/
def declaresType
    (unit : TranslationUnit)
    (id : NodeId) :
    Bool :=
  (unit.kind id).isRecord || unit.kind id == .enumDeclaration

theorem declaresType_place
    (wrapping : Wrapping unit wrapped place)
    (id : NodeId) :
    declaresType wrapped (place id) = declaresType unit id := by
  rw [declaresType, wrapping.kind_place, declaresType]

/-- A wrapper declares no type. -/
theorem declaresType_of_isTransparent
    (transparent : (unit.kind id).isTransparent) :
    declaresType unit id = false :=
  NodeKind.answer_of_isTransparent (fun kind => kind.isRecord || kind == .enumDeclaration)
    rfl rfl rfl transparent

/-- Only declarations of types are entered into the table. -/
theorem foldl_indexDeclaration
    (nodes : List NodeId)
    (table : Keyed NodeId) :
    nodes.foldl (UnitBuilder.indexDeclaration unit) table =
      (nodes.filter (declaresType unit)).foldl (UnitBuilder.indexDeclaration unit) table := by
  rw [List.foldl_filter]
  congr
  funext table id
  split
  · rfl
  · rename_i declares
    rw [declaresType] at declares
    simp [UnitBuilder.indexDeclaration, declares]

/-- Entering a node at its place keeps the tables alike. -/
theorem get?_indexDeclaration_place
    (wrapping : Wrapping unit wrapped place)
    {table wrappedTable : Keyed NodeId}
    (alike : ∀ name, wrappedTable.get? name = (table.get? name).map place)
    (id : NodeId)
    (name : String) :
    (UnitBuilder.indexDeclaration wrapped wrappedTable (place id)).get? name =
      ((UnitBuilder.indexDeclaration unit table id).get? name).map place := by
  have inserted :
      (wrappedTable.insert (unit.qualifiedName id) (place id)).get? name =
        ((table.insert (unit.qualifiedName id) id).get? name).map place := by
    rw [Keyed.get?_insert, Keyed.get?_insert, alike]
    split <;> rfl
  simp only [UnitBuilder.indexDeclaration, wrapping.kind_place, wrapping.qualifiedName_place,
    alike]
  split
  · cases table.get? (unit.qualifiedName id) with
    | none => exact inserted
    | some existing =>
        simp only [Option.map_some, wrapping.isEmpty_children_place]
        split
        · exact alike name
        · exact inserted
  · exact alike name

theorem get?_foldl_indexDeclaration_place
    (wrapping : Wrapping unit wrapped place)
    (nodes : List NodeId)
    {table wrappedTable : Keyed NodeId}
    (alike : ∀ name, wrappedTable.get? name = (table.get? name).map place)
    (name : String) :
    ((nodes.map place).foldl (UnitBuilder.indexDeclaration wrapped) wrappedTable).get? name =
      ((nodes.foldl (UnitBuilder.indexDeclaration unit) table).get? name).map place := by
  induction nodes generalizing table wrappedTable with
  | nil => exact alike name
  | cons id rest inductionHypothesis =>
      exact inductionHypothesis (wrapping.get?_indexDeclaration_place alike id)

/-- A type is declared at the place of its declaration. -/
theorem typeDeclaration?_place
    (wrapping : Wrapping unit wrapped place)
    (indexed : unit.IsIndexed)
    (wrappedIndexed : wrapped.IsIndexed)
    (name : String) :
    wrapped.typeDeclaration? name = (unit.typeDeclaration? name).map place := by
  have sameNodes :
      (List.range wrapped.nodes.size).filter (declaresType wrapped.bare) =
        ((List.range unit.nodes.size).filter (declaresType unit.bare)).map place := by
    refine wrapping.filter_range_place wrapping.bare.declaresType_place
      fun id other carries declares => ?_
    cases carries with
    | here => rfl
    | wrapper _ _ transparent =>
        have declaresNot : declaresType wrapped.bare other = false :=
          declaresType_of_isTransparent transparent
        rw [declaresNot] at declares
        cases declares
  rw [typeDeclaration?, wrappedIndexed, foldl_indexDeclaration, sameNodes, typeDeclaration?,
    indexed, foldl_indexDeclaration (List.range unit.nodes.size)]
  exact wrapping.bare.get?_foldl_indexDeclaration_place _ (fun _ => rfl) name

end Wrapping

end TranslationUnit

end BindingStubs
