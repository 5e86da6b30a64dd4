import BindingStubs.Extraction.Receiver
import BindingStubs.Proofs.Tree.Wrapping

namespace BindingStubs

/-!
# Shapes do not see wrappers

What extraction reads from an expression it reads in the same way from a node that carries the
expression below added wrappers.  A reading that fails fails in both units; the faults may name
different places.
-/

/-- Whether two readings both succeed, with values in a relation, or both fail. -/
inductive Alike
    {Left Right : Type}
    (relation : Left → Right → Prop) :
    Except Fault Left → Except Fault Right → Prop
  | ok {left : Left} {right : Right} :
      relation left right → Alike relation (.ok left) (.ok right)
  | error (leftFault rightFault : Fault) :
      Alike relation (.error leftFault) (.error rightFault)

namespace Alike

variable {Left Right NextLeft NextRight : Type}
  {relation : Left → Right → Prop}
  {next : NextLeft → NextRight → Prop}

theorem refl
    (reading : Except Fault Left) :
    Alike Eq reading reading := by
  cases reading with
  | error fault => exact .error fault fault
  | ok value => exact .ok rfl

theorem of_eq
    {first second : Except Fault Left}
    (same : first = second) :
    Alike Eq first second :=
  same ▸ refl first

/-- Readings that go on alike from alike results are alike. -/
theorem bind
    {left : Except Fault Left}
    {right : Except Fault Right}
    {leftNext : Left → Except Fault NextLeft}
    {rightNext : Right → Except Fault NextRight}
    (first : Alike relation left right)
    (rest : ∀ leftValue rightValue,
      relation leftValue rightValue → Alike next (leftNext leftValue) (rightNext rightValue)) :
    Alike next (left >>= leftNext) (right >>= rightNext) := by
  cases first with
  | ok related => exact rest _ _ related
  | error leftFault rightFault => exact .error leftFault rightFault

/-- Readings of the same value go on alike. -/
theorem bind_eq
    {left right : Except Fault Left}
    {leftNext : Left → Except Fault NextLeft}
    {rightNext : Left → Except Fault NextRight}
    (first : Alike Eq left right)
    (rest : ∀ value, Alike next (leftNext value) (rightNext value)) :
    Alike next (left >>= leftNext) (right >>= rightNext) :=
  first.bind fun value _ same => same ▸ rest value

theorem map
    {left : Except Fault Left}
    {right : Except Fault Right}
    {leftMap : Left → NextLeft}
    {rightMap : Right → NextRight}
    (first : Alike relation left right)
    (maps : ∀ leftValue rightValue,
      relation leftValue rightValue → next (leftMap leftValue) (rightMap rightValue)) :
    Alike next (left.map leftMap) (right.map rightMap) := by
  cases first with
  | ok related => exact .ok (maps _ _ related)
  | error leftFault rightFault => exact .error leftFault rightFault

theorem map_eq
    {left right : Except Fault Left}
    (first : Alike Eq left right)
    (transform : Left → NextLeft) :
    Alike Eq (left.map transform) (right.map transform) :=
  first.map fun _ _ same => same ▸ rfl

theorem mismatch
    (unit wrapped : TranslationUnit)
    (idiom : String)
    (id other : NodeId)
    (reason otherReason : String) :
    Alike relation (Shape.mismatch unit idiom id reason)
      (Shape.mismatch wrapped idiom other otherReason) :=
  .error _ _

end Alike

namespace TranslationUnit

open Shape

variable {unit wrapped : TranslationUnit} {place : NodeId → NodeId} {id other : NodeId}

/-! ## Unwrapping -/

namespace Wrapping

/-- A wrapper of a unit wraps what carries its child. -/
theorem rel_wrapped?
    (wrapping : Wrapping unit wrapped place)
    (id : NodeId) :
    Option.Rel (Carries unit wrapped place)
      (wrapped? unit id) (wrapped? wrapped (place id)) := by
  rw [wrapped?, wrapped?, wrapping.kind_place]
  split
  · have carried := wrapping.children id
    generalize unit.children id = nodes at carried
    generalize wrapped.children (place id) = others at carried
    cases carried with
    | nil => exact .none
    | cons carries rest =>
        cases rest with
        | nil => exact .some carries
        | cons => exact .none
  · exact .none

end Wrapping

theorem Carries.unwrap_eq_unwrap_place
    (carries : Carries unit wrapped place id other)
    (wrappedOrderly : wrapped.IsOrderly) :
    unwrap wrapped other = unwrap wrapped (place id) := by
  induction carries with
  | here => rfl
  | wrapper _ _ transparent child _ inductionHypothesis =>
      rw [unwrap_of_wrapped? wrappedOrderly (wrapped?_eq_some_iff.mpr ⟨transparent, child⟩),
        inductionHypothesis]

/-- A node that carries an expression stands for the expression that is found at its place. -/
theorem Carries.unwrap_eq
    (carries : Carries unit wrapped place id other)
    (wrapping : Wrapping unit wrapped place) :
    unwrap wrapped other = place (unwrap unit id) := by
  induction id using wrapping.orderly.induction_on_children generalizing other with
  | step id inductionHypothesis =>
      rw [carries.unwrap_eq_unwrap_place wrapping.wrappedOrderly]
      match inner : wrapped? unit id, carrier : wrapped? wrapped (place id),
        wrapping.rel_wrapped? id with
      | none, none, .none =>
          rw [unwrap_of_wrapped?_eq_none inner, unwrap_of_wrapped?_eq_none carrier]
      | some child, some _, .some carriesChild =>
          rw [unwrap_of_wrapped? wrapping.orderly inner,
            unwrap_of_wrapped? wrapping.wrappedOrderly carrier,
            inductionHypothesis child (mem_children_of_wrapped? inner) carriesChild]

namespace Wrapping

/-- A child at a position stands for the same expression. -/
theorem unwrap_child?_place
    (wrapping : Wrapping unit wrapped place)
    (id : NodeId)
    (index : Nat) :
    (wrapped.child? (place id) index).map (unwrap wrapped) =
      ((unit.child? id index).map (unwrap unit)).map place := by
  match unit.child? id index, wrapped.child? (place id) index, wrapping.rel_child? id index with
  | none, none, .none => rfl
  | some _, some _, .some carries => simp [carries.unwrap_eq wrapping]

/-- Added wrappers make no chain of expressions longer. -/
theorem longestChain_eq
    (wrapping : Wrapping unit wrapped place) :
    longestChain wrapped = longestChain unit := by
  have sameNodes :
      (List.range wrapped.nodes.size).filter (fun id => (wrapped? wrapped id).isNone) =
        ((List.range unit.nodes.size).filter fun id => (wrapped? unit id).isNone).map place := by
    refine wrapping.filter_range_place (fun id => ?_) fun id other carries isPlain => ?_
    · match wrapped? unit id, wrapped? wrapped (place id), wrapping.rel_wrapped? id with
      | none, none, .none => rfl
      | some _, some _, .some _ => rfl
    · cases carries with
      | here => rfl
      | wrapper _ _ transparent child =>
          rw [wrapped?_eq_some_iff.mpr ⟨transparent, child⟩] at isPlain
          cases isPlain
  rw [longestChain, List.countP_eq_length_filter, sameNodes, List.length_map, longestChain,
    List.countP_eq_length_filter]

end Wrapping

/-! ## Calls and their arguments -/

namespace Carries

/-- The nodes that wrappers stand for are of the same kind. -/
theorem kind_unwrap
    (carries : Carries unit wrapped place id other)
    (wrapping : Wrapping unit wrapped place) :
    wrapped.kind (unwrap wrapped other) = unit.kind (unwrap unit id) := by
  rw [carries.unwrap_eq wrapping, wrapping.kind_place]

end Carries

namespace Wrapping

/-- The object of a call is carried by the object of the call at its place. -/
theorem rel_receiver
    (wrapping : Wrapping unit wrapped place)
    (call : NodeId) :
    Option.Rel (Carries unit wrapped place)
      (callParts unit call).receiver (callParts wrapped (place call)).receiver := by
  simp only [callParts, wrapping.unwrap_child?_place,
    wrapping.filter_map_place (· == .memberReference)]
  cases ((unit.child? call 0).map (unwrap unit)).filter fun id =>
      unit.kind id == .memberReference with
  | none => exact .none
  | some callee => exact wrapping.rel_child? callee 0

/-- The arguments of a call are carried by those of the call at its place. -/
theorem forall₂_arguments
    (wrapping : Wrapping unit wrapped place)
    (call : NodeId) :
    List.Forall₂ (Carries unit wrapped place)
      (callParts unit call).arguments (callParts wrapped (place call)).arguments := by
  refine wrapping.forall₂_filter ?_ (NodeKind.sameForExpressions_bne .defaultArgument rfl)
  match unit.children call, wrapped.children (place call), wrapping.children call with
  | _, _, .nil => exact .nil
  | _, _, .cons _ rest => exact rest

end Wrapping

theorem alike_expectArguments
    (idiom : String)
    (call otherCall : NodeId)
    (found least most : Nat) :
    Alike Eq (expectArguments unit idiom call found least most)
      (expectArguments wrapped idiom otherCall found least most) := by
  rw [expectArguments, expectArguments]
  split
  · exact .mismatch ..
  · exact .refl _

namespace Carries

theorem alike_stringLiteral
    (carries : Carries unit wrapped place id other)
    (wrapping : Wrapping unit wrapped place)
    (idiom : String) :
    Alike Eq (stringLiteral unit idiom id) (stringLiteral wrapped idiom other) := by
  simp only [stringLiteral, carries.unwrap_eq wrapping, wrapping.kind_place, wrapping.value?_place]
  split
  · exact .refl _
  · exact .mismatch ..

theorem isNull_eq
    (carries : Carries unit wrapped place id other)
    (wrapping : Wrapping unit wrapped place) :
    isNull wrapped other = isNull unit id := by
  rw [isNull, carries.kind_unwrap wrapping, isNull]

theorem alike_docText
    (carries : Carries unit wrapped place id other)
    (wrapping : Wrapping unit wrapped place)
    (idiom : String) :
    Alike Eq (docText unit idiom id) (docText wrapped idiom other) := by
  rw [docText, docText, carries.isNull_eq wrapping]
  split
  · exact .refl _
  · match stringLiteral unit idiom id, stringLiteral wrapped idiom other,
      carries.alike_stringLiteral wrapping idiom with
    | _, _, .ok rfl => exact .refl _
    | _, _, .error _ _ => exact .error _ _

/-! ## Constant expressions -/

theorem alike_firstLiteral
    {nodes others : List NodeId}
    (carried : List.Forall₂ (Carries unit wrapped place) nodes others)
    {read readWrapped : NodeId → Except Fault (Option Literal)}
    (alike : ∀ id other, Carries unit wrapped place id other →
      Alike Eq (read id) (readWrapped other)) :
    Alike Eq (firstLiteral read nodes) (firstLiteral readWrapped others) := by
  induction carried with
  | nil => exact .refl _
  | @cons id other _ _ carries _ inductionHypothesis =>
      rw [firstLiteral, firstLiteral]
      match read id, readWrapped other, alike id other carries with
      | _, _, .error _ _ => exact .error _ _
      | .ok none, _, .ok rfl => exact inductionHypothesis
      | .ok (some _), _, .ok rfl => exact .refl _

theorem alike_literalWithin
    (carries : Carries unit wrapped place id other)
    (wrapping : Wrapping unit wrapped place)
    (steps : Nat) :
    Alike Eq (literalWithin unit steps id) (literalWithin wrapped steps other) := by
  induction steps generalizing id other with
  | zero => exact .error _ _
  | succ steps inductionHypothesis =>
      simp only [literalWithin, carries.unwrap_eq wrapping, wrapping.kind_place,
        wrapping.value?_place, wrapping.spelling_place, wrapping.referenced?_place]
      generalize unwrap unit id = inner
      have operand := wrapping.rel_child? inner 0
      generalize unit.child? inner 0 = child at operand ⊢
      generalize wrapped.child? (place inner) 0 = otherChild at operand ⊢
      split
      · exact .refl _
      · exact .refl _
      · exact .refl _
      · exact .refl _
      · -- the operand of a sign
        split
        · cases operand with
          | none => exact .refl _
          | some carriesOperand => exact (inductionHypothesis carriesOperand).map_eq _
        · split
          · cases operand with
            | none => exact .refl _
            | some carriesOperand => exact inductionHypothesis carriesOperand
          · exact .refl _
      · -- a reference to an enumerator or to a variable
        cases unit.referenced? inner with
        | none => exact .refl _
        | some target =>
            simp only [Option.map_some, wrapping.kind_place, wrapping.value?_place]
            split
            · exact .refl _
            · exact alike_firstLiteral (wrapping.children target) fun _ _ => inductionHypothesis
            · exact .refl _
      · -- an expression whose value is known, or that stands for its first child
        split
        · exact .refl _
        · cases operand with
          | none => exact .refl _
          | some carriesOperand => exact inductionHypothesis carriesOperand
      · exact .refl _

theorem alike_literal?
    (carries : Carries unit wrapped place id other)
    (wrapping : Wrapping unit wrapped place) :
    Alike Eq (literal? unit id) (literal? wrapped other) := by
  rw [literal?, literal?, wrapping.longestChain_eq]
  exact carries.alike_literalWithin wrapping _

/-! ## Types of expressions -/

theorem expressionType?_eq
    (carries : Carries unit wrapped place id other)
    (wrapping : Wrapping unit wrapped place) :
    expressionType? wrapped other = expressionType? unit id := by
  rw [expressionType?, expressionType?, carries.type?_eq wrapping, carries.unwrap_eq wrapping,
    wrapping.type?_place]

theorem alike_expressionType
    (carries : Carries unit wrapped place id other)
    (wrapping : Wrapping unit wrapped place)
    (idiom : String) :
    Alike Eq (expressionType unit idiom id) (expressionType wrapped idiom other) := by
  rw [expressionType, expressionType, carries.expressionType?_eq wrapping]
  split
  · exact .refl _
  · exact .mismatch ..

theorem alike_classKeys
    (carries : Carries unit wrapped place id other)
    (wrapping : Wrapping unit wrapped place)
    (idiom : String) :
    Alike Eq (classKeys unit idiom id) (classKeys wrapped idiom other) := by
  refine (carries.alike_expressionType wrapping idiom).bind_eq fun type => ?_
  split
  · split
    · exact .refl _
    · exact .mismatch ..
  · exact .mismatch ..

theorem alike_enumKey
    (carries : Carries unit wrapped place id other)
    (wrapping : Wrapping unit wrapped place)
    (idiom : String) :
    Alike Eq (enumKey unit idiom id) (enumKey wrapped idiom other) := by
  refine (carries.alike_expressionType wrapping idiom).bind_eq fun type => ?_
  split
  · split
    · exact .refl _
    · exact .mismatch ..
  · exact .mismatch ..

end Carries

end TranslationUnit

end BindingStubs
