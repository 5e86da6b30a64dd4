import BindingStubs.Proofs.Tree.Orderly
import Mathlib.Data.Finset.Card
import Mathlib.Data.Finset.Range
import Mathlib.Data.Nat.Count
import Mathlib.Logic.Relation

namespace BindingStubs.Shape

/-!
# Reading constants comes to an end

The value of a constant is read from operands and, through references, from the initializers of
variables.  Operands lie deeper in the tree, but references may lead anywhere.  The reading of a
node ends exactly if it does not run into a circle, and then the bound on its steps is never met:
every step leaves an expression that is not met again.
-/

variable {unit : TranslationUnit}

/-! ## Where a value is taken from -/

/-- The nodes from which an expression may take its value, in the order in which they are tried. -/
def sources
    (unit : TranslationUnit)
    (id : NodeId) :
    List NodeId :=
  let inner := unwrap unit id
  match unit.kind inner with
  | .unaryOperator =>
      if unit.spelling inner = "-" ∨ unit.spelling inner = "+" then
        (unit.child? inner 0).toList
      else []
  | .declarationReference =>
      match unit.referenced? inner with
      | none => []
      | some target =>
          if unit.kind target = .variableDeclaration then unit.children target else []
  | .unexposed =>
      if ((unit.value? inner).filter fun text => (Text.readInteger? text.toList).isSome).isSome then
        []
      else (unit.child? inner 0).toList
  | _ => []

theorem firstLiteral_toList
    (read : NodeId → Except Fault (Option Literal))
    (source : Option NodeId) :
    firstLiteral read source.toList =
      match source with
      | some id => read id
      | none => .ok none := by
  cases source with
  | none => rfl
  | some id =>
      simp only [Option.toList, firstLiteral]
      split
      · rename_i outcome
        exact outcome.symm
      · rfl

/-- One step of a reading: the first value among the sources is taken over in some way. -/
theorem exists_takeOver
    (unit : TranslationUnit)
    (id : NodeId) :
    ∃ takeOver : Option Literal → Option Literal,
      ∀ steps,
        literalWithin unit (steps + 1) id =
          (firstLiteral (literalWithin unit steps) (sources unit id)).map takeOver := by
  have same (reading : Except Fault (Option Literal)) : reading = reading.map fun value => value :=
    (id_map reading).symm
  simp only [literalWithin, sources]
  generalize unwrap unit id = inner
  cases kind : unit.kind inner
  case integerLiteral => exact ⟨fun _ => _, fun _ => rfl⟩
  case floatingLiteral => exact ⟨fun _ => _, fun _ => rfl⟩
  case boolLiteral => exact ⟨fun _ => _, fun _ => rfl⟩
  case stringLiteral => exact ⟨fun _ => _, fun _ => rfl⟩
  case unaryOperator =>
    by_cases isMinus : unit.spelling inner = "-"
    · refine ⟨(·.bind negateLiteral?), fun steps => ?_⟩
      simp only [isMinus, true_or, if_true]
      exact congrArg (Except.map _) (firstLiteral_toList ..).symm
    · by_cases isPlus : unit.spelling inner = "+"
      · refine ⟨fun value => value, fun steps => ?_⟩
        simp only [isPlus, or_true, if_true]
        rw [← same]
        exact (firstLiteral_toList ..).symm
      · refine ⟨fun _ => none, fun steps => ?_⟩
        simp only [isPlus, isMinus, or_false, if_false]
        rfl
  case declarationReference =>
    cases unit.referenced? inner with
    | none => exact ⟨fun _ => none, fun _ => rfl⟩
    | some target =>
        simp only
        by_cases isVariable : unit.kind target = .variableDeclaration
        · refine ⟨fun value => value, fun steps => ?_⟩
          simp only [isVariable, if_true, ← same]
        · rw [if_neg isVariable]
          cases isKind : unit.kind target
          case enumerator => exact ⟨fun _ => _, fun _ => rfl⟩
          case variableDeclaration => exact absurd isKind isVariable
          all_goals exact ⟨fun _ => none, fun _ => rfl⟩
  case unexposed =>
    cases (unit.value? inner).filter fun text => (Text.readInteger? text.toList).isSome with
    | some digits => exact ⟨fun _ => some (.integer digits), fun _ => rfl⟩
    | none =>
        refine ⟨fun value => value, fun steps => ?_⟩
        rw [← same]
        exact (firstLiteral_toList ..).symm
  all_goals exact ⟨fun _ => none, fun _ => rfl⟩

/-! ## Bounded readings -/

/-- Whether the reading of a node ends within a number of steps, with a value or with none. -/
def EndsWithin
    (unit : TranslationUnit)
    (steps : Nat)
    (id : NodeId) :
    Prop :=
  ∃ value, literalWithin unit steps id = .ok value

/-- Whether the reading of a node ends without a value. -/
def EndsEmpty
    (unit : TranslationUnit)
    (id : NodeId) :
    Prop :=
  ∃ steps, literalWithin unit steps id = .ok none

theorem firstLiteral_mono
    {read readMore : NodeId → Except Fault (Option Literal)}
    (more : ∀ id value, read id = .ok value → readMore id = .ok value)
    {nodes : List NodeId}
    {value : Option Literal}
    (found : firstLiteral read nodes = .ok value) :
    firstLiteral readMore nodes = .ok value := by
  induction nodes with
  | nil => exact found
  | cons first rest inductionHypothesis =>
      rw [firstLiteral] at found ⊢
      cases outcome : read first with
      | error fault =>
          rw [outcome] at found
          cases found
      | ok own =>
          rw [outcome] at found
          rw [more first own outcome]
          cases own with
          | none => exact inductionHypothesis found
          | some literal => exact found

/-- A reading that ends gives the same value with one more step. -/
theorem literalWithin_succ
    {steps : Nat}
    {id : NodeId}
    {value : Option Literal}
    (found : literalWithin unit steps id = .ok value) :
    literalWithin unit (steps + 1) id = .ok value := by
  induction steps generalizing id value with
  | zero => cases found
  | succ steps inductionHypothesis =>
      obtain ⟨takeOver, step⟩ := exists_takeOver unit id
      rw [step] at found ⊢
      cases first : firstLiteral (literalWithin unit steps) (sources unit id) with
      | error fault =>
          rw [first] at found
          cases found
      | ok source =>
          rw [firstLiteral_mono (fun _ _ => inductionHypothesis) first]
          rwa [first] at found

theorem literalWithin_mono
    {steps more : Nat}
    (le : steps ≤ more)
    {id : NodeId}
    {value : Option Literal}
    (found : literalWithin unit steps id = .ok value) :
    literalWithin unit more id = .ok value := by
  induction le with
  | refl => exact found
  | step _ inductionHypothesis => exact literalWithin_succ inductionHypothesis

/-- Readings of one node that end agree. -/
theorem eq_of_literalWithin_eq
    {steps others : Nat}
    {id : NodeId}
    {value other : Option Literal}
    (found : literalWithin unit steps id = .ok value)
    (foundOther : literalWithin unit others id = .ok other) :
    value = other := by
  have first := literalWithin_mono (Nat.le_max_left steps others) found
  have second := literalWithin_mono (Nat.le_max_right steps others) foundOther
  exact Except.ok.inj (first.symm.trans second)

/-! ## What a reading leads to -/

/-- Whether the reading of one node reads another: one of its sources, when those before it have no
value. -/
def Reads
    (unit : TranslationUnit)
    (id next : NodeId) :
    Prop :=
  ∃ before after,
    sources unit id = before ++ next :: after ∧ ∀ other ∈ before, EndsEmpty unit other

theorem exists_of_firstLiteral_eq_error
    {read : NodeId → Except Fault (Option Literal)}
    {nodes : List NodeId}
    {fault : Fault}
    (failed : firstLiteral read nodes = .error fault) :
    ∃ before next after,
      nodes = before ++ next :: after ∧
        (∀ other ∈ before, read other = .ok none) ∧ read next = .error fault := by
  induction nodes with
  | nil => cases failed
  | cons first rest inductionHypothesis =>
      rw [firstLiteral] at failed
      split at failed
      · rename_i isNone
        obtain ⟨before, next, after, rfl, areNone, isError⟩ := inductionHypothesis failed
        exact ⟨first :: before, next, after, rfl,
          List.forall_mem_cons.mpr ⟨isNone, areNone⟩, isError⟩
      · exact ⟨[], first, rest, rfl, nofun, failed⟩

/-- A first value is found before a node that cannot be read. -/
theorem exists_of_firstLiteral_eq_ok
    {read : NodeId → Except Fault (Option Literal)}
    {before after : List NodeId}
    {next : NodeId}
    {value : Option Literal}
    (found : firstLiteral read (before ++ next :: after) = .ok value)
    (unread : ∀ own, read next ≠ .ok own) :
    ∃ other ∈ before, ∃ literal, read other = .ok (some literal) := by
  induction before with
  | nil =>
      rw [List.nil_append, firstLiteral] at found
      split at found
      · exact absurd ‹_› (unread none)
      · exact absurd found (unread value)
  | cons first before inductionHypothesis =>
      rw [List.cons_append, firstLiteral] at found
      split at found
      · obtain ⟨other, member, literal, isRead⟩ := inductionHypothesis found
        exact ⟨other, .tail _ member, literal, isRead⟩
      · rename_i notNone
        cases value with
        | none => exact absurd found notNone
        | some literal => exact ⟨first, .head _, literal, found⟩

/-- A reading does not end in time exactly if it reads a node whose reading does not. -/
theorem not_endsWithin_succ_iff
    {steps : Nat}
    {id : NodeId} :
    ¬ EndsWithin unit (steps + 1) id ↔
      ∃ next, Reads unit id next ∧ ¬ EndsWithin unit steps next := by
  obtain ⟨takeOver, step⟩ := exists_takeOver unit id
  have endsIff : EndsWithin unit (steps + 1) id ↔
      ∃ value, firstLiteral (literalWithin unit steps) (sources unit id) = .ok value := by
    rw [EndsWithin, step]
    cases firstLiteral (literalWithin unit steps) (sources unit id) with
    | error fault => exact ⟨nofun, nofun⟩
    | ok value => exact ⟨fun _ => ⟨value, rfl⟩, fun _ => ⟨takeOver value, rfl⟩⟩
  rw [endsIff]
  constructor
  · intro noValue
    cases outcome : firstLiteral (literalWithin unit steps) (sources unit id) with
    | ok value => exact absurd ⟨value, outcome⟩ noValue
    | error fault =>
        obtain ⟨before, next, after, areSources, areNone, isError⟩ :=
          exists_of_firstLiteral_eq_error outcome
        refine ⟨next, ⟨before, after, areSources, fun other member =>
          ⟨steps, areNone other member⟩⟩, fun ⟨value, isRead⟩ => ?_⟩
        rw [isError] at isRead
        cases isRead
  · rintro ⟨next, ⟨before, after, areSources, areEmpty⟩, unread⟩ ⟨value, found⟩
    rw [areSources] at found
    obtain ⟨other, member, literal, isRead⟩ :=
      exists_of_firstLiteral_eq_ok found fun own isRead => unread ⟨own, isRead⟩
    obtain ⟨others, isEmpty⟩ := areEmpty other member
    cases eq_of_literalWithin_eq isRead isEmpty

/-! ## Circles -/

open Relation

/-- Whether the reading of a node leads into a circle. -/
def RunsInCircle
    (unit : TranslationUnit)
    (id : NodeId) :
    Prop :=
  ∃ node, ReflTransGen (Reads unit) id node ∧ TransGen (Reads unit) node node

/-- No number of steps is enough to get through a circle. -/
theorem RunsInCircle.not_endsWithin
    {id : NodeId}
    (runs : RunsInCircle unit id)
    (steps : Nat) :
    ¬ EndsWithin unit steps id := by
  induction steps generalizing id with
  | zero => exact nofun
  | succ steps inductionHypothesis =>
      obtain ⟨node, leads, circle⟩ := runs
      refine not_endsWithin_succ_iff.mpr ?_
      rcases leads.cases_head with rfl | ⟨next, reads, leads⟩
      · obtain ⟨next, reads, back⟩ := TransGen.head'_iff.mp circle
        exact ⟨next, reads, inductionHypothesis ⟨next, .refl, .tail' back reads⟩⟩
      · exact ⟨next, reads, inductionHypothesis ⟨node, leads, circle⟩⟩

/-! ## Enough steps -/

theorem sources_eq_of_unwrap_eq
    {id other : NodeId}
    (same : unwrap unit id = unwrap unit other) :
    sources unit id = sources unit other := by
  simp only [sources, same]

/-- Beyond the last node there is nothing to take a value from. -/
theorem unwrap_lt_of_sources_ne_nil
    {id : NodeId}
    (hasSources : sources unit id ≠ []) :
    unwrap unit id < unit.nodes.size := by
  refine Nat.lt_of_not_le fun beyond => hasSources ?_
  have isOther : unit.kind (unwrap unit id) = .other := by
    rw [TranslationUnit.kind, TranslationUnit.node_of_size_le beyond]
  simp only [sources, isOther]

theorem Reads.sources_ne_nil
    {id next : NodeId}
    (reads : Reads unit id next) :
    sources unit id ≠ [] := by
  obtain ⟨before, after, areSources, _⟩ := reads
  simp [areSources]

open Classical in
/-- The expressions that the reading of a node may still go on from. -/
noncomputable def ahead
    (unit : TranslationUnit)
    (id : NodeId) :
    Finset NodeId :=
  (Finset.range unit.nodes.size).filter fun inner =>
    ∃ node, ReflTransGen (Reads unit) id node ∧ unwrap unit node = inner ∧ sources unit node ≠ []

theorem mem_ahead
    {id inner : NodeId} :
    inner ∈ ahead unit id ↔
      ∃ node,
        ReflTransGen (Reads unit) id node ∧ unwrap unit node = inner ∧ sources unit node ≠ [] := by
  simp only [ahead, Finset.mem_filter, Finset.mem_range, and_iff_right_iff_imp]
  rintro ⟨node, _, rfl, hasSources⟩
  exact unwrap_lt_of_sources_ne_nil hasSources

/-- Without circles a reading leaves an expression behind with every step. -/
theorem card_ahead_lt
    {id next : NodeId}
    (reads : Reads unit id next)
    (noCircle : ¬ RunsInCircle unit id) :
    (ahead unit next).card < (ahead unit id).card := by
  have isAhead : unwrap unit id ∈ ahead unit id :=
    mem_ahead.mpr ⟨id, .refl, rfl, reads.sources_ne_nil⟩
  refine Finset.card_lt_card (Finset.ssubset_iff_subset_ne.mpr ⟨fun inner member => ?_, ?_⟩)
  · obtain ⟨node, leads, isInner⟩ := mem_ahead.mp member
    exact mem_ahead.mpr ⟨node, .head reads leads, isInner⟩
  · intro same
    obtain ⟨node, leads, sameInner, _⟩ := mem_ahead.mp (same ▸ isAhead)
    -- a node that stands for the same expression reads the same nodes
    have readsAgain : Reads unit node next := by
      obtain ⟨before, after, areSources, areEmpty⟩ := reads
      exact ⟨before, after, (sources_eq_of_unwrap_eq sameInner).trans areSources, areEmpty⟩
    exact noCircle ⟨next, .single reads, .tail' leads readsAgain⟩

theorem endsWithin_of_card_lt
    {steps : Nat}
    {id : NodeId}
    (noCircle : ¬ RunsInCircle unit id)
    (enough : (ahead unit id).card < steps) :
    EndsWithin unit steps id := by
  induction steps generalizing id with
  | zero => exact absurd enough (Nat.not_lt_zero _)
  | succ steps inductionHypothesis =>
      by_contra unread
      obtain ⟨next, reads, unreadNext⟩ := not_endsWithin_succ_iff.mp unread
      have fewer := card_ahead_lt reads noCircle
      refine unreadNext (inductionHypothesis ?_ (by omega))
      rintro ⟨node, leads, circle⟩
      exact noCircle ⟨node, .head reads leads, circle⟩

/-- What is read of a node is no wrapper. -/
theorem wrapped?_unwrap
    (orderly : unit.IsOrderly)
    (id : NodeId) :
    wrapped? unit (unwrap unit id) = none := by
  induction id using orderly.induction_on_children with
  | step id inductionHypothesis =>
      cases wraps : wrapped? unit id with
      | none => rw [unwrap_of_wrapped?_eq_none wraps, wraps]
      | some inner =>
          rw [unwrap_of_wrapped? orderly wraps]
          exact inductionHypothesis inner (mem_children_of_wrapped? wraps)

/-- The longest chain has an expression for every node that is no wrapper. -/
theorem card_plain
    (unit : TranslationUnit) :
    ((Finset.range unit.nodes.size).filter fun id => (wrapped? unit id).isNone).card =
      longestChain unit := by
  rw [← Nat.count_eq_card_filter_range, Nat.count, longestChain]
  simp only [Bool.decide_eq_true]

theorem card_ahead_le
    (orderly : unit.IsOrderly)
    (id : NodeId) :
    (ahead unit id).card ≤ longestChain unit := by
  have subset : ahead unit id ⊆
      (Finset.range unit.nodes.size).filter fun inner => (wrapped? unit inner).isNone := by
    intro inner member
    obtain ⟨node, _, rfl, hasSources⟩ := mem_ahead.mp member
    simp [unwrap_lt_of_sources_ne_nil hasSources, wrapped?_unwrap orderly node]
  exact (Finset.card_le_card subset).trans_eq (card_plain unit)

/-! ## Readings that end -/

/--
The reading of a constant ends, with a value or with none, exactly if it does not run into a circle
of operands and references.  A reading that needs more steps than it is given needs infinitely many.
-/
theorem literal?_ends_iff_no_circle
    (built : unit.IsBuilt)
    (id : NodeId) :
    ((∃ value, literal? unit id = .ok value) ↔ ¬ RunsInCircle unit id) ∧
      ∀ value, literal? unit id = .ok value ↔ ∃ steps, literalWithin unit steps id = .ok value := by
  have endsIff : EndsWithin unit (longestChain unit + 1) id ↔ ¬ RunsInCircle unit id :=
    ⟨fun ends runs => runs.not_endsWithin _ ends, fun noCircle =>
      endsWithin_of_card_lt noCircle (Nat.lt_succ_of_le (card_ahead_le built.isOrderly id))⟩
  refine ⟨endsIff, fun value => ⟨fun found => ⟨_, found⟩, fun ⟨steps, found⟩ => ?_⟩⟩
  have noCircle : ¬ RunsInCircle unit id := fun runs => runs.not_endsWithin steps ⟨value, found⟩
  obtain ⟨other, foundOther⟩ := endsIff.mpr noCircle
  rwa [eq_of_literalWithin_eq found foundOther]

/-- A constant `limit` with the value `-base`, behind which stands a reference to `limit` itself. -/
def limitBuilder : UnitBuilder :=
  let constant (spelling : String) : NodeSpec := { kind := .variableDeclaration, spelling }
  let reference (spelling : String) : NodeSpec := { kind := .declarationReference, spelling }
  let builder := UnitBuilder.start "limits.cpp"
  let builder := builder.push (some 0) (constant "base")
  let builder := builder.push (some 1) { kind := .integerLiteral, value := some "42u" }
  let builder := builder.push (some 0) (constant "limit")
  let builder := builder.push (some 3) { kind := .unaryOperator, spelling := "-" }
  let builder := builder.push (some 4) { kind := .implicitCast }
  let builder := builder.push (some 5) (reference "base")
  let builder := builder.push (some 3) (reference "limit")
  (builder.setReferenced 6 1).setReferenced 7 3

/-- The references of a unit may run in a circle as long as a value is found before. -/
theorem literal?_ends_iff_no_circle_of_limit :
    let limits := limitBuilder.finish
    limits.IsBuilt ∧
      literal? limits 7 = .ok (some (.integer "-42")) ∧
      ¬ RunsInCircle limits 7 := by
  intro limits
  have built : limits.IsBuilt := by
    refine ⟨limitBuilder, ?_, rfl⟩
    refine .setReferenced _ _ (.setReferenced _ _ ?_)
    repeat refine .push _ _ ?_ (by rintro _ ⟨⟩; decide)
    exact .start _
  have found : literal? limits 7 = .ok (some (.integer "-42")) := by decide +kernel
  exact ⟨built, found, (literal?_ends_iff_no_circle built 7).1.mp ⟨_, found⟩⟩

/-- A constant that is initialized with itself. -/
def selfReferenceBuilder : UnitBuilder :=
  let builder := UnitBuilder.start "loop.cpp"
  let builder := builder.push (some 0) { kind := .variableDeclaration, spelling := "depth" }
  let builder := builder.push (some 1) { kind := .declarationReference, spelling := "depth" }
  builder.setReferenced 2 1

/-- The reading of a constant that is initialized with itself has no end: no number of steps gives
a value, or that there is none. -/
theorem literal?_has_no_end_at_self_reference :
    let loop := selfReferenceBuilder.finish
    loop.IsBuilt ∧
      literal? loop 2 = .error (.endless "depth") ∧
      ∀ steps value, literalWithin loop steps 2 ≠ .ok value := by
  intro loop
  have built : loop.IsBuilt := by
    refine ⟨selfReferenceBuilder, .setReferenced _ _ ?_, rfl⟩
    repeat refine .push _ _ ?_ (by rintro _ ⟨⟩; decide)
    exact .start _
  have readsItself : Reads loop 2 2 := ⟨[], [], by decide +kernel, nofun⟩
  have runs : RunsInCircle loop 2 := ⟨2, .refl, .single readsItself⟩
  exact ⟨built, by decide +kernel, fun steps value found =>
    runs.not_endsWithin steps ⟨value, found⟩⟩

end BindingStubs.Shape
