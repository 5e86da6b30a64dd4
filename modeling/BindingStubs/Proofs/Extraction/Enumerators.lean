import BindingStubs.Extraction.Call
import BindingStubs.Proofs.Model.Rereading
import Mathlib.Algebra.Ring.Int.Defs

namespace BindingStubs.RegistrationCall

/-!
# Counting enumerators

An enumerator without a value of its own has one more than the enumerator before it.  Counting
carries that value along.  Told without counting, the value of an enumerator is its distance from
the last enumerator at or before it that has a value of its own, added to that value.
-/

section Values

variable
    (unit : TranslationUnit)
    (enumerators : List NodeId)

/-- The value that the declaration gives the enumerator at a position. -/
def explicit?
    (position : Nat) :
    Option String :=
  enumerators[position]?.bind unit.value?

/-- The last position at or before a position where the declaration gives a value. -/
def origin?
    (position : Nat) :
    Option Nat :=
  ((List.range (position + 1)).filter fun earlier =>
    (explicit? unit enumerators earlier).isSome).getLast?

/-- The value of the enumerator at a position: counted from the last given value, which may be
unreadable, and from zero where none is given. -/
def enumeratorValue?
    (position : Nat) :
    Option Int :=
  match origin? unit enumerators position with
  | some origin =>
      ((explicit? unit enumerators origin).bind fun digits =>
        Text.readInteger? digits.toList).map fun value => value + (position - origin : Nat)
  | none => some position

/-- The value that counting carries to a position: that of the position before. -/
def carried? : Nat → Option Int
  | 0 => some (-1)
  | position + 1 => enumeratorValue? unit enumerators position

/-- No enumerator without a given value follows one with the greatest value of 128 bits. -/
def NeverOverflows :
    Prop :=
  ∀ position < enumerators.length,
    explicit? unit enumerators position = none →
      carried? unit enumerators position ≠ some (2 ^ 127 - 1)

instance : Decidable (NeverOverflows unit enumerators) :=
  inferInstanceAs (Decidable (∀ position < enumerators.length, _))

end Values

section Origins

variable
    {unit : TranslationUnit}
    {enumerators : List NodeId}
    {position : Nat}

theorem origin?_of_explicit
    (given : (explicit? unit enumerators position).isSome) :
    origin? unit enumerators position = some position := by
  rw [origin?, List.range_succ, List.filter_append, List.filter_singleton, given, cond_true,
    List.getLast?_concat]

/-- Before the first position there is no origin. -/
theorem origin?_zero_of_counted
    (counted : explicit? unit enumerators 0 = none) :
    origin? unit enumerators 0 = none := by
  simp [origin?, counted]

theorem origin?_succ_of_counted
    (counted : explicit? unit enumerators (position + 1) = none) :
    origin? unit enumerators (position + 1) = origin? unit enumerators position := by
  rw [origin?, List.range_succ, List.filter_append, List.filter_singleton, counted,
    Option.isSome_none, cond_false, List.append_nil, ← origin?]

theorem origin?_le
    {origin : Nat}
    (found : origin? unit enumerators position = some origin) :
    origin ≤ position := by
  have member := List.mem_of_getLast? found
  exact Nat.le_of_lt_succ (List.mem_range.mp (List.mem_filter.mp member).1)

/-- A given value is the value, if it can be read. -/
theorem enumeratorValue?_of_explicit
    {digits : String}
    (given : explicit? unit enumerators position = some digits) :
    enumeratorValue? unit enumerators position = Text.readInteger? digits.toList := by
  rw [enumeratorValue?, origin?_of_explicit (Option.isSome_of_eq_some given)]
  simp [given]

/-- A value that is not given is one more than the value before. -/
theorem enumeratorValue?_of_counted
    (counted : explicit? unit enumerators position = none) :
    enumeratorValue? unit enumerators position =
      (carried? unit enumerators position).map (· + 1) := by
  cases position with
  | zero =>
      rw [enumeratorValue?, origin?_zero_of_counted counted]
      rfl
  | succ position =>
      rw [carried?, enumeratorValue?, origin?_succ_of_counted counted, enumeratorValue?]
      cases found : origin? unit enumerators position with
      | none => rfl
      | some origin =>
          have further : position + 1 - origin = position - origin + 1 :=
            Nat.succ_sub (origin?_le found)
          simp only [further, Option.map_map, Function.comp_def, Int.natCast_add, Int.natCast_one,
            Int.add_assoc]

end Origins

section Counting

variable
    {unit : TranslationUnit}
    {enumerators : List NodeId}

theorem nextValue_eq
    {value : Int}
    (notGreatest : value ≠ 2 ^ 127 - 1) :
    nextValue value = value + 1 := by
  have limit : (Width.limit 127 : Int) = 2 ^ 127 := rfl
  rw [nextValue, limit, if_neg (by omega)]

/-- Below the greatest value the carried value is followed by the one after it. -/
theorem map_nextValue_carried?
    (fits : NeverOverflows unit enumerators)
    {position : Nat}
    (inside : position < enumerators.length)
    (counted : explicit? unit enumerators position = none) :
    (carried? unit enumerators position).map nextValue =
      (carried? unit enumerators position).map (· + 1) := by
  have notGreatest := fits position inside counted
  cases isValue : carried? unit enumerators position with
  | none => rfl
  | some value =>
      rw [isValue] at notGreatest
      rw [Option.map_some, Option.map_some,
        nextValue_eq fun isGreatest => notGreatest (congrArg some isGreatest)]

/-- Counting on from a position gives every later enumerator its value. -/
theorem countValues_eq_mapIdx
    (fits : NeverOverflows unit enumerators)
    {before rest : List NodeId}
    (split : enumerators = before ++ rest) :
    countValues unit (carried? unit enumerators before.length) rest =
      rest.mapIdx fun index enumerator =>
        (unit.spelling enumerator,
          enumeratorValue? unit enumerators (before.length + index)) := by
  induction rest generalizing before with
  | nil => rfl
  | cons enumerator rest inductionHypothesis =>
      have stands : enumerators[before.length]? = some enumerator := by
        rw [split, List.getElem?_append_right (Nat.le_refl _), Nat.sub_self]
        rfl
      have inside : before.length < enumerators.length :=
        (List.getElem?_eq_some_iff.mp stands).1
      have explicit : explicit? unit enumerators before.length = unit.value? enumerator := by
        rw [explicit?, stands, Option.bind_some]
      have counts :
          countValues unit (carried? unit enumerators before.length) (enumerator :: rest) =
            (unit.spelling enumerator, enumeratorValue? unit enumerators before.length) ::
              countValues unit (enumeratorValue? unit enumerators before.length) rest := by
        cases given : unit.value? enumerator with
        | some digits =>
            rw [enumeratorValue?_of_explicit (explicit.trans given), countValues, given]
        | none =>
            have counted := explicit.trans given
            rw [enumeratorValue?_of_counted counted, ← map_nextValue_carried? fits inside counted,
              countValues, given]
      have further : enumerators = (before ++ [enumerator]) ++ rest := by simp [split]
      have later := inductionHypothesis further
      rw [List.length_append, List.length_singleton, carried?] at later
      rw [counts, later, List.mapIdx_cons]
      simp only [Nat.add_zero, Nat.add_assoc, Nat.add_comm 1]

end Counting

/--
The enumerators of a declaration are listed in order under their names.  The value of each is
counted from the last one at or before it that is given a value: it is that value and the distance
from it, no value if the given one cannot be read, and the position where none is given.
-/
theorem declaredValues_count_from_last_given
    {unit : TranslationUnit}
    {cppName : String}
    {declaration : NodeId}
    (found : unit.typeDeclaration? cppName = some declaration)
    (distinct : ((unit.childrenOfKind declaration .enumerator).map unit.spelling).Nodup)
    (fits : NeverOverflows unit (unit.childrenOfKind declaration .enumerator)) :
    let enumerators := unit.childrenOfKind declaration .enumerator
    (declaredValues unit cppName).entries =
      enumerators.mapIdx fun position enumerator =>
        (unit.spelling enumerator,
          (enumeratorValue? unit enumerators position).map fun value =>
            .integer (Text.ofInt value)) := by
  intro enumerators
  have counted := countValues_eq_mapIdx fits (List.nil_append _).symm
  simp only [List.length_nil, carried?, Nat.zero_add] at counted
  rw [declaredValues, found]
  simp only [counted, List.mapIdx_eq_zipIdx_map, List.map_map, Function.comp_def]
  refine congrArg Keyed.entries (Keyed.asRead_eq ?_)
  rw [Keyed.keys, List.map_map]
  have names := congrArg (List.map unit.spelling) (List.zipIdx_map_fst 0 enumerators)
  rw [List.map_map] at names
  exact names ▸ distinct

namespace Modes

/-- An enum with given, counted and unreadable values, among them the greatest one. -/
def builder : UnitBuilder :=
  UnitBuilder.start "modes.cpp"
    |>.push (some 0) { kind := .enumDeclaration, spelling := "Mode" }
    |>.push (some 1) { kind := .enumerator, spelling := "Off" }
    |>.push (some 1) { kind := .enumerator, spelling := "Idle" }
    |>.push (some 1) { kind := .enumerator, spelling := "Low", value := some "-7" }
    |>.push (some 1) { kind := .enumerator, spelling := "High" }
    |>.push (some 1) { kind := .enumerator, spelling := "Odd", value := some "LIMIT" }
    |>.push (some 1) { kind := .enumerator, spelling := "Odder" }
    |>.push (some 1)
      { kind := .enumerator, spelling := "Last"
        value := some "170141183460469231731687303715884105727" }

end Modes

theorem declaredValues_count_from_last_given_of_modes :
    let unit := Modes.builder.finish
    unit.typeDeclaration? "Mode" = some 1 ∧
      ((unit.childrenOfKind 1 .enumerator).map unit.spelling).Nodup ∧
      NeverOverflows unit (unit.childrenOfKind 1 .enumerator) ∧
      (declaredValues unit "Mode").entries =
        [("Off", some (.integer "0")), ("Idle", some (.integer "1")),
          ("Low", some (.integer "-7")), ("High", some (.integer "-6")),
          ("Odd", none), ("Odder", none),
          ("Last", some (.integer "170141183460469231731687303715884105727"))] := by
  intro unit
  have found : unit.typeDeclaration? "Mode" = some 1 := by decide +kernel
  have distinct : ((unit.childrenOfKind 1 .enumerator).map unit.spelling).Nodup := by
    decide +kernel
  have fits : NeverOverflows unit (unit.childrenOfKind 1 .enumerator) := by decide +kernel
  refine ⟨found, distinct, fits, ?_⟩
  exact (declaredValues_count_from_last_given found distinct fits).trans (by decide +kernel)

end BindingStubs.RegistrationCall
