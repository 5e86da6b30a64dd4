import BindingStubs.Proofs.Combining.Reordering

namespace BindingStubs.Combining

/-!
# Gathering many parts

Parts are gathered one by one.  Because combining is associative, a later stretch of the
parts may be gathered apart and combined at the end; because it is commutative up to
alikeness, the order of the parts decides nothing that alikeness sees.
-/

variable {Part : Type}

/-- Combine a part with further parts, from left to right. -/
def gather?
    (combining : Combining Part) :
    Part → List Part → Option Part
  | whole, [] => some whole
  | whole, part :: rest =>
      (combining.combine? whole part).bind fun extended =>
        combining.gather? extended rest

/-- A part that adds nothing to what is combined with it. -/
structure Neutral
    (combining : Combining Part)
    (nothing : Part) : Prop where
  valid :
    combining.Valid nothing
  left :
    ∀ {part}, combining.Valid part → combining.combine? nothing part = some part
  right :
    ∀ part, combining.combine? part nothing = some part

namespace Lawful

variable {combining : Combining Part}

theorem gather?_valid
    (lawful : combining.Lawful)
    {whole gathered : Part}
    {parts : List Part}
    (wholeValid : combining.Valid whole)
    (partsValid : ∀ part ∈ parts, combining.Valid part)
    (success : combining.gather? whole parts = some gathered) :
    combining.Valid gathered := by
  induction parts generalizing whole with
  | nil =>
      cases success
      exact wholeValid
  | cons part rest inductionHypothesis =>
      obtain ⟨extended, combined, gatheredRest⟩ := Option.bind_eq_some_iff.mp success
      have extendedValid :=
        lawful.closed wholeValid (partsValid part (List.mem_cons_self ..)) combined
      exact inductionHypothesis extendedValid
        (fun other member => partsValid other (List.mem_cons_of_mem _ member)) gatheredRest

/-- Parts may be gathered apart and then combined with what they are added to. -/
theorem gather?_eq_combine?
    (lawful : combining.Lawful)
    {nothing : Part}
    (neutral : combining.Neutral nothing)
    {whole : Part}
    {parts : List Part}
    (wholeValid : combining.Valid whole)
    (partsValid : ∀ part ∈ parts, combining.Valid part) :
    combining.gather? whole parts =
      (combining.gather? nothing parts).bind (combining.combine? whole) := by
  induction parts generalizing whole with
  | nil => exact (neutral.right whole).symm
  | cons part rest inductionHypothesis =>
      have partValid := partsValid part (List.mem_cons_self ..)
      have restValid : ∀ other ∈ rest, combining.Valid other :=
        fun other member => partsValid other (List.mem_cons_of_mem _ member)
      have fromPart :
          combining.gather? nothing (part :: rest) =
            (combining.gather? nothing rest).bind (combining.combine? part) := by
        rw [gather?, neutral.left partValid, Option.bind_some,
          inductionHypothesis partValid restValid]
      calc
        combining.gather? whole (part :: rest)
            = (combining.combine? whole part).bind fun extended =>
                (combining.gather? nothing rest).bind (combining.combine? extended) := by
              refine Option.bind_congr fun extended combined => ?_
              exact inductionHypothesis (lawful.closed wholeValid partValid combined) restValid
        _ = (combining.gather? nothing rest).bind fun later =>
              (combining.combine? whole part).bind (combining.combine? · later) :=
            Option.bind_comm ..
        _ = (combining.gather? nothing rest).bind fun later =>
              (combining.combine? part later).bind (combining.combine? whole) := by
              refine Option.bind_congr fun later gathered => ?_
              exact lawful.assoc wholeValid partValid
                (lawful.gather?_valid neutral.valid restValid gathered)
        _ = (combining.gather? nothing (part :: rest)).bind (combining.combine? whole) := by
              rw [fromPart, Option.bind_assoc]

theorem gather?_congr
    (lawful : combining.Lawful)
    {whole whole' : Part}
    {parts : List Part}
    (wholeValid : combining.Valid whole)
    (partsValid : ∀ part ∈ parts, combining.Valid part)
    (alike : combining.Alike whole whole') :
    Option.Rel combining.Alike
      (combining.gather? whole parts) (combining.gather? whole' parts) := by
  induction parts generalizing whole whole' with
  | nil => exact .some alike
  | cons part rest inductionHypothesis =>
      have partValid := partsValid part (List.mem_cons_self ..)
      refine rel_bind
        (lawful.congr wholeValid partValid alike (lawful.equivalence.refl part)) ?_
      intro extended extended' combined _ extendedAlike
      exact inductionHypothesis (lawful.closed wholeValid partValid combined)
        (fun other member => partsValid other (List.mem_cons_of_mem _ member)) extendedAlike

/-- Two parts may be added in either order. -/
theorem combine?_right_comm
    (lawful : combining.Lawful)
    {whole first second : Part}
    (wholeValid : combining.Valid whole)
    (firstValid : combining.Valid first)
    (secondValid : combining.Valid second) :
    Option.Rel combining.Alike
      ((combining.combine? whole first).bind (combining.combine? · second))
      ((combining.combine? whole second).bind (combining.combine? · first)) := by
  rw [lawful.assoc wholeValid firstValid secondValid,
    lawful.assoc wholeValid secondValid firstValid]
  refine rel_bind (lawful.comm firstValid secondValid) ?_
  intro joined joined' combined _ alike
  exact lawful.congr wholeValid (lawful.closed firstValid secondValid combined)
    (lawful.equivalence.refl whole) alike

/-- Parts may be gathered in any order. -/
theorem gather?_perm
    (lawful : combining.Lawful)
    {whole : Part}
    {parts permuted : List Part}
    (wholeValid : combining.Valid whole)
    (partsValid : ∀ part ∈ parts, combining.Valid part)
    (permutation : parts.Perm permuted) :
    Option.Rel combining.Alike
      (combining.gather? whole parts) (combining.gather? whole permuted) := by
  induction permutation generalizing whole with
  | nil => exact .some (lawful.equivalence.refl whole)
  | cons part _ inductionHypothesis =>
      have partValid := partsValid part (List.mem_cons_self ..)
      refine rel_bind (rel_of_eq lawful.equivalence.refl rfl) ?_
      intro extended extended' combined combined' _
      obtain rfl : extended = extended' := Option.some.inj (combined.symm.trans combined')
      exact inductionHypothesis (lawful.closed wholeValid partValid combined)
        (fun other member => partsValid other (List.mem_cons_of_mem _ member))
  | swap first second rest =>
      have firstValid := partsValid first (by simp)
      have secondValid := partsValid second (by simp)
      have restValid : ∀ part ∈ rest, combining.Valid part :=
        fun part member => partsValid part (by simp [member])
      simp only [gather?, ← Option.bind_assoc]
      refine rel_bind (lawful.combine?_right_comm wholeValid secondValid firstValid) ?_
      intro extended extended' combined _ alike
      obtain ⟨between, combinedSecond, combinedFirst⟩ := Option.bind_eq_some_iff.mp combined
      have betweenValid := lawful.closed wholeValid secondValid combinedSecond
      exact lawful.gather?_congr (lawful.closed betweenValid firstValid combinedFirst)
        restValid alike
  | trans firstPerm _ firstHypothesis secondHypothesis =>
      exact rel_trans lawful.equivalence.trans (firstHypothesis wholeValid partsValid)
        (secondHypothesis wholeValid fun part member =>
          partsValid part (firstPerm.mem_iff.mpr member))

end Lawful

/-- What is said by a combination if it is said by one of both parts is said by what is gathered if
it is said by one of the parts. -/
theorem gather?_tells_iff
    {combining : Combining Part}
    {Tells : Part → Prop}
    (tells_iff :
      ∀ {first second joined},
        combining.combine? first second = some joined →
        (Tells joined ↔ Tells first ∨ Tells second))
    {whole gathered : Part}
    {parts : List Part}
    (success : combining.gather? whole parts = some gathered) :
    Tells gathered ↔ Tells whole ∨ ∃ part ∈ parts, Tells part := by
  induction parts generalizing whole with
  | nil =>
      cases success
      simp
  | cons part rest inductionHypothesis =>
      obtain ⟨extended, combined, gatheredRest⟩ := Option.bind_eq_some_iff.mp success
      rw [inductionHypothesis gatheredRest, tells_iff combined, List.exists_mem_cons_iff, or_assoc]

theorem neutral_nil
    {Item : Type}
    (joining : Joining Item) :
    joining.listing.Neutral [] where
  valid := joining.tidy_nil
  left := Joining.insertAll?_nil_of_tidy
  right _ := rfl

end BindingStubs.Combining
