import BindingStubs.Proofs.Combining.Gathering

namespace BindingStubs

/-!
# The ways in which parts are combined

A part is given once, appended to, switched on or declared; several parts are combined side
by side.
-/

namespace Combining

variable {Part First Second : Type}

/-- A condition holds of a combination when it holds of what is combined. -/
def Keeps
    (combining : Combining Part)
    (Condition : Part → Prop) :
    Prop :=
  ∀ first second joined,
    Condition first →
    Condition second →
    combining.combine? first second = some joined →
    Condition joined

/-- A part that may be given only once. -/
def exclusive
    (Part : Type) :
    Combining Part where
  combine? _ _ :=
    none
  Valid _ :=
    True
  Alike :=
    Eq

/-- Parts given once are lawfully combined: they never are. -/
theorem lawful_exclusive :
    (exclusive Part).Lawful where
  closed _ _ combined := by
    simp [exclusive] at combined
  assoc _ _ _ := rfl
  equivalence := eq_equivalence
  alike_valid _ _ := trivial
  comm _ _ := .none
  congr _ _ _ _ := .none

/-- A list that grows at its end. -/
def appending
    (Part : Type) :
    Combining (List Part) where
  combine? first second :=
    some (first ++ second)
  Valid _ :=
    True
  Alike :=
    List.Perm

/-- Appending is associative, and commutative up to a permutation. -/
theorem lawful_appending :
    (appending Part).Lawful where
  closed _ _ _ := trivial
  assoc _ _ _ := by
    simp [appending]
  equivalence := List.Perm.eqv Part
  alike_valid _ _ := trivial
  comm _ _ := .some List.perm_append_comm
  congr _ _ first second := .some (first.append second)

theorem neutral_appending :
    (appending Part).Neutral [] where
  valid := trivial
  left _ := rfl
  right list := congrArg some (List.append_nil list)

/-- A flag that any description may set. -/
def flag :
    Combining Bool where
  combine? first second :=
    some (first || second)
  Valid _ :=
    True
  Alike :=
    Eq

theorem lawful_flag :
    flag.Lawful where
  closed _ _ _ := trivial
  assoc _ _ _ := by
    simp [flag, Bool.or_assoc]
  equivalence := eq_equivalence
  alike_valid _ _ := trivial
  comm _ _ := .some (Bool.or_comm ..)
  congr := by
    rintro first _ second _ _ _ rfl rfl
    exact .some rfl

theorem neutral_flag :
    flag.Neutral false where
  valid := trivial
  left _ := rfl
  right value := congrArg some (Bool.or_false value)

/--
Details that are given together with the site of a declaration.  They may be declared once;
before that they have fixed values.
-/
def declared
    {Site Details : Type}
    (undeclared : Details) :
    Combining (Option Site × Details) where
  combine? first second :=
    match second.1 with
    | none => some first
    | some _ => if first.1.isSome then none else some second
  Valid part :=
    part.1 = none → part.2 = undeclared
  Alike :=
    Eq

/-- The unique declaration wins, wherever it stands. -/
theorem lawful_declared
    {Site Details : Type}
    (undeclared : Details) :
    (declared undeclared : Combining (Option Site × Details)).Lawful where
  closed := by
    rintro ⟨first, firstDetails⟩ ⟨second, secondDetails⟩ joined firstValid secondValid combined
    cases first <;> cases second <;> simp [declared] at combined <;> subst combined
    · exact firstValid
    · exact secondValid
    · exact firstValid
  assoc := by
    rintro ⟨first, firstDetails⟩ ⟨second, secondDetails⟩ ⟨third, thirdDetails⟩ _ _ _
    cases first <;> cases second <;> cases third <;> simp [declared]
  equivalence := eq_equivalence
  alike_valid same valid := same ▸ valid
  comm := by
    rintro ⟨first, firstDetails⟩ ⟨second, secondDetails⟩ firstValid secondValid
    cases first <;> cases second
    · exact .some (Prod.ext rfl ((firstValid rfl).trans (secondValid rfl).symm))
    · exact .some rfl
    · exact .some rfl
    · exact .none
  congr := by
    rintro first _ second _ _ _ rfl rfl
    exact rel_of_eq (fun _ => rfl) rfl

theorem declared_combine?_none
    {Site Details : Type}
    (undeclared details : Details)
    (part : Option Site × Details) :
    (declared undeclared).combine? part (none, details) = some part :=
  rfl

theorem declared_combine?_some
    {Site Details : Type}
    (undeclared details : Details)
    (part : Option Site × Details)
    (site : Site) :
    (declared undeclared).combine? part (some site, details) =
      if part.1.isSome then none else some (some site, details) :=
  rfl

theorem neutral_declared
    {Site Details : Type}
    (undeclared : Details) :
    (declared undeclared : Combining (Option Site × Details)).Neutral
      (none, undeclared) where
  valid _ := rfl
  left := by
    rintro ⟨site, details⟩ valid
    cases site with
    | none => exact congrArg some (Prod.ext rfl (valid rfl).symm)
    | some _ => rfl
  right _ := rfl

/-- Both outcomes together. -/
def both
    (first : Option First)
    (second : Option Second) :
    Option (First × Second) :=
  first.bind fun one => second.map fun other => (one, other)

/-- Two parts side by side. -/
def prod
    (first : Combining First)
    (second : Combining Second) :
    Combining (First × Second) where
  combine? one other :=
    both (first.combine? one.1 other.1) (second.combine? one.2 other.2)
  Valid part :=
    first.Valid part.1 ∧ second.Valid part.2
  Alike one other :=
    first.Alike one.1 other.1 ∧ second.Alike one.2 other.2

/-- Outcomes are related when they are related side by side. -/
theorem rel_both
    {r : First → First → Prop}
    {s : Second → Second → Prop}
    {first first' : Option First}
    {second second' : Option Second}
    (firstRelated : Option.Rel r first first')
    (secondRelated : Option.Rel s second second') :
    Option.Rel (fun one other => r one.1 other.1 ∧ s one.2 other.2)
      (both first second) (both first' second') := by
  cases firstRelated with
  | none => exact .none
  | some firstBoth =>
      cases secondRelated with
      | none => exact .none
      | some secondBoth => exact .some ⟨firstBoth, secondBoth⟩

/-- Parts side by side are lawfully combined when each part is. -/
theorem Lawful.prod
    {first : Combining First}
    {second : Combining Second}
    (firstLawful : first.Lawful)
    (secondLawful : second.Lawful) :
    (first.prod second).Lawful where
  closed := by
    intro one other joined oneValid otherValid combined
    simp only [Combining.prod, both, Option.bind_eq_some_iff, Option.map_eq_some_iff] at combined
    obtain ⟨firstJoined, firstCombined, secondJoined, secondCombined, rfl⟩ := combined
    exact ⟨firstLawful.closed oneValid.1 otherValid.1 firstCombined,
      secondLawful.closed oneValid.2 otherValid.2 secondCombined⟩
  assoc := by
    intro one other third oneValid otherValid thirdValid
    have left :
        ((first.prod second).combine? one other).bind
            ((first.prod second).combine? · third) =
          both ((first.combine? one.1 other.1).bind (first.combine? · third.1))
            ((second.combine? one.2 other.2).bind (second.combine? · third.2)) := by
      simp only [Combining.prod, both]
      cases first.combine? one.1 other.1 <;> cases second.combine? one.2 other.2 <;> simp
    have right :
        ((first.prod second).combine? other third).bind
            ((first.prod second).combine? one) =
          both ((first.combine? other.1 third.1).bind (first.combine? one.1))
            ((second.combine? other.2 third.2).bind (second.combine? one.2)) := by
      simp only [Combining.prod, both]
      cases first.combine? other.1 third.1 <;> cases second.combine? other.2 third.2 <;>
        simp
    rw [left, right, firstLawful.assoc oneValid.1 otherValid.1 thirdValid.1,
      secondLawful.assoc oneValid.2 otherValid.2 thirdValid.2]
  equivalence :=
    ⟨fun part => ⟨firstLawful.equivalence.refl part.1, secondLawful.equivalence.refl part.2⟩,
      fun alike => ⟨firstLawful.equivalence.symm alike.1,
        secondLawful.equivalence.symm alike.2⟩,
      fun one other => ⟨firstLawful.equivalence.trans one.1 other.1,
        secondLawful.equivalence.trans one.2 other.2⟩⟩
  alike_valid alike valid :=
    ⟨firstLawful.alike_valid alike.1 valid.1, secondLawful.alike_valid alike.2 valid.2⟩
  comm oneValid otherValid :=
    rel_both (firstLawful.comm oneValid.1 otherValid.1)
      (secondLawful.comm oneValid.2 otherValid.2)
  congr oneValid otherValid oneAlike otherAlike :=
    rel_both (firstLawful.congr oneValid.1 otherValid.1 oneAlike.1 otherAlike.1)
      (secondLawful.congr oneValid.2 otherValid.2 oneAlike.2 otherAlike.2)

theorem Neutral.prod
    {first : Combining First}
    {second : Combining Second}
    {nothing : First}
    {nothing' : Second}
    (firstNeutral : first.Neutral nothing)
    (secondNeutral : second.Neutral nothing') :
    (first.prod second).Neutral (nothing, nothing') where
  valid := ⟨firstNeutral.valid, secondNeutral.valid⟩
  left valid := by
    simp [Combining.prod, both, firstNeutral.left valid.1, secondNeutral.left valid.2]
  right part := by
    simp [Combining.prod, both, firstNeutral.right, secondNeutral.right]

end Combining

end BindingStubs
