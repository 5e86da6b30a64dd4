import BindingStubs.Proofs.Model.ModuleDescription

namespace BindingStubs.Enumeration

/-!
# How descriptions of an enum are combined

An enum has nothing but its declaration; other descriptions only refer to it.
-/

/-- What a description says about an enum of a given name. -/
abbrev Details :=
  (Option Location ×
    (String × ValueKind × Keyed (Option Literal) × Option String × Option String)) × Bool

/-- At most one description of an enum is its declaration. -/
def details : Combining Details :=
  (Combining.declared ("", .unspecified, {}, none, none)).prod Combining.flag

def view : Enumeration ≃ String × Details where
  toFun entity :=
    (entity.cppName,
      (entity.declaredAt, entity.pythonName, entity.valueKind, entity.values, entity.doc,
        entity.qualifiedName),
      entity.imported)
  invFun whole :=
    let (cppName, (declaredAt, pythonName, valueKind, values, doc, qualifiedName),
      imported) := whole
    { pythonName, cppName, valueKind, values, doc, qualifiedName, declaredAt, imported }
  left_inv _ := rfl
  right_inv _ := rfl

/-- Enums of one name are combined. -/
def joining : Joining Enumeration :=
  (Joining.named details fun _ _ => True).through view

theorem lawful_joining : joining.Lawful :=
  (Joining.lawful_named ((Combining.lawful_declared _).prod Combining.lawful_flag)
    fun _ _ _ _ _ _ _ => trivial).through view

/-- An enum is known by its name, and a placeholder says nothing about it. -/
theorem identified : joining.Identified cppName placeholder :=
  Joining.identified_through
    ((Combining.neutral_declared _).prod Combining.neutral_flag) view

/-- The declaration of an enum with what is declared there. -/
def declaration
    (entity : Enumeration) :
    Option Location ×
      (String × ValueKind × Keyed (Option Literal) × Option String × Option String) :=
  (entity.declaredAt, entity.pythonName, entity.valueKind, entity.values, entity.doc,
    entity.qualifiedName)

theorem combine?_eq
    {one other : Enumeration}
    (sameName : one.cppName = other.cppName) :
    joining.combine? one other =
      ((Combining.declared ("", .unspecified, {}, none, none)).combine? one.declaration
          other.declaration).map fun declaration =>
        { pythonName := declaration.2.1
          cppName := one.cppName
          valueKind := declaration.2.2.1
          values := declaration.2.2.2.1
          doc := declaration.2.2.2.2.1
          qualifiedName := declaration.2.2.2.2.2
          declaredAt := declaration.1
          imported := one.imported || other.imported } := by
  cases combined :
      (Combining.declared ("", .unspecified, {}, none, none)).combine? one.declaration
        other.declaration <;>
    simp only [declaration] at combined <;>
    simp [joining, Joining.through, Joining.named, Joining.keyed, view, details,
      Combining.prod, Combining.both, Combining.flag, sameName, combined]

theorem valid_iff
    {entity : Enumeration} :
    joining.Valid entity ↔
      (entity.declaredAt = none →
        (entity.pythonName, entity.valueKind, entity.values, entity.doc,
          entity.qualifiedName) = ("", .unspecified, {}, none, none)) := by
  simp [joining, Joining.through, Joining.named, Joining.keyed, view, details,
    Combining.prod, Combining.declared, Combining.flag]

theorem adds_declaration
    (cppName pythonName : String)
    (doc : Option String)
    (values : Keyed (Option Literal))
    (location : Location) :
    Adds joining Enumeration.cppName
      (do
        BindingModel.requireUndeclared "enum" cppName (← get).declaredAt location
        modify fun entity =>
          { entity with
            pythonName, doc, values
            valueKind := inferKind values
            declaredAt := some location })
      { cppName, pythonName, doc, values
        valueKind := inferKind values
        declaredAt := some location } where
  valid := by
    simp [valid_iff]
  after? := by
    intro owner valid sameName
    have undeclared := valid_iff.mp valid
    rw [combine?_eq sameName]
    cases declaredAt : owner.declaredAt with
    | none => simp_all [declaration, Combining.declared_combine?_some]
    | some former => simp [declaration, declaredAt, Combining.declared_combine?_some]

/-- Taking over a description of an enum is combining with it. -/
theorem adds_absorb
    {incoming : Enumeration}
    (valid : joining.Valid incoming) :
    Adds joining Enumeration.cppName incoming.absorb incoming where
  valid := valid
  after? := by
    intro owner _ sameName
    rw [combine?_eq sameName, absorb]
    cases declaredAt : incoming.declaredAt with
    | none => simp [declaration, declaredAt, Combining.declared_combine?_none]
    | some site =>
        cases ownerDeclared : owner.declaredAt <;>
          simp [declaration, declaredAt, ownerDeclared, Combining.declared_combine?_some]

end BindingStubs.Enumeration
