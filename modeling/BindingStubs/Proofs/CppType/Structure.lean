import BindingStubs.CppType.Basic
import Mathlib.Data.List.DropRight

namespace BindingStubs.CppType

/-!
# The structure of types

A type is a tree whose nodes carry names.  The name of a node is its base name followed by
one mark for each pointer level, and this reading is unique.  Removing pointer levels is
therefore the exact inverse of adding them.
-/

mutual

/-- Induction over a type and the arguments below it. -/
theorem recurse
    {motive : CppType → Prop}
    (plain : ∀ name, motive (.plain name))
    (applied :
      ∀ name arguments,
        (∀ argument ∈ arguments, motive argument) →
        motive (.applied name arguments)) :
    ∀ type, motive type
  | .plain name => plain name
  | .applied name arguments =>
      applied name arguments (recurseList plain applied arguments)

theorem recurseList
    {motive : CppType → Prop}
    (plain : ∀ name, motive (.plain name))
    (applied :
      ∀ name arguments,
        (∀ argument ∈ arguments, motive argument) →
        motive (.applied name arguments)) :
    ∀ arguments : List CppType, ∀ argument ∈ arguments, motive argument
  | [], _, member => by
      simp at member
  | first :: rest, argument, member => by
      rcases List.mem_cons.mp member with isFirst | inRest
      · rw [isFirst]
        exact recurse plain applied first
      · exact recurseList plain applied rest argument inRest

end

mutual

/-- The nodes of a type, outermost first. -/
def nodes : CppType → List CppType
  | .plain name => [.plain name]
  | .applied name arguments => .applied name arguments :: nodesOfList arguments

def nodesOfList : List CppType → List CppType
  | [] => []
  | type :: rest => nodes type ++ nodesOfList rest

end

theorem mem_nodesOfList
    {node : CppType}
    {arguments : List CppType} :
    node ∈ nodesOfList arguments ↔ ∃ argument ∈ arguments, node ∈ argument.nodes := by
  induction arguments with
  | nil => simp [nodesOfList]
  | cons first rest inductionHypothesis =>
      simp [nodesOfList, inductionHypothesis]

theorem nodesOfList_eq_flatMap
    (arguments : List CppType) :
    nodesOfList arguments = arguments.flatMap nodes := by
  induction arguments with
  | nil => rfl
  | cons first rest inductionHypothesis =>
      rw [nodesOfList, inductionHypothesis, List.flatMap_cons]

theorem baseNamesOfList_eq_flatMap
    (arguments : List CppType) :
    baseNamesOfList arguments = arguments.flatMap baseNames := by
  induction arguments with
  | nil => rfl
  | cons first rest inductionHypothesis =>
      rw [baseNamesOfList, inductionHypothesis, List.flatMap_cons]

/-- The base names of a type are those of its nodes. -/
theorem baseNames_eq_map_nodes
    (type : CppType) :
    type.baseNames = type.nodes.map baseName := by
  induction type using recurse with
  | plain name => rfl
  | applied name arguments inductionHypothesis =>
      rw [baseNames, nodes, List.map_cons, baseNamesOfList_eq_flatMap, nodesOfList_eq_flatMap,
        List.map_flatMap]
      congr 1
      exact List.flatMap_congr inductionHypothesis

/-- The base name consists of the characters before the trailing pointer marks. -/
theorem toList_baseName
    (type : CppType) :
    type.baseName.toList = type.name.toList.rdropWhile isPointerMark :=
  String.toList_ofList

/-- A name is its base name followed by its pointer marks. -/
theorem toList_name
    (type : CppType) :
    type.name.toList =
      type.baseName.toList ++ List.replicate type.pointerDepth pointerMark := by
  have marks :
      type.name.toList.rtakeWhile isPointerMark =
        List.replicate type.pointerDepth pointerMark := by
    rw [List.eq_replicate_iff]
    constructor
    · simp [List.rtakeWhile, pointerDepth]
    · intro character member
      simpa [isPointerMark] using List.mem_rtakeWhile_imp member
  rw [toList_baseName, ← marks, List.rdropWhile_append_rtakeWhile]

theorem getLast?_baseName_ne
    (type : CppType) :
    type.baseName.toList.getLast? ≠ some pointerMark := by
  intro atEnd
  rw [toList_baseName] at atEnd
  have nonempty : type.name.toList.rdropWhile isPointerMark ≠ [] := by
    intro isEmpty
    simp [isEmpty] at atEnd
  rw [List.getLast?_eq_some_getLast nonempty, Option.some.injEq] at atEnd
  apply List.rdropWhile_last_not _ _ nonempty
  simp [atEnd, isPointerMark]

/-- A name splits in only one way into a base that ends in no mark and pointer marks. -/
theorem parts_eq_of_toList_name
    {type : CppType}
    {base : List Char}
    {levels : Nat}
    (solid : base.getLast? ≠ some pointerMark)
    (spelled : type.name.toList = base ++ List.replicate levels pointerMark) :
    type.baseName.toList = base ∧ type.pointerDepth = levels := by
  have marked :
      ∀ count,
        (base ++ List.replicate count pointerMark).rdropWhile isPointerMark = base := by
    intro count
    induction count with
    | zero =>
        rw [List.replicate_zero, List.append_nil, List.rdropWhile_eq_self_iff]
        intro nonempty isMark
        apply solid
        rw [List.getLast?_eq_some_getLast nonempty]
        simpa [isPointerMark] using isMark
    | succ count inductionHypothesis =>
        rw [List.replicate_succ', ← List.append_assoc,
          List.rdropWhile_concat_pos _ _ _ (by simp [isPointerMark])]
        exact inductionHypothesis
  have baseEq : type.baseName.toList = base := by
    rw [toList_baseName, spelled, marked]
  refine ⟨baseEq, ?_⟩
  have lengths := congrArg List.length (toList_name type)
  rw [spelled, baseEq] at lengths
  simpa using lengths.symm

@[simp] theorem name_withName
    (name : String)
    (type : CppType) :
    (type.withName name).name = name := by
  cases type <;> rfl

@[simp] theorem withName_name
    (type : CppType) :
    type.withName type.name = type := by
  cases type <;> rfl

@[simp] theorem withName_withName
    (first second : String)
    (type : CppType) :
    (type.withName first).withName second = type.withName second := by
  cases type <;> rfl

/-- A pointer has the base name of what it points to, and one level more. -/
theorem parts_pointerTo
    (type : CppType) :
    type.pointerTo.baseName = type.baseName ∧
      type.pointerTo.pointerDepth = type.pointerDepth + 1 := by
  have spelled :
      type.pointerTo.name.toList =
        type.baseName.toList ++
          List.replicate (type.pointerDepth + 1) pointerMark := by
    rw [pointerTo, name_withName, String.toList_push, toList_name, List.append_assoc,
      List.replicate_succ']
  obtain ⟨base, levels⟩ :=
    parts_eq_of_toList_name (getLast?_baseName_ne type) spelled
  exact ⟨String.toList_inj.mp base, levels⟩

@[simp] theorem baseName_pointerTo
    (type : CppType) :
    type.pointerTo.baseName = type.baseName :=
  (parts_pointerTo type).1

@[simp] theorem pointerDepth_pointerTo
    (type : CppType) :
    type.pointerTo.pointerDepth = type.pointerDepth + 1 :=
  (parts_pointerTo type).2

theorem addPointers_pointerTo
    (type : CppType)
    (levels : Nat) :
    type.pointerTo.addPointers levels = (type.addPointers levels).pointerTo := by
  induction levels with
  | zero => rfl
  | succ levels inductionHypothesis =>
      rw [addPointers, inductionHypothesis, addPointers]

@[simp] theorem baseName_addPointers
    (type : CppType)
    (levels : Nat) :
    (type.addPointers levels).baseName = type.baseName := by
  induction levels with
  | zero => rfl
  | succ levels inductionHypothesis =>
      rw [addPointers, baseName_pointerTo, inductionHypothesis]

@[simp] theorem pointerDepth_addPointers
    (type : CppType)
    (levels : Nat) :
    (type.addPointers levels).pointerDepth = type.pointerDepth + levels := by
  induction levels with
  | zero => rfl
  | succ levels inductionHypothesis =>
      rw [addPointers, pointerDepth_pointerTo, inductionHypothesis, Nat.add_assoc]

@[simp] theorem arguments?_addPointers
    (type : CppType)
    (levels : Nat) :
    (type.addPointers levels).arguments? = type.arguments? := by
  induction levels with
  | zero => rfl
  | succ levels inductionHypothesis =>
      rw [addPointers, ← inductionHypothesis]
      cases type.addPointers levels with
      | plain name => rfl
      | applied name arguments => rfl

/-- Removing a pointer level undoes adding one, and nothing else. -/
theorem pointee?_eq_some_iff
    {type pointee : CppType} :
    type.pointee? = some pointee ↔ type = pointee.pointerTo := by
  simp only [pointee?, Option.map_eq_some_iff, List.isSuffixOf?_eq_some_iff_append_eq]
  constructor
  · rintro ⟨rest, spelled, rfl⟩
    rw [pointerTo, name_withName, withName_withName]
    have whole : type.name = (String.ofList rest).push pointerMark := by
      rw [← String.toList_inj, String.toList_push, String.toList_ofList, spelled]
    rw [← whole, withName_name]
  · rintro rfl
    refine ⟨pointee.name.toList, ?_, ?_⟩
    · rw [pointerTo, name_withName, String.toList_push]
    · rw [pointerTo, withName_withName, String.ofList_toList, withName_name]

/-- Removing several pointer levels undoes adding as many, and nothing else. -/
theorem removePointers?_eq_some_iff
    {type rest : CppType}
    {levels : Nat} :
    type.removePointers? levels = some rest ↔ type = rest.addPointers levels := by
  induction levels generalizing rest with
  | zero => simp [removePointers?, addPointers]
  | succ levels inductionHypothesis =>
      rw [removePointers?, Option.bind_eq_some_iff, addPointers,
        ← addPointers_pointerTo]
      constructor
      · rintro ⟨between, removed, last⟩
        rw [inductionHypothesis.mp removed, pointee?_eq_some_iff.mp last]
      · intro whole
        exact ⟨rest.pointerTo, inductionHypothesis.mpr whole,
          pointee?_eq_some_iff.mpr rfl⟩

theorem addPointers_injective
    (levels : Nat) :
    Function.Injective fun type : CppType => type.addPointers levels := by
  intro first second same
  have removed := removePointers?_eq_some_iff.mpr (rfl : first.addPointers levels = _)
  exact Option.some.inj (removed.symm.trans (removePointers?_eq_some_iff.mpr same))

/-- Adding as many levels as a plain name has to its base gives the name back. -/
theorem addPointers_plain_baseName
    (name : String) :
    (CppType.plain (CppType.plain name).baseName).addPointers
        (CppType.plain name).pointerDepth =
      .plain name := by
  have added :
      ∀ (base : String) (levels : Nat),
        (CppType.plain base).addPointers levels =
          .plain (String.ofList (base.toList ++ List.replicate levels pointerMark)) := by
    intro base levels
    induction levels with
    | zero => simp [addPointers]
    | succ levels inductionHypothesis =>
        rw [addPointers, inductionHypothesis, pointerTo, withName, CppType.plain.injEq,
          ← String.toList_inj]
        simp [CppType.name, List.replicate_succ']
  rw [added, ← toList_name, CppType.name, String.ofList_toList]

end BindingStubs.CppType
