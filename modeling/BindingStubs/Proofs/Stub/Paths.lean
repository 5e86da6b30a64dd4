import BindingStubs.Model.Naming
import BindingStubs.Proofs.FileTree
import BindingStubs.Stub.Emission

namespace BindingStubs

/-!
# The paths of stubs

A stub stands below the output directory, in one directory for every part of the name of its
module but the last, and in a file for the last.  Modules with different names have different
paths, and in whichever file tree they are followed these paths lead to different places.
-/

namespace FilePath

/-- What every path that is joined to a base begins with: the base, and a separator behind it
unless it ends in one. -/
def lead
    (base : String) :
    List Char :=
  if base.isEmpty || base.toList.getLast? == some '/' then base.toList
  else base.toList ++ ['/']

theorem isAbsolute_eq_false_of_not_mem
    {path : String}
    (noSeparator : '/' ∉ path.toList) :
    isAbsolute path = false := by
  rw [isAbsolute, beq_eq_false_iff_ne]
  intro isFirst
  exact noSeparator (List.mem_of_mem_head? isFirst)

theorem toList_join
    (base : String)
    {path : String}
    (isRelative : isAbsolute path = false) :
    (join base path).toList = lead base ++ path.toList := by
  unfold join lead
  rw [isRelative]
  split
  · contradiction
  · split <;> simp

/-- Behind a name that is joined to a base the next one follows after a separator. -/
theorem lead_join
    (base : String)
    {name : List Char}
    (isNamed : name ≠ [])
    (noSeparator : '/' ∉ name) :
    lead (join base (String.ofList name)) = lead base ++ name ++ ['/'] := by
  have joined : (join base (String.ofList name)).toList = lead base ++ name := by
    have isRelative : isAbsolute (String.ofList name) = false :=
      isAbsolute_eq_false_of_not_mem (by rwa [String.toList_ofList])
    rw [toList_join base isRelative, String.toList_ofList]
  have isLong : (join base (String.ofList name)).isEmpty = false := by
    rw [Bool.eq_false_iff, ne_eq, String.isEmpty_iff, ← String.toList_eq_nil_iff, joined]
    simp [isNamed]
  have endsInName : ((lead base ++ name).getLast? == some '/') = false := by
    rw [List.getLast?_append_of_ne_nil _ isNamed, beq_eq_false_iff_ne]
    intro isLast
    exact noSeparator (List.mem_of_getLast? isLast)
  rw [lead, joined, isLong, endsInName]
  simp

/-- A path that is joined to a base is split into names at the same places whatever the base
is followed by. -/
theorem exists_splitOn_lead
    (base : String) :
    ∃ outer,
      ∀ text : List Char,
        (lead base ++ text).splitOn '/' = outer ++ text.splitOn '/' := by
  have isSplit :
      lead base = [] ∨ ∃ front, lead base = front ++ ['/'] := by
    unfold lead
    split
    · rename_i isWhole
      rcases Bool.or_eq_true_iff.mp isWhole with isEmpty | isClosed
      · left
        rw [String.toList_eq_nil_iff]
        exact String.isEmpty_iff.mp isEmpty
      · right
        obtain ⟨front, isFront⟩ := List.getLast?_eq_some_iff.mp (eq_of_beq isClosed)
        exact ⟨front, isFront⟩
    · exact .inr ⟨_, rfl⟩
  rcases isSplit with isEmpty | ⟨front, isFront⟩
  · exact ⟨[], fun text => by rw [isEmpty, List.nil_append, List.nil_append]⟩
  · refine ⟨front.splitOn '/', fun text => ?_⟩
    rw [isFront, List.append_assoc, List.singleton_append, List.splitOn_append_cons_self]

end FilePath

namespace Stub

/-- Whether a part of a dotted name can stand for one level of a path. -/
def IsLevel
    (part : List Char) :
    Prop :=
  part ≠ [] ∧ '/' ∉ part

instance (part : List Char) : Decidable (IsLevel part) :=
  inferInstanceAs (Decidable (_ ∧ _))

/-- Whether every dotted part of a module name can stand for one level of a path. -/
def HasLevels
    (name : String) :
    Prop :=
  ∀ part ∈ name.toList.splitOn '.', IsLevel part

instance (name : String) : Decidable (HasLevels name) :=
  inferInstanceAs (Decidable (∀ part ∈ _, _))

/-- The names on the path of a stub below the output directory. -/
def fileNames : List (List Char) → List (List Char)
  | [] => []
  | [last] => [last ++ ".pyi".toList]
  | part :: next :: rest => part :: fileNames (next :: rest)

theorem fileNames_ne_nil
    {parts : List (List Char)}
    (isNamed : parts ≠ []) :
    fileNames parts ≠ [] := by
  match parts with
  | [_] => simp [fileNames]
  | _ :: _ :: _ => simp [fileNames]

theorem fileNames_injective
    {parts others : List (List Char)}
    (same : fileNames parts = fileNames others) :
    parts = others := by
  induction parts generalizing others with
  | nil =>
      by_contra differs
      exact fileNames_ne_nil (Ne.symm differs) same.symm
  | cons part rest inductionHypothesis =>
      match rest, others with
      | _, [] => exact absurd same (fileNames_ne_nil (List.cons_ne_nil part _))
      | [], [other] => simpa [fileNames] using same
      | [], other :: next :: more =>
          simp only [fileNames, List.cons.injEq] at same
          exact absurd same.2.symm (fileNames_ne_nil (List.cons_ne_nil next more))
      | next :: more, [other] =>
          simp only [fileNames, List.cons.injEq] at same
          exact absurd same.2 (fileNames_ne_nil (List.cons_ne_nil next more))
      | next :: more, other :: next' :: more' =>
          simp only [fileNames, List.cons.injEq] at same
          rw [same.1, inductionHypothesis same.2]

/-- The text of a stub's path: what leads to the directory, and the names below it. -/
theorem toList_appendParts
    {parts : List (List Char)}
    (isNamed : parts ≠ [])
    (areLevels : ∀ part ∈ parts, IsLevel part)
    (directory : String) :
    (appendParts directory parts).toList =
      FilePath.lead directory ++ ['/'].intercalate (fileNames parts) := by
  induction parts generalizing directory with
  | nil => contradiction
  | cons part rest inductionHypothesis =>
      obtain ⟨isNamedPart, noSeparator⟩ := areLevels part List.mem_cons_self
      match rest with
      | [] =>
          have isRelative : FilePath.isAbsolute (String.ofList part ++ ".pyi") = false := by
            refine FilePath.isAbsolute_eq_false_of_not_mem ?_
            simp [noSeparator]
          rw [appendParts, FilePath.toList_join directory isRelative, fileNames]
          simp [List.intercalate]
      | next :: more =>
          have below :=
            inductionHypothesis (List.cons_ne_nil next more)
              (fun other member => areLevels other (List.mem_cons_of_mem _ member))
              (FilePath.join directory (String.ofList part))
          obtain ⟨first, others, isFirst⟩ :=
            List.exists_cons_of_ne_nil (fileNames_ne_nil (List.cons_ne_nil next more))
          rw [appendParts, below, FilePath.lead_join directory isNamedPart noSeparator, fileNames,
            isFirst, List.intercalate_cons_cons]
          simp only [List.append_assoc]

theorem isLevel_fileNames
    {parts : List (List Char)}
    (areLevels : ∀ part ∈ parts, IsLevel part) :
    ∀ name ∈ fileNames parts, '/' ∉ name := by
  induction parts with
  | nil => simp [fileNames]
  | cons part rest inductionHypothesis =>
      have noSeparator := (areLevels part List.mem_cons_self).2
      match rest with
      | [] => simp [fileNames, noSeparator]
      | next :: more =>
          intro name member
          rcases List.mem_cons.mp member with rfl | isBelow
          · exact noSeparator
          · exact inductionHypothesis
              (fun other member => areLevels other (List.mem_cons_of_mem _ member)) name isBelow

/-- The names below the output directory lead down, one level each. -/
theorem leadsDown_fileNames
    {parts : List (List Char)}
    (areLevels : ∀ part ∈ parts, IsLevel part ∧ '.' ∉ part) :
    ∀ name ∈ fileNames parts, FileTree.LeadsDown name := by
  induction parts with
  | nil => simp [fileNames]
  | cons part rest inductionHypothesis =>
      obtain ⟨⟨isNamed, _⟩, noDot⟩ := areLevels part List.mem_cons_self
      match rest with
      | [] =>
          intro name member
          have isFile : name = part ++ ".pyi".toList := by simpa [fileNames] using member
          have isLong : 2 < name.length := by
            rw [isFile, List.length_append]
            exact Nat.lt_of_lt_of_le (by decide) (Nat.le_add_left 4 part.length)
          refine ⟨?_, ?_, ?_⟩ <;> rintro rfl <;> simp at isLong
      | next :: more =>
          intro name member
          rcases List.mem_cons.mp member with rfl | isBelow
          · exact ⟨isNamed, by rintro rfl; simp at noDot, by rintro rfl; simp at noDot⟩
          · exact inductionHypothesis
              (fun other member => areLevels other (List.mem_cons_of_mem _ member)) name isBelow

/-- The path of a stub is split into those names that lead to the directory and those below. -/
theorem exists_splitOn_appendParts
    (directory : String) :
    ∃ outer,
      ∀ parts : List (List Char),
        parts ≠ [] →
        (∀ part ∈ parts, IsLevel part) →
        (appendParts directory parts).toList.splitOn '/' = outer ++ fileNames parts := by
  obtain ⟨outer, splits⟩ := FilePath.exists_splitOn_lead directory
  refine ⟨outer, fun parts isNamed areLevels => ?_⟩
  rw [toList_appendParts isNamed areLevels, splits,
    List.splitOn_intercalate _ (isLevel_fileNames areLevels) (fileNames_ne_nil isNamed)]

/-- Different parts below one directory make different paths. -/
theorem appendParts_injective
    (directory : String)
    {parts others : List (List Char)}
    (isNamed : parts ≠ [])
    (othersNamed : others ≠ [])
    (areLevels : ∀ part ∈ parts, IsLevel part)
    (othersLevels : ∀ part ∈ others, IsLevel part)
    (same : appendParts directory parts = appendParts directory others) :
    parts = others := by
  obtain ⟨outer, splits⟩ := exists_splitOn_appendParts directory
  have sameSplit := splits parts isNamed areLevels
  rw [same, splits others othersNamed othersLevels] at sameSplit
  exact fileNames_injective (List.append_cancel_left sameSplit).symm

/-- Paths with different parts below one directory lead to different places, whatever trees they
are followed in. -/
theorem apart_appendParts
    (directory : String)
    {parts others : List (List Char)}
    (isNamed : parts ≠ [])
    (othersNamed : others ≠ [])
    (areLevels : ∀ part ∈ parts, IsLevel part ∧ '.' ∉ part)
    (othersLevels : ∀ part ∈ others, IsLevel part ∧ '.' ∉ part)
    (differ : parts ≠ others) :
    FileTree.Apart (appendParts directory parts) (appendParts directory others) := by
  intro tree tree' names located located'
  obtain ⟨outer, splits⟩ := exists_splitOn_appendParts directory
  obtain ⟨place, walked, isBelow⟩ :=
    FileTree.exists_place_of_locate_append
      (splits parts isNamed fun part member => (areLevels part member).1)
      (leadsDown_fileNames areLevels) located
  obtain ⟨place', walked', isBelow'⟩ :=
    FileTree.exists_place_of_locate_append
      (splits others othersNamed fun part member => (othersLevels part member).1)
      (leadsDown_fileNames othersLevels) located'
  have samePlace : place = place' := FileTree.walk_unique walked walked'
  subst samePlace
  have sameNames :
      (fileNames parts).map String.ofList = (fileNames others).map String.ofList :=
    List.append_cancel_left (isBelow.symm.trans isBelow')
  have sameNames : fileNames parts = fileNames others :=
    List.map_injective_iff.mpr (fun _ _ => String.ofList_inj.mp) sameNames
  exact differ (fileNames_injective sameNames)

/-- The dotted parts of a name hold no dot. -/
theorem dot_not_mem_of_mem_splitOn
    {name part : List Char}
    (member : part ∈ name.splitOn '.') :
    '.' ∉ part := by
  induction name generalizing part with
  | nil => simp_all
  | cons first rest inductionHypothesis =>
      obtain ⟨piece, pieces, isPiece⟩ :=
        List.exists_cons_of_ne_nil (List.splitOn_ne_nil '.' rest)
      rw [List.splitOn_cons_eq_if_modifyHead, isPiece] at member
      rw [isPiece] at inductionHypothesis
      split at member <;> grind [List.modifyHead_cons]

/-- A package puts the same names before those of all its modules. -/
theorem exists_parts_qualifyModule
    (package : Option String) :
    ∃ outer,
      ∀ name : String,
        (BindingModel.qualifyModule package name).toList.splitOn '.' =
          outer ++ name.toList.splitOn '.' := by
  cases package with
  | none => exact ⟨[], fun name => rfl⟩
  | some scope =>
      by_cases isEmpty : scope.isEmpty
      · exact ⟨[], fun name => by simp [BindingModel.qualifyModule, isEmpty]⟩
      · refine ⟨scope.toList.splitOn '.', fun name => ?_⟩
        simp [BindingModel.qualifyModule, isEmpty, BindingModel.qualify,
          List.splitOn_append_cons_self]

theorem appendParts_append
    (directory : String)
    (outer : List (List Char))
    {parts : List (List Char)}
    (isNamed : parts ≠ []) :
    appendParts directory (outer ++ parts) =
      appendParts
        (outer.foldl (fun path part => FilePath.join path (String.ofList part)) directory)
        parts := by
  induction outer generalizing directory with
  | nil => rfl
  | cons part rest inductionHypothesis =>
      obtain ⟨next, more, isNext⟩ :=
        List.exists_cons_of_ne_nil (List.append_ne_nil_of_right_ne_nil rest isNamed)
      rw [List.cons_append, isNext, appendParts, ← isNext, inductionHypothesis, List.foldl_cons]

/-- The stubs of the modules of a package stand below one directory. -/
theorem exists_pathBelow_qualifyModule
    (package : Option String)
    (directory : String) :
    ∃ base,
      ∀ name text : String,
        pathBelow directory { module := BindingModel.qualifyModule package name, text } =
          appendParts base (name.toList.splitOn '.') := by
  obtain ⟨outer, splits⟩ := exists_parts_qualifyModule package
  refine
    ⟨outer.foldl (fun path part => FilePath.join path (String.ofList part)) directory,
      fun name text => ?_⟩
  rw [pathBelow, splits, appendParts_append directory outer (List.splitOn_ne_nil _ _)]

end Stub

end BindingStubs
