import BindingStubs.Proofs.Acting
import BindingStubs.Proofs.Naming.QualifiedNames
import BindingStubs.Proofs.Stub.Paths
import BindingStubs.Run.Basic
import Mathlib.Data.List.Nodup

namespace BindingStubs

/-!
# The stubs that an emission leaves

Stubs are written one after the other.  A stub stays in its file until another one is written to
the same path, and two modules of a run have the same path when they have the same name.
Registrations and the assignment of names tell modules apart by their C++ names alone, so that
modules with one name are not refused; all but the last of them lose their stubs.
-/

/-! ## Writing stubs -/

namespace Acting

/-- Making the directory of a path leaves everything that stands. -/
theorem within_of_makeParent
    {path : String}
    {world after : World}
    (made : makeParent path world = .ok () after) :
    FileTree.Within world.files after.files := by
  cases isBelow : FilePath.parent? path with
  | none =>
      rw [makeParent, isBelow] at made
      cases made
      exact .refl _
  | some parent =>
      simp only [makeParent, isBelow] at made
      rw [noting_eq_ok_iff, change, World.change] at made
      cases madeDirectories : world.files.makeDirectories parent world.clock with
      | error error =>
          rw [madeDirectories] at made
          cases made
      | ok files =>
          rw [madeDirectories] at made
          cases made
          exact FileTree.within_makeDirectories madeDirectories

theorem write_eq_ok_iff
    {path content : String}
    {world after : World} :
    write path content world = .ok () after ↔
      ∃ files,
        world.files.write path content world.clock = .ok files ∧
          after = { world.later with files := files } := by
  rw [write, change, World.change]
  cases world.files.write path content world.clock with
  | error error => simp
  | ok files => simp [eq_comm]

end Acting

namespace Run

/-- A stub that is written is read from its path, and what is read elsewhere stays. -/
theorem exists_of_writeStubs_cons
    {directory : String}
    {stub : Stub}
    {rest : List Stub}
    {world after : World}
    {written : List String}
    (success : writeStubs directory (stub :: rest) world = .ok written after) :
    ∃ between others,
      between.files.read (stub.pathBelow directory) = .ok stub.text ∧
        (∀ path content,
          FileTree.Apart (stub.pathBelow directory) path →
          world.files.read path = .ok content →
          between.files.read path = .ok content) ∧
        writeStubs directory rest between = .ok others after ∧
        written = stub.pathBelow directory :: others := by
  simp only [writeStubs] at success
  obtain ⟨_, prepared, made, success⟩ := Acting.bind_eq_ok_iff.mp success
  obtain ⟨_, between, wrote, success⟩ := Acting.bind_eq_ok_iff.mp success
  obtain ⟨others, last, wroteRest, success⟩ := Acting.bind_eq_ok_iff.mp success
  cases success
  obtain ⟨files, wroteHere, rfl⟩ := Acting.write_eq_ok_iff.mp (Acting.noting_eq_ok_iff.mp wrote)
  have isWithin := Acting.within_of_makeParent made
  refine ⟨_, others, FileTree.read_of_written wroteHere, ?_, wroteRest, rfl⟩
  intro path content apart isRead
  exact FileTree.read_of_apart wroteHere apart (isWithin.read_eq isRead)

/-- Every stub is written to its own path. -/
theorem written_eq_of_writeStubs
    {directory : String}
    {stubs : List Stub}
    {world after : World}
    {written : List String}
    (success : writeStubs directory stubs world = .ok written after) :
    written = stubs.map (Stub.pathBelow directory) := by
  induction stubs generalizing world written with
  | nil =>
      cases success
      rfl
  | cons stub rest inductionHypothesis =>
      obtain ⟨between, others, _, _, wroteRest, rfl⟩ := exists_of_writeStubs_cons success
      rw [inductionHypothesis wroteRest, List.map_cons]

/-- What is read at a path stays while stubs are written elsewhere. -/
theorem read_of_writeStubs
    {directory : String}
    {stubs : List Stub}
    {world after : World}
    {written : List String}
    (success : writeStubs directory stubs world = .ok written after)
    {path content : String}
    (areApart : ∀ stub ∈ stubs, FileTree.Apart (stub.pathBelow directory) path)
    (isRead : world.files.read path = .ok content) :
    after.files.read path = .ok content := by
  induction stubs generalizing world written with
  | nil =>
      cases success
      exact isRead
  | cons stub rest inductionHypothesis =>
      obtain ⟨between, others, _, stays, wroteRest, _⟩ := exists_of_writeStubs_cons success
      exact inductionHypothesis wroteRest
        (fun other member => areApart other (List.mem_cons_of_mem _ member))
        (stays path content (areApart stub List.mem_cons_self) isRead)

/-- A stub stays in its file if all later ones are written elsewhere. -/
theorem read_stub_of_writeStubs
    {directory : String}
    {before later : List Stub}
    {stub : Stub}
    {world after : World}
    {written : List String}
    (success : writeStubs directory (before ++ stub :: later) world = .ok written after)
    (areApart :
      ∀ other ∈ later,
        FileTree.Apart (other.pathBelow directory) (stub.pathBelow directory)) :
    after.files.read (stub.pathBelow directory) = .ok stub.text := by
  induction before generalizing world written with
  | nil =>
      obtain ⟨between, others, isRead, _, wroteRest, _⟩ := exists_of_writeStubs_cons success
      exact read_of_writeStubs wroteRest areApart isRead
  | cons first rest inductionHypothesis =>
      obtain ⟨between, others, _, _, wroteRest, _⟩ := exists_of_writeStubs_cons success
      exact inductionHypothesis wroteRest

end Run

/-! ## The stubs of a named model -/

namespace Emission

open BindingModel

/-- The modules that a run is responsible for, in the order in which they are emitted. -/
def localModules
    (model : BindingModel) :
    List Module :=
  model.modules.filter fun entity => !entity.imported

theorem mem_localModules
    {model : BindingModel}
    {entity : Module} :
    entity ∈ localModules model ↔ entity ∈ model.modules ∧ entity.imported = false := by
  simp [localModules]

/-- Modules are rendered one by one. -/
theorem map_renderModule_eq
    {model : BindingModel}
    {entities : List Module}
    {stubs : List Stub}
    (rendered : renderModules model entities = .ok stubs) :
    entities.map (Rendering.renderModule model) = stubs.map .ok := by
  induction entities generalizing stubs with
  | nil =>
      cases rendered
      rfl
  | cons entity rest inductionHypothesis =>
      rw [renderModules] at rendered
      cases here : Rendering.renderModule model entity with
      | error fault =>
          rw [here] at rendered
          cases rendered
      | ok stub =>
          rw [here] at rendered
          cases others : renderModules model rest with
          | error failure =>
              rw [others] at rendered
              cases rendered
          | ok renderedRest =>
              rw [others] at rendered
              cases rendered
              rw [List.map_cons, here, inductionHypothesis others, List.map_cons]

/-- A stub bears the full name of its module. -/
theorem module_eq_of_renderModule
    {model : BindingModel}
    {entity : Module}
    {stub : Stub}
    (rendered : Rendering.renderModule model entity = .ok stub) :
    entity.qualifiedName = some stub.module := by
  rw [Rendering.renderModule, Rendering.renderModuleWithin] at rendered
  split at rendered
  · cases rendered
  · rename_i name isNamed
    split at rendered
    · cases rendered
      exact isNamed
    · cases rendered

section Emitted

variable
  {package : Option String}
  {directory : String}
  {model named : BindingModel}
  {stubs : List Stub}
  {world after : World}
  {written : List String}
  (assigned : assignNames package model = .ok () named)
  (levels : ∀ entity ∈ localModules named, Stub.HasLevels entity.pythonName)
  (rendered : renderAll named = .ok stubs)
  (success : Run.writeStubs directory stubs world = .ok written after)

include assigned in
/-- Below one directory, the path of a module of this run is made of the parts of its name. -/
theorem exists_path_of_assigned
    (directory : String) :
    ∃ base,
      ∀ entity ∈ localModules named,
        ∀ stub,
          Rendering.renderModule named entity = .ok stub →
          stub.pathBelow directory =
            Stub.appendParts base (entity.pythonName.toList.splitOn '.') := by
  obtain ⟨base, isBelow⟩ := Stub.exists_pathBelow_qualifyModule package directory
  refine ⟨base, fun entity member stub rendered => ?_⟩
  obtain ⟨isThere, isLocal⟩ := mem_localModules.mp member
  have through := (settles_assignNames package model).ensures assigned (.refl named)
  have isNamed := through.qualifiedName_of_local isThere isLocal
  rw [module_eq_of_renderModule rendered, Option.some_inj] at isNamed
  rw [← isBelow, ← isNamed]

include assigned levels in
/-- Modules of this run with different names are written to different places. -/
theorem apart_of_pythonName_ne
    {entity other : Module}
    {stub otherStub : Stub}
    (member : entity ∈ localModules named)
    (otherMember : other ∈ localModules named)
    (rendered : Rendering.renderModule named entity = .ok stub)
    (otherRendered : Rendering.renderModule named other = .ok otherStub)
    (differ : entity.pythonName ≠ other.pythonName) :
    FileTree.Apart (stub.pathBelow directory) (otherStub.pathBelow directory) := by
  obtain ⟨base, isPath⟩ := exists_path_of_assigned assigned directory
  rw [isPath entity member stub rendered, isPath other otherMember otherStub otherRendered]
  refine Stub.apart_appendParts base (List.splitOn_ne_nil _ _) (List.splitOn_ne_nil _ _)
    (fun part isPart => ⟨levels entity member part isPart, ?_⟩)
    (fun part isPart => ⟨levels other otherMember part isPart, ?_⟩) ?_
  · exact Stub.dot_not_mem_of_mem_splitOn isPart
  · exact Stub.dot_not_mem_of_mem_splitOn isPart
  · intro sameParts
    have sameText := congrArg (['.'].intercalate ·) sameParts
    simp only [List.intercalate_splitOn] at sameText
    exact differ (String.toList_inj.mp sameText)

include assigned levels rendered success in
/-- The last module of a name keeps its stub. -/
theorem read_last_stub
    {before later : List Module}
    {entity : Module}
    (isSplit : localModules named = before ++ entity :: later)
    (isLast : ∀ other ∈ later, other.pythonName ≠ entity.pythonName) :
    ∃ stub,
      Rendering.renderModule named entity = .ok stub ∧
        after.files.read (stub.pathBelow directory) = .ok stub.text := by
  have areRendered := map_renderModule_eq rendered
  change (localModules named).map _ = _ at areRendered
  rw [isSplit, List.map_append, List.map_cons, eq_comm, List.map_eq_append_iff] at areRendered
  obtain ⟨beforeStubs, restStubs, rfl, _, restRendered⟩ := areRendered
  obtain ⟨stub, laterStubs, rfl, isRendered, laterRendered⟩ := List.map_eq_cons_iff.mp restRendered
  refine ⟨stub, isRendered.symm, Run.read_stub_of_writeStubs success fun otherStub isLater => ?_⟩
  have otherMember := List.mem_map_of_mem (f := Except.ok (ε := Fault)) isLater
  rw [laterRendered] at otherMember
  obtain ⟨other, otherLater, otherRendered⟩ := List.mem_map.mp otherMember
  exact apart_of_pythonName_ne assigned levels
    (by rw [isSplit]; exact List.mem_append_right _ (List.mem_cons_of_mem _ otherLater))
    (by rw [isSplit]; exact List.mem_append_right _ List.mem_cons_self)
    otherRendered isRendered.symm (isLast other otherLater)

include assigned levels rendered success in
/-- The paths of an emission are distinct exactly if the names of its modules are. -/
theorem nodup_written_iff :
    written.Nodup ↔ ((localModules named).map Module.pythonName).Nodup := by
  obtain ⟨base, isPath⟩ := exists_path_of_assigned assigned directory
  have areRendered := map_renderModule_eq rendered
  change (localModules named).map _ = _ at areRendered
  have paths :
      written =
        ((localModules named).map Module.pythonName).map fun name =>
          Stub.appendParts base (name.toList.splitOn '.') := by
    rw [Run.written_eq_of_writeStubs success, List.map_map, eq_comm]
    refine List.ext_getElem (by simpa using congrArg List.length areRendered) fun index _ _ => ?_
    have isRendered := List.getElem_of_eq areRendered (i := index) (by simp_all)
    simp only [List.getElem_map] at isRendered ⊢
    exact (isPath _ (List.getElem_mem _) _ isRendered).symm
  rw [paths]
  refine ⟨List.Nodup.of_map _, fun distinct => distinct.map_on ?_⟩
  intro name member other otherMember samePath
  obtain ⟨entity, isLocal, rfl⟩ := List.mem_map.mp member
  obtain ⟨otherEntity, otherLocal, rfl⟩ := List.mem_map.mp otherMember
  have sameParts :=
    Stub.appendParts_injective base (List.splitOn_ne_nil _ _) (List.splitOn_ne_nil _ _)
      (levels entity isLocal) (levels otherEntity otherLocal) samePath
  have sameText := congrArg (['.'].intercalate ·) sameParts
  simp only [List.intercalate_splitOn] at sameText
  exact String.toList_inj.mp sameText

/-- In an emission that succeeds, modules have different paths if they have different names, and
then every one of them keeps its stub. -/
theorem stubs_stay_when_names_differ
    (assigned : assignNames package model = .ok () named)
    (levels :
      ∀ entity ∈ named.modules, entity.imported = false → Stub.HasLevels entity.pythonName)
    (rendered : renderAll named = .ok stubs)
    (success : Run.writeStubs directory stubs world = .ok written after) :
    (written.Nodup ↔ ((localModules named).map Module.pythonName).Nodup) ∧
      (((localModules named).map Module.pythonName).Nodup →
        ∀ entity ∈ named.modules,
          entity.imported = false →
          ∃ stub,
            Rendering.renderModule named entity = .ok stub ∧
              after.files.read (stub.pathBelow directory) = .ok stub.text) := by
  have levels : ∀ entity ∈ localModules named, Stub.HasLevels entity.pythonName :=
    fun entity member =>
      levels entity (mem_localModules.mp member).1 (mem_localModules.mp member).2
  refine ⟨nodup_written_iff assigned levels rendered success, ?_⟩
  intro distinct entity isThere isLocal
  obtain ⟨before, later, isSplit⟩ :=
    List.append_of_mem (mem_localModules.mpr ⟨isThere, isLocal⟩)
  refine read_last_stub assigned levels rendered success isSplit fun other isLater same => ?_
  rw [isSplit, List.map_append, List.map_cons, List.nodup_append, List.nodup_cons] at distinct
  exact distinct.2.1.1 (same ▸ List.mem_map_of_mem isLater)

end Emitted

/-- A module and one whose name lies below it. -/
def nestedModules : BindingModel :=
  reindex
    { modules :=
        [{ cppName := "shapes"
           pythonName := "geo"
           doc := some "All shapes."
           declaredAt := some ⟨"shapes.cpp", 1, 1⟩ },
         { cppName := "areas"
           pythonName := "geo.area"
           doc := some "How large they are."
           declaredAt := some ⟨"areas.cpp", 1, 1⟩ }] }

/-- The nested modules with their full names. -/
def nestedNamed : BindingModel :=
  { nestedModules with
    modules :=
      List.zipWith (fun entity name => { entity with qualifiedName := some name })
        nestedModules.modules ["lib.geo", "lib.geo.area"] }

/-- The stubs of the nested modules. -/
def nestedStubs : List Stub :=
  [{ module := "lib.geo", text := "\"\"\"All shapes.\"\"\"\n\n" },
   { module := "lib.geo.area", text := "\"\"\"How large they are.\"\"\"\n\n" }]

/-- A module and one whose name lies below it have files of their own. -/
theorem stubs_stay_for_nested_modules :
    ∃ written after,
      assignNames (some "lib") nestedModules = .ok () nestedNamed ∧
        (∀ entity ∈ nestedNamed.modules,
          entity.imported = false → Stub.HasLevels entity.pythonName) ∧
        renderAll nestedNamed = .ok nestedStubs ∧
        Run.writeStubs "out" nestedStubs {} = .ok written after ∧
        written = ["out/lib/geo.pyi", "out/lib/geo/area.pyi"] ∧
        ∀ entity ∈ nestedNamed.modules,
          entity.imported = false →
          ∃ stub,
            Rendering.renderModule nestedNamed entity = .ok stub ∧
              after.files.read (stub.pathBelow "out") = .ok stub.text := by
  have assigned : assignNames (some "lib") nestedModules = .ok () nestedNamed :=
    Change.after?_eq_some_iff.mp (by decide +kernel)
  have levels :
      ∀ entity ∈ nestedNamed.modules,
        entity.imported = false → Stub.HasLevels entity.pythonName := by
    decide +kernel
  have rendered : renderAll nestedNamed = .ok nestedStubs := by decide +kernel
  have isWritten : Run.writeStubs "out" nestedStubs {} matches .ok .. := by decide +kernel
  cases success : Run.writeStubs "out" nestedStubs {} with
  | error failure after => simp [success] at isWritten
  | ok written after =>
      have areWritten : written = ["out/lib/geo.pyi", "out/lib/geo/area.pyi"] := by
        rw [Run.written_eq_of_writeStubs success]
        decide +kernel
      obtain ⟨_, stay⟩ := stubs_stay_when_names_differ assigned levels rendered success
      exact ⟨written, after, assigned, levels, rendered, rfl, areWritten, stay (by decide)⟩

/-- Two modules with one name, which registrations tell apart by their C++ names. -/
def sharedName : BindingModel :=
  reindex
    { modules :=
        [{ cppName := "shapes"
           pythonName := "geo"
           doc := some "All shapes."
           declaredAt := some ⟨"shapes.cpp", 1, 1⟩ },
         { cppName := "areas"
           pythonName := "geo"
           doc := some "How large they are."
           declaredAt := some ⟨"areas.cpp", 1, 1⟩ }] }

/-- The two modules with the full name that both are given. -/
def sharedNamed : BindingModel :=
  { sharedName with
    modules := sharedName.modules.map fun entity => { entity with qualifiedName := some "geo" } }

/-- The stubs of the two modules. -/
def sharedStubs : List Stub :=
  [{ module := "geo", text := "\"\"\"All shapes.\"\"\"\n\n" },
   { module := "geo", text := "\"\"\"How large they are.\"\"\"\n\n" }]

/-- Two modules with one name are named, rendered and written without a fault, and the first of
them loses its stub to the second. -/
theorem shared_name_loses_stub :
    ∃ written after,
      assignNames none sharedName = .ok () sharedNamed ∧
        (∀ entity ∈ sharedNamed.modules,
          entity.imported = false → Stub.HasLevels entity.pythonName) ∧
        renderAll sharedNamed = .ok sharedStubs ∧
        Run.writeStubs "out" sharedStubs {} = .ok written after ∧
        ¬ written.Nodup ∧
        ∃ entity stub,
          entity ∈ sharedNamed.modules ∧
            entity.imported = false ∧
            Rendering.renderModule sharedNamed entity = .ok stub ∧
            after.files.read (stub.pathBelow "out") ≠ .ok stub.text := by
  have isWritten : Run.writeStubs "out" sharedStubs {} matches .ok .. := by decide +kernel
  cases success : Run.writeStubs "out" sharedStubs {} with
  | error failure after => simp [success] at isWritten
  | ok written after =>
      have areWritten : written = ["out/geo.pyi", "out/geo.pyi"] := by
        rw [Run.written_eq_of_writeStubs success]
        decide +kernel
      have keepsSecond :
          after.files.read "out/geo.pyi" = .ok "\"\"\"How large they are.\"\"\"\n\n" := by
        have isPath : sharedStubs[1].pathBelow "out" = "out/geo.pyi" := by decide +kernel
        have isSplit : sharedStubs = sharedStubs.take 1 ++ sharedStubs[1] :: [] := rfl
        rw [isSplit] at success
        rw [← isPath]
        exact Run.read_stub_of_writeStubs success nofun
      have isPath : sharedStubs[0].pathBelow "out" = "out/geo.pyi" := by decide +kernel
      refine ⟨written, after, Change.after?_eq_some_iff.mp (by decide +kernel), by decide +kernel,
        by decide +kernel, rfl, by simp [areWritten], sharedNamed.modules[0], sharedStubs[0],
        List.getElem_mem _, by decide, by decide +kernel, ?_⟩
      rw [isPath, keepsSecond]
      decide

end Emission

end BindingStubs
