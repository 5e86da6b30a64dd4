import BindingStubs.Proofs.Resolution.ParameterNames
import BindingStubs.Stub.Rendering
import Mathlib.Data.List.Perm.Subperm

namespace BindingStubs

/-!
# Names of rendered parameters

Every parameter is rendered under its own name, with as few underscores behind it as make the name
legal: no keyword, not the name of the receiver, and not the name of a parameter before it.  The
search for such a name ends, because every underscore gives another name and only finitely many are
taken.
-/

namespace ParameterName

/-! ## Names and underscores -/

/-- The name that a parameter has by itself: an unnamed one is called after its position. -/
def ownName
    (name : String)
    (position : Nat) :
    String :=
  if name.isEmpty then "arg" ++ Text.ofNat position else name

/-- A name with underscores behind it. -/
def extended
    (name : String)
    (underscores : Nat) :
    String :=
  name ++ String.ofList (List.replicate underscores '_')

/-- Whether no parameter may have a name, whatever the others are called. -/
def Reserved
    (hasReceiver : Bool)
    (name : String) :
    Prop :=
  name ∈ keywords ∨ hasReceiver = true ∧ name = "self"

/-- Whether a parameter may not have a name, or another one has it already. -/
def Unavailable
    (hasReceiver : Bool)
    (taken : List String)
    (name : String) :
    Prop :=
  Reserved hasReceiver name ∨ name ∈ taken

/-- Whether a name is another one with the fewest underscores that make it available. -/
def IsChoice
    (hasReceiver : Bool)
    (taken : List String)
    (own chosen : String) :
    Prop :=
  ∃ underscores,
    chosen = extended own underscores ∧
      ¬ Unavailable hasReceiver taken chosen ∧
      ∀ fewer < underscores, Unavailable hasReceiver taken (extended own fewer)

theorem toList_extended
    (name : String)
    (underscores : Nat) :
    (extended name underscores).toList = name.toList ++ List.replicate underscores '_' := by
  simp [extended]

@[simp] theorem extended_zero
    (name : String) :
    extended name 0 = name := by
  simp [← String.toList_inj, toList_extended]

/-- One more underscore may be put in front of the others. -/
theorem extended_append_underscore
    (name : String)
    (underscores : Nat) :
    extended (name ++ "_") underscores = extended name (underscores + 1) := by
  simp [← String.toList_inj, toList_extended, List.replicate_succ]

theorem extended_one
    (name : String) :
    extended name 1 = name ++ "_" := by
  rw [← extended_append_underscore, extended_zero]

theorem extended_injective
    (name : String) :
    Function.Injective (extended name) := by
  intro first second same
  have lengths := congrArg List.length (congrArg String.toList same)
  simpa [toList_extended] using lengths

/-! ## The search for a name -/

/-- How the search runs: it appends an underscore as long as the name is taken. -/
inductive RunsTo
    (taken : List String) :
    String → String → Prop where
  | stop
      {name : String} :
      name ∉ taken →
      RunsTo taken name name
  | append
      {name last : String} :
      name ∈ taken →
      RunsTo taken (name ++ "_") last →
      RunsTo taken name last

/-- Not all of the first extensions of a name are taken. -/
theorem exists_extended_not_mem
    (taken : List String)
    (name : String) :
    ∃ underscores ≤ taken.length, extended name underscores ∉ taken := by
  by_contra noneFree
  push Not at noneFree
  let candidates := (List.range (taken.length + 1)).map (extended name)
  have distinct : candidates.Nodup := List.nodup_range.map (extended_injective name)
  have areTaken : candidates ⊆ taken := by
    intro candidate member
    obtain ⟨underscores, inRange, rfl⟩ := List.mem_map.mp member
    exact noneFree underscores (Nat.le_of_lt_succ (List.mem_range.mp inRange))
  have fits := (List.subperm_of_subset distinct areTaken).length_le
  rw [List.length_map, List.length_range] at fits
  exact Nat.not_succ_le_self _ fits

/-- With tries enough for the first extension that is not taken, the search runs to its end. -/
theorem runsTo_freshWithin
    {taken : List String}
    {tries underscores : Nat}
    {name : String}
    (enough : underscores < tries)
    (free : extended name underscores ∉ taken) :
    RunsTo taken name (freshWithin taken tries name) := by
  induction tries generalizing underscores name with
  | zero => exact absurd enough (Nat.not_lt_zero _)
  | succ tries inductionHypothesis =>
      rw [freshWithin]
      split
      · rename_i isTaken
        have isTaken : name ∈ taken := List.contains_iff_mem.mp isTaken
        cases underscores with
        | zero => exact absurd isTaken (by simpa using free)
        | succ underscores =>
            rw [← extended_append_underscore] at free
            exact .append isTaken (inductionHypothesis (Nat.lt_of_succ_lt_succ enough) free)
      · rename_i notTaken
        exact .stop (by simpa using notTaken)

/-- The search for a name that is not taken ends. -/
theorem runsTo_fresh
    (taken : List String)
    (name : String) :
    RunsTo taken name (fresh taken name) := by
  obtain ⟨underscores, few, free⟩ := exists_extended_not_mem taken name
  exact runsTo_freshWithin (Nat.lt_succ_of_le few) free

/-- The search ends at the first extension that is not taken. -/
theorem RunsTo.exists_extended
    {taken : List String}
    {name last : String}
    (runs : RunsTo taken name last) :
    ∃ underscores,
      last = extended name underscores ∧
        last ∉ taken ∧ ∀ fewer < underscores, extended name fewer ∈ taken := by
  induction runs with
  | stop free => exact ⟨0, by simp, free, nofun⟩
  | append isTaken _ inductionHypothesis =>
      obtain ⟨underscores, isLast, free, areTaken⟩ := inductionHypothesis
      refine ⟨underscores + 1, isLast.trans (extended_append_underscore ..), free, ?_⟩
      rintro (_ | fewer) less
      · simpa using isTaken
      · rw [← extended_append_underscore]
        exact areTaken fewer (Nat.lt_of_succ_lt_succ less)

/-! ## The choice of a name -/

/-- No reserved name ends in an underscore. -/
theorem not_reserved_extended_succ
    (hasReceiver : Bool)
    (name : String)
    (underscores : Nat) :
    ¬ Reserved hasReceiver (extended name (underscores + 1)) := by
  have noUnderscore : ∀ word ∈ "self" :: keywords, word.toList.getLast? ≠ some '_' := by decide
  have endsSo : (extended name (underscores + 1)).toList.getLast? = some '_' := by
    rw [toList_extended, List.replicate_succ', ← List.append_assoc, List.getLast?_concat]
  rintro (isKeyword | ⟨_, isSelf⟩)
  · exact noUnderscore _ (List.mem_cons_of_mem _ isKeyword) endsSo
  · exact noUnderscore _ (isSelf ▸ List.mem_cons_self) endsSo

/-- A name that is made up for a position is not reserved. -/
theorem not_reserved_position
    (hasReceiver : Bool)
    (position : Nat) :
    ¬ Reserved hasReceiver ("arg" ++ Text.ofNat position) := by
  have noneBegins : ∀ word ∈ "self" :: keywords, ¬ "arg".toList <+: word.toList := by decide
  have begins : "arg".toList <+: ("arg" ++ Text.ofNat position).toList := by
    rw [String.toList_append]
    exact List.prefix_append ..
  rintro (isKeyword | ⟨_, isSelf⟩)
  · exact noneBegins _ (List.mem_cons_of_mem _ isKeyword) begins
  · exact noneBegins _ (isSelf ▸ List.mem_cons_self) begins

/-- The search starts at the own name of a parameter, or behind one underscore if that name is
reserved. -/
theorem exists_start
    (hasReceiver : Bool)
    (taken : List String)
    (name : String)
    (position : Nat) :
    ∃ lead ≤ 1,
      choose hasReceiver taken name position =
          fresh taken (extended (ownName name position) lead) ∧
        (lead = 0 ↔ ¬ Reserved hasReceiver (ownName name position)) := by
  by_cases isEmpty : name.isEmpty = true
  · have notReserved := not_reserved_position hasReceiver position
    have notSelf : (hasReceiver && "arg" ++ Text.ofNat position == "self") = false := by
      refine Bool.eq_false_iff.mpr fun isSelf => notReserved (.inr ?_)
      simpa using isSelf
    refine ⟨0, by simp, ?_, by simpa [ownName, isEmpty] using notReserved⟩
    simp [choose, identifier, ownName, isEmpty, notSelf]
  · have isOwn : ownName name position = name := if_neg isEmpty
    rw [isOwn]
    by_cases isKeyword : name ∈ keywords
    · -- An escaped keyword is not the name of the receiver, so it is not escaped again.
      have notSelf : (hasReceiver && name ++ "_" == "self") = false := by
        refine Bool.eq_false_iff.mpr fun isSelf => ?_
        refine not_reserved_extended_succ hasReceiver name 0 (.inr ?_)
        simpa [extended_one] using isSelf
      refine ⟨1, Nat.le_refl 1, ?_, by simp [Reserved, isKeyword]⟩
      simp [choose, identifier, isEmpty, isKeyword, notSelf, extended_one]
    · by_cases isSelf : hasReceiver = true ∧ name = "self"
      · obtain ⟨isReceiver, rfl⟩ := isSelf
        refine ⟨1, Nat.le_refl 1, ?_, by simp [Reserved, isReceiver]⟩
        simp [choose, identifier, isKeyword, isReceiver, extended_one]
      · refine ⟨0, by simp, ?_, by simp [Reserved, isKeyword, isSelf]⟩
        have notSelf : (hasReceiver && name == "self") = false :=
          Bool.eq_false_iff.mpr fun same => isSelf (by simpa using same)
        simp [choose, identifier, isEmpty, isKeyword, notSelf]

/-- A parameter gets its own name with the fewest underscores that make it available. -/
theorem isChoice_choose
    (hasReceiver : Bool)
    (taken : List String)
    (name : String)
    (position : Nat) :
    IsChoice hasReceiver taken (ownName name position)
      (choose hasReceiver taken name position) := by
  obtain ⟨lead, few, isChoice, unreserved⟩ := exists_start hasReceiver taken name position
  obtain ⟨underscores, isLast, free, areTaken⟩ :=
    (runsTo_fresh taken (extended (ownName name position) lead)).exists_extended
  rw [isChoice]
  generalize ownName name position = own at *
  rw [isLast] at free ⊢
  obtain rfl | rfl : lead = 0 ∨ lead = 1 := by omega
  · rw [extended_zero] at free areTaken ⊢
    refine ⟨underscores, rfl, ?_, fun fewer less => .inr (areTaken fewer less)⟩
    rintro (reserved | isTaken)
    · cases underscores with
      | zero => exact unreserved.mp rfl (by simpa using reserved)
      | succ underscores => exact not_reserved_extended_succ hasReceiver own underscores reserved
    · exact free isTaken
  · rw [extended_one, extended_append_underscore] at free ⊢
    rw [extended_one] at areTaken
    refine ⟨underscores + 1, rfl, ?_, ?_⟩
    · rintro (reserved | isTaken)
      · exact not_reserved_extended_succ hasReceiver own underscores reserved
      · exact free isTaken
    · rintro (_ | fewer) less
      · have reserved : Reserved hasReceiver own := by
          by_contra notReserved
          exact absurd (unreserved.mpr notReserved) Nat.one_ne_zero
        simpa using .inl reserved
      · rw [← extended_append_underscore]
        exact .inr (areTaken fewer (Nat.lt_of_succ_lt_succ less))

/-! ## Lists of names -/

theorem length_chooseFrom
    (hasReceiver : Bool)
    (names taken : List String)
    (position : Nat) :
    (chooseFrom hasReceiver taken position names).length = names.length := by
  induction names generalizing taken position with
  | nil => rfl
  | cons name rest inductionHypothesis =>
      rw [chooseFrom, List.length_cons, inductionHypothesis, List.length_cons]

/-- Every parameter of a list gets its name next to those of the parameters before it. -/
theorem exists_isChoice_chooseFrom
    (hasReceiver : Bool)
    (taken : List String)
    (start : Nat)
    {names : List String}
    {index : Nat}
    {name : String}
    (found : names[index]? = some name) :
    ∃ chosen,
      (chooseFrom hasReceiver taken start names)[index]? = some chosen ∧
        IsChoice hasReceiver
          (taken ++ (chooseFrom hasReceiver taken start names).take index)
          (ownName name (start + index)) chosen := by
  induction names generalizing taken start index with
  | nil => cases found
  | cons first rest inductionHypothesis =>
      rw [chooseFrom]
      cases index with
      | zero =>
          cases found
          refine ⟨_, rfl, ?_⟩
          simpa using isChoice_choose hasReceiver taken name start
      | succ index =>
          obtain ⟨chosen, isChosen, isChoice⟩ :=
            inductionHypothesis (taken ++ [choose hasReceiver taken first start]) (start + 1) found
          refine ⟨chosen, isChosen, ?_⟩
          simpa [Nat.add_assoc, Nat.add_comm 1] using isChoice

/-- Names that are available where they are chosen are distinct. -/
theorem nodup_chooseFrom
    (hasReceiver : Bool)
    (names : List String)
    {taken : List String}
    (position : Nat)
    (distinct : taken.Nodup) :
    (taken ++ chooseFrom hasReceiver taken position names).Nodup := by
  induction names generalizing taken position with
  | nil => simpa [chooseFrom] using distinct
  | cons name rest inductionHypothesis =>
      obtain ⟨_, _, available, _⟩ := isChoice_choose hasReceiver taken name position
      have isNew : choose hasReceiver taken name position ∉ taken := fun isTaken =>
        available (.inr isTaken)
      have distinctWithNew := distinct.concat isNew
      rw [List.concat_eq_append] at distinctWithNew
      rw [chooseFrom, List.append_cons]
      exact inductionHypothesis (position + 1) distinctWithNew

end ParameterName

namespace Rendering

open ParameterName Resolution

/-- Rendered parameters are the chosen names with what their types are rendered to. -/
theorem yields_renderParameters
    (context : ResolutionScope)
    (hasReceiver : Bool)
    (parameters : List Parameter) :
    Yields (renderParameters context hasReceiver parameters) fun items =>
      ∃ types,
        List.Forall₂ (fun parameter type => ComesTo (parameterType context parameter.type) type)
            parameters types ∧
          items =
            List.zipWith (fun name type => name ++ ": " ++ type)
              (chooseAll hasReceiver (parameters.map Parameter.name)) types := by
  have areTypes :=
    yields_resolveAll (parameterType context) (parameters.map Parameter.type)
  refine areTypes.bind_of_yields fun types each => .pure ⟨types, ?_, List.map_zip_eq_zipWith⟩
  simpa only [List.forall₂_map_left_iff] using each

/-- Where parameters are rendered, their names make a legal parameter list: they are distinct, and
none is a keyword or, next to a receiver, `self`.  Every parameter has its own name, with the fewest
underscores that tell it from keywords, from the receiver and from the names before it; the search
for such a name ends. -/
theorem renderParameters_names_legally
    {context : ResolutionScope}
    {hasReceiver : Bool}
    {parameters : List Parameter}
    {prelude after items : List String}
    (rendered : renderParameters context hasReceiver parameters prelude = .ok items after) :
    let names := chooseAll hasReceiver (parameters.map Parameter.name)
    (∃ types,
      List.Forall₂ (fun parameter type => ComesTo (parameterType context parameter.type) type)
          parameters types ∧
        items = List.zipWith (fun name type => name ++ ": " ++ type) names types) ∧
      names.length = parameters.length ∧
      names.Nodup ∧
      (∀ name ∈ names, name ∉ keywords ∧ (hasReceiver = true → name ≠ "self")) ∧
      (∀ position parameter,
        parameters[position]? = some parameter →
          ∃ chosen,
            names[position]? = some chosen ∧
              IsChoice hasReceiver (names.take position) (ownName parameter.name position)
                chosen) ∧
      ∀ taken name, RunsTo taken name (fresh taken name) := by
  intro names
  have sameLength : names.length = parameters.length := by
    rw [← List.length_map (f := Parameter.name)]
    exact length_chooseFrom hasReceiver _ [] 0
  have chosenAt (position : Nat) (parameter : Parameter)
      (found : parameters[position]? = some parameter) :
      ∃ chosen,
        names[position]? = some chosen ∧
          IsChoice hasReceiver (names.take position) (ownName parameter.name position) chosen := by
    have foundName : (parameters.map Parameter.name)[position]? = some parameter.name := by
      rw [List.getElem?_map, found, Option.map_some]
    have isChosen := exists_isChoice_chooseFrom hasReceiver [] 0 foundName
    rwa [List.nil_append, Nat.zero_add] at isChosen
  refine ⟨yields_renderParameters context hasReceiver parameters items (.intro rendered),
    sameLength, nodup_chooseFrom hasReceiver _ 0 List.nodup_nil, fun name member => ?_, chosenAt,
    runsTo_fresh⟩
  obtain ⟨position, inside, isName⟩ := List.getElem_of_mem member
  obtain ⟨chosen, isChosen, _, _, available, _⟩ :=
    chosenAt position parameters[position] (List.getElem?_eq_getElem (sameLength ▸ inside))
  rw [List.getElem?_eq_getElem inside, isName, Option.some.injEq] at isChosen
  rw [isChosen]
  exact ⟨fun isKeyword => available (.inl (.inl isKeyword)),
    fun isReceiver isSelf => available (.inl (.inr ⟨isReceiver, isSelf⟩))⟩

/-- The names `self_`, `class_` and `arg3` are taken where other parameters want them. -/
theorem renderParameters_names_legally_next_to_receiver :
    let context : ResolutionScope := { model := {} }
    let parameters : List Parameter :=
      ["self", "class", "class_", "", "arg3", "self_"].map fun name =>
        { name, type := .plain "int" }
    let names := chooseAll true (parameters.map Parameter.name)
    renderParameters context true parameters [] =
        .ok
          ["self_: int", "class_: int", "class__: int", "arg3: int", "arg3_: int", "self__: int"]
          [] ∧
      names.Nodup ∧
      (∀ name ∈ names, name ∉ keywords ∧ name ≠ "self") ∧
      ∃ chosen, names[5]? = some chosen ∧ IsChoice true (names.take 5) "self_" chosen := by
  intro context parameters names
  have rendered : renderParameters context true parameters [] =
      .ok
        ["self_: int", "class_: int", "class__: int", "arg3: int", "arg3_: int", "self__: int"]
        [] := by
    decide +kernel
  obtain ⟨_, _, distinct, unreserved, chosenAt, _⟩ := renderParameters_names_legally rendered
  exact ⟨rendered, distinct, fun name member => (unreserved name member).imp_right fun apart =>
    apart rfl, chosenAt 5 { name := "self_", type := .plain "int" } rfl⟩

end Rendering

end BindingStubs
