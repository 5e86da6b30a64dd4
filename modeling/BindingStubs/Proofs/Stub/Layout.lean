import BindingStubs.Proofs.Model.Overloads
import BindingStubs.Proofs.Resolution.Steps
import BindingStubs.Stub.Rendering

namespace BindingStubs

/-!
# The layout of stubs

A stub is laid out in blocks: behind the header of a block stand the lines of its suite one level
deeper, at least one of them, and behind a decorator stands another one or a definition at the same
level.  What is rendered at a level is laid out there, so that the next part goes on at that level.
-/

/-! ## Laid out lines -/

namespace LineRole

/-- Whether a line of this role is followed by a suite. -/
def opensBlock : LineRole → Bool
  | .classHeader => true
  | .enumHeader => true
  | .callableHeader => true
  | _ => false

/-- Whether a line of this role belongs to the definition that follows it. -/
def decorates : LineRole → Bool
  | .overloadMark => true
  | .mark => true
  | _ => false

/-- Whether a line of this role defines a callable. -/
def defines : LineRole → Bool
  | .callableHeader => true
  | .callable => true
  | _ => false

/-- What the text of a line of this role begins with. -/
def keyword : LineRole → String
  | .classHeader => "class "
  | .enumHeader => "class "
  | .callableHeader => "def "
  | .callable => "def "
  | .overloadMark => "@overload"
  | .mark => "@"
  | _ => ""

/-- A header is no decorator. -/
theorem decorates_eq_false
    {role : LineRole}
    (opens : role.opensBlock = true) :
    role.decorates = false := by
  cases role with
  | classHeader | enumHeader | callableHeader => rfl
  | separator | callable | overloadMark | mark | constant | body => cases opens

theorem keyword_ne_empty
    {role : LineRole}
    (asks : role.opensBlock = true ∨ role.decorates = true) :
    role.keyword ≠ "" := by
  cases role with
  | classHeader | enumHeader | callableHeader | callable | overloadMark | mark => decide
  | separator | constant | body => simp [opensBlock, decorates] at asks

end LineRole

namespace StubLine

/-- A line at a depth, with a text that its role allows. -/
structure StandsAt
    (line : StubLine)
    (depth : Nat) : Prop where
  atDepth : line.depth = depth
  worded : line.role.keyword.toList <+: line.text.toList

theorem StandsAt.text_ne_empty
    {line : StubLine}
    {depth : Nat}
    (stands : line.StandsAt depth)
    (isKeyword : line.role.keyword ≠ "") :
    line.text ≠ "" := by
  intro blank
  have worded := stands.worded
  rw [blank] at worded
  exact isKeyword (String.toList_eq_nil_iff.mp (List.prefix_nil.mp worded))

end StubLine

open StubLine

/-- Lines that are laid out at a depth. -/
inductive Laid : Nat → List StubLine → Prop where
  | nil {depth : Nat} : Laid depth []
  | plain {depth : Nat} {line : StubLine} {rest : List StubLine} :
      line.StandsAt depth →
      line.role.opensBlock = false →
      line.role.decorates = false →
      Laid depth rest →
      Laid depth (line :: rest)
  | block {depth : Nat} {header first : StubLine} {suite rest : List StubLine} :
      header.StandsAt depth →
      header.role.opensBlock = true →
      first.text ≠ "" →
      Laid (depth + 1) (first :: suite) →
      Laid depth rest →
      Laid depth (header :: (first :: suite ++ rest))
  | decorated {depth : Nat} {line next : StubLine} {rest : List StubLine} :
      line.StandsAt depth →
      line.role.decorates = true →
      next.role.decorates = true ∨ next.role.defines = true →
      Laid depth (next :: rest) →
      Laid depth (line :: next :: rest)

namespace Laid

variable
  {depth : Nat}
  {lines others : List StubLine}

/-- What is laid out begins at its depth. -/
theorem standsAt_head
    {line : StubLine}
    (laid : Laid depth (line :: lines)) :
    line.StandsAt depth := by
  cases laid with
  | plain stands => exact stands
  | block stands => exact stands
  | decorated stands => exact stands

/-- Behind laid out lines, further ones go on at the same depth. -/
theorem append
    (laid : Laid depth lines)
    (laidOthers : Laid depth others) :
    Laid depth (lines ++ others) := by
  induction laid with
  | nil => exact laidOthers
  | plain stands noBlock noMark _ inductionHypothesis =>
      exact .plain stands noBlock noMark (inductionHypothesis laidOthers)
  | @block depth header first suite rest stands opens shown suiteLaid _ _ inductionHypothesis =>
      have joined := Laid.block stands opens shown suiteLaid (inductionHypothesis laidOthers)
      rwa [← List.append_assoc] at joined
  | decorated stands decorates leads _ inductionHypothesis =>
      exact .decorated stands decorates leads (inductionHypothesis laidOthers)

end Laid

/-- What a line asks of the line behind it. -/
structure StubLine.Precedes
    (line : StubLine)
    (next? : Option StubLine) : Prop where
  opens :
    line.role.opensBlock = true →
    ∃ next, next? = some next ∧ next.depth = line.depth + 1 ∧ next.text ≠ ""
  decorates :
    line.role.decorates = true →
    ∃ next,
      next? = some next ∧
        next.depth = line.depth ∧ (next.role.decorates = true ∨ next.role.defines = true)

/-- A line that asks for nothing can be followed by anything. -/
theorem StubLine.Precedes.of_none
    {line : StubLine}
    (precedes : line.Precedes none)
    (next? : Option StubLine) :
    line.Precedes next? where
  opens isHeader := by
    obtain ⟨_, absent, _⟩ := precedes.opens isHeader
    cases absent
  decorates isMark := by
    obtain ⟨_, absent, _⟩ := precedes.decorates isMark
    cases absent

/-- In what is laid out, every line is followed by what it asks for. -/
theorem Laid.precedes
    {depth : Nat}
    {lines : List StubLine}
    (laid : Laid depth lines) :
    ∀ position (line : StubLine),
      lines[position]? = some line → line.Precedes lines[position + 1]? := by
  induction laid with
  | nil => exact nofun
  | plain _ noBlock noMark _ inductionHypothesis =>
      intro position line found
      cases position with
      | zero =>
          cases found
          exact ⟨fun opens => (Bool.eq_false_iff.mp noBlock opens).elim,
            fun decorates => (Bool.eq_false_iff.mp noMark decorates).elim⟩
      | succ position => exact inductionHypothesis position line found
  | @block depth header first suite rest stands opens shown suiteLaid _ inSuite inRest =>
      intro position line found
      cases position with
      | zero =>
          cases found
          have deeper := suiteLaid.standsAt_head.atDepth
          refine ⟨fun _ => ⟨first, rfl, ?_, shown⟩, fun decorates => ?_⟩
          · rw [deeper, stands.atDepth]
          · rw [LineRole.decorates_eq_false opens] at decorates
            cases decorates
      | succ position =>
          rw [List.getElem?_cons_succ] at found ⊢
          rcases Nat.lt_or_ge position (first :: suite).length with inside | beyond
          · rw [List.getElem?_append_left inside] at found
            have precedes := inSuite position line found
            rcases Nat.lt_or_ge (position + 1) (first :: suite).length with further | last
            · rwa [List.getElem?_append_left further]
            · rw [List.getElem?_eq_none last] at precedes
              exact precedes.of_none _
          · rw [List.getElem?_append_right beyond] at found
            rw [List.getElem?_append_right (Nat.le_succ_of_le beyond), Nat.succ_sub beyond]
            exact inRest _ line found
  | decorated stands decorates leads restLaid inductionHypothesis =>
      intro position line found
      cases position with
      | zero =>
          cases found
          refine ⟨fun opens => ?_, fun _ => ⟨_, rfl, ?_, leads⟩⟩
          · rw [LineRole.decorates_eq_false opens] at decorates
            cases decorates
          · rw [restLaid.standsAt_head.atDepth, stands.atDepth]
      | succ position => exact inductionHypothesis position line found

/-! ## Parts -/

/-- Laid out lines that do not begin with a blank one. -/
structure Suite
    (depth : Nat)
    (lines : List StubLine) : Prop where
  laid : Laid depth lines
  begins : ∀ first ∈ lines.head?, first.text ≠ ""

/-- A suite with a line. -/
structure Part
    (depth : Nat)
    (lines : List StubLine) : Prop extends Suite depth lines where
  nonempty : lines ≠ []

namespace Suite

variable
  {depth : Nat}
  {lines others : List StubLine}

theorem nil : Suite depth [] :=
  ⟨.nil, nofun⟩

theorem append
    (suite : Suite depth lines)
    (suiteOthers : Suite depth others) :
    Suite depth (lines ++ others) where
  laid := suite.laid.append suiteOthers.laid
  begins := by
    cases lines with
    | nil => exact suiteOthers.begins
    | cons first rest => exact suite.begins

/-- Lines that open and decorate nothing form a suite. -/
theorem of_plain
    (each :
      ∀ line ∈ lines,
        line.StandsAt depth ∧ line.role.opensBlock = false ∧ line.role.decorates = false)
    (begins : ∀ first ∈ lines.head?, first.text ≠ "") :
    Suite depth lines := by
  refine ⟨?_, begins⟩
  clear begins
  induction lines with
  | nil => exact .nil
  | cons line rest inductionHypothesis =>
      obtain ⟨⟨stands, noBlock, noMark⟩, others⟩ := List.forall_mem_cons.mp each
      exact .plain stands noBlock noMark (inductionHypothesis others)

end Suite

namespace Part

variable
  {depth : Nat}
  {lines : List StubLine}

/-- A header with its suite is a part. -/
theorem block
    {header : StubLine}
    (stands : header.StandsAt depth)
    (opens : header.role.opensBlock = true)
    (body : Part (depth + 1) lines) :
    Part depth (header :: lines) := by
  have shown := stands.text_ne_empty (LineRole.keyword_ne_empty (.inl opens))
  cases lines with
  | nil => exact (body.nonempty rfl).elim
  | cons first rest =>
      have laid := Laid.block stands opens (body.begins first rfl) body.laid .nil
      rw [List.append_nil] at laid
      exact ⟨⟨laid, by rintro _ ⟨⟩; exact shown⟩, List.cons_ne_nil _ _⟩

end Part

/-- A part that decorators can precede. -/
structure Decorable
    (depth : Nat)
    (lines : List StubLine) : Prop extends Part depth lines where
  leads : ∀ first ∈ lines.head?, first.role.decorates = true ∨ first.role.defines = true

namespace Decorable

variable
  {depth : Nat}
  {lines : List StubLine}

theorem decorated
    {line : StubLine}
    (stands : line.StandsAt depth)
    (decorates : line.role.decorates = true)
    (decorable : Decorable depth lines) :
    Decorable depth (line :: lines) := by
  have shown := stands.text_ne_empty (LineRole.keyword_ne_empty (.inr decorates))
  cases lines with
  | nil => exact (decorable.nonempty rfl).elim
  | cons next rest =>
      have laid := Laid.decorated stands decorates (decorable.leads next rfl) decorable.laid
      refine ⟨⟨⟨laid, ?_⟩, List.cons_ne_nil _ _⟩, ?_⟩
      · rintro _ ⟨⟩
        exact shown
      · rintro _ ⟨⟩
        exact .inl decorates

theorem marked
    (decorable : Decorable depth lines)
    {text : String}
    (isMark : "@".toList <+: text.toList) :
    Decorable depth ({ role := .mark, depth, text } :: lines) :=
  decorable.decorated ⟨rfl, isMark⟩ rfl

/-- An overload stands behind its marks, if it has any. -/
theorem overload
    (decorable : Decorable depth lines)
    (isGrouped isStatic : Bool) :
    Decorable depth
      ((if isGrouped then [{ role := .overloadMark, depth, text := "@overload" }] else []) ++
        (if isStatic then [{ role := .mark, depth, text := "@staticmethod" }] else []) ++
        lines) := by
  have static :
      Decorable depth
        ((if isStatic then [{ role := .mark, depth, text := "@staticmethod" }] else []) ++
          lines) := by
    cases isStatic with
    | true => exact decorable.marked (by decide)
    | false => exact decorable
  rw [List.append_assoc]
  cases isGrouped with
  | true => exact static.decorated ⟨rfl, List.prefix_rfl⟩ rfl
  | false => exact static

end Decorable

/-! ## What is rendered -/

namespace Rendering

theorem docstringLines_eq_cons
    (doc : String) :
    ∃ first rest, docstringLines doc = first :: rest ∧ first ≠ "" := by
  rw [docstringLines]
  split
  · refine ⟨_, [], rfl, ?_⟩
    simp [← String.toList_inj]
  · exact ⟨_, _, rfl, by decide⟩

theorem part_docstring
    (depth : Nat)
    (doc : String) :
    Part depth (docstring depth doc) := by
  obtain ⟨first, rest, isFirst, shown⟩ := docstringLines_eq_cons doc
  rw [docstring, isFirst]
  refine ⟨.of_plain ?_ ?_, List.cons_ne_nil _ _⟩
  · refine List.forall_mem_map.mpr fun text _ => ⟨⟨rfl, List.nil_prefix⟩, rfl, rfl⟩
  · rintro _ ⟨⟩
    exact shown

theorem decorable_definition
    (depth : Nat)
    (name : String)
    (items : List String)
    (returns : String)
    (doc : Option String) :
    Decorable depth (definition depth name items returns doc) := by
  cases doc with
  | some doc =>
      simp only [definition]
      refine ⟨.block ⟨rfl, ?_⟩ rfl (part_docstring (depth + 1) doc), ?_⟩
      · simp [LineRole.keyword, String.toList_append]
      · rintro _ ⟨⟩
        exact .inr rfl
  | none =>
      simp only [definition]
      refine ⟨⟨.of_plain ?_ ?_, List.cons_ne_nil _ _⟩, ?_⟩
      · refine List.forall_mem_singleton.mpr ⟨⟨rfl, ?_⟩, rfl, rfl⟩
        simp [LineRole.keyword, String.toList_append]
      · rintro _ ⟨⟩
        simp [← String.toList_inj]
      · rintro _ ⟨⟩
        exact .inr rfl

theorem suite_doc
    (depth : Nat)
    (doc : Option String) :
    Suite depth ((doc.map (docstring depth)).getD []) := by
  cases doc with
  | none => exact .nil
  | some doc =>
      rw [Option.map_some, Option.getD_some]
      exact (part_docstring depth doc).toSuite

/-- An ellipsis stands where a body would be empty. -/
theorem part_filler
    (depth : Nat) :
    Part depth [{ role := .body, depth, text := "..." }] := by
  refine ⟨.of_plain ?_ ?_, List.cons_ne_nil _ _⟩
  · exact List.forall_mem_singleton.mpr ⟨⟨rfl, List.nil_prefix⟩, rfl, rfl⟩
  · rintro _ ⟨⟩
    exact (by decide : "..." ≠ "")

theorem suite_enumerators
    (depth : Nat)
    (values : Keyed (Option Literal)) :
    Suite depth (values.entries.map (enumerator depth)) := by
  refine .of_plain ?_ fun first isFirst => ?_
  · exact List.forall_mem_map.mpr fun entry _ => ⟨⟨rfl, List.nil_prefix⟩, rfl, rfl⟩
  · obtain ⟨entry, _, rfl⟩ := List.mem_map.mp (List.mem_of_mem_head? isFirst)
    have separated : entry.1 ++ " = " ≠ "" := by simp [String.append_eq_empty_iff]
    exact fun blank => separated (String.append_eq_empty_iff.mp blank).1

/-- The body of an enum has a line, with and without values. -/
theorem part_enumBody
    (depth : Nat)
    (entity : Enumeration) :
    Part depth (enumBody depth entity) := by
  simp only [enumBody]
  refine ⟨.append (.append (suite_doc depth entity.doc) ?_) (suite_enumerators depth entity.values),
    fun isEmpty => ?_⟩
  · split
    · exact (part_filler depth).toSuite
    · exact .nil
  · obtain ⟨isEmpty, noValues⟩ := List.append_eq_nil_iff.mp isEmpty
    obtain ⟨noDoc, noFiller⟩ := List.append_eq_nil_iff.mp isEmpty
    cases isDoc : entity.doc with
    | some doc =>
        rw [isDoc, Option.map_some, Option.getD_some] at noDoc
        exact (part_docstring depth doc).nonempty noDoc
    | none =>
        rw [isDoc] at noFiller
        have blank : entity.values.isEmpty = true :=
          List.isEmpty_iff.mpr (List.map_eq_nil_iff.mp noValues)
        rw [blank] at noFiller
        cases noFiller

section Parts

open Resolution

variable
  {Element : Type}
  {render : Element → Resolving (List StubLine)}
  {elements : List Element}
  {depth : Nat}

/-- Parts that are joined form a suite, which is empty only if there are none. -/
theorem yields_renderEach
    (each : ∀ element ∈ elements, Yields (render element) (Part depth)) :
    Yields (renderEach render elements) fun lines =>
      Suite depth lines ∧ (lines = [] → elements = []) := by
  induction elements with
  | nil => exact .pure ⟨.nil, fun _ => rfl⟩
  | cons element rest inductionHypothesis =>
      obtain ⟨first, others⟩ := List.forall_mem_cons.mp each
      refine first.bind_of_yields fun lines part => ?_
      refine (inductionHypothesis others).bind_of_yields fun more suite => .pure ?_
      refine ⟨part.toSuite.append suite.1, fun isEmpty => ?_⟩
      exact (part.nonempty (List.append_eq_nil_iff.mp isEmpty).1).elim

theorem yields_renderParts
    (each : ∀ element ∈ elements, Yields (render element) (Laid 0)) :
    Yields (renderParts render elements) fun parts => ∀ part ∈ parts, Laid 0 part := by
  induction elements with
  | nil => exact .pure nofun
  | cons element rest inductionHypothesis =>
      obtain ⟨first, others⟩ := List.forall_mem_cons.mp each
      refine first.bind_of_yields fun part laid => ?_
      refine (inductionHypothesis others).bind_of_yields fun parts laidParts => .pure ?_
      exact List.forall_mem_cons.mpr ⟨laid, laidParts⟩

end Parts

section Members

open Resolution

variable
  (context : ResolutionScope)
  (depth : Nat)

theorem yields_renderEnum
    (model : BindingModel)
    (key : String) :
    Yields (renderEnum model depth key) (Part depth) := by
  simp only [renderEnum]
  split
  · exact .throw _
  · rename_i entity _
    refine .pure (.block ⟨rfl, ?_⟩ rfl (part_enumBody (depth + 1) entity))
    simp [LineRole.keyword, String.toList_append]

theorem yields_renderConstant
    (constant : Constant) :
    Yields (renderConstant context depth constant) (Part depth) := by
  refine .bind fun type => .pure ⟨.of_plain ?_ ?_, List.cons_ne_nil _ _⟩
  · exact List.forall_mem_singleton.mpr ⟨⟨rfl, List.nil_prefix⟩, rfl, rfl⟩
  · rintro _ ⟨⟩
    simp [String.append_eq_empty_iff]

theorem yields_renderProperty
    (owner : Class)
    (property : Property) :
    Yields (renderProperty context depth owner property) (Part depth) := by
  simp only [renderProperty]
  cases property.getterType with
  | none => exact .throw _
  | some getterType =>
      refine .bind fun returns => ?_
      have getter :=
        (decorable_definition depth property.name ["self"] returns property.doc).marked
          (by decide : "@".toList <+: "@property".toList)
      cases property.setterType with
      | none => exact .pure getter.toPart
      | some setterType =>
          refine .bind fun parameters => .pure ?_
          have setter :=
            (decorable_definition depth property.name ("self" :: parameters) "None" none).marked
              (by simp [String.toList_append] :
                "@".toList <+: ("@" ++ property.name ++ ".setter").toList)
          exact ⟨getter.toSuite.append setter.toSuite,
            List.append_ne_nil_of_left_ne_nil getter.nonempty _⟩

theorem yields_renderOverload
    (name : String)
    (inClass isGrouped : Bool)
    (overload : Callable) :
    Yields (renderOverload context depth name inClass isGrouped overload) (Decorable depth) := by
  simp only [renderOverload]
  refine .bind fun parameters => ?_
  have defined := fun items returns =>
    decorable_definition depth name items returns overload.doc
  cases overload.signature.returns with
  | some type => exact .bind fun returns => .pure ((defined _ returns).overload isGrouped _)
  | none => exact .bind fun returns => .pure ((defined _ returns).overload isGrouped _)

theorem yields_renderOverloads
    (inClass : Bool)
    (name : String)
    (overloads : List Callable) :
    Yields (renderOverloads context depth inClass name overloads) fun lines =>
      Suite depth lines ∧ (lines = [] → overloads = []) := by
  refine yields_renderEach fun overload _ part comesTo => ?_
  exact (yields_renderOverload context depth name inClass _ overload part comesTo).toPart

theorem yields_renderMethod
    (entry : String × List Callable)
    (filled : entry.2 ≠ []) :
    Yields (renderMethod context depth entry) (Part depth) := by
  rw [renderMethod]
  split
  · exact .pure (decorable_definition depth entry.1 _ _ _).toPart
  · refine fun lines comesTo => ?_
    obtain ⟨suite, none⟩ := yields_renderOverloads context depth true entry.1 entry.2 lines comesTo
    exact ⟨suite, fun isEmpty => filled (none isEmpty)⟩

end Members

section Classes

open Resolution

variable
  {context : ResolutionScope}
  (filled : context.model.Filled)

include filled

/-- The body of a class has a line, with and without members. -/
theorem yields_renderClass
    (fault : String → Fault)
    (levels depth : Nat)
    (key : String) :
    Yields (renderClass context (fun key => throw (fault key)) levels depth key) (Part depth) := by
  induction levels generalizing depth key with
  | zero => exact .throw _
  | succ levels inductionHypothesis =>
      simp only [renderClass]
      split
      · exact .throw _
      · rename_i entity found
        have isClass : entity ∈ context.model.classes := by
          obtain ⟨found, _⟩ := Option.filter_eq_some_iff.mp found
          obtain ⟨position, _, atPosition⟩ := BindingModel.class?_eq_some_iff.mp found
          exact List.mem_of_getElem? atPosition
        refine .bind fun base => ?_
        refine (yields_renderEach fun key _ =>
          yields_renderEnum (depth + 1) context.model key).bind_of_yields fun enums isEnums => ?_
        refine (yields_renderEach fun key _ =>
          inductionHypothesis (depth + 1) key).bind_of_yields fun classes isClasses => ?_
        refine (yields_renderEach fun constant _ =>
          yields_renderConstant context (depth + 1) constant).bind_of_yields
            fun constants isConstants => ?_
        refine (yields_renderOverloads context (depth + 1) true "__init__"
          entity.constructors).bind_of_yields fun constructors isConstructors => ?_
        refine (yields_renderEach fun property _ =>
          yields_renderProperty context (depth + 1) entity property).bind_of_yields
            fun properties isProperties => ?_
        refine (yields_renderEach fun entry member =>
          yields_renderMethod context (depth + 1) entry
            (filled entity isClass entry member)).bind_of_yields fun methods isMethods => ?_
        refine .pure ?_
        simp only [List.cons_append]
        have isFiller :
            Suite (depth + 1)
              (if entity.hasMembers then []
              else [{ role := .body, depth := depth + 1, text := "..." }]) := by
          split
          · exact .nil
          · exact (part_filler (depth + 1)).toSuite
        refine .block ⟨rfl, ?_⟩ rfl ⟨?_, fun isEmpty => ?_⟩
        · cases base <;> simp [LineRole.keyword, String.toList_append]
        · exact ((((((suite_doc (depth + 1) entity.doc).append isFiller).append isEnums.1).append
            isClasses.1).append isConstants.1).append isConstructors.1).append isProperties.1
              |>.append isMethods.1
        · simp only [List.append_eq_nil_iff] at isEmpty
          obtain ⟨⟨⟨⟨⟨⟨⟨_, noFiller⟩, noEnums⟩, noClasses⟩, noConstants⟩, noConstructors⟩,
            noProperties⟩, noMethods⟩ := isEmpty
          have noMembers : entity.hasMembers = false := by
            simp [Class.hasMembers, Keyed.isEmpty, List.map_eq_nil_iff.mp (isEnums.2 noEnums),
              List.map_eq_nil_iff.mp (isClasses.2 noClasses),
              List.map_eq_nil_iff.mp (isConstants.2 noConstants),
              isConstructors.2 noConstructors,
              List.map_eq_nil_iff.mp (isProperties.2 noProperties), isMethods.2 noMethods]
          rw [noMembers] at noFiller
          cases noFiller

end Classes

/-! ## Modules -/

theorem laid_appendPart
    {lines part : List StubLine}
    (laid : Laid 0 lines)
    (laidPart : Laid 0 part) :
    Laid 0 (appendPart lines part) := by
  rw [appendPart]
  split
  · split
    · exact laid.append laidPart
    · exact laid.append (.plain ⟨rfl, List.nil_prefix⟩ rfl rfl laidPart)
  · exact laidPart

theorem laid_foldl_appendPart
    {parts : List (List StubLine)}
    (each : ∀ part ∈ parts, Laid 0 part)
    {lines : List StubLine}
    (laid : Laid 0 lines) :
    Laid 0 (parts.foldl appendPart lines) := by
  induction parts generalizing lines with
  | nil => exact laid
  | cons part rest inductionHypothesis =>
      obtain ⟨first, others⟩ := List.forall_mem_cons.mp each
      exact inductionHypothesis others (laid_appendPart laid first)

open Resolution in
theorem yields_renderBody
    {context : ResolutionScope}
    (filled : context.model.Filled)
    (fault : String → Fault)
    (levels : Nat)
    (entity : Module) :
    Yields (renderBody context (fun key => throw (fault key)) levels entity) (Laid 0) := by
  refine (yields_renderParts fun key _ =>
    (yields_renderEnum 0 context.model key).imp fun part => part.laid).bind_of_yields
      fun enums laidEnums => ?_
  refine (yields_renderParts fun key _ =>
    (yields_renderClass filled fault levels 0 key).imp fun part => part.laid).bind_of_yields
      fun classes laidClasses => ?_
  refine (yields_renderEach fun constant _ =>
    yields_renderConstant context 0 constant).bind_of_yields fun constants suite => ?_
  refine (yields_renderParts fun entry _ =>
    (yields_renderOverloads context 0 false entry.1 entry.2).imp fun suite =>
      suite.1.laid).bind_of_yields fun functions laidFunctions => ?_
  refine .pure (laid_foldl_appendPart ?_ .nil)
  simp only [List.forall_mem_append]
  refine ⟨⟨⟨laidEnums, laidClasses⟩, ?_⟩, laidFunctions⟩
  split
  · exact nofun
  · exact List.forall_mem_singleton.mpr suite.1.laid

open Resolution in
/--
The stub of a module of a reachable model consists of lines that are laid out: behind every header
stands a line that is not blank, one level deeper, and behind every decorator another one or a
definition at the same level.  At every level, classes, enums, properties and groups of overloads
are laid out where they begin, and what follows them goes on there.
-/
theorem renderModule_lays_out_blocks
    {model : BindingModel}
    (reachable : model.Reachable)
    {entity : Module}
    {stub : Stub}
    (rendered : renderModule model entity = .ok stub) :
    let context : ResolutionScope := { model, scope := some stub.module }
    let endless (key : String) : Resolving (List StubLine) := throw (.endless key)
    (∃ lines prelude,
      renderBody context endless (model.classes.length + 1) entity [] = .ok lines prelude ∧
        stub.text = stubText entity.doc prelude lines ∧
        Laid 0 lines ∧
        ∀ position (line : StubLine),
          lines[position]? = some line → line.Precedes lines[position + 1]?) ∧
      ∀ depth,
        (∀ levels key, Yields (renderClass context endless levels depth key) (Laid depth)) ∧
          (∀ key, Yields (renderEnum model depth key) (Laid depth)) ∧
          (∀ owner property,
            Yields (renderProperty context depth owner property) (Laid depth)) ∧
          ∀ inClass name overloads,
            Yields (renderOverloads context depth inClass name overloads) (Laid depth) := by
  intro context endless
  have filled : context.model.Filled := reachable.filled
  refine ⟨?_, fun depth => ⟨fun levels key => ?_, fun key => ?_, fun owner property => ?_,
    fun inClass name overloads => ?_⟩⟩
  · rw [renderModule, renderModuleWithin] at rendered
    cases isName : entity.qualifiedName with
    | none =>
        rw [isName] at rendered
        cases rendered
    | some name =>
        simp only [isName] at rendered
        split at rendered
        · rename_i lines prelude outcome
          cases rendered
          have laid := yields_renderBody filled .endless (model.classes.length + 1) entity lines
            (.intro outcome)
          exact ⟨lines, prelude, outcome, rfl, laid, laid.precedes⟩
        · cases rendered
  · exact (yields_renderClass filled .endless levels depth key).imp fun part => part.laid
  · exact (yields_renderEnum depth model key).imp fun part => part.laid
  · exact (yields_renderProperty context depth owner property).imp fun part => part.laid
  · exact (yields_renderOverloads context depth inClass name overloads).imp fun suite =>
      suite.1.laid

/-- A module with a class that has an enum without values, a comparison and a method with two
overloads, one of them documented. -/
def circles : List Registration :=
  let circle : CppType := .plain "Circle"
  let location : Location := ⟨"circles.cpp", 1, 1⟩
  let method (isStatic : Bool) (doc : Option String) : Callable :=
    { signature := { returns := none, parameters := [], spelling := "" }
      doc, isStatic, cppSignature := "", location }
  [.declareModule "shapes" "shapes" none location,
    .declareClass "Shadow<Circle>" circle "Circle" none none location,
    .declareEnum "Color" "Color" none {} location,
    .placeClass (.module "shapes") "Shadow<Circle>" location,
    .placeEnum (.class "Shadow<Circle>" circle location) "Color" location,
    .addMethod "Shadow<Circle>" circle location "__eq__" (method false none),
    .addMethod "Shadow<Circle>" circle location "draw" (method true (some "Draw one.\nAnywhere.")),
    .addMethod "Shadow<Circle>" circle location "draw" (method false none)]

/-- The lines of the module, with what they are for and their depths. -/
def circlesLines : List StubLine :=
  [⟨.classHeader, 0, "class Circle:"⟩,
    ⟨.enumHeader, 1, "class Color(enum.Enum):"⟩,
    ⟨.body, 2, "..."⟩,
    ⟨.callable, 1, "def __eq__(self, other, /) -> bool: ..."⟩,
    ⟨.overloadMark, 1, "@overload"⟩,
    ⟨.mark, 1, "@staticmethod"⟩,
    ⟨.callableHeader, 1, "def draw() -> None:"⟩,
    ⟨.body, 2, "\"\"\""⟩,
    ⟨.body, 2, "Draw one."⟩,
    ⟨.body, 2, "Anywhere."⟩,
    ⟨.body, 2, "\"\"\""⟩,
    ⟨.overloadMark, 1, "@overload"⟩,
    ⟨.callable, 1, "def draw(self, /) -> None: ..."⟩]

open BindingModel Change in
/-- Nested blocks and stacked decorators are laid out. -/
theorem renderModule_lays_out_blocks_of_circles :
    let model := left (assignNames none) (left (Registration.performAll circles) empty)
    Reachable model ∧
      ∃ entity stub,
        model.module? "shapes" = some entity ∧
          renderModule model entity = .ok stub ∧
          stub.text = stubText entity.doc [] circlesLines ∧
          Laid 0 circlesLines := by
  intro model
  have performed : (after? (Registration.performAll circles) empty).isSome := by decide +kernel
  obtain ⟨registered, performed⟩ := Option.isSome_iff_exists.mp performed
  have reachable : Reachable model := by
    refine .assignNames none ?_
    rw [left_of_after? performed]
    exact Reachable.empty.performAll (after?_eq_some_iff.mp performed)
  have isRendered :
      (model.module? "shapes").bind (fun entity =>
        (renderModule model entity).toOption.map Stub.module) = some "shapes" := by
    decide +kernel
  have evaluated :
      (model.module? "shapes").map (fun entity =>
        renderBody { model, scope := some "shapes" } (fun key => throw (.endless key))
          (model.classes.length + 1) entity []) = some (.ok circlesLines []) := by
    decide +kernel
  obtain ⟨entity, found, isRendered⟩ := Option.bind_eq_some_iff.mp isRendered
  rw [found, Option.map_some, Option.some.injEq] at evaluated
  cases rendered : renderModule model entity with
  | error fault =>
      rw [rendered] at isRendered
      cases isRendered
  | ok stub =>
      rw [rendered] at isRendered
      have isShapes : stub.module = "shapes" := Option.some.inj isRendered
      obtain ⟨lines, prelude, outcome, isText, laid, _⟩ :=
        (renderModule_lays_out_blocks reachable rendered).1
      rw [isShapes, evaluated] at outcome
      cases outcome
      exact ⟨reachable, entity, stub, found, rendered, isText, laid⟩

end Rendering

end BindingStubs
