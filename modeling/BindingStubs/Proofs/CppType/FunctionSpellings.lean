import BindingStubs.CppType.FunctionType
import BindingStubs.Proofs.CppType.Brackets

namespace BindingStubs

/-!
# Function types as they are printed

A compiler prints a function type as its return type, a space, and its parameters in parentheses.
Three searches with different counters take this apart: the opening parenthesis is the first one
outside angle brackets, the closing one is found by counting parentheses only, and commas separate
parameters where no bracket is open.  On what is printed the three agree.
-/

namespace FunctionType

open Spelling

/-! ## The opening parenthesis -/

/-- How many angle brackets are open behind a text. -/
def openAngles
    (text : List Char) :
    Int :=
  text.count '<' - text.count '>'

theorem openAngles_cons
    (character : Char)
    (text : List Char) :
    openAngles (character :: text) = openAngles [character] + openAngles text := by
  simp only [openAngles, List.count_cons, List.count_nil]
  split <;> split <;> omega

/-- The search for an opening parenthesis passes over a text with none outside angle brackets. -/
theorem splitAtOpen_append
    {text : List Char}
    {angle : Int}
    (enclosed : ∀ before after, text = before ++ '(' :: after → angle + openAngles before ≠ 0)
    (rest : List Char) :
    splitAtOpen angle (text ++ rest) =
      (splitAtOpen (angle + openAngles text) rest).map fun parts => (text ++ parts.1, parts.2) := by
  induction text generalizing angle with
  | nil => simp [openAngles]
  | cons character text inductionHypothesis =>
      have enclosedRest :
          ∀ before after, text = before ++ '(' :: after →
            angle + openAngles [character] + openAngles before ≠ 0 := by
        intro before after whole
        have later := enclosed (character :: before) after (by rw [whole, List.cons_append])
        rwa [openAngles_cons, ← Int.add_assoc] at later
      rw [openAngles_cons, ← Int.add_assoc]
      have passed := inductionHypothesis enclosedRest
      by_cases opens : character = '<'
      · have deeper : openAngles [character] = 1 := by simp [openAngles, opens]
        rw [deeper] at passed ⊢
        simp [splitAtOpen, opens, passed, Function.comp_def]
      · by_cases closes : character = '>'
        · have higher : openAngles [character] = -1 := by simp [openAngles, closes]
          rw [higher, ← Int.sub_eq_add_neg] at passed ⊢
          simp [splitAtOpen, closes, passed, Function.comp_def]
        · have same : openAngles [character] = 0 := by simp [openAngles, opens, closes]
          have notHere : ¬ (character = '(' ∧ angle = 0) := by
            rintro ⟨rfl, isOutside⟩
            exact enclosed [] text rfl (by simp [isOutside, openAngles])
          rw [same, Int.add_zero] at passed ⊢
          simp [splitAtOpen, opens, closes, notHere, passed, Function.comp_def]

/-! ## The closing parenthesis -/

/-- The search for the closing parenthesis passes over a text whose brackets are nested. -/
theorem splitAtClose_append
    {commas : Bool}
    {text : List Char}
    (nested : Nested commas text)
    {depth : Nat}
    (opened : 1 ≤ depth)
    (rest : List Char) :
    splitAtClose depth (text ++ rest) =
      (splitAtClose depth rest).map fun parts => (text ++ parts.1, parts.2) := by
  induction nested generalizing depth rest with
  | nil => simp
  | character unstructured _ inductionHypothesis =>
      simp only [structuralCharacters, List.mem_cons, not_or] at unstructured
      simp [splitAtClose, unstructured, inductionHypothesis opened, Function.comp_def]
  | comma _ inductionHypothesis =>
      simp [splitAtClose, inductionHypothesis opened, Function.comp_def]
  | enclose pair _ _ insideHypothesis restHypothesis =>
      have deeper : ¬ depth + 1 ≤ 1 := by omega
      simp only [bracketPairs, List.mem_cons, Prod.mk.injEq, List.not_mem_nil, or_false] at pair
      obtain ⟨rfl, rfl⟩ | ⟨rfl, rfl⟩ | ⟨rfl, rfl⟩ := pair
      · simp [splitAtClose, insideHypothesis opened, restHypothesis opened, Function.comp_def]
      · simp [splitAtClose, insideHypothesis (Nat.le_add_left 1 depth), deeper,
          restHypothesis opened, Function.comp_def]
      · simp [splitAtClose, insideHypothesis opened, restHypothesis opened, Function.comp_def]

/-! ## The parameters -/

/-- A text that may be printed between the commas of a list. -/
structure IsPiece
    (text : List Char) :
    Prop where
  nonempty : text ≠ []
  trimmed : Text.trim text = text
  nested : Nested false text

section Pieces

variable
    {pieces : List (List Char)}

theorem nested_intercalate
    (arePieces : ∀ piece ∈ pieces, IsPiece piece) :
    Nested true (List.intercalate [',', ' '] pieces) := by
  induction pieces with
  | nil => exact .nil
  | cons first rest inductionHypothesis =>
      obtain ⟨isPiece, others⟩ := List.forall_mem_cons.mp arePieces
      cases rest with
      | nil => simpa using isPiece.nested.allowCommas
      | cons next rest =>
          rw [List.intercalate_cons_cons, List.append_assoc]
          exact isPiece.nested.allowCommas.append
            (.comma (.character (by decide) (inductionHypothesis others)))

/-- The pieces between the commas of a list are found, whatever blanks precede it. -/
theorem map_trim_splitCommas_intercalate
    {first : List Char}
    {rest : List (List Char)}
    (arePieces : ∀ piece ∈ first :: rest, IsPiece piece)
    {before : List Char}
    (blank : Blank before) :
    (splitCommas 0 (before ++ List.intercalate [',', ' '] (first :: rest))).map Text.trim =
      first :: rest := by
  induction rest generalizing first before with
  | nil =>
      obtain ⟨isPiece, -⟩ := List.forall_mem_cons.mp arePieces
      have nested : Nested false (before ++ first) :=
        (balanced_of_unstructured fun _ => blank.unstructured).nested.append isPiece.nested
      rw [List.intercalate_singleton, nested.splitCommas_eq, List.map_singleton,
        Text.trim_blank_append blank, isPiece.trimmed]
  | cons next rest inductionHypothesis =>
      obtain ⟨isPiece, others⟩ := List.forall_mem_cons.mp arePieces
      have nested : Nested false (before ++ first) :=
        (balanced_of_unstructured fun _ => blank.unstructured).nested.append isPiece.nested
      have found := inductionHypothesis others blank_space
      rw [List.intercalate_cons_cons, List.append_assoc, ← List.append_assoc, List.cons_append,
        nested.splitCommas_comma, List.map_cons, Text.trim_blank_append blank, isPiece.trimmed,
        found]

theorem splitTopLevel_intercalate
    (arePieces : ∀ piece ∈ pieces, IsPiece piece) :
    splitTopLevel (List.intercalate [',', ' '] pieces) = pieces := by
  cases pieces with
  | nil => rfl
  | cons first rest =>
      have found := map_trim_splitCommas_intercalate arePieces blank_nil
      rw [List.nil_append] at found
      rw [splitTopLevel, found]
      split
      · rename_i isBlank
        exact absurd (List.cons.inj isBlank).1 (arePieces first List.mem_cons_self).nonempty
      · rfl

end Pieces

/-! ## Function types -/

/-- Whatever is printed as a function type is taken apart again, if its return type has matching
angle brackets and no parenthesis outside them, and its parameters have nested brackets and no
comma outside them.  What follows the parameters does not matter. -/
theorem split?_inverts_printing
    {returns : List Char}
    (matching : openAngles returns = 0)
    (enclosed : ∀ before after, returns = before ++ '(' :: after → openAngles before ≠ 0)
    {parameters : List (List Char)}
    (arePieces : ∀ parameter ∈ parameters, IsPiece parameter)
    (named : ∀ parameter ∈ parameters, parameter ≠ "void".toList ∧ parameter ≠ "...".toList)
    (suffix : List Char) :
    split?
        (returns ++ " (".toList ++ List.intercalate ", ".toList parameters ++ ")".toList
          ++ suffix) =
      some { returns := Text.trim returns, parameters } := by
  have opened :
      splitAtOpen 0
          (returns ++ " (".toList ++ List.intercalate ", ".toList parameters ++ ")".toList
            ++ suffix) =
        some (returns ++ [' '],
          List.intercalate [',', ' '] parameters ++ ')' :: suffix) := by
    have enclosedFromZero :
        ∀ before after, returns = before ++ '(' :: after → 0 + openAngles before ≠ 0 := by
      simpa only [Int.zero_add] using enclosed
    simp only [List.append_assoc]
    rw [splitAtOpen_append enclosedFromZero, matching]
    simp [splitAtOpen]
  have closed :
      splitAtClose 1 (List.intercalate [',', ' '] parameters ++ ')' :: suffix) =
        some (List.intercalate [',', ' '] parameters, suffix) := by
    rw [splitAtClose_append (nested_intercalate arePieces) (Nat.le_refl 1)]
    simp [splitAtClose]
  have kept : parameters.filter isParameter = parameters := by
    rw [List.filter_eq_self]
    intro parameter member
    simpa [isParameter, (arePieces parameter member).nonempty] using named parameter member
  rw [split?, opened]
  simp only [closed, splitTopLevel_intercalate arePieces, kept,
    Text.trim_append_of_blank returns blank_space]

theorem split?_inverts_printing_of_nested_brackets :
    split?
        ("std::map<int, std::function<void (int)>> (const std::array<int, 3> &, "
          ++ "void (*)(int, double[2])) const noexcept").toList =
      some
        { returns := "std::map<int, std::function<void (int)>>".toList
          parameters :=
            ["const std::array<int, 3> &".toList, "void (*)(int, double[2])".toList] } := by
  have enclosedAt :
      ∀ position < "std::map<int, std::function<void (int)>>".toList.length,
        "std::map<int, std::function<void (int)>>".toList[position]? = some '(' →
          openAngles ("std::map<int, std::function<void (int)>>".toList.take position) ≠ 0 := by
    decide +kernel
  have enclosed :
      ∀ before after, "std::map<int, std::function<void (int)>>".toList = before ++ '(' :: after →
        openAngles before ≠ 0 := by
    intro before after whole
    rw [whole] at enclosedAt
    simpa using enclosedAt before.length (by simp) (by simp)
  have plain (commas : Bool) (text : List Char)
      (unstructured : text.all (fun character => !structuralCharacters.contains character)) :
      Nested commas text := by
    refine (balanced_of_unstructured fun character member => ?_).nested
    simpa using List.all_eq_true.mp unstructured character member
  have angles : ('<', '>') ∈ bracketPairs := by decide +kernel
  have parentheses : ('(', ')') ∈ bracketPairs := by decide +kernel
  have squares : ('[', ']') ∈ bracketPairs := by decide +kernel
  have int : Nested true "int".toList := plain true _ rfl
  have array : Nested false "const std::array<int, 3> &".toList :=
    (plain false "const std::array".toList rfl).append
      (.enclose angles (int.append (.comma (plain true " 3".toList rfl)))
        (plain false " &".toList rfl))
  have dimension : Nested true " double[2]".toList :=
    (plain true " double".toList rfl).append
      (.enclose squares (plain true "2".toList rfl) .nil)
  have callback : Nested false "void (*)(int, double[2])".toList :=
    (plain false "void ".toList rfl).append
      (.enclose parentheses (plain true "*".toList rfl)
        (.enclose parentheses (int.append (.comma dimension)) .nil))
  have arePieces :
      ∀ parameter ∈ ["const std::array<int, 3> &".toList, "void (*)(int, double[2])".toList],
        IsPiece parameter :=
    List.forall_mem_cons.mpr ⟨⟨by decide +kernel, by decide +kernel, array⟩,
      List.forall_mem_cons.mpr ⟨⟨by decide +kernel, by decide +kernel, callback⟩, nofun⟩⟩
  have returnsTrimmed :
      Text.trim "std::map<int, std::function<void (int)>>".toList =
        "std::map<int, std::function<void (int)>>".toList := by
    decide +kernel
  have split :=
    split?_inverts_printing (by decide +kernel) enclosed arePieces (by decide +kernel)
      " const noexcept".toList
  have printed :
      "std::map<int, std::function<void (int)>>".toList ++ " (".toList
            ++ List.intercalate ", ".toList
              ["const std::array<int, 3> &".toList, "void (*)(int, double[2])".toList]
            ++ ")".toList ++ " const noexcept".toList =
        ("std::map<int, std::function<void (int)>> (const std::array<int, 3> &, "
          ++ "void (*)(int, double[2])) const noexcept").toList := by
    decide +kernel
  rw [printed, returnsTrimmed] at split
  exact split

end FunctionType

end BindingStubs
