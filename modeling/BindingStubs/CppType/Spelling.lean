import BindingStubs.CppType.Basic
import BindingStubs.Text.WordCharacter

namespace BindingStubs

/-!
# Spelling C++ types

`CppType.spell` writes a type the way it is shown in diagnostics, and `CppType.parse`
reads the spellings a compiler prints.  Reading drops elaboration keywords, qualifiers
and references, counts pointer marks and splits the outermost argument list; what it
does not understand becomes part of the name, so every text has a reading.
-/

namespace CppType

mutual

/-- The characters of a type: base name, argument list, pointer marks. -/
def spell : CppType → List Char
  | .plain name =>
      (CppType.plain name).baseName.toList
        ++ List.replicate (CppType.plain name).pointerDepth pointerMark
  | .applied name arguments =>
      (CppType.applied name arguments).baseName.toList
        ++ '<' :: spellArguments arguments ++ ['>']
        ++ List.replicate (CppType.applied name arguments).pointerDepth pointerMark

/-- The arguments separated by a comma and a space. -/
def spellArguments : List CppType → List Char
  | [] => []
  | [type] => spell type
  | type :: next :: rest => spell type ++ ',' :: ' ' :: spellArguments (next :: rest)

end

/-- The text of a type. -/
def text
    (type : CppType) :
    String :=
  String.ofList type.spell

end CppType

namespace Spelling

/-- Keywords that may precede a type name, each with the space that ends it. -/
def leadingKeywords : List (List Char) :=
  ["const ", "volatile ", "struct ", "class ", "enum ", "union ", "typename "].map
    String.toList

/-- Qualifiers that may follow a type name. -/
def trailingQualifiers : List (List Char) :=
  ["const", "volatile", "restrict", "__restrict"].map String.toList

/-- Drop one keyword from the front. -/
def dropKeyword
    (text keyword : List Char) :
    List Char :=
  match keyword.isPrefixOf? text with
  | some rest => Text.trimStart rest
  | none => text

/-- Drop each keyword once, in the order of the table. -/
def dropKeywordsOnce
    (text : List Char) :
    List Char :=
  leadingKeywords.foldl dropKeyword text

/-- Drop keywords from the front until none is left. -/
def dropLeadingKeywords
    (text : List Char) :
    List Char :=
  let shorter := dropKeywordsOnce text
  if shorter.length < text.length then dropLeadingKeywords shorter else shorter
termination_by text.length

/-- Drop one reference mark from the end. -/
def dropReference
    (text : List Char) :
    List Char :=
  match (['&', '&'] : List Char).isSuffixOf? text with
  | some rest => rest
  | none => ((['&'] : List Char).isSuffixOf? text).getD text

/-- Whether the text ends where a word may begin. -/
def endsAtWordBoundary
    (text : List Char) :
    Bool :=
  match text.getLast? with
  | some character => !(Text.isAlphanumeric character || character == '_')
  | none => false

/-- Drop one qualifier from the end, if it is a word of its own. -/
def dropQualifier
    (text qualifier : List Char) :
    List Char :=
  match qualifier.isSuffixOf? text with
  | some rest => if endsAtWordBoundary rest then Text.trimEnd rest else text
  | none => text

/-- Drop a reference mark and trailing qualifiers, each at most once. -/
def dropSuffixesOnce
    (text : List Char) :
    List Char :=
  trailingQualifiers.foldl dropQualifier
    (Text.trimEnd (dropReference (Text.trimEnd text)))

/-- Drop one pointer mark from the end and count it. -/
def dropPointerMark
    (text : List Char) :
    List Char × Nat :=
  match ([CppType.pointerMark] : List Char).isSuffixOf? text with
  | some rest => (rest, 1)
  | none => (text, 0)

/-- Drop references, qualifiers and pointer marks from the end until none is left, and
count the pointer marks. -/
def dropTrailingMarks
    (text : List Char)
    (depth : Nat) :
    List Char × Nat :=
  let shorter := dropPointerMark (dropSuffixesOnce text)
  if shorter.1.length < text.length then
    dropTrailingMarks shorter.1 (depth + shorter.2)
  else
    (shorter.1, depth + shorter.2)
termination_by text.length

/-- The undecorated part of a spelling and its pointer levels. -/
def dropDeclarator
    (text : List Char) :
    List Char × Nat :=
  let stripped := dropTrailingMarks (dropLeadingKeywords (Text.trim text)) 0
  (Text.trim stripped.1, stripped.2)

/-- Split behind the bracket that closes an argument list.  Angle brackets count only
outside parentheses. -/
def splitAtClose :
    (angle parenthesis : Nat) → List Char → Option (List Char × List Char)
  | _, _, [] => none
  | angle, parenthesis, character :: rest =>
      let keep (found : Option (List Char × List Char)) :=
        found.map fun parts => (character :: parts.1, parts.2)
      if character = '<' ∧ parenthesis = 0 then
        keep (splitAtClose (angle + 1) parenthesis rest)
      else if character = '>' ∧ parenthesis = 0 then
        if angle ≤ 1 then some ([], rest)
        else keep (splitAtClose (angle - 1) parenthesis rest)
      else if character = '(' then
        keep (splitAtClose angle (parenthesis + 1) rest)
      else if character = ')' then
        keep (splitAtClose angle (parenthesis - 1) rest)
      else
        keep (splitAtClose angle parenthesis rest)

/-- Put a character in front of the first piece. -/
def extendFirst
    (character : Char) :
    List (List Char) → List (List Char)
  | [] => [[character]]
  | piece :: rest => (character :: piece) :: rest

/-- Split at the commas outside every bracket.  Closing brackets without an opening one
make the depth negative, and no comma counts there. -/
def splitCommas :
    Int → List Char → List (List Char)
  | _, [] => [[]]
  | depth, character :: rest =>
      if character = '<' ∨ character = '(' ∨ character = '[' then
        extendFirst character (splitCommas (depth + 1) rest)
      else if character = '>' ∨ character = ')' ∨ character = ']' then
        extendFirst character (splitCommas (depth - 1) rest)
      else if character = ',' ∧ depth = 0 then
        [] :: splitCommas depth rest
      else
        extendFirst character (splitCommas depth rest)

/-- The trimmed pieces between top-level commas; a blank text has none. -/
def splitTopLevel
    (text : List Char) :
    List (List Char) :=
  match (splitCommas 0 text).map Text.trim with
  | [[]] => []
  | pieces => pieces

/-- Split `name<arguments>` into the name and the text between the brackets.  Text behind
the closing bracket names a member of a specialization, which is not split. -/
def splitTemplate?
    (base : List Char) :
    Option (List Char × List Char) :=
  let name := base.takeWhile (· != '<')
  match base.dropWhile (· != '<') with
  | [] => none
  | _ :: rest =>
      if name.isEmpty then none
      else
        match splitAtClose 1 0 rest with
        | some (inside, after) =>
            if Text.isBlank after then some (Text.trimEnd name, inside) else none
        | none => none

/-! ## The pieces are no longer than the whole -/

theorem length_dropKeyword_le
    (text keyword : List Char) :
    (dropKeyword text keyword).length ≤ text.length := by
  unfold dropKeyword
  split
  · rename_i rest found
    have whole := congrArg List.length (Text.append_eq_of_isPrefixOf? found)
    have := Text.length_trimStart_le rest
    simp only [List.length_append] at whole
    omega
  · exact Nat.le_refl _

theorem length_foldl_le
    (step : List Char → List Char → List Char)
    (shortens : ∀ text part, (step text part).length ≤ text.length)
    (parts : List (List Char))
    (text : List Char) :
    (parts.foldl step text).length ≤ text.length := by
  induction parts generalizing text with
  | nil => exact Nat.le_refl _
  | cons part parts inductionHypothesis =>
      exact Nat.le_trans (inductionHypothesis _) (shortens text part)

theorem length_dropKeywordsOnce_le
    (text : List Char) :
    (dropKeywordsOnce text).length ≤ text.length :=
  length_foldl_le dropKeyword length_dropKeyword_le leadingKeywords text

theorem length_dropLeadingKeywords_le
    (text : List Char) :
    (dropLeadingKeywords text).length ≤ text.length := by
  fun_induction dropLeadingKeywords text with
  | case1 text shorter decreases inductionHypothesis =>
      exact Nat.le_trans inductionHypothesis (Nat.le_of_lt decreases)
  | case2 text shorter stays => exact length_dropKeywordsOnce_le text

theorem length_dropReference_le
    (text : List Char) :
    (dropReference text).length ≤ text.length := by
  unfold dropReference
  split
  · rename_i rest found
    have whole := congrArg List.length (Text.append_eq_of_isSuffixOf? found)
    simp only [List.length_append] at whole
    omega
  · cases found : (['&'] : List Char).isSuffixOf? text with
    | none => simp
    | some rest =>
        have whole := congrArg List.length (Text.append_eq_of_isSuffixOf? found)
        simp only [List.length_append] at whole
        simp only [Option.getD_some]
        omega

theorem length_dropQualifier_le
    (text qualifier : List Char) :
    (dropQualifier text qualifier).length ≤ text.length := by
  unfold dropQualifier
  split
  · rename_i rest found
    have whole := congrArg List.length (Text.append_eq_of_isSuffixOf? found)
    have := Text.length_trimEnd_le rest
    simp only [List.length_append] at whole
    split <;> omega
  · exact Nat.le_refl _

theorem length_dropSuffixesOnce_le
    (text : List Char) :
    (dropSuffixesOnce text).length ≤ text.length :=
  Nat.le_trans
    (length_foldl_le dropQualifier length_dropQualifier_le trailingQualifiers _)
    (Nat.le_trans (Text.length_trimEnd_le _)
      (Nat.le_trans (length_dropReference_le _) (Text.length_trimEnd_le text)))

theorem length_dropPointerMark_le
    (text : List Char) :
    (dropPointerMark text).1.length ≤ text.length := by
  unfold dropPointerMark
  split
  · rename_i rest found
    have whole := congrArg List.length (Text.append_eq_of_isSuffixOf? found)
    simp only [List.length_append] at whole
    simp only
    omega
  · exact Nat.le_refl _

theorem length_dropTrailingMarks_le
    (text : List Char)
    (depth : Nat) :
    (dropTrailingMarks text depth).1.length ≤ text.length := by
  fun_induction dropTrailingMarks text depth with
  | case1 text depth shorter decreases inductionHypothesis =>
      exact Nat.le_trans inductionHypothesis (Nat.le_of_lt decreases)
  | case2 text depth shorter stays =>
      have marked : shorter.1.length ≤ (dropSuffixesOnce text).length :=
        length_dropPointerMark_le (dropSuffixesOnce text)
      have once := length_dropSuffixesOnce_le text
      dsimp only
      exact Nat.le_trans marked once

theorem length_dropDeclarator_le
    (text : List Char) :
    (dropDeclarator text).1.length ≤ text.length := by
  have trimmed := Text.length_trim_le text
  have led := length_dropLeadingKeywords_le (Text.trim text)
  have marked := length_dropTrailingMarks_le (dropLeadingKeywords (Text.trim text)) 0
  have ended :=
    Text.length_trim_le (dropTrailingMarks (dropLeadingKeywords (Text.trim text)) 0).1
  simp only [dropDeclarator]
  omega

theorem length_inside_lt_of_splitAtClose
    {angle parenthesis : Nat}
    {text : List Char}
    {parts : List Char × List Char}
    (found : splitAtClose angle parenthesis text = some parts) :
    parts.1.length < text.length := by
  induction text generalizing angle parenthesis parts with
  | nil => simp [splitAtClose] at found
  | cons character rest inductionHypothesis =>
      have keeps :
          ∀ {angle parenthesis : Nat} {parts : List Char × List Char},
            ((splitAtClose angle parenthesis rest).map fun inner =>
              (character :: inner.1, inner.2)) = some parts →
            parts.1.length < (character :: rest).length := by
        intro angle parenthesis parts found
        obtain ⟨inner, foundRest, rfl⟩ := Option.map_eq_some_iff.1 found
        have := inductionHypothesis foundRest
        simp only [List.length_cons]
        omega
      simp only [splitAtClose] at found
      split at found
      · exact keeps found
      · split at found
        · split at found
          · simp only [Option.some.injEq] at found
            simp [← found]
          · exact keeps found
        · split at found
          · exact keeps found
          · split at found
            · exact keeps found
            · exact keeps found

theorem length_inside_lt_of_splitTemplate?
    {base : List Char}
    {parts : List Char × List Char}
    (found : splitTemplate? base = some parts) :
    parts.2.length < base.length := by
  simp only [splitTemplate?] at found
  split at found
  · simp at found
  · rename_i open? rest spanned
    have tailShorter : rest.length < base.length := by
      have := (List.dropWhile_sublist (l := base) (· != '<')).length_le
      rw [spanned, List.length_cons] at this
      omega
    split at found
    · simp at found
    · split at found
      · rename_i inside after closed
        have inner := length_inside_lt_of_splitAtClose closed
        split at found
        · simp only [Option.some.injEq] at found
          rw [← found]
          simp only at inner ⊢
          omega
        · simp at found
      · simp at found

theorem length_le_of_mem_extendFirst
    {character : Char}
    {pieces : List (List Char)}
    {piece : List Char}
    {bound : Nat}
    (shorter : ∀ piece ∈ pieces, piece.length ≤ bound)
    (member : piece ∈ extendFirst character pieces) :
    piece.length ≤ bound + 1 := by
  cases pieces with
  | nil => simp_all [extendFirst]
  | cons first rest =>
      rcases List.mem_cons.1 member with rfl | inRest
      · simpa using shorter first (List.mem_cons_self ..)
      · have := shorter piece (List.mem_cons_of_mem _ inRest)
        omega

theorem length_le_of_mem_splitCommas
    {depth : Int}
    {text piece : List Char}
    (member : piece ∈ splitCommas depth text) :
    piece.length ≤ text.length := by
  induction text generalizing depth piece with
  | nil => simp_all [splitCommas]
  | cons character rest inductionHypothesis =>
      simp only [splitCommas] at member
      split at member
      · exact length_le_of_mem_extendFirst (fun _ => inductionHypothesis) member
      · split at member
        · exact length_le_of_mem_extendFirst (fun _ => inductionHypothesis) member
        · split at member
          · rcases List.mem_cons.1 member with rfl | inRest
            · simp
            · exact Nat.le_succ_of_le (inductionHypothesis inRest)
          · exact length_le_of_mem_extendFirst (fun _ => inductionHypothesis) member

theorem length_le_of_mem_splitTopLevel
    {text piece : List Char}
    (member : piece ∈ splitTopLevel text) :
    piece.length ≤ text.length := by
  have trimmed : piece ∈ (splitCommas 0 text).map Text.trim := by
    unfold splitTopLevel at member
    split at member
    · simp at member
    · exact member
  obtain ⟨whole, inPieces, rfl⟩ := List.mem_map.1 trimmed
  exact Nat.le_trans (Text.length_trim_le whole) (length_le_of_mem_splitCommas inPieces)

end Spelling

/-- Read a C++ type from its spelling. -/
def CppType.parse
    (text : List Char) :
    CppType :=
  let declarator := Spelling.dropDeclarator text
  let marks := List.replicate declarator.2 CppType.pointerMark
  match _found : Spelling.splitTemplate? declarator.1 with
  | none => .plain (String.ofList (declarator.1 ++ marks))
  | some parts =>
      .applied (String.ofList (parts.1 ++ marks))
        (((Spelling.splitTopLevel parts.2).attach.filter fun piece => !piece.1.isEmpty).map
          fun piece => CppType.parse piece.1)
termination_by text.length
decreasing_by
  have whole := Spelling.length_dropDeclarator_le text
  have inner := Spelling.length_inside_lt_of_splitTemplate? _found
  simp only [declarator] at inner
  have part := Spelling.length_le_of_mem_splitTopLevel piece.2
  omega

/-- Reading one level: the arguments are the non-empty top-level pieces, read alike. -/
theorem CppType.parse_eq
    (text : List Char) :
    CppType.parse text =
      let declarator := Spelling.dropDeclarator text
      let marks := List.replicate declarator.2 CppType.pointerMark
      match Spelling.splitTemplate? declarator.1 with
      | none => .plain (String.ofList (declarator.1 ++ marks))
      | some parts =>
          .applied (String.ofList (parts.1 ++ marks))
            (((Spelling.splitTopLevel parts.2).filter fun piece => !piece.isEmpty).map
              CppType.parse) := by
  rw [CppType.parse]
  simp only
  split
  · rename_i found
    rw [found]
  · rename_i parts found
    rw [found]
    simp only [CppType.applied.injEq, true_and]
    rw [List.map_subtype (g := CppType.parse) (fun _ _ => rfl),
      List.unattach_filter (g := fun piece : List Char => !piece.isEmpty),
      List.unattach_attach]
    exact fun _ _ => rfl

/-- Read a C++ type from a string. -/
def CppType.ofString
    (text : String) :
    CppType :=
  CppType.parse text.toList

end BindingStubs
