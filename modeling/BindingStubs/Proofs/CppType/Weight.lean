import BindingStubs.CppType.FunctionType
import BindingStubs.Proofs.CppType.Stripping
import BindingStubs.Proofs.CppType.Structure

namespace BindingStubs

/-!
# The visible characters of spellings

Reading a type drops characters, and spelling it again writes none that was not read, apart from
blanks.  The number of characters that are not blank is therefore a measure that reading never
increases, and that every piece of a spelling has less of than the whole.
-/

namespace Text

/-- The number of characters that are not white space. -/
def visibleCount
    (text : List Char) :
    Nat :=
  text.countP fun character => !isWhite character

@[simp] theorem visibleCount_nil : visibleCount [] = 0 := rfl

@[simp] theorem visibleCount_append
    (first second : List Char) :
    visibleCount (first ++ second) = visibleCount first + visibleCount second :=
  List.countP_append

theorem visibleCount_cons
    (character : Char)
    (rest : List Char) :
    visibleCount (character :: rest) = visibleCount [character] + visibleCount rest := by
  rw [← visibleCount_append, List.singleton_append]

theorem visibleCount_le_of_sublist
    {part whole : List Char}
    (sublist : part.Sublist whole) :
    visibleCount part ≤ visibleCount whole :=
  sublist.countP_le

theorem trim_sublist
    (text : List Char) :
    (trim text).Sublist text := by
  have atEnd := trimEnd_prefix (text.dropWhile isWhite)
  exact atEnd.sublist.trans (List.dropWhile_sublist isWhite)

theorem visibleCount_trim_le
    (text : List Char) :
    visibleCount (trim text) ≤ visibleCount text :=
  visibleCount_le_of_sublist (trim_sublist text)

end Text

open Text

namespace Spelling

/-- Brackets, commas and pointer marks are visible. -/
theorem visibleCount_of_structural
    {character : Char}
    (structural : character ∈ ['<', '>', '(', ')', ',', CppType.pointerMark]) :
    visibleCount [character] = 1 := by
  have facts :
      (['<', '>', '(', ')', ',', CppType.pointerMark].all fun character =>
        visibleCount [character] == 1) = true := by
    decide +kernel
  exact eq_of_beq (List.all_eq_true.mp facts character structural)

theorem visibleCount_cons_of_structural
    {character : Char}
    (structural : character ∈ ['<', '>', '(', ')', ',', CppType.pointerMark])
    (rest : List Char) :
    visibleCount (character :: rest) = visibleCount rest + 1 := by
  rw [visibleCount_cons, visibleCount_of_structural structural, Nat.add_comm]

theorem visibleCount_replicate_pointerMark
    (levels : Nat) :
    visibleCount (List.replicate levels CppType.pointerMark) = levels := by
  induction levels with
  | zero => rfl
  | succ levels inductionHypothesis =>
      rw [List.replicate_succ, visibleCount_cons_of_structural (by simp), inductionHypothesis]

/-! ## Stripping decorations -/

theorem dropKeyword_sublist
    (text keyword : List Char) :
    (dropKeyword text keyword).Sublist text := by
  unfold dropKeyword
  split
  · rename_i rest found
    rw [← append_eq_of_isPrefixOf? found]
    exact (List.dropWhile_sublist isWhite).trans (List.sublist_append_right _ _)
  · exact List.Sublist.refl _

theorem foldl_sublist
    {step : List Char → List Char → List Char}
    (sublist : ∀ text part, (step text part).Sublist text)
    (parts : List (List Char))
    (text : List Char) :
    (parts.foldl step text).Sublist text := by
  induction parts generalizing text with
  | nil => exact List.Sublist.refl _
  | cons part parts inductionHypothesis =>
      exact (inductionHypothesis _).trans (sublist text part)

theorem dropLeadingKeywords_sublist
    (text : List Char) :
    (dropLeadingKeywords text).Sublist text := by
  fun_induction dropLeadingKeywords text with
  | case1 text shorter decreases inductionHypothesis =>
      exact inductionHypothesis.trans (foldl_sublist dropKeyword_sublist leadingKeywords text)
  | case2 text shorter stays =>
      exact foldl_sublist dropKeyword_sublist leadingKeywords text

theorem dropSuffixesOnce_sublist
    (text : List Char) :
    (dropSuffixesOnce text).Sublist text := by
  have trimmed := trimEnd_prefix text
  have unreferenced := dropReference_prefix (trimEnd text)
  have trimmedAgain := trimEnd_prefix (dropReference (trimEnd text))
  have qualifiers := foldl_sublist fun text part =>
    List.IsPrefix.sublist <| dropQualifier_prefix text part
  exact (qualifiers trailingQualifiers _).trans
    ((trimmedAgain.trans (unreferenced.trans trimmed)).sublist)

/-- A pointer mark that is counted is no longer in the text. -/
theorem visibleCount_dropPointerMark
    (text : List Char) :
    visibleCount (dropPointerMark text).1 + (dropPointerMark text).2 = visibleCount text := by
  unfold dropPointerMark
  split
  · rename_i rest found
    rw [← append_eq_of_isSuffixOf? found, visibleCount_append,
      visibleCount_of_structural (by simp)]
  · rfl

/-- A round of stripping drops characters and turns pointer marks into a number. -/
theorem visibleCount_round_le
    (text : List Char) :
    visibleCount (dropPointerMark (dropSuffixesOnce text)).1 +
        (dropPointerMark (dropSuffixesOnce text)).2 ≤
      visibleCount text := by
  rw [visibleCount_dropPointerMark]
  exact visibleCount_le_of_sublist (dropSuffixesOnce_sublist text)

theorem visibleCount_dropTrailingMarks_le
    (text : List Char)
    (depth : Nat) :
    visibleCount (dropTrailingMarks text depth).1 + (dropTrailingMarks text depth).2 ≤
      visibleCount text + depth := by
  fun_induction dropTrailingMarks text depth with
  | case1 text depth round shorter inductionHypothesis =>
      have once : visibleCount round.1 + round.2 ≤ visibleCount text := visibleCount_round_le text
      omega
  | case2 text depth round stays =>
      have once : visibleCount round.1 + round.2 ≤ visibleCount text := visibleCount_round_le text
      dsimp only
      omega

/-- What is stripped off a spelling counts at least as much as the pointer levels it gives. -/
theorem visibleCount_dropDeclarator_le
    (text : List Char) :
    visibleCount (dropDeclarator text).1 + (dropDeclarator text).2 ≤ visibleCount text := by
  have keywords :=
    visibleCount_le_of_sublist ((dropLeadingKeywords_sublist (trim text)).trans (trim_sublist text))
  have marks := visibleCount_dropTrailingMarks_le (dropLeadingKeywords (trim text)) 0
  have trimmed := visibleCount_trim_le (dropTrailingMarks (dropLeadingKeywords (trim text)) 0).1
  simp only [dropDeclarator]
  omega

/-! ## Splitting argument lists -/

/-- A character in front of a text that is split stays in front of the first part. -/
theorem append_eq_of_kept
    {found? : Option (List Char × List Char)}
    {character mark : Char}
    {rest before after : List Char}
    (kept : (found?.map fun parts => (character :: parts.1, parts.2)) = some (before, after))
    (split : ∀ before after, found? = some (before, after) → rest = before ++ mark :: after) :
    character :: rest = before ++ mark :: after := by
  obtain ⟨parts, isFound, same⟩ := Option.map_eq_some_iff.mp kept
  obtain ⟨rfl, rfl⟩ := Prod.mk.inj same
  rw [split _ _ isFound, List.cons_append]

/-- The bracket that closes an argument list stands between the two parts. -/
theorem append_eq_of_splitAtClose
    {angle parenthesis : Nat}
    {text inside after : List Char}
    (found : splitAtClose angle parenthesis text = some (inside, after)) :
    text = inside ++ '>' :: after := by
  induction text generalizing angle parenthesis inside after with
  | nil => simp [splitAtClose] at found
  | cons character rest inductionHypothesis =>
      simp only [splitAtClose] at found
      split at found
      · exact append_eq_of_kept found fun _ _ => inductionHypothesis
      · split at found
        · rename_i isClose
          split at found
          · obtain ⟨rfl, rfl⟩ := Prod.mk.inj (Option.some.inj found)
            rw [isClose.1, List.nil_append]
          · exact append_eq_of_kept found fun _ _ => inductionHypothesis
        · split at found
          · exact append_eq_of_kept found fun _ _ => inductionHypothesis
          · split at found
            · exact append_eq_of_kept found fun _ _ => inductionHypothesis
            · exact append_eq_of_kept found fun _ _ => inductionHypothesis

/-- A text that is split is a name, the argument list in its brackets, and a blank behind them. -/
theorem exists_of_splitTemplate?
    {base name inside : List Char}
    (found : splitTemplate? base = some (name, inside)) :
    ∃ before after,
      base = before ++ '<' :: inside ++ '>' :: after ∧
        name = trimEnd before ∧ isBlank after := by
  simp only [splitTemplate?] at found
  split at found
  · cases found
  · rename_i first rest spanned
    have opens : first = '<' := by
      have head := List.head?_dropWhile_not (· != '<') base
      rw [spanned] at head
      simpa using head
    split at found
    · cases found
    · split at found
      · rename_i inner after closed
        split at found
        · rename_i blank
          obtain ⟨rfl, rfl⟩ := Prod.mk.inj (Option.some.inj found)
          have whole := List.takeWhile_append_dropWhile (p := (· != '<')) (l := base)
          rw [spanned, opens, append_eq_of_splitAtClose closed] at whole
          exact ⟨base.takeWhile (· != '<'), after, by simpa using whole.symm, rfl, blank⟩
        · cases found
      · cases found

/-- A name and its arguments leave the two brackets. -/
theorem visibleCount_splitTemplate?_le
    {base name inside : List Char}
    (found : splitTemplate? base = some (name, inside)) :
    visibleCount name + visibleCount inside + 2 ≤ visibleCount base := by
  obtain ⟨before, after, rfl, rfl, -⟩ := exists_of_splitTemplate? found
  have trimmed := trimEnd_prefix before
  have named := visibleCount_le_of_sublist trimmed.sublist
  rw [visibleCount_append, visibleCount_append, visibleCount_cons_of_structural (by simp),
    visibleCount_cons_of_structural (by simp)]
  omega

/-- The visible characters of pieces, each with one separator. -/
def separatedCount : List (List Char) → Nat
  | [] => 0
  | piece :: rest => visibleCount piece + 1 + separatedCount rest

@[simp] theorem separatedCount_nil : separatedCount [] = 0 := rfl

@[simp] theorem separatedCount_cons
    (piece : List Char)
    (pieces : List (List Char)) :
    separatedCount (piece :: pieces) = visibleCount piece + 1 + separatedCount pieces :=
  rfl

theorem separatedCount_extendFirst
    (character : Char)
    {pieces : List (List Char)}
    (nonempty : pieces ≠ []) :
    separatedCount (extendFirst character pieces) =
      visibleCount [character] + separatedCount pieces := by
  cases pieces with
  | nil => exact absurd rfl nonempty
  | cons piece rest =>
      rw [extendFirst, separatedCount_cons, separatedCount_cons, visibleCount_cons]
      omega

theorem splitCommas_ne_nil
    (depth : Int)
    (text : List Char) :
    splitCommas depth text ≠ [] := by
  have extended :
      ∀ character pieces, extendFirst character pieces ≠ [] := by
    intro character pieces
    cases pieces with
    | nil => simp [extendFirst]
    | cons piece rest => simp [extendFirst]
  cases text with
  | nil => simp [splitCommas]
  | cons character rest =>
      simp only [splitCommas]
      split
      · exact extended _ _
      · split
        · exact extended _ _
        · split
          · simp
          · exact extended _ _

/-- Splitting at commas loses the commas and nothing else. -/
theorem separatedCount_splitCommas
    (depth : Int)
    (text : List Char) :
    separatedCount (splitCommas depth text) = visibleCount text + 1 := by
  induction text generalizing depth with
  | nil => rfl
  | cons character rest inductionHypothesis =>
      have extended :
          ∀ depth,
            separatedCount (extendFirst character (splitCommas depth rest)) =
              visibleCount (character :: rest) + 1 := by
        intro depth
        rw [separatedCount_extendFirst character (splitCommas_ne_nil depth rest),
          inductionHypothesis, visibleCount_cons character rest, Nat.add_assoc]
      simp only [splitCommas]
      split
      · exact extended _
      · split
        · exact extended _
        · split
          · rename_i isComma
            rw [separatedCount_cons, inductionHypothesis, isComma.1,
              visibleCount_cons_of_structural (by simp), visibleCount_nil]
            omega
          · exact extended _

theorem separatedCount_le_of_sublist
    {pieces others : List (List Char)}
    (sublist : pieces.Sublist others) :
    separatedCount pieces ≤ separatedCount others := by
  induction sublist with
  | slnil => exact Nat.le_refl _
  | cons piece _ inductionHypothesis => exact Nat.le_add_left_of_le inductionHypothesis
  | cons_cons piece _ inductionHypothesis => exact Nat.add_le_add_left inductionHypothesis _

theorem separatedCount_map_le
    {change : List Char → List Char}
    {pieces : List (List Char)}
    (smaller : ∀ piece ∈ pieces, visibleCount (change piece) ≤ visibleCount piece) :
    separatedCount (pieces.map change) ≤ separatedCount pieces := by
  induction pieces with
  | nil => exact Nat.le_refl _
  | cons piece rest inductionHypothesis =>
      obtain ⟨first, others⟩ := List.forall_mem_cons.mp smaller
      exact Nat.add_le_add (Nat.succ_le_succ first) (inductionHypothesis others)

/-- The pieces between top-level commas hold no more than the whole. -/
theorem separatedCount_splitTopLevel_le
    (text : List Char) :
    separatedCount (splitTopLevel text) ≤ visibleCount text + 1 := by
  have trimmed : separatedCount ((splitCommas 0 text).map trim) ≤ visibleCount text + 1 := by
    rw [← separatedCount_splitCommas 0 text]
    exact separatedCount_map_le fun piece _ => visibleCount_trim_le piece
  unfold splitTopLevel
  split
  · simp
  · exact trimmed

theorem visibleCount_lt_separatedCount
    {piece : List Char}
    {pieces : List (List Char)}
    (member : piece ∈ pieces) :
    visibleCount piece < separatedCount pieces := by
  have alone := separatedCount_le_of_sublist (List.singleton_sublist.mpr member)
  exact Nat.lt_of_succ_le alone

end Spelling

/-! ## Reading and spelling -/

namespace CppType

/-- The arguments are spelled with a comma between each two of them. -/
theorem visibleCount_spellArguments
    (arguments : List CppType) :
    visibleCount (spellArguments arguments) =
      Spelling.separatedCount (arguments.map spell) - 1 := by
  induction arguments with
  | nil => rfl
  | cons first rest inductionHypothesis =>
      cases rest with
      | nil => simp [spellArguments]
      | cons next rest =>
          have blank : visibleCount [' '] = 0 := by decide +kernel
          rw [spellArguments, visibleCount_append,
            Spelling.visibleCount_cons_of_structural (by simp), visibleCount_cons ' ', blank,
            inductionHypothesis]
          simp only [List.map_cons, Spelling.separatedCount_cons]
          omega

theorem visibleCount_spell_plain
    (name : String) :
    visibleCount (spell (.plain name)) = visibleCount name.toList := by
  rw [spell, ← toList_name]
  rfl

theorem visibleCount_spell_applied
    (name : String)
    (arguments : List CppType) :
    visibleCount (spell (.applied name arguments)) =
      visibleCount name.toList + 2 + visibleCount (spellArguments arguments) := by
  have named := congrArg visibleCount (toList_name (.applied name arguments))
  have opens : ∀ rest, visibleCount ('<' :: rest) = visibleCount rest + 1 :=
    Spelling.visibleCount_cons_of_structural (by simp)
  have closes : visibleCount ['>'] = 1 := Spelling.visibleCount_of_structural (by simp)
  rw [visibleCount_append, CppType.name] at named
  rw [spell, visibleCount_append, visibleCount_append, closes, visibleCount_append, opens]
  omega

/-- An argument has fewer visible characters than the type. -/
theorem visibleCount_argument_lt
    {name : String}
    {arguments : List CppType}
    {argument : CppType}
    (member : argument ∈ arguments) :
    visibleCount argument.spell < visibleCount (spell (.applied name arguments)) := by
  have part := Spelling.visibleCount_lt_separatedCount (List.mem_map_of_mem (f := spell) member)
  rw [visibleCount_spell_applied, visibleCount_spellArguments]
  omega

/-- A pointer has one visible character more than what it points to. -/
theorem visibleCount_spell_pointerTo
    (type : CppType) :
    visibleCount type.pointerTo.spell = visibleCount type.spell + 1 := by
  have marked :
      ∀ name : String,
        visibleCount (name.push pointerMark).toList = visibleCount name.toList + 1 := by
    intro name
    rw [String.toList_push, visibleCount_append, Spelling.visibleCount_of_structural (by simp)]
  cases type with
  | plain name =>
      rw [pointerTo, withName, visibleCount_spell_plain, visibleCount_spell_plain]
      exact marked name
  | applied name arguments =>
      rw [pointerTo, withName, visibleCount_spell_applied, visibleCount_spell_applied]
      simp only [CppType.name, marked]
      omega

theorem visibleCount_spell_addPointers
    (type : CppType)
    (levels : Nat) :
    visibleCount (type.addPointers levels).spell = visibleCount type.spell + levels := by
  induction levels with
  | zero => rfl
  | succ levels inductionHypothesis =>
      rw [addPointers, visibleCount_spell_pointerTo, inductionHypothesis, Nat.add_assoc]

/-- Reading a spelling and spelling the type again gives no more visible characters. -/
theorem visibleCount_spell_parse_le
    (text : List Char) :
    visibleCount (parse text).spell ≤ visibleCount text := by
  have named :
      ∀ (name : List Char) (levels : Nat),
        visibleCount (String.ofList (name ++ List.replicate levels pointerMark)).toList =
          visibleCount name + levels := by
    intro name levels
    rw [String.toList_ofList, visibleCount_append, Spelling.visibleCount_replicate_pointerMark]
  have stripped := Spelling.visibleCount_dropDeclarator_le
  induction text using parse.induct with
  | case1 text declarator unsplit =>
      rw [parse_eq]
      simp only [declarator] at unsplit
      simp only [unsplit, visibleCount_spell_plain, named]
      exact stripped text
  | case2 text declarator parts split inductionHypothesis =>
      rw [parse_eq]
      simp only [declarator] at split
      simp only [split, visibleCount_spell_applied, named, visibleCount_spellArguments]
      have base := Spelling.visibleCount_splitTemplate?_le split
      have pieces := Spelling.separatedCount_splitTopLevel_le parts.2
      have smaller :
          Spelling.separatedCount
              ((((Spelling.splitTopLevel parts.2).filter fun piece => !piece.isEmpty).map
                parse).map spell) ≤
            Spelling.separatedCount (Spelling.splitTopLevel parts.2) := by
        rw [List.map_map]
        refine Nat.le_trans (Spelling.separatedCount_map_le fun piece member => ?_)
          (Spelling.separatedCount_le_of_sublist List.filter_sublist)
        exact inductionHypothesis ⟨piece, (List.mem_filter.mp member).1⟩
      have whole := stripped text
      omega

end CppType

/-! ## Splitting function types -/

namespace FunctionType

theorem append_eq_of_splitAtOpen
    {angle : Int}
    {text before rest : List Char}
    (found : splitAtOpen angle text = some (before, rest)) :
    text = before ++ '(' :: rest := by
  induction text generalizing angle before rest with
  | nil => simp [splitAtOpen] at found
  | cons character tail inductionHypothesis =>
      simp only [splitAtOpen] at found
      split at found
      · exact Spelling.append_eq_of_kept found fun _ _ => inductionHypothesis
      · split at found
        · exact Spelling.append_eq_of_kept found fun _ _ => inductionHypothesis
        · split at found
          · rename_i isOpen
            obtain ⟨rfl, rfl⟩ := Prod.mk.inj (Option.some.inj found)
            rw [isOpen.1, List.nil_append]
          · exact Spelling.append_eq_of_kept found fun _ _ => inductionHypothesis

theorem append_eq_of_splitAtClose
    {depth : Nat}
    {text inside after : List Char}
    (found : splitAtClose depth text = some (inside, after)) :
    text = inside ++ ')' :: after := by
  induction text generalizing depth inside after with
  | nil => simp [splitAtClose] at found
  | cons character tail inductionHypothesis =>
      simp only [splitAtClose] at found
      split at found
      · exact Spelling.append_eq_of_kept found fun _ _ => inductionHypothesis
      · split at found
        · rename_i isClose
          split at found
          · obtain ⟨rfl, rfl⟩ := Prod.mk.inj (Option.some.inj found)
            rw [isClose, List.nil_append]
          · exact Spelling.append_eq_of_kept found fun _ _ => inductionHypothesis
        · exact Spelling.append_eq_of_kept found fun _ _ => inductionHypothesis

/-- The return type and the parameters of a function type hold no more than its spelling. -/
theorem visibleCount_le_of_split?
    {text : List Char}
    {function : FunctionType}
    (found : split? text = some function) :
    visibleCount function.returns ≤ visibleCount text ∧
      ∀ piece ∈ function.parameters, visibleCount piece ≤ visibleCount text := by
  simp only [split?] at found
  split at found
  · cases found
  · rename_i before rest opened
    split at found
    · cases found
    · rename_i inside after closed
      have outer := congrArg visibleCount (append_eq_of_splitAtOpen opened)
      have inner := congrArg visibleCount (append_eq_of_splitAtClose closed)
      rw [visibleCount_append, Spelling.visibleCount_cons_of_structural (by simp)] at outer inner
      obtain rfl := Option.some.inj found
      constructor
      · have trimmed := visibleCount_trim_le before
        simp only
        omega
      · intro piece member
        have part := Spelling.visibleCount_lt_separatedCount (List.mem_filter.mp member).1
        have pieces := Spelling.separatedCount_splitTopLevel_le inside
        omega

end FunctionType

end BindingStubs
