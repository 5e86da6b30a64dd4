import BindingStubs.Text.Basic
import Mathlib.Data.List.DropRight

namespace BindingStubs.Text

/-!
# Trimming

Trimming at one end stops at the first character that is not white space, and leaves the
other end alone.
-/

theorem trimEnd_concat_of_white
    (text : List Char)
    {character : Char}
    (white : isWhite character = true) :
    trimEnd (text ++ [character]) = trimEnd text :=
  List.rdropWhile_concat_pos _ _ _ white

theorem trimEnd_concat_of_not_white
    (text : List Char)
    {character : Char}
    (notWhite : isWhite character = false) :
    trimEnd (text ++ [character]) = text ++ [character] :=
  List.rdropWhile_concat_neg _ _ _ (by simp [notWhite])

theorem trimEnd_prefix
    (text : List Char) :
    trimEnd text <+: text :=
  List.rdropWhile_prefix _ _

/-- Nothing is dropped from a text whose last character is not white space. -/
theorem trimEnd_eq_self_iff
    {text : List Char} :
    trimEnd text = text ↔ ∀ last ∈ text.getLast?, isWhite last = false := by
  refine List.rdropWhile_eq_self_iff.trans ?_
  refine ⟨fun notWhite last isLast => ?_, fun notWhite notEmpty => ?_⟩
  · obtain ⟨before, rfl⟩ := List.getLast?_eq_some_iff.mp isLast
    simpa using notWhite (by simp)
  · simp [notWhite _ (List.getLast?_eq_some_getLast notEmpty)]

theorem trimEnd_append_of_blank
    (text : List Char)
    {after : List Char}
    (blank : ∀ character ∈ after, isWhite character = true) :
    trimEnd (text ++ after) = trimEnd text := by
  induction after using List.reverseRecOn with
  | nil => rw [List.append_nil]
  | append_singleton after character inductionHypothesis =>
      rw [← List.append_assoc, trimEnd_concat_of_white _ (blank character (by simp))]
      exact inductionHypothesis fun other member => blank other (by simp [member])

/-- Trimming reaches no further than the last part that is not blank. -/
theorem trimEnd_append_of_not_white
    (before : List Char)
    {text : List Char}
    {character : Char}
    (member : character ∈ text)
    (notWhite : isWhite character = false) :
    trimEnd (before ++ text) = before ++ trimEnd text := by
  induction text using List.reverseRecOn with
  | nil => simp at member
  | append_singleton text last inductionHypothesis =>
      rw [← List.append_assoc]
      cases white : isWhite last with
      | false =>
          rw [trimEnd_concat_of_not_white _ white, trimEnd_concat_of_not_white _ white,
            List.append_assoc]
      | true =>
          rw [trimEnd_concat_of_white _ white, trimEnd_concat_of_white _ white]
          refine inductionHypothesis ?_
          rcases List.mem_append.mp member with inText | isLast
          · exact inText
          · rw [List.mem_singleton.mp isLast, white] at notWhite
            exact absurd notWhite (by simp)

theorem trimStart_cons_of_not_white
    {character : Char}
    (notWhite : isWhite character = false)
    (rest : List Char) :
    trimStart (character :: rest) = character :: rest :=
  List.dropWhile_cons_of_neg (by simp [notWhite])

theorem trimStart_append_of_blank
    {before : List Char}
    (blank : ∀ character ∈ before, isWhite character = true)
    (text : List Char) :
    trimStart (before ++ text) = trimStart text :=
  List.dropWhile_append_of_pos blank

/-- Blanks behind a text are trimmed with those of the text. -/
theorem trim_append_of_blank
    (text : List Char)
    {after : List Char}
    (blank : ∀ character ∈ after, isWhite character = true) :
    trim (text ++ after) = trim text := by
  have noRest : trimStart after = [] := List.dropWhile_eq_nil_iff.mpr blank
  rw [trim, trimStart, List.dropWhile_append]
  split
  · rename_i isBlank
    rw [← trimStart, noRest, trim, trimStart, List.isEmpty_iff.mp isBlank]
  · exact trimEnd_append_of_blank _ blank

/-- Blanks before a text are trimmed. -/
theorem trim_blank_append
    {before : List Char}
    (blank : ∀ character ∈ before, isWhite character = true)
    (text : List Char) :
    trim (before ++ text) = trim text := by
  rw [trim, trimStart_append_of_blank blank, trim]

/-- Trimming keeps a character that is not white space. -/
theorem trim_ne_nil
    {text : List Char}
    {character : Char}
    (member : character ∈ text)
    (notWhite : isWhite character = false) :
    trim text ≠ [] := by
  intro isEmpty
  have startBlank := List.rdropWhile_eq_nil_iff.mp isEmpty
  have wholeBlank : ∀ other ∈ text, isWhite other = true := by
    intro other inText
    rw [← List.takeWhile_append_dropWhile (p := isWhite) (l := text)] at inText
    rcases List.mem_append.mp inText with taken | kept
    · exact List.mem_takeWhile_imp taken
    · exact startBlank other kept
  rw [wholeBlank character member] at notWhite
  exact absurd notWhite (by simp)

theorem trim_eq_nil_iff
    {text : List Char} :
    trim text = [] ↔ isBlank text = true := by
  rw [isBlank, List.all_eq_true]
  constructor
  · intro isEmpty character member
    by_contra notWhite
    exact trim_ne_nil member (Bool.eq_false_iff.mpr notWhite) isEmpty
  · intro blank
    rw [trim, trimStart, List.dropWhile_eq_nil_iff.mpr blank]
    rfl

theorem trim_trim
    (text : List Char) :
    trim (trim text) = trim text := by
  have startKept : trimStart (trim text) = trim text := by
    cases trimmed : trim text with
    | nil => rfl
    | cons first rest =>
        obtain ⟨after, whole⟩ := trimEnd_prefix (trimStart text)
        rw [← trim, trimmed] at whole
        have notWhite : isWhite first = false := by
          have head := List.head?_dropWhile_not isWhite text
          rw [← trimStart, ← whole] at head
          simpa using head
        exact trimStart_cons_of_not_white notWhite rest
  rw [trim, startKept, trim]
  exact List.rdropWhile_idempotent ..

end BindingStubs.Text
