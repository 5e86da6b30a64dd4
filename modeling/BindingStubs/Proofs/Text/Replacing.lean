import BindingStubs.Text.Basic

namespace BindingStubs.Text

/-!
# Replacing

Replacing goes through a text from the left.  It copies what opens no occurrence, and where a
pattern begins it goes on behind it.
-/

theorem replaceAfter_eq_drop
    (pattern replacement : List Char)
    (skip : Nat)
    (text : List Char) :
    replaceAfter pattern replacement skip text =
      replaceAfter pattern replacement 0 (text.drop skip) := by
  induction text generalizing skip with
  | nil => cases skip <;> simp [replaceAfter]
  | cons character rest inductionHypothesis =>
      cases skip with
      | zero => rfl
      | succ skip => exact inductionHypothesis skip

theorem replaceAll_cons_of_mismatch
    {pattern : List Char}
    (replacement : List Char)
    {character : Char}
    {rest : List Char}
    (apart : pattern.isPrefixOf (character :: rest) = false) :
    replaceAll pattern replacement (character :: rest) =
      character :: replaceAll pattern replacement rest := by
  rw [replaceAll, replaceAfter, apart]
  rfl

/-- An occurrence is replaced, and replacing goes on behind it. -/
theorem replaceAll_append_self
    (first : Char)
    (others replacement rest : List Char) :
    replaceAll (first :: others) replacement (first :: others ++ rest) =
      replacement ++ replaceAll (first :: others) replacement rest := by
  have isPrefix : (first :: others).isPrefixOf (first :: (others ++ rest)) = true :=
    List.isPrefixOf_iff_prefix.mpr (List.prefix_append _ _)
  rw [List.cons_append, replaceAll, replaceAfter, if_pos isPrefix, replaceAfter_eq_drop]
  simp [replaceAll]

/-- A text in which a character of the pattern is missing stays as it is. -/
theorem replaceAll_of_not_mem
    {pattern : List Char}
    (replacement : List Char)
    {character : Char}
    (needed : character ∈ pattern)
    {text : List Char}
    (missing : character ∉ text) :
    replaceAll pattern replacement text = text := by
  induction text with
  | nil => rfl
  | cons first rest inductionHypothesis =>
      have apart : pattern.isPrefixOf (first :: rest) = false := by
        rw [Bool.eq_false_iff]
        exact fun isPrefix => missing ((List.isPrefixOf_iff_prefix.mp isPrefix).subset needed)
      rw [replaceAll_cons_of_mismatch replacement apart,
        inductionHypothesis fun member => missing (.tail _ member)]

/-- Replacing a single character goes character by character. -/
theorem replaceAll_singleton
    (replaced : Char)
    (replacement text : List Char) :
    replaceAll [replaced] replacement text =
      text.flatMap fun character => if character = replaced then replacement else [character] := by
  induction text with
  | nil => rfl
  | cons first rest inductionHypothesis =>
      rw [List.flatMap_cons, ← inductionHypothesis]
      split
      · rename_i isReplaced
        rw [isReplaced]
        exact replaceAll_append_self replaced [] replacement rest
      · rename_i kept
        exact replaceAll_cons_of_mismatch replacement (by simp [List.isPrefixOf, Ne.symm kept])

end BindingStubs.Text
