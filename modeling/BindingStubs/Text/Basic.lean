import BindingStubs.Text.WhiteSpace

namespace BindingStubs.Text

/-!
# Operations on text

Text is examined as a list of characters.  The operations here trim, split, search and
replace; each of them only ever drops or copies characters of its input, except for the
replacement text it is given.
-/

/-- Apply a function on characters to a string. -/
def onCharacters
    (transform : List Char → List Char)
    (text : String) :
    String :=
  String.ofList (transform text.toList)

/-- Drop leading white space. -/
def trimStart
    (text : List Char) :
    List Char :=
  text.dropWhile isWhite

/-- Drop every trailing character that satisfies `test`. -/
def dropTrailing
    (test : Char → Bool)
    (text : List Char) :
    List Char :=
  (text.reverse.dropWhile test).reverse

/-- Drop trailing white space. -/
def trimEnd
    (text : List Char) :
    List Char :=
  dropTrailing isWhite text

/-- Drop white space on both sides. -/
def trim
    (text : List Char) :
    List Char :=
  trimEnd (trimStart text)

/-- Whether the text holds nothing but white space. -/
def isBlank
    (text : List Char) :
    Bool :=
  text.all isWhite

theorem length_trimStart_le
    (text : List Char) :
    (trimStart text).length ≤ text.length :=
  (List.dropWhile_sublist isWhite).length_le

theorem length_dropTrailing_le
    (test : Char → Bool)
    (text : List Char) :
    (dropTrailing test text).length ≤ text.length := by
  simpa [dropTrailing] using
    (List.dropWhile_sublist (l := text.reverse) test).length_le

theorem length_trimEnd_le
    (text : List Char) :
    (trimEnd text).length ≤ text.length :=
  length_dropTrailing_le isWhite text

theorem length_trim_le
    (text : List Char) :
    (trim text).length ≤ text.length :=
  Nat.le_trans (length_trimEnd_le _) (length_trimStart_le _)

/-- What is left behind a leading text, together with it, is the whole. -/
theorem append_eq_of_isPrefixOf?
    {lead text rest : List Char}
    (found : lead.isPrefixOf? text = some rest) :
    lead ++ rest = text := by
  induction lead generalizing text with
  | nil => exact (Option.some.inj found).symm
  | cons character lead inductionHypothesis =>
      cases text with
      | nil => exact absurd found (Option.some_ne_none rest ∘ Eq.symm)
      | cons other text =>
          change (if character == other then lead.isPrefixOf? text else none) = some rest at found
          split at found
          · rename_i same
            rw [List.cons_append, inductionHypothesis found, eq_of_beq same]
          · simp at found

/-- What is left before a trailing text, together with it, is the whole. -/
theorem append_eq_of_isSuffixOf?
    {tail text rest : List Char}
    (found : tail.isSuffixOf? text = some rest) :
    rest ++ tail = text := by
  unfold List.isSuffixOf? at found
  obtain ⟨reversed, foundReversed, rfl⟩ := Option.map_eq_some_iff.1 found
  have whole := append_eq_of_isPrefixOf? foundReversed
  have := congrArg List.reverse whole
  simpa using this

/-- Whether `pattern` occurs somewhere in the text. -/
def occursIn
    (pattern : List Char) :
    List Char → Bool
  | [] => pattern.isEmpty
  | character :: rest =>
      pattern.isPrefixOf (character :: rest) || occursIn pattern rest

/-- Replace from the left, after passing over `skip` characters of an earlier match. -/
def replaceAfter
    (pattern replacement : List Char) :
    Nat → List Char → List Char
  | _, [] => []
  | skip + 1, _ :: rest => replaceAfter pattern replacement skip rest
  | 0, character :: rest =>
      if pattern.isPrefixOf (character :: rest) then
        replacement ++ replaceAfter pattern replacement (pattern.length - 1) rest
      else
        character :: replaceAfter pattern replacement 0 rest

/-- Replace every occurrence of a non-empty pattern, from the left and without overlap. -/
def replaceAll
    (pattern replacement text : List Char) :
    List Char :=
  replaceAfter pattern replacement 0 text

/-- The maximal runs of characters that are not white space. -/
def words
    (text : List Char) :
    List (List Char) :=
  (text.splitOnP isWhite).filter fun word => !word.isEmpty

/-- Drop one carriage return that ends a line. -/
def dropCarriageReturn
    (line : List Char) :
    List Char :=
  ((['\r'] : List Char).isSuffixOf? line).getD line

/-- The lines of a text split at line feeds: a line that a line feed ends loses a carriage
return before it, and nothing follows the last line feed. -/
def linesOfPieces :
    List (List Char) → List (List Char)
  | [] => []
  | [last] => if last.isEmpty then [] else [last]
  | line :: rest => dropCarriageReturn line :: linesOfPieces rest

/-- The lines of a text, without their ends. -/
def lines
    (text : List Char) :
    List (List Char) :=
  linesOfPieces (text.splitOn '\n')

end BindingStubs.Text
