import BindingStubs.Text.WhiteSpace
import BindingStubs.Text.WordCharacter

namespace BindingStubs.Text

/-!
# Classes of characters

White space and alphanumeric characters exclude each other.  The tables of their ranges are
compared range by range.
-/

namespace RangeTable

/-- Whether no range of one table meets a range of the other. -/
def disjoint
    (first second : RangeTable) :
    Bool :=
  first.all fun range => second.all fun other => range.2 < other.1 || other.2 < range.1

/-- No character lies in two disjoint tables. -/
theorem contains_eq_false_of_disjoint
    {first second : RangeTable}
    (apart : disjoint first second = true)
    {character : Char}
    (member : first.contains character = true) :
    second.contains character = false := by
  simp only [contains, List.any_eq_true, Bool.and_eq_true, decide_eq_true_eq] at member
  obtain ⟨range, inFirst, low, high⟩ := member
  simp only [contains, List.any_eq_false]
  intro other inSecond
  simp only [disjoint, List.all_eq_true, Bool.or_eq_true, decide_eq_true_eq] at apart
  have separated := apart range inFirst other inSecond
  simp only [Bool.and_eq_true, decide_eq_true_eq]
  omega

end RangeTable

theorem isWhite_eq_false_of_isAlphanumeric
    {character : Char}
    (alphanumeric : isAlphanumeric character = true) :
    isWhite character = false := by
  simp only [isAlphanumeric, Bool.or_eq_true] at alphanumeric
  rcases alphanumeric with (alphabetic | digit) | number
  · exact RangeTable.contains_eq_false_of_disjoint (by decide +kernel) alphabetic
  · exact RangeTable.contains_eq_false_of_disjoint (by decide +kernel) digit
  · exact RangeTable.contains_eq_false_of_disjoint (by decide +kernel) number

end BindingStubs.Text
