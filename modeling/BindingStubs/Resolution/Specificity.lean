import BindingStubs.Model.Rule
import BindingStubs.Resolution.Matching

namespace BindingStubs

/-!
# Specificity of rules

Rules are ranked the way C++ ranks partial specializations.  One rule covers another when
its pattern matches the other's pattern with the other's parameters held fixed.
-/

/-- How specific one rule is in comparison with another. -/
inductive Specificity where
  | more
  | less
  | equal
  | incomparable
  deriving Repr, DecidableEq

namespace Specificity

/-- The names that stand for the parameters of a rule while they are held fixed. -/
def fixedNames
    (rule : TypeRule) :
    Keyed String :=
  Keyed.ofList
    (rule.parameters.zipIdx.map fun entry => (entry.1, "$opaque" ++ Text.ofNat entry.2))

/-- Whether the pattern of `general` matches the pattern of `specific` with its parameters
held fixed. -/
def covers
    (general specific : TypeRule) :
    Bool :=
  (Matching.unify general.parameters general.pattern
    (specific.pattern.rename (fixedNames specific)) {}).1

/-- Compare two rules. -/
def compare
    (first second : TypeRule) :
    Specificity :=
  match covers second first, covers first second with
  | true, true => .equal
  | true, false => .more
  | false, true => .less
  | false, false => .incomparable

/-- Whether the rule at a position is more specific than every rule at another position. -/
def isMostSpecific
    (rules : List TypeRule)
    (rule : TypeRule)
    (position : Nat) :
    Bool :=
  rules.zipIdx.all fun other => other.2 == position || compare rule other.1 == .more

/-- The position of the rule that is more specific than all others. -/
def mostSpecific?
    (rules : List TypeRule) :
    Option Nat :=
  (rules.zipIdx.find? fun entry => isMostSpecific rules entry.1 entry.2).map Prod.snd

end Specificity

end BindingStubs
