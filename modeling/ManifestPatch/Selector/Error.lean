/-!
# Errors of Selectors

What can be wrong with the text of a selector, and the wording. A `Fault` says what is wrong with
one component; a `SelectorError` says where.
-/

namespace ManifestPatch

namespace Selector

/-- What is wrong with the text of one component. -/
inductive Fault where
  /-- Something follows the predicate, or the predicate is not closed. -/
  | unclosedPredicate
  /-- The name has an axis, set off by `::`. -/
  | axis
  /-- The text before the predicate is no name. -/
  | notAName
  /-- An attribute is followed by a predicate. -/
  | predicateOnAttribute
  /-- Nothing stands between the brackets. -/
  | emptyPredicate
  /-- What is compared in the predicate is no attribute name. -/
  | notAComparison
  /-- A predicate without comparison has something else than digits. -/
  | notAPosition
  /-- The position is zero. -/
  | zeroPosition
  /-- The position does not fit 64 bits. -/
  | positionOutOfRange
  /-- Nothing is compared with. -/
  | missingLiteral
  /-- The opening quote of a literal is not closed at the end. -/
  | unterminatedLiteral
  /-- The quote of a literal stands inside it. -/
  | secondComparison
  /-- A literal without quotes has a quote, bracket or equals sign. -/
  | reservedCharacter
  /-- A literal without quotes has white space. -/
  | blankInLiteral
  deriving DecidableEq, Repr

/-- The wording of a fault. -/
def Fault.message : Fault → String
  | .unclosedPredicate => "predicate must end the component with ']'"
  | .axis => "axis expressions are not supported"
  | .notAName =>
    "expected an element or @attribute name (wildcards and functions are not supported)"
  | .predicateOnAttribute => "attribute references cannot carry a predicate"
  | .emptyPredicate => "empty predicate"
  | .notAComparison => "predicate must be a position or a single attribute comparison"
  | .notAPosition => "positional predicate must be a positive integer"
  | .zeroPosition => "positions start at 1"
  | .positionOutOfRange => "positional predicate is out of range"
  | .missingLiteral => "missing literal after '='"
  | .unterminatedLiteral => "unterminated quoted literal"
  | .secondComparison => "only one comparison is allowed per predicate"
  | .reservedCharacter => "unquoted literal contains reserved characters"
  | .blankInLiteral => "unquoted literal cannot contain whitespace"

end Selector

/-- Why a text is no selector. The text itself and, where one component is to blame, the text of
that component are part of the error. -/
inductive SelectorError where
  /-- The text has no component at all. -/
  | empty (selector : String)
  /-- A component does not parse. -/
  | malformed (selector component : String) (fault : Selector.Fault)
  /-- A component before the last names an attribute. -/
  | attributeNotLast (selector component : String)
  deriving DecidableEq, Repr

/-- The wording of an error. -/
def SelectorError.message : SelectorError → String
  | .empty selector => "selector '" ++ selector ++ "' contains no path components"
  | .malformed selector component fault =>
    "malformed selector component '" ++ component ++ "' in '" ++ selector ++ "': " ++ fault.message
  | .attributeNotLast selector component =>
    "attribute reference '" ++ component ++ "' in '" ++ selector ++ "' must be the final component"

end ManifestPatch
