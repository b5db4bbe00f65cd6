/-!
# Finding a text inside another

Texts are searched as lists of characters, so that membership is the infix
relation of lists.
-/

namespace EngineLink
namespace Text

/-- Whether {lit}`needle` occurs in a list of characters. -/
def isInfix (needle : List Char) : List Char → Bool
  | [] => needle.isEmpty
  | c :: cs => needle.isPrefixOf (c :: cs) || isInfix needle cs

/-- Whether {lit}`needle` occurs in a text. -/
def contains (text needle : String) : Bool := isInfix needle.toList text.toList

/-- Whether a text begins with {lit}`start`. -/
def beginsWith (text start : String) : Bool := start.toList.isPrefixOf text.toList

/-- Occurring is being an infix. -/
theorem isInfix_iff (needle cs : List Char) : isInfix needle cs = true ↔ needle <:+: cs := by
  induction cs with
  | nil => simp [isInfix]
  | cons c cs ih => simp [isInfix, ih, List.infix_cons_iff]

end Text
end EngineLink
