/-!
# Blanks

The characters that only make space: the blanks of Unicode and the line
ends.
-/

namespace InterfaceManager.Text

/-- Whether a character only makes space. -/
def isBlank (c : Char) : Bool :=
  c == ' ' || ('\t' ≤ c && c ≤ '\r') || c == '\u0085' || c == '\u00a0'
    || c == '\u1680' || ('\u2000' ≤ c && c ≤ '\u200a') || c == '\u2028'
    || c == '\u2029' || c == '\u202f' || c == '\u205f' || c == '\u3000'

/-- A text without the blanks at both ends. -/
def trimmed (cs : List Char) : List Char :=
  ((cs.dropWhile isBlank).reverse.dropWhile isBlank).reverse

end InterfaceManager.Text
