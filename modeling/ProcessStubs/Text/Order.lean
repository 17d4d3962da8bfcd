/-!
# The order of texts

Texts are compared character by character by code point.
-/

namespace ProcessStubs.Text

/-- The texts in rising order, each once. -/
def distinctSorted (l : List String) : List String :=
  l.eraseDups.mergeSort fun a b => decide (a ≤ b)

end ProcessStubs.Text
