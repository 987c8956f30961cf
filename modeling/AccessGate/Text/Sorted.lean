/-!
# Texts in order

Texts are ordered by code points; repeated texts are kept.
-/

namespace AccessGate.Text

/-- A list of texts in increasing order. -/
def sorted (texts : List String) : List String :=
  texts.mergeSort fun first second => decide (first ≤ second)

theorem mem_sorted {texts : List String} {text : String} : text ∈ sorted texts ↔ text ∈ texts :=
  List.mem_mergeSort

end AccessGate.Text
