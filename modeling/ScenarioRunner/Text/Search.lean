/-!
Texts that begin with or contain another text.
-/

namespace ScenarioRunner.Text

/-- The first text begins with the second. -/
def beginsWith (text start : String) : Bool := start.toList.isPrefixOf text.toList

/-- The fragment stands at some place of the characters. -/
def containsCharacters (fragment : List Char) : List Char → Bool
  | [] => fragment.isEmpty
  | c :: rest => fragment.isPrefixOf (c :: rest) || containsCharacters fragment rest

theorem containsCharacters_iff (fragment text : List Char) :
    containsCharacters fragment text = true ↔ fragment <:+: text := by
  induction text with
  | nil => simp [containsCharacters]
  | cons c rest ih =>
    rw [containsCharacters, Bool.or_eq_true, ih, List.isPrefixOf_iff_prefix, List.infix_cons_iff]

/-- The text contains the fragment. -/
def contains (text fragment : String) : Bool :=
  containsCharacters fragment.toList text.toList

end ScenarioRunner.Text
