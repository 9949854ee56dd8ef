/-!
Long text cut for display on one line.
-/

namespace ScenarioRunner.Text

/-- A text longer than the limit keeps that many characters, and three dots mark the cut. -/
def shorten (text : String) (limit : Nat) : String :=
  if limit < text.length then
    String.ofList (text.toList.take limit) ++ "..."
  else
    text

theorem shorten_of_length_le (text : String) (limit : Nat) (h : text.length ≤ limit) :
    shorten text limit = text := by
  simp [shorten, Nat.not_lt.mpr h]

end ScenarioRunner.Text
