/-!
White space in the sense of Unicode, and the text left when it is cut from both ends.
-/

namespace ScenarioRunner.Text

/-- These are the characters with the property White_Space. -/
def isSpace (c : Char) : Bool :=
  let point := c.toNat
  (9 ≤ point && point ≤ 13) || point == 0x20 || point == 0x85 || point == 0xA0 ||
    point == 0x1680 || (0x2000 ≤ point && point ≤ 0x200A) || point == 0x2028 ||
    point == 0x2029 || point == 0x202F || point == 0x205F || point == 0x3000

theorem isSpace_of_isWhitespace (c : Char) (h : c.isWhitespace = true) : isSpace c = true := by
  simp only [Char.isWhitespace, Bool.or_eq_true, decide_eq_true_eq] at h
  rcases h with ((rfl | rfl) | rfl) | rfl <;> decide

/-- The characters lose the white space at both ends. -/
def trimCharacters (characters : List Char) : List Char :=
  ((characters.dropWhile isSpace).reverse.dropWhile isSpace).reverse

/-- The text loses the white space at both ends. -/
def trim (text : String) : String :=
  String.ofList (trimCharacters text.toList)

/-- A blank text holds white space only. -/
def isBlank (text : String) : Bool :=
  text.toList.all isSpace

end ScenarioRunner.Text
