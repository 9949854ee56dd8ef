import ScenarioRunner.Text.CaseTable

/-!
Lower-case text by the full Unicode mapping: one character may become two, and a capital sigma at
the end of a word becomes the final sigma.
-/

namespace ScenarioRunner.Text

/-- A character is listed as cased unless it is passed over. -/
def isCased (c : Char) : Bool :=
  inRanges casedRanges c.toNat

/-- A character is passed over in the search for a cased neighbour. -/
def isCaseIgnorable (c : Char) : Bool :=
  inRanges caseIgnorableRanges c.toNat

/-- The first character that is not passed over is cased. -/
def leadsToCased (characters : List Char) : Bool :=
  match characters.dropWhile isCaseIgnorable with
  | [] => false
  | c :: _ => isCased c

/-- The mapping of one character that does not depend on its neighbours. -/
def lowerCharacter (c : Char) : List Char :=
  if c == '\u0130' then ['i', '\u0307']
  else
    match lowerCaseRuns.find? (·.covers c.toNat) with
    | some run => [Char.ofNat ((c.toNat : Int) + run.offset).toNat]
    | none => [c]

/-- A capital sigma is final when a cased character stands before it and none after it. -/
def lowerSigma (before after : List Char) : Char :=
  if leadsToCased before && !leadsToCased after then 'ς' else 'σ'

/-- The characters before are kept in reverse, nearest first. -/
def lowerFrom (before : List Char) : List Char → List Char
  | [] => []
  | c :: after =>
    let lowered := if c == 'Σ' then [lowerSigma before after] else lowerCharacter c
    lowered ++ lowerFrom (c :: before) after

/-- The lower-case form of a text. -/
def lower (text : String) : String :=
  String.ofList (lowerFrom [] text.toList)

end ScenarioRunner.Text
