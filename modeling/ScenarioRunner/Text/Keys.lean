import ScenarioRunner.Error
import ScenarioRunner.Text.LowerCase

/-!
Typed text with special keys. A name in braces stands for a key of the keyboard, written as the
private-use character that browsers take for it; three braces `{`, `{` and `}` in a row type one
opening brace.
-/

namespace ScenarioRunner.Text

/-- The keys that a name in braces can press. -/
inductive SpecialKey where
  | enter
  | escape
  | backspace
  | delete
  | tab
  | home
  | endOfLine
  | left
  | right
  | up
  | down
  | selectAll
  | openingBrace
deriving DecidableEq, Repr

namespace SpecialKey

/-- The modifier that is held while the keys after it are pressed. -/
def control : Char := '\uE009'

/-- The character that lets go of every modifier. -/
def releaseAll : Char := '\uE000'

/-- The characters that press a key; selecting all holds the modifier for one letter only. -/
def characters : SpecialKey → List Char
  | .enter => ['\uE007']
  | .escape => ['\uE00C']
  | .backspace => ['\uE003']
  | .delete => ['\uE017']
  | .tab => ['\uE004']
  | .home => ['\uE011']
  | .endOfLine => ['\uE010']
  | .left => ['\uE012']
  | .right => ['\uE014']
  | .up => ['\uE013']
  | .down => ['\uE015']
  | .selectAll => [control, 'a', releaseAll]
  | .openingBrace => ['{']

/-- The name of a key in lower case. -/
def name : SpecialKey → String
  | .enter => "enter"
  | .escape => "esc"
  | .backspace => "backspace"
  | .delete => "del"
  | .tab => "tab"
  | .home => "home"
  | .endOfLine => "end"
  | .left => "leftarrow"
  | .right => "rightarrow"
  | .up => "uparrow"
  | .down => "downarrow"
  | .selectAll => "selectall"
  | .openingBrace => "\x7b"

def all : List SpecialKey :=
  [.enter, .escape, .backspace, .delete, .tab, .home, .endOfLine, .left, .right, .up, .down,
    .selectAll, .openingBrace]

/-- A key is found by its name in any letter case. -/
def find? (name : List Char) : Option SpecialKey :=
  let wanted := lower (String.ofList name)
  all.find? fun key => key.name == wanted

end SpecialKey

/-- The text up to the first character of a kind, and the text after it. -/
def splitAtFirst (mark : Char) : List Char → Option (List Char × List Char)
  | [] => none
  | c :: rest =>
    if c = mark then some ([], rest)
    else (splitAtFirst mark rest).map fun (before, after) => (c :: before, after)

theorem splitAtFirst_eq_none_iff {mark : Char} {text : List Char} :
    splitAtFirst mark text = none ↔ mark ∉ text := by
  induction text with
  | nil => simp [splitAtFirst]
  | cons c rest ih =>
    by_cases marked : c = mark
    · simp [splitAtFirst, marked]
    · simp [splitAtFirst, marked, Ne.symm marked, ih]

theorem splitAtFirst_eq_some_iff {mark : Char} {text before after : List Char} :
    splitAtFirst mark text = some (before, after) ↔
      mark ∉ before ∧ text = before ++ mark :: after := by
  induction text generalizing before with
  | nil => simp [splitAtFirst]
  | cons c rest ih =>
    by_cases marked : c = mark
    · cases before with
      | nil => simp [splitAtFirst, marked]
      | cons head others => simp +contextual [splitAtFirst, marked, eq_comm]
    · cases before with
      | nil => simp [splitAtFirst, marked]
      | cons head others =>
        simp only [splitAtFirst, marked, if_false, Option.map_eq_some_iff, Prod.exists,
          Prod.mk.injEq, List.cons.injEq, List.mem_cons, not_or, List.cons_append]
        constructor
        · rintro ⟨tail, ending, found, ⟨rfl, rfl⟩, rfl⟩
          obtain ⟨clean, split⟩ := ih.mp found
          exact ⟨⟨Ne.symm marked, clean⟩, rfl, split⟩
        · rintro ⟨⟨-, clean⟩, rfl, split⟩
          exact ⟨others, after, ih.mpr ⟨clean, split⟩, ⟨rfl, rfl⟩, rfl⟩

theorem length_of_splitAtFirst {mark : Char} {text before after : List Char}
    (h : splitAtFirst mark text = some (before, after)) :
    after.length < text.length := by
  obtain ⟨-, rfl⟩ := splitAtFirst_eq_some_iff.mp h
  simp only [List.length_append, List.length_cons]
  omega

/-- A name that starts with an opening brace reaches at least past that brace. -/
def splitKeyName : List Char → Option (List Char × List Char)
  | '{' :: rest => (splitAtFirst '}' rest).map fun (name, after) => ('{' :: name, after)
  | text => splitAtFirst '}' text

theorem length_of_splitKeyName {text name after : List Char}
    (h : splitKeyName text = some (name, after)) : after.length < text.length := by
  unfold splitKeyName at h
  split at h
  · obtain ⟨⟨tail, ending⟩, found, same⟩ := Option.map_eq_some_iff.mp h
    simp only [Prod.mk.injEq] at same
    have := length_of_splitAtFirst (same.2 ▸ found)
    simp only [List.length_cons]
    omega
  · exact length_of_splitAtFirst h

/-- The scan goes from the left: a name in braces becomes its key, an unclosed brace is literal. -/
def expandCharacters : List Char → Except Error (List Char)
  | [] => .ok []
  | c :: rest =>
    if c = '{' then
      match found : splitKeyName rest with
      | none => .ok (c :: rest)
      | some (name, after) =>
        match SpecialKey.find? name with
        | none => .error (.unknownKey (String.ofList name))
        | some key =>
          have : after.length < rest.length := length_of_splitKeyName found
          (expandCharacters after).map (key.characters ++ ·)
    else (expandCharacters rest).map (c :: ·)
termination_by text => text.length
decreasing_by all_goals simp_wf <;> omega

/-- The characters that are sent for a typed text. -/
def expandKeys (text : String) : Except Error String :=
  (expandCharacters text.toList).map String.ofList

/-- Only a name that no key has keeps a text from being expanded. -/
theorem unknownKey_of_expandCharacters {text : List Char} {error : Error}
    (failed : expandCharacters text = .error error) : ∃ name, error = .unknownKey name := by
  fun_induction expandCharacters text with
  | case1 => cases failed
  | case2 rest unclosed => cases failed
  | case3 rest name after closed unknown =>
    cases failed
    exact ⟨String.ofList name, rfl⟩
  | case4 rest name after closed key known shorter ih => exact ih (error_of_map failed)
  | case5 c rest plain ih => exact ih (error_of_map failed)

theorem unknownKey_of_expandKeys {text : String} {error : Error}
    (failed : expandKeys text = .error error) : ∃ name, error = .unknownKey name :=
  unknownKey_of_expandCharacters (error_of_map failed)

end ScenarioRunner.Text
