import ScenarioRunner.Error
import ScenarioRunner.Text.Space
import ScenarioRunner.Text.Keys

/-!
The constants of a scenario and their substitution for references `${name}` in its texts.
-/

namespace ScenarioRunner

/-- Constants by name, each name at most once. -/
abbrev Variables := List (String × String)

namespace Variables

/-- The value of a name. -/
def value? (vars : Variables) (name : String) : Option String :=
  vars.lookup name

/-- A name given again takes the new value. -/
def insert (vars : Variables) (name value : String) : Variables :=
  match vars with
  | [] => [(name, value)]
  | entry :: rest =>
    if entry.1 = name then (name, value) :: rest else entry :: insert rest name value

theorem value?_insert (vars : Variables) (name value wanted : String) :
    (vars.insert name value).value? wanted =
      if wanted = name then some value else vars.value? wanted := by
  induction vars with
  | nil => by_cases same : wanted = name <;> simp [insert, value?, same]
  | cons entry rest ih =>
    obtain ⟨key, stored⟩ := entry
    simp only [value?] at ih
    by_cases replaced : key = name
    · subst replaced
      by_cases same : wanted = key
      · simp [insert, value?, same]
      · have unequal : (wanted == key) = false := by simp [same]
        simp [insert, value?, same, unequal, List.lookup_cons]
    · by_cases held : wanted = key
      · simp [insert, value?, replaced, held]
      · have unequal : (wanted == key) = false := by simp [held]
        simp [insert, value?, replaced, unequal, List.lookup_cons, ih]

end Variables

open Text in
/-- One pass from the left: `$${` writes `${`, a reference writes its value as it stands, and any
other dollar is itself. The whole text is named in the report of a reference that never ends. -/
def interpolateCharacters (vars : Variables) (whole : String) :
    List Char → Except Error (List Char)
  | [] => .ok []
  | '$' :: '$' :: '{' :: rest =>
    (interpolateCharacters vars whole rest).map (['$', '{'] ++ ·)
  | '$' :: '{' :: rest =>
    match found : splitAtFirst '}' rest with
    | none => .error (.scenarioInvalid ("Unterminated '$\x7b' in '" ++ whole ++ "'"))
    | some (reference, after) =>
      let name := String.ofList (trimCharacters reference)
      match vars.value? name with
      | none => .error (.undefinedVariable name)
      | some value =>
        have : after.length < rest.length := length_of_splitAtFirst found
        (interpolateCharacters vars whole after).map (value.toList ++ ·)
  | c :: rest => (interpolateCharacters vars whole rest).map (c :: ·)
termination_by text => text.length
decreasing_by all_goals simp_wf <;> omega

/-- The text with every reference replaced by its value. -/
def interpolate (vars : Variables) (text : String) : Except Error String :=
  (interpolateCharacters vars text text.toList).map String.ofList

end ScenarioRunner
