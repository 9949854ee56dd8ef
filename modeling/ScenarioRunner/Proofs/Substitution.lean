import Mathlib.Data.List.Infix
import ScenarioRunner.Scenario.Variables

/-!
References are replaced in one pass from the left. A text is read up to a reference on its own, the
value is written as it stands, and the reading goes on behind the reference.
-/

namespace ScenarioRunner

open Text

variable {vars : Variables} {whole : String}

/-- A reference that never ends is reported, whatever it would name. -/
theorem interpolateCharacters_unterminated {rest : List Char} (unclosed : '}' ∉ rest) :
    interpolateCharacters vars whole ('$' :: '{' :: rest) =
      .error (.scenarioInvalid ("Unterminated '$\x7b' in '" ++ whole ++ "'")) := by
  rw [interpolateCharacters.eq_3]
  split
  next => rfl
  next reference after found => simp [splitAtFirst_eq_none_iff.mpr unclosed] at found

/-- A reference to a name without a value is reported, whatever follows it. -/
theorem interpolateCharacters_undefined {reference : List Char} (closed : '}' ∉ reference)
    (absent : vars.value? (String.ofList (trimCharacters reference)) = none) (rest : List Char) :
    interpolateCharacters vars whole ('$' :: '{' :: (reference ++ '}' :: rest)) =
      .error (.undefinedVariable (String.ofList (trimCharacters reference))) := by
  have split_at : splitAtFirst '}' (reference ++ '}' :: rest) = some (reference, rest) :=
    splitAtFirst_eq_some_iff.mpr ⟨closed, rfl⟩
  rw [interpolateCharacters.eq_3]
  split
  next unclosed => simp [split_at] at unclosed
  next name after found =>
    obtain ⟨rfl, rfl⟩ : reference = name ∧ rest = after := by simpa [split_at] using found
    simp only [absent]

/-- A reference writes its value, and what follows it is read on its own. -/
theorem interpolateCharacters_reference {reference : List Char} {value : String}
    (closed : '}' ∉ reference)
    (held : vars.value? (String.ofList (trimCharacters reference)) = some value)
    (rest : List Char) :
    interpolateCharacters vars whole ('$' :: '{' :: (reference ++ '}' :: rest)) =
      (interpolateCharacters vars whole rest).map (value.toList ++ ·) := by
  have split_at : splitAtFirst '}' (reference ++ '}' :: rest) = some (reference, rest) :=
    splitAtFirst_eq_some_iff.mpr ⟨closed, rfl⟩
  rw [interpolateCharacters.eq_3]
  split
  next unclosed => simp [split_at] at unclosed
  next name after found =>
    obtain ⟨rfl, rfl⟩ : reference = name ∧ rest = after := by simpa [split_at] using found
    simp only [held]

/-- The reading of a text whose references all have values, with what it writes. -/
inductive Filled (vars : Variables) : List Char → List Char → Prop where
  | nil : Filled vars [] []
  | escape {rest written : List Char} (later : Filled vars rest written) :
      Filled vars ('$' :: '$' :: '{' :: rest) ('$' :: '{' :: written)
  | reference {reference rest written : List Char} {value : String} (closed : '}' ∉ reference)
      (held : vars.value? (String.ofList (trimCharacters reference)) = some value)
      (later : Filled vars rest written) :
      Filled vars ('$' :: '{' :: (reference ++ '}' :: rest)) (value.toList ++ written)
  | plain {c : Char} {rest written : List Char}
      (unescaped : ∀ after, c = '$' → rest = '$' :: '{' :: after → False)
      (unreferred : ∀ after, c = '$' → rest = '{' :: after → False)
      (later : Filled vars rest written) : Filled vars (c :: rest) (c :: written)

/-- A text is written just when it can be read, and as it is read. The report that the text is named
in makes no difference. -/
theorem interpolateCharacters_eq_ok_iff {text written : List Char} :
    interpolateCharacters vars whole text = .ok written ↔ Filled vars text written := by
  constructor
  · intro done
    fun_induction interpolateCharacters vars whole text generalizing written with
    | case1 =>
        cases done
        exact .nil
    | case2 rest ih =>
        obtain ⟨tail, read, rfl⟩ := ok_of_map done
        exact .escape (ih read)
    | case3 rest unclosed => cases done
    | case4 rest reference after found name => cases done
    | case5 rest reference after found name value held shorter =>
        rename_i ih
        obtain ⟨tail, read, rfl⟩ := ok_of_map done
        obtain ⟨closed, rfl⟩ := splitAtFirst_eq_some_iff.mp found
        exact .reference closed held (ih read)
    | case6 c rest unescaped unreferred ih =>
        obtain ⟨tail, read, rfl⟩ := ok_of_map done
        exact .plain unescaped unreferred (ih read)
  · intro filled
    induction filled with
    | nil => simp [interpolateCharacters]
    | escape later ih =>
        rw [interpolateCharacters.eq_2, ih]
        rfl
    | reference closed held later ih =>
        rw [interpolateCharacters_reference closed held, ih]
        rfl
    | plain unescaped unreferred later ih =>
        rw [interpolateCharacters.eq_4 _ _ _ _ unescaped unreferred, ih]
        rfl

/-- A reading of a text from the left comes to a reference to a name. -/
inductive Text.Refers : List Char → String → Prop where
  | here {reference rest : List Char} (closed : '}' ∉ reference) :
      Refers ('$' :: '{' :: (reference ++ '}' :: rest)) (String.ofList (trimCharacters reference))
  | behindReference {reference rest : List Char} {name : String} (closed : '}' ∉ reference)
      (later : Refers rest name) : Refers ('$' :: '{' :: (reference ++ '}' :: rest)) name
  | behindEscape {rest : List Char} {name : String} (later : Refers rest name) :
      Refers ('$' :: '$' :: '{' :: rest) name
  | behind {c : Char} {rest : List Char} {name : String}
      (unescaped : ∀ after, c = '$' → rest = '$' :: '{' :: after → False)
      (unreferred : ∀ after, c = '$' → rest = '{' :: after → False)
      (later : Refers rest name) : Refers (c :: rest) name

/-- The names that a written text refers to have values. -/
theorem Text.Refers.held {text written : List Char} {name : String} (refers : Refers text name)
    (done : interpolateCharacters vars whole text = .ok written) :
    ∃ value, vars.value? name = some value := by
  induction refers generalizing written with
  | @here reference rest closed =>
      cases held : vars.value? (String.ofList (trimCharacters reference)) with
      | some value => exact ⟨value, rfl⟩
      | none =>
          rw [interpolateCharacters_undefined closed held] at done
          cases done
  | @behindReference reference rest name closed later ih =>
      cases held : vars.value? (String.ofList (trimCharacters reference)) with
      | some value =>
          rw [interpolateCharacters_reference closed held] at done
          obtain ⟨tail, read, -⟩ := ok_of_map done
          exact ih read
      | none =>
          rw [interpolateCharacters_undefined closed held] at done
          cases done
  | behindEscape later ih =>
      rw [interpolateCharacters.eq_2] at done
      obtain ⟨tail, read, -⟩ := ok_of_map done
      exact ih read
  | behind unescaped unreferred later ih =>
      rw [interpolateCharacters.eq_4 _ _ _ _ unescaped unreferred] at done
      obtain ⟨tail, read, -⟩ := ok_of_map done
      exact ih read

theorem ne_dollar_of_append (front : List Char) {back : List Char}
    (ends : (front ++ back).getLast? ≠ some '$') : back.getLast? ≠ some '$' := by
  intro last
  exact ends (by simp [List.getLast?_append, last])

/-- The brace behind a dollar that is not the end of its text belongs to the text. -/
theorem brace_of_append {front back after : List Char}
    (ends : ('$' :: front).getLast? ≠ some '$') (joined : front ++ back = '{' :: after) :
    ∃ others, front = '{' :: others := by
  cases front with
  | nil => simp at ends
  | cons c others =>
      obtain ⟨rfl, -⟩ := List.cons.inj joined
      exact ⟨others, rfl⟩

namespace Filled

/-- A text that does not end with a dollar is read on its own, whatever follows it. -/
theorem interpolateCharacters_append {front written : List Char} (filled : Filled vars front written)
    (ends : front.getLast? ≠ some '$') (back : List Char) :
    interpolateCharacters vars whole (front ++ back) =
      (interpolateCharacters vars whole back).map (written ++ ·) := by
  induction filled with
  | nil => exact congrFun Except.map_id.symm _
  | @escape rest written later ih =>
      have rest_ends : rest.getLast? ≠ some '$' := ne_dollar_of_append ['$', '$', '{'] ends
      rw [List.cons_append, List.cons_append, List.cons_append, interpolateCharacters.eq_2,
        ih rest_ends, map_of_map]
      rfl
  | @reference reference rest written value closed held later ih =>
      have rest_ends : rest.getLast? ≠ some '$' :=
        ne_dollar_of_append ('$' :: '{' :: (reference ++ ['}'])) (by simpa using ends)
      have joined : '$' :: '{' :: (reference ++ '}' :: rest) ++ back =
          '$' :: '{' :: (reference ++ '}' :: (rest ++ back)) := by simp
      rw [joined, interpolateCharacters_reference closed held, ih rest_ends, map_of_map]
      simp only [List.append_assoc]
  | @plain c rest written unescaped unreferred later ih =>
      have rest_ends : rest.getLast? ≠ some '$' := ne_dollar_of_append [c] ends
      rw [List.cons_append, interpolateCharacters.eq_4, ih rest_ends, map_of_map]
      · rfl
      · rintro after rfl joined
        cases rest with
        | nil => simp at ends
        | cons d others =>
            obtain ⟨rfl, behind⟩ := List.cons.inj joined
            obtain ⟨_, rfl⟩ := brace_of_append rest_ends behind
            exact unescaped _ rfl rfl
      · rintro after rfl joined
        obtain ⟨_, rfl⟩ := brace_of_append ends joined
        exact unreferred _ rfl rfl

/-- What is written depends on the values of the names that the text refers to, and on nothing
else. -/
theorem mono {more : Variables} {text written : List Char} (filled : Filled vars text written)
    (held : ∀ name value, vars.value? name = some value → more.value? name = some value) :
    Filled more text written := by
  induction filled with
  | nil => exact .nil
  | escape later ih => exact .escape ih
  | reference closed found later ih => exact .reference closed (held _ _ found) ih
  | plain unescaped unreferred later ih => exact .plain unescaped unreferred ih

/-- A text without openings of references is written as it stands. -/
theorem of_plain {text : List Char} (plain : ¬ ['$', '{'] <:+: text) : Filled vars text text := by
  induction text with
  | nil => exact .nil
  | cons c rest ih =>
      rw [List.infix_cons_iff, not_or] at plain
      obtain ⟨here, later⟩ := plain
      refine .plain ?_ ?_ (ih later)
      · rintro after rfl rfl
        exact later (List.prefix_append ['$', '{'] after).isInfix
      · rintro after rfl rfl
        exact here (List.prefix_append ['$', '{'] after)

end Filled

theorem interpolate_eq_ok_iff {text written : String} :
    interpolate vars text = .ok written ↔ Filled vars text.toList written.toList := by
  have characters : interpolateCharacters vars text text.toList = .ok written.toList ↔
      Filled vars text.toList written.toList := interpolateCharacters_eq_ok_iff
  rw [← characters, interpolate]
  cases interpolateCharacters vars text text.toList with
  | error error => simp [Except.map]
  | ok characters => simp [Except.map, ← String.toList_inj]

/-- A text that is written and does not end with a dollar is written in front of any other. -/
theorem interpolate_append {front written : String} (done : interpolate vars front = .ok written)
    (ends : front.toList.getLast? ≠ some '$') (back : String) :
    interpolate vars (front ++ back) =
      (interpolateCharacters vars (front ++ back) back.toList).map fun rest =>
        written ++ String.ofList rest := by
  rw [interpolate, String.toList_append,
    (interpolate_eq_ok_iff.mp done).interpolateCharacters_append ends, map_of_map]
  simp

/-- What stands around a reference. -/
theorem interpolate_reference {before written reference : String}
    (done : interpolate vars before = .ok written) (ends : before.toList.getLast? ≠ some '$')
    (after : String) :
    interpolate vars (before ++ "$\x7b" ++ reference ++ "\x7d" ++ after) =
      (interpolateCharacters vars (before ++ "$\x7b" ++ reference ++ "\x7d" ++ after)
        ('$' :: '{' :: (reference.toList ++ '}' :: after.toList))).map fun rest =>
          written ++ String.ofList rest := by
  have joined : before ++ "$\x7b" ++ reference ++ "\x7d" ++ after =
      before ++ ("$\x7b" ++ reference ++ "\x7d" ++ after) := by simp only [String.append_assoc]
  have characters : ("$\x7b" ++ reference ++ "\x7d" ++ after).toList =
      '$' :: '{' :: (reference.toList ++ '}' :: after.toList) := by simp
  rw [joined, interpolate_append done ends, characters]

/-- References are replaced in one pass from the left. A text that is written and does not end with
a dollar is read on its own, and a reference behind it writes its value as it stands, whatever the
value holds; then comes what the rest writes on its own. A name without a value is reported whatever
follows, and so is a reference that never ends. A text without references is written as it stands,
and further constants change nothing that is written. -/
theorem interpolate_in_one_pass (vars : Variables) :
    (∀ before written, interpolate vars before = .ok written →
      before.toList.getLast? ≠ some '$' →
      (∀ reference, '}' ∉ reference.toList →
        (∀ value, vars.value? (trim reference) = some value → ∀ after result,
          interpolate vars (before ++ "$\x7b" ++ reference ++ "\x7d" ++ after) = .ok result ↔
            ∃ rest, interpolate vars after = .ok rest ∧ result = written ++ value ++ rest) ∧
        (vars.value? (trim reference) = none → ∀ after,
          interpolate vars (before ++ "$\x7b" ++ reference ++ "\x7d" ++ after) =
            .error (.undefinedVariable (trim reference)))) ∧
      ∀ rest, '}' ∉ rest.toList → ∃ detail,
        interpolate vars (before ++ "$\x7b" ++ rest) = .error (.scenarioInvalid detail)) ∧
    (∀ text, ¬ ['$', '{'] <:+: text.toList → interpolate vars text = .ok text) ∧
    ∀ more : Variables,
      (∀ name value, vars.value? name = some value → more.value? name = some value) →
      ∀ text written, interpolate vars text = .ok written → interpolate more text = .ok written := by
  refine ⟨?_, ?_, ?_⟩
  · intro before written done ends
    refine ⟨fun reference closed => ⟨?_, ?_⟩, ?_⟩
    · intro value held after result
      rw [interpolate_reference done ends, interpolateCharacters_reference closed held, map_of_map]
      constructor
      · intro read
        obtain ⟨rest, filled, rfl⟩ := ok_of_map read
        refine ⟨String.ofList rest, ?_, by simp [String.append_assoc]⟩
        exact interpolate_eq_ok_iff.mpr (by simpa using interpolateCharacters_eq_ok_iff.mp filled)
      · rintro ⟨rest, read, rfl⟩
        have filled := interpolate_eq_ok_iff.mp read
        rw [interpolateCharacters_eq_ok_iff.mpr filled]
        simp [Except.map, String.append_assoc]
    · intro absent after
      rw [interpolate_reference done ends, interpolateCharacters_undefined closed absent]
      rfl
    · intro rest unclosed
      have characters : ("$\x7b" ++ rest).toList = '$' :: '{' :: rest.toList := by simp
      rw [String.append_assoc, interpolate_append done ends, characters,
        interpolateCharacters_unterminated unclosed]
      exact ⟨_, rfl⟩
  · intro text plain
    exact interpolate_eq_ok_iff.mpr (.of_plain plain)
  · intro more held text written done
    exact interpolate_eq_ok_iff.mpr ((interpolate_eq_ok_iff.mp done).mono held)

/-- A value may look like a reference and end with a dollar in front of a brace. -/
theorem interpolate_in_one_pass_price :
    let vars : Variables := [("price", "$\x7bprice\x7d$")]
    let before := "$$\x7b5\x7d is "
    interpolate vars before = .ok "$\x7b5\x7d is " ∧
    interpolate vars (before ++ "$\x7b" ++ " price " ++ "\x7d" ++ "\x7b!") =
      .ok ("$\x7b5\x7d is " ++ "$\x7bprice\x7d$" ++ "\x7b!") ∧
    (∀ after, interpolate vars (before ++ "$\x7b" ++ "cost" ++ "\x7d" ++ after) =
      .error (.undefinedVariable "cost")) ∧
    (∃ detail, interpolate vars (before ++ "$\x7b" ++ "price") = .error (.scenarioInvalid detail)) ∧
    interpolate vars "\x7bprice\x7d$" = .ok "\x7bprice\x7d$" := by
  intro vars before
  have done : interpolate vars before = .ok "$\x7b5\x7d is " := by decide +kernel
  obtain ⟨references, plain, -⟩ := interpolate_in_one_pass vars
  obtain ⟨closed, unclosed⟩ := references before _ done (by decide)
  obtain ⟨defined, -⟩ := closed " price " (by decide)
  obtain ⟨-, undefined_⟩ := closed "cost" (by decide)
  refine ⟨done, ?_, ?_, unclosed "price" (by decide), plain _ (by decide)⟩
  · exact (defined _ (by decide) "\x7b!" _).mpr ⟨"\x7b!", by decide +kernel, rfl⟩
  · exact undefined_ (by decide)

end ScenarioRunner
