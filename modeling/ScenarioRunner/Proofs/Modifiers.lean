import ScenarioRunner.Proofs.Keystrokes

/-!
The modifiers that a typed text holds. A modifier stays down from the character that presses it to the
next one that lets go of all. Of the strokes of a text only a modifier typed as itself leaves one down,
since the name that selects everything lets go of what it presses.
-/

namespace ScenarioRunner.Text

/-- The characters that press a modifier: Shift, Control, Alt and Meta, on the left and on the right. -/
def modifiers : List Char :=
  ['\uE008', SpecialKey.control, '\uE00A', '\uE03D', '\uE050', '\uE051', '\uE052', '\uE053']

/-- The modifiers that are down once a further character is sent. -/
def press (down : List Char) (c : Char) : List Char :=
  if c = SpecialKey.releaseAll then [] else if c ∈ modifiers then c :: down else down

/-- The modifiers that are down after the characters. -/
def modifiersDown (sent : List Char) : List Char := sent.foldl press []

theorem modifiersDown_append_of_released {front : List Char} (released : modifiersDown front = [])
    (back : List Char) : modifiersDown (front ++ back) = modifiersDown back := by
  rw [modifiersDown, List.foldl_append]
  exact congrArg (back.foldl press) released

theorem modifiersDown_singleton_eq_nil_iff {c : Char} : modifiersDown [c] = [] ↔ c ∉ modifiers := by
  by_cases release : c = SpecialKey.releaseAll
  · subst release
    decide
  · simp [modifiersDown, press, release]

/-- No key leaves a modifier down. -/
theorem SpecialKey.modifiersDown_characters (key : SpecialKey) : modifiersDown key.characters = [] := by
  cases key <;> decide

/-- Every Control is followed by the letter it is meant for and by the end of it. -/
def ReleasesControl (sent : List Char) : Prop :=
  ∀ before after, sent = before ++ SpecialKey.control :: after →
    ∃ rest, after = 'a' :: SpecialKey.releaseAll :: rest

theorem releasesControl_of_not_mem {sent : List Char} (absent : SpecialKey.control ∉ sent) :
    ReleasesControl sent := by
  rintro before after rfl
  simp at absent

theorem ReleasesControl.append {front back : List Char} (first : ReleasesControl front)
    (second : ReleasesControl back) : ReleasesControl (front ++ back) := by
  intro before after split
  rcases List.append_eq_append_iff.mp split with ⟨between, rfl, later⟩ | ⟨between, earlier, rest⟩
  · exact second between after later
  · cases between with
    | nil => exact second [] after rest.symm
    | cons head between =>
        obtain ⟨rfl, rfl⟩ := List.cons.inj rest
        obtain ⟨others, rfl⟩ := first before between earlier
        exact ⟨others ++ back, rfl⟩

theorem SpecialKey.releasesControl_characters (key : SpecialKey) :
    ReleasesControl key.characters := by
  cases key with
  | selectAll =>
      intro before after split
      cases before with
      | nil => exact ⟨[], (List.cons.inj split).2.symm⟩
      | cons head before =>
          -- the only Control stands first
          have later : control ∈ ['a', releaseAll] := by
            rw [(List.cons.inj split).2]
            simp
          exact absurd later (by decide)
  | _ => exact releasesControl_of_not_mem (by decide)

section Lowering

variable {c : Char}

/-- A character without a lower-case form stays in the text. -/
theorem mem_lowerFrom (plain : c ≠ 'Σ') (kept : lowerCharacter c = [c]) {text : List Char}
    (member : c ∈ text) (before : List Char) : c ∈ lowerFrom before text := by
  induction text generalizing before with
  | nil => cases member
  | cons head rest ih =>
      rw [lowerFrom]
      cases member with
      | head => simp [plain, kept]
      | tail _ later => exact List.mem_append_right _ (ih later _)

/-- The name of a key has no modifier in it. -/
theorem not_isKeyName_of_modifier (modifier : c ∈ modifiers) {name : String}
    (member : c ∈ name.toList) : ¬ IsKeyName name := by
  rintro ⟨key, named⟩
  -- a test of the list, since a statement about all of `Char` would be decided character by character
  have unchanged : modifiers.all (fun c => c ≠ 'Σ' ∧ lowerCharacter c = [c]) = true := by
    decide +kernel
  have apart : key.name.toList.all (· ∉ modifiers) = true := by cases key <;> decide +kernel
  obtain ⟨plain, kept⟩ := of_decide_eq_true (List.all_eq_true.mp unchanged c modifier)
  have among : c ∈ key.name.toList := by
    rw [named, lower, String.toList_ofList]
    exact mem_lowerFrom plain kept member []
  exact of_decide_eq_true (List.all_eq_true.mp apart c among) modifier

end Lowering

section Strokes

variable {text : List Char} {strokes : List Stroke} {pieces : List (List Char)}

/-- A stroke leaves a modifier down just when it is one. -/
theorem Stroke.modifiersDown_eq_nil_iff {stroke : Stroke} {piece : List Char}
    (typed : stroke.sent = .ok piece) :
    modifiersDown piece = [] ↔ ∀ c ∈ modifiers, stroke ≠ .character c := by
  cases stroke with
  | character c =>
      cases typed
      rw [modifiersDown_singleton_eq_nil_iff]
      constructor
      · rintro absent _ modifier ⟨⟩
        exact absent modifier
      · exact fun others modifier => others c modifier rfl
  | named name =>
      have released : modifiersDown piece = [] := by
        rw [sent] at typed
        split at typed
        next key found =>
          cases typed
          exact key.modifiersDown_characters
        next => cases typed
      simp [released]

theorem Stroke.releasesControl {stroke : Stroke} {piece : List Char}
    (typed : stroke.sent = .ok piece) (plain : stroke ≠ .character SpecialKey.control) :
    ReleasesControl piece := by
  cases stroke with
  | character c =>
      cases typed
      have other : SpecialKey.control ≠ c := fun same => plain (same ▸ rfl)
      exact releasesControl_of_not_mem (by simpa using other)
  | named name =>
      rw [sent] at typed
      split at typed
      next key found =>
        cases typed
        exact key.releasesControl_characters
      next => cases typed

/-- Strokes that are no modifiers leave none down, however many of them were sent. A modifier among them
is down once it is sent. -/
theorem modifiersDown_take_eq_nil_iff
    (typed : List.Forall₂ (fun stroke piece => stroke.sent = .ok piece) strokes pieces) :
    (∀ count, modifiersDown (pieces.take count).flatten = []) ↔
      ∀ c ∈ modifiers, .character c ∉ strokes := by
  induction typed with
  | nil => simp [modifiersDown]
  | @cons stroke piece strokes pieces first _ ih =>
      have here := Stroke.modifiersDown_eq_nil_iff first
      have split : (∀ c ∈ modifiers, .character c ∉ stroke :: strokes) ↔
          modifiersDown piece = [] ∧ ∀ c ∈ modifiers, .character c ∉ strokes := by
        simp only [here, List.mem_cons, not_or, ne_comm (a := stroke), forall_and, ne_eq]
      rw [split, ← ih]
      constructor
      · intro released
        have alone : modifiersDown piece = [] := by simpa using released 1
        refine ⟨alone, fun count => ?_⟩
        simpa [modifiersDown_append_of_released alone] using released (count + 1)
      · rintro ⟨alone, later⟩ count
        cases count with
        | zero => rfl
        | succ count => simpa [modifiersDown_append_of_released alone] using later count

/-- Of strokes without a Control of its own every Control that is sent is released. -/
theorem releasesControl_flatten
    (typed : List.Forall₂ (fun stroke piece => stroke.sent = .ok piece) strokes pieces)
    (plain : .character SpecialKey.control ∉ strokes) : ReleasesControl pieces.flatten := by
  induction typed with
  | nil => exact releasesControl_of_not_mem (by simp)
  | @cons stroke piece strokes pieces first _ ih =>
      obtain ⟨here, later⟩ := not_or.mp (mt List.mem_cons.mpr plain)
      exact (Stroke.releasesControl first (Ne.symm here)).append (ih later)

/-- A modifier that a text has is one of its strokes when all its names are names of keys. -/
theorem Reads.character_mem_iff (read : Reads text strokes)
    (known : ∀ name, .named name ∈ strokes → IsKeyName name) {c : Char} (modifier : c ∈ modifiers) :
    .character c ∈ strokes ↔ c ∈ text := by
  have opening : c ≠ '{' := by
    rintro rfl
    exact absurd modifier (by decide)
  have closing : c ≠ '}' := by
    rintro rfl
    exact absurd modifier (by decide)
  induction read with
  | nil => simp
  | character plain later ih =>
      simp [ih fun name member => known name (List.mem_cons_of_mem _ member)]
  | @named name rest strokes closed later ih =>
      have absent : c ∉ name := by
        intro member
        refine not_isKeyName_of_modifier modifier ?_ (known _ List.mem_cons_self)
        rwa [String.toList_ofList]
      simp [ih fun name member => known name (List.mem_cons_of_mem _ member), opening, closing, absent]
  | unclosed unended => simp

end Strokes

/-- Typed text holds no modifier that it does not type itself. In what is sent for a text without
modifiers every Control is followed by the letter it is meant for and by the end of it. Every text can be
read as strokes, what is sent is what is sent for these, and none of their beginnings leaves a modifier
down just when the text has no modifier. -/
theorem modifiers_released {text sent : String} (expanded : expandKeys text = .ok sent) :
    ((∀ c ∈ modifiers, c ∉ text.toList) → ReleasesControl sent.toList) ∧
    (∃ strokes, Reads text.toList strokes) ∧
    ∀ strokes, Reads text.toList strokes → ∃ pieces,
      strokes.mapM Stroke.sent = .ok pieces ∧ sent.toList = pieces.flatten ∧
      ((∀ count, modifiersDown (pieces.take count).flatten = []) ↔
        ∀ c ∈ modifiers, c ∉ text.toList) := by
  have typing {strokes : List Stroke} (read : Reads text.toList strokes) : ∃ pieces,
      strokes.mapM Stroke.sent = .ok pieces ∧ sent.toList = pieces.flatten ∧
      ∀ c ∈ modifiers, .character c ∈ strokes ↔ c ∈ text.toList := by
    rw [expandKeys_eq read] at expanded
    obtain ⟨pieces, each, rfl⟩ := ok_of_map expanded
    obtain ⟨known, -⟩ := (List.forall₂_and_left _ _).mp ((mapM_eq_ok_iff.mp each).imp
      fun stroke piece typed => ⟨Stroke.exists_sent_iff.mp ⟨piece, typed⟩, typed⟩)
    exact ⟨pieces, each, by simp, fun c modifier =>
      read.character_mem_iff (fun name member => known _ member name rfl) modifier⟩
  refine ⟨fun plain => ?_, Reads.total text.toList, fun strokes read => ?_⟩
  · obtain ⟨strokes, read⟩ := Reads.total text.toList
    obtain ⟨pieces, each, same, typed⟩ := typing read
    rw [same]
    refine releasesControl_flatten (mapM_eq_ok_iff.mp each) ?_
    rw [typed _ (by decide)]
    exact plain _ (by decide)
  · obtain ⟨pieces, each, same, typed⟩ := typing read
    refine ⟨pieces, each, same, ?_⟩
    rw [modifiersDown_take_eq_nil_iff (mapM_eq_ok_iff.mp each)]
    exact forall₂_congr fun c modifier => not_congr (typed c modifier)

/-- A text is selected twice, between a key, a typed brace and a name that nothing closes, and no modifier
is down in between. -/
theorem modifiers_released_reselected :
    let text := "x\x7bSelectAll\x7d\x7bdel\x7d\x7b\x7b\x7d\x7bselectall\x7d y \x7bselectall"
    let sent := "x\uE009a\uE000\uE017\x7b\uE009a\uE000 y \x7bselectall"
    expandKeys text = .ok sent ∧ ReleasesControl sent.toList ∧
      ∃ strokes pieces, Reads text.toList strokes ∧ strokes.mapM Stroke.sent = .ok pieces ∧
        sent.toList = pieces.flatten ∧ ∀ count, modifiersDown (pieces.take count).flatten = [] := by
  intro text sent
  have expanded : expandKeys text = .ok sent := by decide +kernel
  have apart : modifiers.all (· ∉ text.toList) = true := by decide +kernel
  have plain (c) (modifier : c ∈ modifiers) : c ∉ text.toList :=
    of_decide_eq_true (List.all_eq_true.mp apart c modifier)
  obtain ⟨released, ⟨strokes, read⟩, typed⟩ := modifiers_released expanded
  obtain ⟨pieces, each, same, down⟩ := typed strokes read
  exact ⟨expanded, released plain, strokes, pieces, read, each, same, down.mpr plain⟩

end ScenarioRunner.Text
