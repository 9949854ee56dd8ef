import ScenarioRunner.Proofs.Grounding

/-!
A typed text as a list of strokes: characters that stand for themselves, and names of keys. The strokes
of a text are read from the left, and what is sent for the text is what is sent for its strokes.
-/

namespace ScenarioRunner.Text

/-- A key has the name in one letter case or another. -/
def IsKeyName (name : String) : Prop := ∃ key : SpecialKey, key.name = lower name

theorem SpecialKey.mem_all (key : SpecialKey) : key ∈ all := by
  cases key <;> decide

/-- The keys are looked up by their names. -/
theorem SpecialKey.find?_eq_none_iff {name : List Char} :
    find? name = none ↔ ¬ IsKeyName (String.ofList name) := by
  simp [find?, IsKeyName, mem_all]

/-- A stroke is a character that stands for itself, or a name in braces. -/
inductive Stroke where
  | character (c : Char)
  | named (name : String)

/-- What is sent for a stroke. -/
def Stroke.sent : Stroke → Except Error (List Char)
  | .character c => .ok [c]
  | .named name =>
    match SpecialKey.find? name.toList with
    | some key => .ok key.characters
    | none => .error (.unknownKey name)

/-- Characters are sent as they are. -/
theorem sent_characters (text : List Char) :
    ((text.map .character).mapM Stroke.sent).map List.flatten = .ok text := by
  induction text with
  | nil => rfl
  | cons c rest ih =>
      obtain ⟨sent, each, same⟩ := ok_of_map ih
      rw [List.map_cons, List.mapM_cons, each, same]
      rfl

/-- Only a name that no key has is not sent. -/
theorem Stroke.sent_named (name : String) :
    (IsKeyName name → ∃ sent, (named name).sent = .ok sent) ∧
      (¬ IsKeyName name → (named name).sent = .error (.unknownKey name)) := by
  have absent : SpecialKey.find? name.toList = none ↔ ¬ IsKeyName (String.ofList name.toList) :=
    SpecialKey.find?_eq_none_iff
  rw [String.ofList_toList] at absent
  cases found : SpecialKey.find? name.toList with
  | none => simp [sent, found, absent.mp found]
  | some key =>
      refine ⟨fun _ => ⟨key.characters, by simp [sent, found]⟩, fun unknown => ?_⟩
      exact absurd (absent.mpr unknown) (by simp [found])

theorem Stroke.sent_eq_error_iff {stroke : Stroke} {error : Error} :
    stroke.sent = .error error ↔
      ∃ name, stroke = .named name ∧ ¬ IsKeyName name ∧ error = .unknownKey name := by
  cases stroke with
  | character c => simp [sent]
  | named name =>
      obtain ⟨known, unknown⟩ := sent_named name
      by_cases held : IsKeyName name
      · obtain ⟨sent, ok⟩ := known held
        simp [ok, held]
      · simp [unknown held, held, eq_comm]

theorem Stroke.exists_sent_iff {stroke : Stroke} :
    (∃ sent, stroke.sent = .ok sent) ↔ ∀ name, stroke = .named name → IsKeyName name := by
  cases stroke with
  | character c => simp [sent]
  | named name =>
      obtain ⟨known, unknown⟩ := sent_named name
      by_cases held : IsKeyName name
      · simp [known held, held]
      · simp [unknown held, held]

/-- The reading of a text from the left. An opening brace is closed by the next closing brace, and what
stands between the two is a name, other opening braces included. An opening brace that nothing closes
stands for itself, and so does everything behind it. -/
inductive Reads : List Char → List Stroke → Prop where
  | nil : Reads [] []
  | character {c : Char} {rest : List Char} {strokes : List Stroke} (plain : c ≠ '{')
      (later : Reads rest strokes) : Reads (c :: rest) (.character c :: strokes)
  | named {name rest : List Char} {strokes : List Stroke} (closed : '}' ∉ name)
      (later : Reads rest strokes) :
      Reads ('{' :: (name ++ '}' :: rest)) (.named (String.ofList name) :: strokes)
  | unclosed {rest : List Char} (unended : '}' ∉ rest) :
      Reads ('{' :: rest) (('{' :: rest).map .character)

/-- Every opening brace has a closing brace somewhere behind it. -/
def BracesClosed (text : List Char) : Prop :=
  ∀ before after, text = before ++ '{' :: after → '}' ∈ after

/-- No closing brace stands behind the first opening brace. -/
def BracesOpen (text : List Char) : Prop :=
  ∀ before after, text = before ++ '{' :: after → '{' ∉ before → '}' ∉ after

/-- The end of a text whose braces are closed is such a text. -/
theorem BracesClosed.of_append {front back : List Char} (closed : BracesClosed (front ++ back)) :
    BracesClosed back := by
  rintro before after rfl
  exact closed (front ++ before) after (by simp)

@[simp] theorem bracesClosed_nil : BracesClosed [] := by
  simp [BracesClosed]

@[simp] theorem bracesClosed_cons {c : Char} {rest : List Char} :
    BracesClosed (c :: rest) ↔ (c = '{' → '}' ∈ rest) ∧ BracesClosed rest := by
  constructor
  · intro closed
    have later : BracesClosed ([c] ++ rest) := closed
    refine ⟨?_, later.of_append⟩
    rintro rfl
    exact closed [] rest rfl
  · rintro ⟨here, later⟩ before after split
    cases before with
    | nil =>
        obtain ⟨rfl, rfl⟩ := List.cons.inj split
        exact here rfl
    | cons head before => exact later before after (List.cons.inj split).2

@[simp] theorem bracesOpen_nil : BracesOpen [] := by
  simp [BracesOpen]

@[simp] theorem bracesOpen_cons {c : Char} {rest : List Char} :
    BracesOpen (c :: rest) ↔ if c = '{' then '}' ∉ rest else BracesOpen rest := by
  split
  next brace =>
    subst brace
    constructor
    · intro unclosed
      exact unclosed [] rest rfl (by simp)
    · intro unended before after split first
      cases before with
      | nil =>
          obtain ⟨-, rfl⟩ := List.cons.inj split
          exact unended
      | cons head before =>
          obtain ⟨rfl, -⟩ := List.cons.inj split
          simp at first
  next plain =>
    constructor
    · rintro unclosed before after rfl first
      exact unclosed (c :: before) after rfl (by simp [Ne.symm plain, first])
    · intro unclosed before after split first
      cases before with
      | nil => exact absurd (List.cons.inj split).1 plain
      | cons head before =>
          obtain ⟨-, rfl⟩ := List.cons.inj split
          exact unclosed before after rfl (fun member => first (List.mem_cons_of_mem _ member))

/-- A brace right behind the first makes no difference to where a name ends. -/
theorem splitKeyName_eq (text : List Char) : splitKeyName text = splitAtFirst '}' text := by
  fun_cases splitKeyName text with
  | case1 rest => simp [splitAtFirst]
  | case2 => rfl

theorem expandCharacters_plain {c : Char} (plain : c ≠ '{') (rest : List Char) :
    expandCharacters (c :: rest) = (expandCharacters rest).map (c :: ·) := by
  rw [expandCharacters, if_neg plain]

theorem expandCharacters_unclosed {rest : List Char} (unended : '}' ∉ rest) :
    expandCharacters ('{' :: rest) = .ok ('{' :: rest) := by
  have unsplit : splitKeyName rest = none := by
    rw [splitKeyName_eq, splitAtFirst_eq_none_iff.mpr unended]
  rw [expandCharacters, if_pos rfl]
  split
  next => rfl
  next name after found => simp [unsplit] at found

/-- A name is sent first, and what follows it is read on its own. -/
theorem expandCharacters_named {name : List Char} (closed : '}' ∉ name) (rest : List Char) :
    expandCharacters ('{' :: (name ++ '}' :: rest)) =
      (Stroke.named (String.ofList name)).sent >>= fun sent =>
        (expandCharacters rest).map (sent ++ ·) := by
  have split_at : splitKeyName (name ++ '}' :: rest) = some (name, rest) := by
    rw [splitKeyName_eq]
    exact splitAtFirst_eq_some_iff.mpr ⟨closed, rfl⟩
  rw [expandCharacters, if_pos rfl]
  split
  next unclosed => simp [split_at] at unclosed
  next reference after found =>
    obtain ⟨rfl, rfl⟩ : name = reference ∧ rest = after := by simpa [split_at] using found
    simp only [Stroke.sent, String.toList_ofList]
    cases SpecialKey.find? name <;> rfl

namespace Reads

variable {text back : List Char} {strokes others : List Stroke}

/-- Every text can be read. -/
theorem total (text : List Char) : ∃ strokes, Reads text strokes := by
  induction length : text.length using Nat.strongRecOn generalizing text with
  | ind length ih =>
      subst length
      cases text with
      | nil => exact ⟨[], .nil⟩
      | cons c rest =>
          by_cases brace : c = '{'
          · subst brace
            cases split_at : splitAtFirst '}' rest with
            | none => exact ⟨_, .unclosed (splitAtFirst_eq_none_iff.mp split_at)⟩
            | some parts =>
                obtain ⟨name, after⟩ := parts
                have shorter := length_of_splitAtFirst split_at
                obtain ⟨closed, rfl⟩ := splitAtFirst_eq_some_iff.mp split_at
                obtain ⟨strokes, read⟩ := ih after.length (Nat.lt_succ_of_lt shorter) after rfl
                exact ⟨_, .named closed read⟩
          · obtain ⟨strokes, read⟩ := ih rest.length (Nat.lt_succ_self _) rest rfl
            exact ⟨_, .character brace read⟩

/-- What is sent for a text is what is sent for its strokes. -/
theorem expandCharacters_eq (read : Reads text strokes) :
    expandCharacters text = (strokes.mapM Stroke.sent).map List.flatten := by
  induction read with
  | nil => simp [expandCharacters, pure, Except.pure, Except.map]
  | @character c rest strokes plain later ih =>
      rw [expandCharacters_plain plain, ih, List.mapM_cons]
      cases strokes.mapM Stroke.sent <;> rfl
  | @named name rest strokes closed later ih =>
      rw [expandCharacters_named closed, ih, List.mapM_cons]
      cases (Stroke.named (String.ofList name)).sent with
      | error error => rfl
      | ok sent => cases strokes.mapM Stroke.sent <;> rfl
  | @unclosed rest unended =>
      rw [expandCharacters_unclosed unended, sent_characters]

/-- A text whose braces are closed is read on its own, whatever follows it. -/
theorem append (read : Reads text strokes) (closed : BracesClosed text)
    (later : Reads back others) : Reads (text ++ back) (strokes ++ others) := by
  induction read with
  | nil => exact later
  | @character c rest strokes plain _ ih =>
      exact .character plain (ih (bracesClosed_cons.mp closed).2)
  | @named name rest strokes ended _ ih =>
      have joined : '{' :: (name ++ '}' :: rest) ++ back = '{' :: (name ++ '}' :: (rest ++ back)) := by
        simp
      have whole : BracesClosed (('{' :: name ++ ['}']) ++ rest) := by simpa using closed
      have behind : BracesClosed rest := whole.of_append
      rw [joined]
      exact .named ended (ih behind)
  | unclosed unended => exact absurd ((bracesClosed_cons.mp closed).1 rfl) unended

/-- A text in which no brace is closed consists of characters. -/
theorem of_bracesOpen (unclosed : BracesOpen text) : Reads text (text.map .character) := by
  induction text with
  | nil => exact .nil
  | cons c rest ih =>
      rw [bracesOpen_cons] at unclosed
      split at unclosed
      next brace =>
        subst brace
        exact .unclosed unclosed
      next plain => exact .character plain (ih unclosed)

end Reads

theorem expandKeys_eq {text : String} {strokes : List Stroke} (read : Reads text.toList strokes) :
    expandKeys text = (strokes.mapM Stroke.sent).map fun sent => String.ofList sent.flatten := by
  rw [expandKeys, read.expandCharacters_eq, map_of_map]

/-- Typed texts are expanded piece by piece. A text whose braces are all closed is expanded on its own,
whatever follows it, and it is reported first when it cannot be. A text in which nothing closes the
first brace is typed as it stands. Texts can be read from the left in which each brace is closed by
the next closing one, and a text is not expanded just when that reading comes to a name that no key has
in any letter case; the first such name is reported. -/
theorem expanded_piece_by_piece :
    (∀ front back : String, BracesClosed front.toList →
      expandKeys (front ++ back) =
        expandKeys front >>= fun first => (expandKeys back).map (first ++ ·)) ∧
    (∀ text : String, BracesOpen text.toList → expandKeys text = .ok text) ∧
    ∀ text : String, (∃ strokes, Reads text.toList strokes) ∧
      ∀ strokes, Reads text.toList strokes → ∀ error,
        expandKeys text = .error error ↔
          ∃ front name back, strokes = front ++ .named name :: back ∧
            (∀ earlier, .named earlier ∈ front → IsKeyName earlier) ∧
            ¬ IsKeyName name ∧ error = .unknownKey name := by
  refine ⟨?_, ?_, fun text => ⟨Reads.total text.toList, ?_⟩⟩
  · intro front back closed
    obtain ⟨strokes, read⟩ := Reads.total front.toList
    obtain ⟨others, later⟩ := Reads.total back.toList
    have whole : Reads (front ++ back).toList (strokes ++ others) := by
      rw [String.toList_append]
      exact read.append closed later
    rw [expandKeys_eq whole, expandKeys_eq read, expandKeys_eq later, List.mapM_append]
    cases strokes.mapM Stroke.sent with
    | error error => rfl
    | ok sent =>
        cases others.mapM Stroke.sent with
        | error error => rfl
        | ok more => simp [Except.map, bind, Except.bind, pure, Except.pure, String.ofList_append]
  · intro text unclosed
    rw [expandKeys, (Reads.of_bracesOpen unclosed).expandCharacters_eq, sent_characters,
      Except.map, String.ofList_toList]
  · intro strokes read error
    have unsent : expandKeys text = .error error ↔ strokes.mapM Stroke.sent = .error error := by
      rw [expandKeys_eq read]
      exact ⟨error_of_map, fun failed => by rw [failed]; rfl⟩
    rw [unsent, mapM_eq_error_iff]
    simp only [Stroke.exists_sent_iff, Stroke.sent_eq_error_iff]
    constructor
    · rintro ⟨front, stroke, back, rfl, known, name, rfl, unknown, rfl⟩
      exact ⟨front, name, back, rfl, fun earlier member => known _ member _ rfl, unknown, rfl⟩
    · rintro ⟨front, name, back, rfl, known, unknown, rfl⟩
      refine ⟨front, _, back, rfl, ?_, name, rfl, unknown, rfl⟩
      rintro _ member earlier rfl
      exact known earlier member

/-- A name goes on over opening braces, its letter case does not matter, and a text that cannot be
expanded cannot be whatever follows it. -/
theorem expanded_piece_by_piece_nested :
    expandKeys ("\x7bEsc\x7d\x7b\x7b\x7d" ++ "\x7b x \x7benter\x7d") =
      .error (.unknownKey " x \x7benter") ∧
    (∀ back, expandKeys ("\x7b\x7b\x7b\x7d" ++ back) = .error (.unknownKey "\x7b\x7b")) ∧
    expandKeys "\x7d \x7b \x7besc" = .ok "\x7d \x7b \x7besc" ∧
    expandKeys "\x7b x \x7benter\x7d\x7b\x7d" = .error (.unknownKey " x \x7benter") := by
  obtain ⟨parts, plain, readings⟩ := expanded_piece_by_piece
  refine ⟨?_, fun back => ?_, plain _ ?_, ?_⟩
  · rw [parts _ _ (by simp)]
    decide +kernel
  · have unknown : expandKeys "\x7b\x7b\x7b\x7d" = .error (.unknownKey "\x7b\x7b") := by
      decide +kernel
    rw [parts _ _ (by simp), unknown]
    rfl
  · simp
  · have read : Reads "\x7b x \x7benter\x7d\x7b\x7d".toList
        [.named " x \x7benter", .named ""] := by
      have last : Reads ('{' :: ([] ++ '}' :: [])) [.named ""] := .named (by decide) .nil
      have first : Reads ('{' :: (" x \x7benter".toList ++ '}' :: '{' :: ([] ++ '}' :: [])))
          [.named " x \x7benter", .named ""] := .named (by decide) last
      exact first
    obtain ⟨-, unsent⟩ := readings "\x7b x \x7benter\x7d\x7b\x7d"
    refine (unsent _ read _).mpr ⟨[], " x \x7benter", [.named ""], rfl, by simp, ?_, rfl⟩
    have own : String.ofList " x \x7benter".toList = " x \x7benter" := String.ofList_toList
    rw [← own, ← SpecialKey.find?_eq_none_iff]
    decide +kernel

end ScenarioRunner.Text
