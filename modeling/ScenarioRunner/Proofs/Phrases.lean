import ScenarioRunner.Proofs.Grammar

/-!
What the readers of XPath make of tokens whose parts are known. A part that is an expression
wherever an expression can end is one as an argument, as a predicate and on its own.
-/

namespace ScenarioRunner.XPath

variable {α : Type}

/-! A reader stops where nothing continues what it has read. -/

theorem more_of_some {item : α → Reader α} {value longer : α} {tokens rest : List Token}
    (found : item value tokens = some (longer, rest)) (limit : Nat) :
    more item (limit + 1) value tokens = more item limit longer rest := by
  simp [more, found]

theorem more_of_none {item : α → Reader α} {value : α} {tokens : List Token}
    (stopped : item value tokens = none) (limit : Nat) :
    more item limit value tokens = (value, tokens) := by
  cases limit <;> simp [more, stopped]

/-- No operator of the group comes next. -/
def Free (group : List (Token × Operator)) (rest : List Token) : Prop :=
  ∀ token ∈ rest.head?, group.lookup token = none

theorem joined_of_operand {group : List (Token × Operator)} {operand : Reader Expression}
    {tokens rest : List Token} {value : Expression} (read : operand tokens = some (value, rest))
    (free : Free group rest) : joined? group operand tokens = some (value, rest) := by
  have stopped : continued? group operand value rest = none := by
    cases rest with
    | nil => rfl
    | cons token later => simp [continued?, free token rfl]
  simp [joined?, read, more_of_none stopped]

/-- A path with no operator next to it is an operand of every strength. -/
theorem operations_of_path {strengths : List (List (Token × Operator))} {path : Reader Expression}
    {tokens rest : List Token} {value : Expression}
    (unsigned : ∀ later, path (.mark .minus :: later) = none)
    (read : path tokens = some (value, rest))
    (free : ∀ group ∈ unions :: strengths, Free group rest) :
    operations? strengths path tokens = some (value, rest) := by
  have union : joined? unions path tokens = some (value, rest) :=
    joined_of_operand read (free unions List.mem_cons_self)
  have signed : signed? (joined? unions path) tokens = some (value, rest) := by
    rw [signed?.eq_def]
    split
    · simp [unsigned] at read
    · exact union
  induction strengths with
  | nil => exact signed
  | cons group others ih =>
    exact joined_of_operand
      (ih fun group member => free group (by simp_all only [List.mem_cons]; tauto))
      (free group (by simp))

theorem path_minus (inner : Reader Expression) (later : List Token) :
    path? inner (.mark .minus :: later) = none := rfl

/-- What can follow an expression: nothing, or what separates or closes expressions. -/
inductive Ends : List Token → Prop where
  | nothing : Ends []
  | comma (later : List Token) : Ends (.mark .comma :: later)
  | closeParen (later : List Token) : Ends (.mark .closeParen :: later)
  | closeBracket (later : List Token) : Ends (.mark .closeBracket :: later)

theorem Ends.free {rest : List Token} (ending : Ends rest) :
    ∀ group ∈ unions :: groups, Free group rest := by
  intro group member token next
  cases ending <;> simp only [List.head?_nil, List.head?_cons, Option.mem_def, reduceCtorEq,
    Option.some.injEq] at next <;> subst next <;> revert group <;> decide

theorem Ends.predicate_eq_none {rest : List Token} (inner : Reader Expression)
    (ending : Ends rest) : predicate? inner rest = none := by
  cases ending <;> rfl

theorem Ends.nextStep_eq_none {rest : List Token} (inner : Reader Expression)
    (origin : Expression) (ending : Ends rest) : nextStep? inner origin rest = none := by
  cases ending <;> rfl

theorem path_of_primary {inner : Reader Expression} {tokens rest : List Token}
    {value : Expression} (read : primary? inner tokens = some (value, rest)) (ending : Ends rest) :
    path? inner tokens = some (value, rest) := by
  have filtered : filtered? inner tokens = some (value, rest) := by
    simp [filtered?, read, more_of_none, ending.predicate_eq_none]
  rw [path?.eq_def]
  split
  · simp [primary?] at read
  · simp [primary?] at read
  · simp [filtered, moreSteps, more_of_none (ending.nextStep_eq_none inner value)]

theorem path_of_step {inner : Reader Expression} {tokens rest : List Token} {value : Expression}
    (other : primary? inner tokens = none)
    (read : step? inner .context tokens = some (value, rest))
    (last : nextStep? inner value rest = none) : path? inner tokens = some (value, rest) := by
  rw [path?.eq_def]
  split
  · simp [step?, axis?, nodeTest?] at read
  · simp [step?, axis?, nodeTest?] at read
  · simp [filtered?, other, read, moreSteps, more_of_none last]

/-! Phrases: tokens with the expression that they are, whatever follows it. -/

structure Phrase where
  tokens : List Token
  value : Expression
deriving Repr

namespace Phrase

/-- Where an expression can end after the tokens, exactly they are read as the value. -/
def Yields (depth : Nat) (phrase : Phrase) : Prop :=
  ∀ rest, Ends rest → expression? depth (phrase.tokens ++ rest) = some (phrase.value, rest)

variable {depth : Nat}

theorem yields_of_path {phrase : Phrase}
    (read : ∀ rest, Ends rest →
      path? (expression? depth) (phrase.tokens ++ rest) = some (phrase.value, rest)) :
    phrase.Yields (depth + 1) := fun rest ending =>
  operations_of_path (path_minus _) (read rest ending) ending.free

theorem yields_of_primary {phrase : Phrase}
    (read : ∀ rest,
      primary? (expression? depth) (phrase.tokens ++ rest) = some (phrase.value, rest)) :
    phrase.Yields (depth + 1) :=
  yields_of_path fun rest ending => path_of_primary (read rest) ending

def literal (text : List Char) : Phrase :=
  ⟨[.literal (String.ofList text)], .literal (String.ofList text)⟩

theorem yields_literal (text : List Char) : (literal text).Yields (depth + 1) :=
  yields_of_primary fun _ => rfl

theorem length_le_length_flatMap {β γ : Type} {spell : β → List γ}
    (present : ∀ b, spell b ≠ []) (items : List β) :
    items.length ≤ (items.flatMap spell).length := by
  induction items with
  | nil => simp
  | cons b others ih =>
    have := List.length_pos_iff.mpr (present b)
    simp only [List.flatMap_cons, List.length_append, List.length_cons]
    omega

/-- Phrases that an item adds one by one, up to a rest that it does not read. -/
theorem more_flatMap {item : α → Reader α} {add : α → Phrase → α} {spell : Phrase → List Token}
    (present : ∀ phrase, spell phrase ≠ []) {phrases : List Phrase} {rest : List Token}
    (each : ∀ phrase ∈ phrases, ∀ value later,
      item value (spell phrase ++ (List.flatMap spell later ++ rest)) =
        some (add value phrase, later.flatMap spell ++ rest))
    (last : ∀ value, item value rest = none) (value : α) :
    more item (phrases.flatMap spell ++ rest).length value (phrases.flatMap spell ++ rest) =
      (phrases.foldl add value, rest) := by
  have within (limit : Nat) (enough : phrases.length ≤ limit) :
      more item limit value (phrases.flatMap spell ++ rest) = (phrases.foldl add value, rest) := by
    induction phrases generalizing value limit with
    | nil => simp [more_of_none (last value)]
    | cons phrase others ih =>
      obtain ⟨limit, rfl⟩ := Nat.exists_eq_add_of_le' (Nat.le_trans (by simp) enough : 1 ≤ limit)
      have here := each phrase List.mem_cons_self value others
      rw [List.flatMap_cons, List.append_assoc, more_of_some here]
      exact ih (fun other member => each other (List.mem_cons_of_mem _ member)) (add value phrase)
        limit (by simpa using enough)
  exact within _ (Nat.le_trans (length_le_length_flatMap present phrases) (by simp))

theorem foldl_concat (phrases : List Phrase) (read : List Expression) :
    phrases.foldl (fun read phrase => read ++ [phrase.value]) read = read ++ phrases.map value := by
  induction phrases generalizing read with
  | nil => simp
  | cons phrase others ih => simp [ih]

/-- Phrases after another one, each after its separator. -/
def further (separator : Token) (phrases : List Phrase) : List Token :=
  phrases.flatMap fun phrase => separator :: phrase.tokens

/-- Phrases with an operator of the weakest group between them. -/
def alternatives (first : Phrase) (others : List Phrase) : Phrase :=
  ⟨first.tokens ++ further (.name "or") others,
    others.foldl (fun left other => .operation .or left other.value) first.value⟩

theorem yields_alternatives {first : Phrase} {others : List Phrase}
    (paths : ∀ phrase ∈ first :: others, ∀ later,
      Ends later ∨ later.head? = some (.name "or") →
        path? (expression? depth) (phrase.tokens ++ later) = some (phrase.value, later)) :
    (alternatives first others).Yields (depth + 1) := by
  intro rest ending
  have after (others : List Phrase) : Ends (further (.name "or") others ++ rest) ∨
      (further (.name "or") others ++ rest).head? = some (.name "or") := by
    cases others with
    | nil => exact .inl ending
    | cons other others => exact .inr rfl
  -- Each path is an operand for all operators that bind stronger than `or`.
  let stronger := operations? groups.tail (path? (expression? depth))
  have operand (phrase : Phrase) (member : phrase ∈ first :: others) (later : List Phrase) :
      stronger (phrase.tokens ++ (further (.name "or") later ++ rest)) =
        some (phrase.value, further (.name "or") later ++ rest) := by
    refine operations_of_path (path_minus _) (paths phrase member _ (after later)) ?_
    rcases after later with ending | next
    · exact fun group member => ending.free group
        (List.cons_subset_cons unions (List.tail_subset groups) member)
    · intro group member token found
      obtain rfl : .name "or" = token := by simpa [next] using found
      clear found
      revert group
      decide
  have joined : more (continued? [(.name "or", .or)] stronger)
      (further (.name "or") others ++ rest).length first.value
      (further (.name "or") others ++ rest) =
        (others.foldl (fun left other => .operation .or left other.value) first.value, rest) := by
    refine more_flatMap (by simp) (fun other member left later => ?_)
      (fun left => by cases ending <;> rfl) _
    have next := operand other (List.mem_cons_of_mem _ member) later
    simp only [further] at next
    simp [continued?, next]
  change joined? [(.name "or", .or)] stronger _ = _
  simp only [alternatives, joined?, List.append_assoc, operand first List.mem_cons_self others,
    Option.bind_eq_bind, Option.bind_some, joined]
  rfl

theorem ends_arguments (arguments : List Phrase) (rest : List Token) :
    Ends (further (.mark .comma) arguments ++ .mark .closeParen :: rest) := by
  cases arguments with
  | nil => exact .closeParen rest
  | cons argument others => exact .comma _

theorem expression_closeParen (depth : Nat) (later : List Token) :
    expression? depth (.mark .closeParen :: later) = none := by
  have operations (strengths : List (List (Token × Operator))) (path : Reader Expression)
      (stopped : path (.mark .closeParen :: later) = none) :
      operations? strengths path (.mark .closeParen :: later) = none := by
    induction strengths with
    | nil => simp [operations?, signed?, joined?, stopped]
    | cons group others ih =>
      change joined? group (operations? others path) _ = none
      simp [joined?, ih]
  cases depth with
  | zero => rfl
  | succ depth => exact operations groups _ rfl

theorem arguments_of_yields {first : Phrase} {others : List Phrase}
    (yields : ∀ argument ∈ first :: others, argument.Yields depth) (rest : List Token) :
    arguments? (expression? depth)
        (first.tokens ++ (further (.mark .comma) others ++ .mark .closeParen :: rest)) =
      some ((first :: others).map value, rest) := by
  have start := yields first List.mem_cons_self _ (ends_arguments others rest)
  have later : more (anotherArgument? (expression? depth))
      (further (.mark .comma) others ++ .mark .closeParen :: rest).length [first.value]
      (further (.mark .comma) others ++ .mark .closeParen :: rest) =
        ([first.value] ++ others.map value, .mark .closeParen :: rest) := by
    rw [← foldl_concat]
    refine more_flatMap (by simp) (fun other member read later => ?_) (fun _ => rfl) _
    have next := yields other (List.mem_cons_of_mem _ member) _ (ends_arguments later rest)
    simp only [further] at next
    simp [anotherArgument?, next]
  rw [arguments?.eq_def]
  split
  · rename_i same
    rw [same, expression_closeParen] at start
    cases start
  · simp only [start, Option.bind_eq_bind, Option.bind_some, upTo, later]
    simp

def call (function : String) (first : Phrase) (others : List Phrase) : Phrase :=
  ⟨.name function :: .mark .openParen ::
      (first.tokens ++ further (.mark .comma) others ++ [.mark .closeParen]),
    .call function ((first :: others).map value)⟩

theorem yields_call {function : String} {first : Phrase} {others : List Phrase}
    (plain : NodeType.find? function = none)
    (yields : ∀ argument ∈ first :: others, argument.Yields depth) :
    (call function first others).Yields (depth + 1) := by
  refine yields_of_primary fun rest => ?_
  have read := arguments_of_yields yields rest
  simp [call, primary?, plain, read]

/-- Expressions in brackets, one after another. -/
def bracketed (conditions : List Phrase) : List Token :=
  conditions.flatMap fun condition =>
    .mark .openBracket :: (condition.tokens ++ [.mark .closeBracket])

theorem predicates_of_yields {conditions : List Phrase}
    (yields : ∀ condition ∈ conditions, condition.Yields depth) {rest : List Token}
    (last : predicate? (expression? depth) rest = none) :
    predicates (expression? depth) (bracketed conditions ++ rest) =
      (conditions.map value, rest) := by
  rw [← List.nil_append (conditions.map value), ← foldl_concat]
  refine more_flatMap (by simp) (fun condition member read later => ?_)
    (by simp [anotherPredicate?, last]) []
  have next := yields condition member _ (.closeBracket (bracketed later ++ rest))
  simp only [bracketed] at next
  simp [anotherPredicate?, predicate?, upTo, next]

/-- A step from the context; the head has its axis and its test. -/
def step (head : List Token) (axis : Axis) (test : NodeTest) (conditions : List Phrase) : Phrase :=
  ⟨head ++ bracketed conditions, .step .context axis test (conditions.map value)⟩

theorem yields_step {head : List Token} {axis : Axis} {test : NodeTest} {conditions : List Phrase}
    (other : ∀ rest, primary? (expression? depth) (head ++ rest) = none)
    (begins : ∀ rest, step? (expression? depth) .context (head ++ rest) =
      some (.step .context axis test (predicates (expression? depth) rest).1,
        (predicates (expression? depth) rest).2))
    (yields : ∀ condition ∈ conditions, condition.Yields depth) :
    (step head axis test conditions).Yields (depth + 1) := by
  refine yields_of_path fun rest ending => ?_
  rw [step, List.append_assoc]
  refine path_of_step (other _) ?_ (ending.nextStep_eq_none _ _)
  rw [begins, predicates_of_yields yields (ending.predicate_eq_none _)]

end Phrase

end ScenarioRunner.XPath
