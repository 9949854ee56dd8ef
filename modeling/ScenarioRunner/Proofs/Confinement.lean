import ScenarioRunner.Browser.Locator
import ScenarioRunner.Proofs.Phrases

/-!
A text that is put into an XPath expression stays inside it. Whatever the text is, its quoted form
is one expression of string literals with the text as its value, and the locator of the text has
this expression as its only part that depends on the text.
-/

namespace ScenarioRunner

open XPath

/-! The pieces between the marks. -/

theorem splitAtEvery_eq_splitOn (mark : Char) (text : List Char) :
    splitAtEvery mark text = text.splitOn mark := by
  induction text with
  | nil => simp [splitAtEvery]
  | cons c rest ih =>
    rw [splitAtEvery, List.splitOn_cons_eq_if_modifyHead, ih]
    simp only [beq_iff_eq]
    split
    · rfl
    · obtain ⟨piece, pieces, split⟩ := List.exists_cons_of_ne_nil (List.splitOn_ne_nil mark rest)
      simp [split]

theorem not_mem_of_mem_splitAtEvery {mark : Char} {text piece : List Char}
    (member : piece ∈ splitAtEvery mark text) : mark ∉ piece := by
  induction text generalizing piece with
  | nil => simp_all [splitAtEvery]
  | cons c rest ih =>
    rw [splitAtEvery] at member
    split at member
    · rcases List.mem_cons.mp member with rfl | later
      · simp
      · exact ih later
    · rename_i other
      split at member
      · obtain rfl := List.mem_singleton.mp member
        simpa using Ne.symm other
      · rename_i first pieces cut
        rw [cut] at ih
        rcases List.mem_cons.mp member with rfl | later
        · simpa [Ne.symm other] using ih List.mem_cons_self
        · exact ih (List.mem_cons_of_mem first later)

/-- The marks between the pieces give the text back. -/
theorem intercalate_splitAtEvery (mark : Char) (text : List Char) :
    [mark].intercalate (splitAtEvery mark text) = text := by
  rw [splitAtEvery_eq_splitOn, List.intercalate_splitOn]

/-- A text with a mark in it is cut. -/
theorem splitAtEvery_of_mem {mark : Char} {text : List Char} (inside : mark ∈ text) :
    ∃ first second others, splitAtEvery mark text = first :: second :: others := by
  have whole := intercalate_splitAtEvery mark text
  match cut : splitAtEvery mark text with
  | [] => simp_all
  | [piece] =>
    have clean : mark ∉ piece := not_mem_of_mem_splitAtEvery (cut ▸ List.mem_cons_self)
    simp_all
  | first :: second :: others => exact ⟨first, second, others, rfl⟩

theorem intercalate_cons {α : Type} (separator first : List α) (others : List (List α)) :
    separator.intercalate (first :: others) = first ++ others.flatMap (separator ++ ·) := by
  induction others generalizing first with
  | nil => simp
  | cons second others ih => rw [List.intercalate_cons_cons, ih]; simp

namespace XPath

/-! Texts that are an expression, whatever stands around them. -/

/-- The text has the tokens of the phrase, which can be read at as many levels of nesting as it has
tokens. No token goes on beyond the text. -/
structure Spells (text : List Char) (phrase : Phrase) (levels : Nat) : Prop where
  scanned : scan .between text = some (phrase.tokens, .between)
  shallow : levels ≤ phrase.tokens.length + 1
  yields (depth : Nat) : phrase.Yields (depth + levels)

theorem Spells.parse {text : String} {phrase : Phrase} {levels : Nat}
    (spells : Spells text.toList phrase levels) : parse text = some phrase.value := by
  have whole := spells.yields (phrase.tokens.length + 1 - levels) [] .nothing
  rw [Nat.sub_add_cancel spells.shallow, List.append_nil] at whole
  have split : tokens? text = some phrase.tokens := by simp [tokens?, spells.scanned, finish]
  simp [XPath.parse, split, whole]

theorem scan_quoteWith {mark : Char} {text : List Char} (quotes : mark = '\'' ∨ mark = '"')
    (clean : mark ∉ text) :
    scan .between (quoteWith mark text) = some ([.literal (String.ofList text)], .between) := by
  have opened : next .between mark = some ([], .literal mark []) := by
    rcases quotes with rfl | rfl <;> decide
  simp [quoteWith, scan, opened, scan_literal [] clean]

theorem spells_quoteWith {mark : Char} {text : List Char} (quotes : mark = '\'' ∨ mark = '"')
    (clean : mark ∉ text) : Spells (quoteWith mark text) (.literal text) 2 where
  scanned := scan_quoteWith quotes clean
  shallow := by simp [Phrase.literal]
  yields _ := Phrase.yields_literal text

/-- Pieces in single quotes, joined by a single quote in double quotes, are one literal each. -/
theorem scan_quotedPieces {first : List Char} {others : List (List Char)}
    (clean : ∀ piece ∈ first :: others, '\'' ∉ piece) :
    scan .between (", \"'\", ".toList.intercalate ((first :: others).map (quoteWith '\''))) =
      some (.literal (String.ofList first) :: Phrase.further (.mark .comma)
        ((others.flatMap fun piece => [['\''], piece]).map .literal), .between) := by
  rw [List.map_cons, intercalate_cons]
  refine scan_append (scan_quoteWith (.inl rfl) (clean first List.mem_cons_self)) ?_
  induction others with
  | nil => rfl
  | cons piece others ih =>
    have separator : scan .between ", \"'\", ".toList =
        some ([.mark .comma, .literal "'", .mark .comma], .between) := by
      decide
    have quoted := scan_quoteWith (.inl rfl) (clean piece (by simp))
    have later := ih fun other member => clean other (by simp_all only [List.mem_cons]; tauto)
    have here := scan_append (scan_append separator quoted) later
    simpa [Phrase.further, Phrase.literal] using here

/-- The pieces of a text with its single quotes between them. -/
theorem spells_concatenation {first : List Char} {others : List (List Char)}
    (clean : ∀ piece ∈ first :: others, '\'' ∉ piece) :
    Spells
      ("concat(".toList ++
        ", \"'\", ".toList.intercalate ((first :: others).map (quoteWith '\'')) ++ [')'])
      (.call "concat" (.literal first)
        ((others.flatMap fun piece => [['\''], piece]).map .literal)) 2 where
  scanned := by
    have called : scan .between "concat(".toList =
        some ([.name "concat", .mark .openParen], .between) := by
      decide
    have closed : scan .between [')'] = some ([.mark .closeParen], .between) := by
      decide
    exact scan_append (scan_append called (scan_quotedPieces clean)) closed
  shallow := by simp [Phrase.call]
  yields depth := by
    refine Phrase.yields_call (by decide) fun argument member => ?_
    rw [← List.map_cons, List.mem_map] at member
    obtain ⟨text, -, rfl⟩ := member
    exact Phrase.yields_literal text

theorem concatenated_literals (texts : List (List Char)) :
    concatenated? ((texts.map Phrase.literal).map Phrase.value) =
      some (String.ofList texts.flatten) := by
  induction texts with
  | nil => rfl
  | cons text texts ih =>
    simp only [List.map_cons, concatenated?, ih]
    simp [Phrase.literal, Expression.constant?]

/-- One string literal, or two or more of them put together. -/
def Expression.isQuotation : Expression → Bool
  | .literal _ => true
  | .call function arguments =>
    function = "concat" && 2 ≤ arguments.length && arguments.all fun
      | .literal _ => true
      | _ => false
  | _ => false

end XPath

theorem toList_xpathLiteral (text : String) :
    (xpathLiteral text).toList = xpathLiteralCharacters text.toList := String.toList_ofList

/-- Whatever characters a text has, its quoted form reads as literals that are the text. -/
theorem spells_xpathLiteral (text : List Char) :
    ∃ phrase, Spells (xpathLiteralCharacters text) phrase 2 ∧ phrase.value.isQuotation ∧
      phrase.value.constant? = some (String.ofList text) := by
  unfold xpathLiteralCharacters
  split
  · rename_i clean
    exact ⟨_, spells_quoteWith (.inl rfl) (by simpa using clean), rfl, rfl⟩
  · rename_i single
    split
    · rename_i clean
      exact ⟨_, spells_quoteWith (.inr rfl) (by simpa using clean), rfl, rfl⟩
    · have inside : '\'' ∈ text := by simpa using single
      obtain ⟨first, second, others, cut⟩ := splitAtEvery_of_mem inside
      have clean : ∀ piece ∈ first :: second :: others, '\'' ∉ piece := fun piece member =>
        not_mem_of_mem_splitAtEvery (cut ▸ member)
      have spells := spells_concatenation clean
      rw [← cut] at spells
      have whole : (first :: (second :: others).flatMap fun piece => [['\''], piece]).flatten =
          text := by
        have back := intercalate_splitAtEvery '\'' text
        rw [cut, intercalate_cons] at back
        rw [← back]
        simp [List.flatMap_def, List.flatten_flatten, Function.comp_def]
      refine ⟨_, spells, by simp [Phrase.call, Phrase.literal, Expression.isQuotation], ?_⟩
      rw [Phrase.call, Expression.constant?, ← List.map_cons, concatenated_literals, whole]
      simp

/-! The expression around a quoted text. -/

namespace XPath

/-- The node itself, if it is an element with the name. -/
def Expression.isNamed (name : String) : Expression := .step .context .itself (.named name) []

/-- The elements with a text of their own that has the quoted text inside, apart from elements whose
text is not shown. -/
def Expression.textOwners (quoted : Expression) : Expression :=
  .step .context .descendantOrSelf .any
    [.call "not"
      [.operation .or (.operation .or (isNamed "script") (isNamed "style")) (isNamed "title")],
      .step .context .child (.ofType .text)
        [.call "contains" [.step .context .itself (.ofType .node) [], quoted]]]

namespace Phrase

def itself : Phrase := ⟨[.mark .dot], .step .context .itself (.ofType .node) []⟩

theorem yields_itself {depth : Nat} : itself.Yields (depth + 1) :=
  yields_of_path fun _ ending => path_of_step rfl rfl (ending.nextStep_eq_none _ _)

def isNamed (name : String) : Phrase :=
  ⟨[.name "self", .mark .axis, .name name], .isNamed name⟩

theorem path_isNamed (inner : Reader Expression) (name : String) {rest : List Token}
    (after : Ends rest ∨ rest.head? = some (.name "or")) :
    path? inner ((isNamed name).tokens ++ rest) = some ((isNamed name).value, rest) := by
  obtain ⟨named, alone, last⟩ : nodeTest? (.name name :: rest) = some (.named name, rest) ∧
      predicates inner rest = ([], rest) ∧ ∀ origin, nextStep? inner origin rest = none := by
    rcases after with ending | next
    · cases ending <;> exact ⟨by simp [nodeTest?], rfl, fun _ => rfl⟩
    · obtain ⟨later, rfl⟩ := List.head?_eq_some_iff.mp next
      exact ⟨by simp [nodeTest?], rfl, fun _ => rfl⟩
  have axis : Axis.find? "self" = some .itself := by decide
  refine path_of_step rfl ?_ (last _)
  simp [isNamed, step?, axis?, axis, named, alone, Expression.isNamed]

def hidden : Phrase := alternatives (isNamed "script") [isNamed "style", isNamed "title"]

theorem yields_hidden {depth : Nat} : hidden.Yields (depth + 1) := by
  refine yields_alternatives fun phrase member later after => ?_
  obtain ⟨name, rfl⟩ : ∃ name, phrase = isNamed name := by
    simp only [List.mem_cons, List.not_mem_nil, or_false] at member
    rcases member with rfl | rfl | rfl <;> exact ⟨_, rfl⟩
  exact path_isNamed _ name after

/-- The locator of a text, with the text as a phrase. -/
def textOwners (quoted : Phrase) : Phrase :=
  step [.name "descendant-or-self", .mark .axis, .mark .star] .descendantOrSelf .any
    [call "not" hidden [],
      step [.name "text", .mark .openParen, .mark .closeParen] .child (.ofType .text)
        [call "contains" itself [quoted]]]

theorem yields_textOwners {depth : Nat} {quoted : Phrase} (yields : quoted.Yields (depth + 1)) :
    (textOwners quoted).Yields (depth + 4) := by
  have inside : (call "contains" itself [quoted]).Yields (depth + 2) :=
    yields_call (by decide) (by simp [yields_itself, yields])
  have owned : (step [.name "text", .mark .openParen, .mark .closeParen] .child (.ofType .text)
      [call "contains" itself [quoted]]).Yields (depth + 3) :=
    yields_step (fun _ => rfl) (fun _ => rfl) (by simpa using inside)
  have shown : (call "not" hidden []).Yields (depth + 3) :=
    yields_call (by decide) (by simp [yields_hidden])
  exact yields_step (fun _ => rfl) (fun _ => rfl) (by simp [shown, owned])

end Phrase

theorem Spells.textOwners {text : List Char} {phrase : Phrase} (spells : Spells text phrase 2) :
    Spells
      ("descendant-or-self::*[not(self::script or self::style or self::title)]".toList ++
        "[text()[contains(., ".toList ++ text ++ ")]]".toList) (.textOwners phrase) 5 where
  scanned := by
    have outer : scan .between
        "descendant-or-self::*[not(self::script or self::style or self::title)]".toList =
          some ([.name "descendant-or-self", .mark .axis, .mark .star, .mark .openBracket] ++
            (Phrase.call "not" .hidden []).tokens ++ [.mark .closeBracket], .between) := by
      decide +kernel
    have opened : scan .between "[text()[contains(., ".toList =
        some ([.mark .openBracket, .name "text", .mark .openParen, .mark .closeParen,
          .mark .openBracket, .name "contains", .mark .openParen, .mark .dot, .mark .comma],
          .between) := by
      decide +kernel
    have closed : scan .between ")]]".toList =
        some ([.mark .closeParen, .mark .closeBracket, .mark .closeBracket], .between) := by
      decide
    have whole := scan_append (scan_append (scan_append outer opened) spells.scanned) closed
    simpa [Phrase.textOwners, Phrase.step, Phrase.call, Phrase.bracketed, Phrase.further,
      Phrase.itself] using whole
  shallow := by simp [Phrase.textOwners, Phrase.step, Phrase.bracketed]
  yields depth := Phrase.yields_textOwners (spells.yields depth)

end XPath

/-- The expression that a browser gets for a text is one query in which the text is a value. -/
theorem parse_containsText (text : String) :
    ∃ quoted, parse (xpathLiteral text) = some quoted ∧ quoted.isQuotation ∧
      quoted.constant? = some text ∧
        parse (Locator.containsText text).expression = some quoted.textOwners := by
  obtain ⟨phrase, spells, quotation, value⟩ := spells_xpathLiteral text.toList
  rw [← toList_xpathLiteral] at spells
  have located : Spells (Locator.containsText text).expression.toList (.textOwners phrase) 5 := by
    rw [Locator.expression_containsText, String.toList_append, String.toList_append,
      String.toList_append]
    exact spells.textOwners
  rw [String.ofList_toList] at value
  exact ⟨phrase.value, spells.parse, quotation, value, located.parse⟩

/-- A text ends up quoted: one expression whose value it is, inside a query that is the same for all
texts. No two locators ask a browser for the same. -/
theorem Locator.text_stays_quoted :
    (∀ text : String, ∃ quoted : XPath.Expression,
      XPath.parse (xpathLiteral text) = some quoted ∧ quoted.isQuotation ∧
        quoted.constant? = some text ∧
          XPath.parse (Locator.containsText text).expression = some quoted.textOwners) ∧
      Function.Injective fun locator : Locator => (locator.strategy, locator.expression) := by
  refine ⟨parse_containsText, fun first second same => ?_⟩
  obtain ⟨strategy, expression⟩ := Prod.mk.inj same
  have apart : "css selector" ≠ "xpath" := by decide
  have starts (text : String) : (Locator.containsText text).expression ≠ ".." := by
    intro same
    have spelled := congrArg String.toList same
    rw [Locator.expression_containsText] at spelled
    simp at spelled
  cases first <;> cases second
  case css.css selector other => exact congrArg Locator.css expression
  case containsText.containsText text other =>
    obtain ⟨quoted, -, -, value, located⟩ := parse_containsText text
    obtain ⟨quoted', -, -, value', located'⟩ := parse_containsText other
    have parses : some quoted.textOwners = some quoted'.textOwners := by
      rw [← located, ← located', expression]
    obtain rfl : quoted = quoted' := by
      simpa [XPath.Expression.textOwners] using parses
    exact congrArg Locator.containsText (Option.some.inj (value.symm.trans value'))
  case containsText.parent text => exact absurd expression (starts text)
  case parent.containsText text => exact absurd expression.symm (starts text)
  case parent.parent => rfl
  all_goals first | exact absurd strategy apart | exact absurd strategy.symm apart

end ScenarioRunner
