import ScenarioRunner.Proofs.Tokenizing

/-!
The expressions of XPath 1.0 and how they are read from tokens. A name is an operator only where an
operand has ended, so `or` after an operand joins two operands and `or` elsewhere is an element.
Abbreviated steps are read as the steps that they stand for.
-/

namespace ScenarioRunner.XPath

inductive Axis where
  | ancestor
  | ancestorOrSelf
  | attribute
  | child
  | descendant
  | descendantOrSelf
  | following
  | followingSibling
  | nameSpace
  | parent
  | preceding
  | precedingSibling
  | itself
deriving DecidableEq, Repr

def Axis.find? : String → Option Axis
  | "ancestor" => some .ancestor
  | "ancestor-or-self" => some .ancestorOrSelf
  | "attribute" => some .attribute
  | "child" => some .child
  | "descendant" => some .descendant
  | "descendant-or-self" => some .descendantOrSelf
  | "following" => some .following
  | "following-sibling" => some .followingSibling
  | "namespace" => some .nameSpace
  | "parent" => some .parent
  | "preceding" => some .preceding
  | "preceding-sibling" => some .precedingSibling
  | "self" => some .itself
  | _ => none

inductive NodeType where
  | comment
  | text
  | instruction
  | node
deriving DecidableEq, Repr

def NodeType.find? : String → Option NodeType
  | "comment" => some .comment
  | "text" => some .text
  | "processing-instruction" => some .instruction
  | "node" => some .node
  | _ => none

inductive NodeTest where
  | any
  | anyIn (space : String)
  | named (name : String)
  | ofType (type : NodeType)
  | instruction (target : String)
deriving DecidableEq, Repr

inductive Operator where
  | or
  | and
  | equal
  | unequal
  | less
  | atMost
  | greater
  | atLeast
  | plus
  | minus
  | times
  | div
  | mod
  | union
deriving DecidableEq, Repr

/-- A path is a chain of steps from the root, from the context or from the nodes of an expression.
The predicates of a step count along its axis, a filter counts in document order. -/
inductive Expression where
  | literal (text : String)
  | number (digits : String)
  | reference (name : String)
  | call (function : String) (arguments : List Expression)
  | operation (operator : Operator) (left right : Expression)
  | negation (operand : Expression)
  | filter (operand predicate : Expression)
  | root
  | context
  | step (origin : Expression) (axis : Axis) (test : NodeTest) (predicates : List Expression)
deriving Repr

/-- What the tokens start with, and the tokens after it. -/
abbrev Reader (α : Type) := List Token → Option (α × List Token)

variable {α : Type}

/-- Items are read one after another, each added to what has been read. There are no more items than
tokens, which is the limit that every use gives. -/
def more (item : α → Reader α) : Nat → α → List Token → α × List Token
  | 0, value, tokens => (value, tokens)
  | limit + 1, value, tokens =>
    match item value tokens with
    | some (longer, rest) => more item limit longer rest
    | none => (value, tokens)

/-- Something read up to a mark that has to follow it. -/
def upTo (closing : Mark) (inner : Reader α) : Reader α := fun tokens =>
  match inner tokens with
  | some (value, .mark mark :: rest) => if mark = closing then some (value, rest) else none
  | _ => none

section

-- The expressions in brackets, in parentheses and between commas are read by `inner`.
variable (inner : Reader Expression)

def predicate? : Reader Expression
  | .mark .openBracket :: tokens => upTo .closeBracket inner tokens
  | _ => none

def anotherPredicate? (read : List Expression) : Reader (List Expression) := fun tokens =>
  (predicate? inner tokens).map (Prod.map (read ++ [·]) id)

def predicates (tokens : List Token) : List Expression × List Token :=
  more (anotherPredicate? inner) tokens.length [] tokens

def axis? : Reader Axis
  | .mark .at :: rest => some (.attribute, rest)
  | .name name :: .mark .axis :: rest => (Axis.find? name).map (·, rest)
  | tokens => some (.child, tokens)

def nodeTest? : Reader NodeTest
  | .mark .star :: rest => some (.any, rest)
  | .anyIn space :: rest => some (.anyIn space, rest)
  | .name "processing-instruction" :: .mark .openParen :: .literal target :: .mark .closeParen ::
      rest => some (.instruction target, rest)
  | .name name :: .mark .openParen :: .mark .closeParen :: rest =>
    (NodeType.find? name).map (.ofType ·, rest)
  | .name _ :: .mark .openParen :: _ => none
  | .name name :: rest => some (.named name, rest)
  | _ => none

/-- A step from the nodes of a path. -/
def step? (origin : Expression) : Reader Expression
  | .mark .dot :: rest => some (.step origin .itself (.ofType .node) [], rest)
  | .mark .dots :: rest => some (.step origin .parent (.ofType .node) [], rest)
  | tokens => do
    let (axis, tokens) ← axis? tokens
    let (test, tokens) ← nodeTest? tokens
    let (conditions, rest) := predicates inner tokens
    return (.step origin axis test conditions, rest)

/-- Two slashes stand for a step to the node itself and to all nodes below it. -/
def below (origin : Expression) : Expression :=
  .step origin .descendantOrSelf (.ofType .node) []

def nextStep? (origin : Expression) : Reader Expression
  | .mark .slash :: tokens => step? inner origin tokens
  | .mark .slashes :: tokens => step? inner (below origin) tokens
  | _ => none

def moreSteps (origin : Expression) (tokens : List Token) : Expression × List Token :=
  more (nextStep? inner) tokens.length origin tokens

def anotherArgument? (read : List Expression) : Reader (List Expression)
  | .mark .comma :: tokens => (inner tokens).map (Prod.map (read ++ [·]) id)
  | _ => none

def arguments? : Reader (List Expression)
  | .mark .closeParen :: rest => some ([], rest)
  | tokens => do
    let (first, tokens) ← inner tokens
    let others := fun tokens => some (more (anotherArgument? inner) tokens.length [first] tokens)
    upTo .closeParen others tokens

/-- The name of a node type before a parenthesis is no function. -/
def primary? : Reader Expression
  | .literal text :: rest => some (.literal text, rest)
  | .number digits :: rest => some (.number digits, rest)
  | .reference name :: rest => some (.reference name, rest)
  | .mark .openParen :: tokens => upTo .closeParen inner tokens
  | .name function :: .mark .openParen :: tokens =>
    if (NodeType.find? function).isSome then none
    else (arguments? inner tokens).map (Prod.map (.call function) id)
  | _ => none

def filtered? : Reader Expression := fun tokens => do
  let (operand, rest) ← primary? inner tokens
  return more (fun operand tokens => (predicate? inner tokens).map (Prod.map (.filter operand) id))
    rest.length operand rest

/-- Whether a step has to be read after the slash of the root. -/
def startsStep : List Token → Bool
  | .mark mark :: _ => mark ∈ [.dot, .dots, .at, .star]
  | .name _ :: _ | .anyIn _ :: _ => true
  | _ => false

def path? : Reader Expression
  | .mark .slash :: tokens =>
    if startsStep tokens then
      (step? inner .root tokens).map fun (origin, rest) => moreSteps inner origin rest
    else some (.root, tokens)
  | .mark .slashes :: tokens =>
    (step? inner (below .root) tokens).map fun (origin, rest) => moreSteps inner origin rest
  | tokens =>
    (filtered? inner tokens <|> step? inner .context tokens).map fun (origin, rest) =>
      moreSteps inner origin rest

end

/-- The operators, those that bind weakest first. The operators of one group bind alike. -/
def groups : List (List (Token × Operator)) :=
  [[(.name "or", .or)],
    [(.name "and", .and)],
    [(.mark .equal, .equal), (.mark .unequal, .unequal)],
    [(.mark .less, .less), (.mark .atMost, .atMost), (.mark .greater, .greater),
      (.mark .atLeast, .atLeast)],
    [(.mark .plus, .plus), (.mark .minus, .minus)],
    [(.mark .star, .times), (.name "div", .div), (.name "mod", .mod)]]

/-- An operator of a group and the operand after it. -/
def continued? (group : List (Token × Operator)) (operand : Reader Expression)
    (left : Expression) : Reader Expression
  | token :: tokens => do
    let operator ← group.lookup token
    let (right, rest) ← operand tokens
    return (.operation operator left right, rest)
  | [] => none

/-- Operands joined by the operators of a group, from the left. -/
def joined? (group : List (Token × Operator)) (operand : Reader Expression) : Reader Expression :=
  fun tokens => do
    let (first, rest) ← operand tokens
    return more (continued? group operand) rest.length first rest

/-- A minus binds stronger than every operator but the union of paths. -/
def signed? (operand : Reader Expression) : Reader Expression
  | .mark .minus :: tokens => (signed? operand tokens).map (Prod.map .negation id)
  | tokens => operand tokens

def unions : List (Token × Operator) := [(.mark .bar, .union)]

/-- Paths joined by operators, each group binding weaker than those after it. -/
def operations? (groups : List (List (Token × Operator))) (path : Reader Expression) :
    Reader Expression :=
  groups.foldr joined? (signed? (joined? unions path))

/-- Expressions whose brackets and parentheses nest less deep than a bound. -/
def expression? : Nat → Reader Expression
  | 0 => fun _ => none
  | depth + 1 => operations? groups (path? (expression? depth))

/-- The expression that a whole text is. Nothing nests deeper than there are tokens. -/
def parse (text : String) : Option Expression := do
  let tokens ← tokens? text
  match expression? (tokens.length + 1) tokens with
  | some (value, []) => return value
  | _ => none

mutual

/-- The string that an expression of literals is, wherever it is evaluated. Only two or more
arguments can be put together. -/
def Expression.constant? : Expression → Option String
  | .literal text => some text
  | .call function arguments =>
    if function = "concat" ∧ 2 ≤ arguments.length then concatenated? arguments else none
  | _ => none

def concatenated? : List Expression → Option String
  | [] => some ""
  | first :: others => do return (← first.constant?) ++ (← concatenated? others)

end

example : (parse "concat('it', \"'\", 's')").bind Expression.constant? = some "it's" := by
  decide +kernel

example : (parse "or or -and[. * 2]|//text()").isSome ∧ parse "or[or" = none := by
  decide +kernel

end ScenarioRunner.XPath
