import Mathlib.Data.List.Infix

/-!
The tokens of XPath 1.0. The scan goes from the left, character by character, and every token is as
long as it can be: what has been read of a token is the state of the scan. A string literal ends at
the next quote of its own kind, whatever stands between.
-/

namespace ScenarioRunner.XPath

/-- The signs that stand for themselves. -/
inductive Mark where
  | openParen
  | closeParen
  | openBracket
  | closeBracket
  | dot
  | dots
  | at
  | comma
  | axis
  | star
  | slash
  | slashes
  | bar
  | plus
  | minus
  | equal
  | unequal
  | less
  | atMost
  | greater
  | atLeast
deriving DecidableEq, Repr

/-- Whether a name is an operator, a function, an axis or an element is left to the grammar. -/
inductive Token where
  | literal (text : String)
  | number (digits : String)
  | name (text : String)
  | anyIn (space : String)
  | reference (name : String)
  | mark (mark : Mark)
deriving DecidableEq, Repr

def isSpace (c : Char) : Bool := c = ' ' || c = '\t' || c = '\r' || c = '\n'

def inRanges (ranges : List (Nat × Nat)) (c : Char) : Bool :=
  ranges.any fun (first, last) => decide (first ≤ c.toNat) && decide (c.toNat ≤ last)

/-- The characters that a name of XML starts with, the colon left out. -/
def startsName : Char → Bool :=
  inRanges
    [(0x41, 0x5A), (0x5F, 0x5F), (0x61, 0x7A), (0xC0, 0xD6), (0xD8, 0xF6), (0xF8, 0x2FF),
      (0x370, 0x37D), (0x37F, 0x1FFF), (0x200C, 0x200D), (0x2070, 0x218F), (0x2C00, 0x2FEF),
      (0x3001, 0xD7FF), (0xF900, 0xFDCF), (0xFDF0, 0xFFFD), (0x10000, 0xEFFFF)]

/-- The characters that a name of XML goes on with, the colon left out. -/
def continuesName (c : Char) : Bool :=
  startsName c ||
    inRanges [(0x2D, 0x2E), (0x30, 0x39), (0xB7, 0xB7), (0x300, 0x36F), (0x203F, 0x2040)] c

/-- What has been read of the token at hand. -/
inductive Scan where
  | between
  | literal (quote : Char) (text : List Char)
  | whole (digits : List Char)
  | fraction (digits : List Char)
  | dot
  /-- The second character makes one mark of both; the first may be no mark on its own. -/
  | half (alone : Option Mark) (second : Char) (both : Mark)
  | dollar
  /-- A name after a dollar sign refers to a variable. -/
  | name (afterDollar : Bool) (text : List Char)
  | colon (afterDollar : Bool) (text : List Char)
  | qualified (afterDollar : Bool) (text : List Char)
deriving DecidableEq, Repr

/-- The token of a name that has been read to its end. -/
def nameToken (afterDollar : Bool) (text : List Char) : Token :=
  if afterDollar then .reference (String.ofList text) else .name (String.ofList text)

/-- The first character of a token, or a space. -/
def start (c : Char) : Option (List Token × Scan) :=
  let alone mark := some ([Token.mark mark], Scan.between)
  let half first second both := some (([] : List Token), Scan.half first second both)
  if isSpace c then some ([], .between)
  else if c.isDigit then some ([], .whole [c])
  else if startsName c then some ([], .name false [c])
  else
    match c with
    | '\'' => some ([], .literal '\'' [])
    | '"' => some ([], .literal '"' [])
    | '(' => alone .openParen
    | ')' => alone .closeParen
    | '[' => alone .openBracket
    | ']' => alone .closeBracket
    | '@' => alone .at
    | ',' => alone .comma
    | '*' => alone .star
    | '|' => alone .bar
    | '+' => alone .plus
    | '-' => alone .minus
    | '=' => alone .equal
    | '/' => half (some .slash) '/' .slashes
    | '<' => half (some .less) '=' .atMost
    | '>' => half (some .greater) '=' .atLeast
    | '!' => half none '=' .unequal
    | ':' => half none ':' .axis
    | '.' => some ([], .dot)
    | '$' => some ([], .dollar)
    | _ => none

/-- A token ends before the character, which starts the next one. -/
def endBefore (token : Token) (c : Char) : Option (List Token × Scan) :=
  (start c).map fun (read, scan) => (token :: read, scan)

/-- The tokens that a character completes, and the state after it. -/
def next : Scan → Char → Option (List Token × Scan)
  | .between, c => start c
  | .literal quote text, c =>
    if c = quote then some ([.literal (String.ofList text)], .between)
    else some ([], .literal quote (text ++ [c]))
  | .whole digits, c =>
    if c.isDigit then some ([], .whole (digits ++ [c]))
    else if c = '.' then some ([], .fraction (digits ++ [c]))
    else endBefore (.number (String.ofList digits)) c
  | .fraction digits, c =>
    if c.isDigit then some ([], .fraction (digits ++ [c]))
    else endBefore (.number (String.ofList digits)) c
  | .dot, c =>
    if c.isDigit then some ([], .fraction ['.', c])
    else if c = '.' then some ([.mark .dots], .between)
    else endBefore (.mark .dot) c
  | .half alone second both, c =>
    if c = second then some ([.mark both], .between)
    else alone.bind fun mark => endBefore (.mark mark) c
  | .dollar, c => if startsName c then some ([], .name true [c]) else none
  | .name afterDollar text, c =>
    if continuesName c then some ([], .name afterDollar (text ++ [c]))
    else if c = ':' then some ([], .colon afterDollar text)
    else endBefore (nameToken afterDollar text) c
  | .colon afterDollar text, c =>
    if c = ':' then some ([nameToken afterDollar text, .mark .axis], .between)
    else if c = '*' && !afterDollar then some ([.anyIn (String.ofList text)], .between)
    else if startsName c then some ([], .qualified afterDollar (text ++ [':', c]))
    else none
  | .qualified afterDollar text, c =>
    if continuesName c then some ([], .qualified afterDollar (text ++ [c]))
    else endBefore (nameToken afterDollar text) c

/-- The tokens that the end of the text completes. -/
def finish : Scan → Option (List Token)
  | .between => some []
  | .literal _ _ => none
  | .whole digits | .fraction digits => some [.number (String.ofList digits)]
  | .dot => some [.mark .dot]
  | .half alone _ _ => alone.map fun mark => [.mark mark]
  | .dollar | .colon _ _ => none
  | .name afterDollar text | .qualified afterDollar text => some [nameToken afterDollar text]

/-- The tokens that a text completes, and the state at its end. -/
def scan : Scan → List Char → Option (List Token × Scan)
  | state, [] => some ([], state)
  | state, c :: rest => do
    let (read, state) ← next state c
    let (more, state) ← scan state rest
    return (read ++ more, state)

/-- The tokens of a whole text. -/
def tokens? (text : String) : Option (List Token) := do
  let (read, state) ← scan .between text.toList
  let last ← finish state
  return read ++ last

example : tokens? "../a:b[@c <= .5]" =
    some [.mark .dots, .mark .slash, .name "a:b", .mark .openBracket, .mark .at, .name "c",
      .mark .atMost, .number ".5", .mark .closeBracket] := by
  decide

/-- The scan of a text goes through all the states that the scans of its parts go through. -/
theorem scan_append {state middle last : Scan} {before after : List Char} {read more : List Token}
    (first : scan state before = some (read, middle))
    (second : scan middle after = some (more, last)) :
    scan state (before ++ after) = some (read ++ more, last) := by
  induction before generalizing state read with
  | nil =>
    obtain ⟨rfl, rfl⟩ : [] = read ∧ state = middle := by simpa [scan] using first
    simpa using second
  | cons c rest ih =>
    simp only [scan, Option.bind_eq_bind, Option.bind_eq_some_iff, Prod.exists, Option.pure_def,
      Option.some.injEq, Prod.mk.injEq] at first
    obtain ⟨here, stepped, moved, others, reached, scanned, rfl, rfl⟩ := first
    simp [scan, moved, ih scanned]

/-- Inside a literal every character but its quote is text. -/
theorem scan_literal {quote : Char} {text : List Char} (read : List Char) (clean : quote ∉ text) :
    scan (.literal quote read) (text ++ [quote]) =
      some ([.literal (String.ofList (read ++ text))], .between) := by
  induction text generalizing read with
  | nil => simp [scan, next]
  | cons c rest ih =>
    have other : c ≠ quote := fun same => clean (same ▸ List.mem_cons_self)
    have later := ih (read ++ [c]) fun inside => clean (List.mem_cons_of_mem c inside)
    simp [scan, next, other, later]

end ScenarioRunner.XPath
