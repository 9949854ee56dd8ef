import ScenarioRunner.Yaml.Cursor

/-!
The text of scalars: plain, quoted, and block scalars. A break between lines of a plain or quoted
scalar folds to a space, or to the empty lines that follow it.
-/

namespace ScenarioRunner.Yaml

/-- The blanks and breaks between two pieces of a scalar. -/
structure Gap where
  blanks : List Char := []
  firstBreak : List Char := []
  moreBreaks : List Char := []
  broken : Bool := false

/-- What a gap between two pieces stands for. -/
def Gap.fold (gap : Gap) : List Char :=
  if !gap.broken then gap.blanks
  else if gap.firstBreak.head? == some '\n' then
    if gap.moreBreaks.isEmpty then [' '] else gap.moreBreaks
  else gap.firstBreak ++ gap.moreBreaks

/-- Blanks after a break belong to the indentation. A tab is refused there before the column. -/
def readGap (tabColumn : Int) : Nat → Gap → Cursor → Option (Gap × Cursor)
  | 0, gap, cursor => some (gap, cursor)
  | fuel + 1, gap, cursor =>
    match cursor.peek? 0 with
    | none => some (gap, cursor)
    | some c =>
      if isBlank c then
        if gap.broken then
          if c == '\t' && cursor.column < tabColumn then none
          else readGap tabColumn fuel gap (cursor.skip 1)
        else readGap tabColumn fuel { gap with blanks := gap.blanks ++ [c] } (cursor.skip 1)
      else if isBreak c then
        let (line, after) := cursor.readBreak
        if gap.broken then
          readGap tabColumn fuel { gap with moreBreaks := gap.moreBreaks ++ line } after
        else
          readGap tabColumn fuel { gap with blanks := [], firstBreak := line, broken := true } after
      else some (gap, cursor)

/-- In a flow collection a colon before one of these marks is ambiguous. -/
def isFlowMark (c : Char) : Bool :=
  c == ',' || c == '[' || c == ']' || c == '{' || c == '}'

/-- A plain scalar ends before a colon and a space, and in a flow collection before its marks. -/
def endsPlain (inFlow : Bool) (cursor : Cursor) : Bool :=
  (cursor.looksAt 0 ':' && cursor.atSpace 1) || (inFlow && cursor.satisfies 0 isFlowMark)

/-- The characters of a plain scalar up to a space or its end, in reverse before those given. -/
def readPlainRun (inFlow : Bool) : Nat → List Char → Cursor → Option (List Char × Cursor)
  | 0, gathered, cursor => some (gathered, cursor)
  | fuel + 1, gathered, cursor =>
    if cursor.atSpace 0 then some (gathered, cursor)
    else if inFlow && cursor.looksAt 0 ':' && cursor.satisfies 1 fun c => isFlowMark c || c == '?'
      then none
    else if endsPlain inFlow cursor then some (gathered, cursor)
    else
      match cursor.peek? 0 with
      | some c => readPlainRun inFlow fuel (c :: gathered) (cursor.skip 1)
      | none => some (gathered, cursor)

/-- The pieces of a plain scalar; the flag tells whether the scalar ended behind a line break. -/
def readPlainPieces (inFlow : Bool) (indent : Int) :
    Nat → List Char → Gap → Cursor → Option (List Char × Bool × Cursor)
  | 0, gathered, gap, cursor => some (gathered, gap.broken, cursor)
  | fuel + 1, gathered, gap, cursor =>
    if cursor.atDocumentMarker || cursor.looksAt 0 '#' then some (gathered, gap.broken, cursor)
    else
      match readPlainRun inFlow (cursor.rest.length + 1) [] cursor with
      | none => none
      | some (piece, cursor) =>
        let (gathered, gap) : List Char × Gap :=
          if piece.isEmpty then (gathered, gap)
          else (piece ++ gap.fold.reverse ++ gathered, {})
        if cursor.atBlank 0 || cursor.atBreak 0 then
          match readGap indent (cursor.rest.length + 1) gap cursor with
          | none => none
          | some (gap, cursor) =>
            if !inFlow && cursor.column < indent then some (gathered, gap.broken, cursor)
            else readPlainPieces inFlow indent fuel gathered gap cursor
        else some (gathered, gap.broken, cursor)

/-- A plain scalar whose further lines stand at the indentation or deeper. -/
def readPlain (inFlow : Bool) (indent : Int) (cursor : Cursor) :
    Option (String × Bool × Cursor) :=
  (readPlainPieces inFlow indent (cursor.rest.length + 1) [] {} cursor).map
    fun (gathered, broken, cursor) => (String.ofList gathered.reverse, broken, cursor)

def hexValue? (c : Char) : Option Nat :=
  if '0' ≤ c && c ≤ '9' then some (c.toNat - 48)
  else if 'a' ≤ c && c ≤ 'f' then some (c.toNat - 87)
  else if 'A' ≤ c && c ≤ 'F' then some (c.toNat - 55)
  else none

/-- So many hexadecimal digits. -/
def readHex : Nat → Nat → Cursor → Option (Nat × Cursor)
  | 0, value, cursor => some (value, cursor)
  | count + 1, value, cursor =>
    match (cursor.peek? 0).bind hexValue? with
    | some digit => readHex count (value * 16 + digit) (cursor.skip 1)
    | none => none

/-- The characters that a backslash and one letter stand for. -/
def simpleEscape? (c : Char) : Option Char :=
  match c with
  | '0' => some '\x00'
  | 'a' => some '\x07'
  | 'b' => some '\x08'
  | 't' => some '\t'
  | '\t' => some '\t'
  | 'n' => some '\n'
  | 'v' => some '\x0b'
  | 'f' => some '\x0c'
  | 'r' => some '\r'
  | 'e' => some '\x1b'
  | ' ' => some ' '
  | '"' => some '"'
  | '/' => some '/'
  | '\\' => some '\\'
  | 'N' => some '\u0085'
  | '_' => some '\u00a0'
  | 'L' => some '\u2028'
  | 'P' => some '\u2029'
  | _ => none

/-- The digits that follow a letter for a code point. -/
def escapeLength? (c : Char) : Option Nat :=
  match c with
  | 'x' => some 2
  | 'u' => some 4
  | 'U' => some 8
  | _ => none

/-- An escape after its backslash. -/
def readEscape (cursor : Cursor) : Option (Char × Cursor) := do
  let c ← cursor.peek? 0
  match simpleEscape? c with
  | some escaped => return (escaped, cursor.skip 1)
  | none =>
    let length ← escapeLength? c
    let (point, cursor) ← readHex length 0 (cursor.skip 1)
    if (0xD800 ≤ point && point ≤ 0xDFFF) || 0x10FFFF < point then none
    else return (Char.ofNat point, cursor)

/-- The characters of a quoted scalar up to a space or its quote, in reverse. The flag tells whether
an escaped line break ended them. -/
def readQuotedRun (single : Bool) : Nat → List Char → Cursor → Option (List Char × Bool × Cursor)
  | 0, gathered, cursor => some (gathered, false, cursor)
  | fuel + 1, gathered, cursor =>
    match cursor.peek? 0 with
    | none => some (gathered, false, cursor)
    | some c =>
      if cursor.atSpace 0 then some (gathered, false, cursor)
      else if single then
        if c == '\'' then
          if cursor.looksAt 1 '\'' then readQuotedRun single fuel ('\'' :: gathered) (cursor.skip 2)
          else some (gathered, false, cursor)
        else readQuotedRun single fuel (c :: gathered) (cursor.skip 1)
      else if c == '"' then some (gathered, false, cursor)
      else if c == '\\' then
        if cursor.atBreak 1 then some (gathered, true, (cursor.skip 1).skipBreak)
        else
          match readEscape (cursor.skip 1) with
          | some (escaped, cursor) => readQuotedRun single fuel (escaped :: gathered) cursor
          | none => none
      else readQuotedRun single fuel (c :: gathered) (cursor.skip 1)

/-- The pieces of a quoted scalar up to its quote. -/
def readQuotedPieces (single : Bool) : Nat → List Char → Cursor → Option (List Char × Cursor)
  | 0, _, _ => none
  | fuel + 1, gathered, cursor =>
    if cursor.atDocumentMarker || cursor.atEnd 0 then none
    else
      match readQuotedRun single (cursor.rest.length + 1) gathered cursor with
      | none => none
      | some (gathered, escapedBreak, cursor) =>
        if cursor.looksAt 0 (if single then '\'' else '"') then some (gathered, cursor.skip 1)
        else
          match readGap 0 (cursor.rest.length + 1) { broken := escapedBreak } cursor with
          | none => none
          | some (gap, cursor) =>
            readQuotedPieces single fuel (gap.fold.reverse ++ gathered) cursor

/-- A quoted scalar from its first quote. -/
def readQuoted (single : Bool) (cursor : Cursor) : Option (String × Cursor) :=
  (readQuotedPieces single (cursor.rest.length + 1) [] (cursor.skip 1)).map
    fun (gathered, cursor) => (String.ofList gathered.reverse, cursor)

/-- What becomes of the breaks at the end of a block scalar. -/
inductive Chomping where
  | strip
  | clip
  | keep
deriving DecidableEq

def chomping? (c : Char) : Option Chomping :=
  match c with
  | '+' => some .keep
  | '-' => some .strip
  | _ => none

/-- The indentation that a block scalar states for itself is one digit, and not zero. -/
def readIncrement (cursor : Cursor) : Option (Option Nat × Cursor) :=
  match cursor.peek? 0 with
  | some c =>
    if c.isDigit then
      if c == '0' then none else some (some (c.toNat - 48), cursor.skip 1)
    else some (none, cursor)
  | none => some (none, cursor)

/-- The header states chomping and indentation in either order. -/
def readBlockHeader (cursor : Cursor) : Option (Chomping × Option Nat × Cursor) := do
  match (cursor.peek? 0).bind chomping? with
  | some chomping =>
    let (increment, cursor) ← readIncrement (cursor.skip 1)
    return (chomping, increment, cursor)
  | none =>
    let (increment, cursor) ← readIncrement cursor
    match increment, (cursor.peek? 0).bind chomping? with
    | some increment, some chomping => return (chomping, some increment, cursor.skip 1)
    | increment, _ => return (.clip, increment, cursor)

/-- Empty lines of a block scalar. Without a stated indentation every space counts towards it, and
the deepest line is remembered. -/
def readBlockBreaks (indent : Nat) :
    Nat → List Char → Nat → Cursor → Option (List Char × Nat × Cursor)
  | 0, breaks, deepest, cursor => some (breaks, deepest, cursor)
  | fuel + 1, breaks, deepest, cursor =>
    let spaces := (cursor.rest.takeWhile (· == ' ')).length
    let cursor := cursor.skip (if indent == 0 then spaces else min spaces (indent - cursor.column))
    let deepest := max deepest cursor.column
    if (indent == 0 || cursor.column < indent) && cursor.looksAt 0 '\t' then none
    else if cursor.atBreak 0 then
      let (line, cursor) := cursor.readBreak
      readBlockBreaks indent fuel (breaks ++ line) deepest cursor
    else some (breaks, deepest, cursor)

/-- The break before the line at hand, the empty lines after it, and whether the line before
started with a blank. -/
structure BlockGap where
  firstBreak : List Char
  moreBreaks : List Char
  afterBlank : Bool

/-- A break folds to a space when neither line beside it starts with a blank. -/
def BlockGap.join (gap : BlockGap) (folded : Bool) (beforeBlank : Bool) : List Char :=
  if folded && gap.firstBreak.head? == some '\n' && !gap.afterBlank && !beforeBlank then
    if gap.moreBreaks.isEmpty then [' '] else gap.moreBreaks
  else gap.firstBreak ++ gap.moreBreaks

/-- The lines of a block scalar, in reverse, and the gap behind the last one. -/
def readBlockLines (folded : Bool) (indent : Nat) :
    Nat → List Char → BlockGap → Cursor → Option (List Char × BlockGap × Cursor)
  | 0, gathered, gap, cursor => some (gathered, gap, cursor)
  | fuel + 1, gathered, gap, cursor =>
    if cursor.column == indent && !cursor.atEnd 0 then
      let startsBlank := cursor.atBlank 0
      let gathered := (gap.join folded startsBlank).reverse ++ gathered
      let (line, cursor) := cursor.takeWhile (!isBreak ·)
      let (firstBreak, cursor) := cursor.readBreak
      match readBlockBreaks indent (cursor.rest.length + 1) [] 0 cursor with
      | none => none
      | some (moreBreaks, _, cursor) =>
        readBlockLines folded indent fuel (line.reverse ++ gathered)
          ⟨firstBreak, moreBreaks, startsBlank⟩ cursor
    else some (gathered, gap, cursor)

/-- A block scalar from its mark, inside a block of the given indentation. -/
def readBlock (folded : Bool) (outer : Int) (cursor : Cursor) : Option (String × Cursor) := do
  let (chomping, increment, cursor) ← readBlockHeader (cursor.skip 1)
  let cursor := cursor.skipWhile isBlank
  let cursor := if cursor.looksAt 0 '#' then cursor.skipWhile (!isBreak ·) else cursor
  if cursor.atBreakOrEnd 0 then
    let cursor := cursor.skipBreak
    let stated : Nat := match increment with
      | some count => if 0 ≤ outer then (outer + count).toNat else count
      | none => 0
    let (breaks, deepest, cursor) ←
      readBlockBreaks stated (cursor.rest.length + 1) [] 0 cursor
    let indent := if stated != 0 then stated else max deepest (max (outer + 1).toNat 1)
    let (gathered, gap, cursor) ←
      readBlockLines folded indent (cursor.rest.length + 1) [] ⟨[], breaks, false⟩ cursor
    let ending : List Char := match chomping with
      | .strip => []
      | .clip => gap.firstBreak
      | .keep => gap.firstBreak ++ gap.moreBreaks
    return (String.ofList (gathered.reverse ++ ending), cursor)
  else none

end ScenarioRunner.Yaml
