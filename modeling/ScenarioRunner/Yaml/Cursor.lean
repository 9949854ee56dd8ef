/-!
A place in YAML text: what is left to read, and where it stands.
-/

namespace ScenarioRunner.Yaml

/-- The index counts characters from the start of the text, the column from the start of the line. -/
structure Cursor where
  rest : List Char
  index : Nat
  line : Nat
  column : Nat

def isBlank (c : Char) : Bool := c == ' ' || c == '\t'

/-- Lines end at these characters. -/
def isBreak (c : Char) : Bool :=
  c == '\n' || c == '\r' || c == '\u0085' || c == '\u2028' || c == '\u2029'

/-- Names of anchors and handles are made of these characters. -/
def isWord (c : Char) : Bool := c.isAlphanum || c == '_' || c == '-'

/-- A text of YAML may hold these characters only. -/
def isAllowed (c : Char) : Bool :=
  let point := c.toNat
  point == 0x09 || point == 0x0A || point == 0x0D || (0x20 ≤ point && point ≤ 0x7E) ||
    point == 0x85 || (0xA0 ≤ point && point ≤ 0xD7FF) || (0xE000 ≤ point && point ≤ 0xFFFD) ||
    0x10000 ≤ point

namespace Cursor

def start (text : List Char) : Cursor := ⟨text, 0, 0, 0⟩

/-- The character after so many others. -/
def peek? (cursor : Cursor) (offset : Nat) : Option Char := cursor.rest[offset]?

/-- So many characters of one line are passed. -/
def skip (cursor : Cursor) (count : Nat) : Cursor :=
  { cursor with
    rest := cursor.rest.drop count
    index := cursor.index + count
    column := cursor.column + count }

/-- The characters of one line that satisfy a test, and the place after them. -/
def takeWhile (cursor : Cursor) (test : Char → Bool) : List Char × Cursor :=
  let taken := cursor.rest.takeWhile test
  (taken, cursor.skip taken.length)

def skipWhile (cursor : Cursor) (test : Char → Bool) : Cursor := (cursor.takeWhile test).2

def satisfies (cursor : Cursor) (offset : Nat) (test : Char → Bool) : Bool :=
  match cursor.peek? offset with
  | some c => test c
  | none => false

def looksAt (cursor : Cursor) (offset : Nat) (expected : Char) : Bool :=
  cursor.satisfies offset (· == expected)

def atBlank (cursor : Cursor) (offset : Nat) : Bool := cursor.satisfies offset isBlank

def atBreak (cursor : Cursor) (offset : Nat) : Bool := cursor.satisfies offset isBreak

def atEnd (cursor : Cursor) (offset : Nat) : Bool := (cursor.peek? offset).isNone

def atBreakOrEnd (cursor : Cursor) (offset : Nat) : Bool :=
  cursor.atBreak offset || cursor.atEnd offset

/-- A word ends where a blank, a line break or the end of the text stands. -/
def atSpace (cursor : Cursor) (offset : Nat) : Bool :=
  cursor.atBlank offset || cursor.atBreakOrEnd offset

/-- A line break is passed; a carriage return and a line feed are one break. The break is read as a
line feed, except for the separators of lines and paragraphs, which stand for themselves. -/
def readBreak (cursor : Cursor) : List Char × Cursor :=
  let passed (count : Nat) : Cursor :=
    { rest := cursor.rest.drop count, index := cursor.index + count, line := cursor.line + 1,
      column := 0 }
  match cursor.rest with
  | '\r' :: '\n' :: _ => (['\n'], passed 2)
  | '\u2028' :: _ => (['\u2028'], passed 1)
  | '\u2029' :: _ => (['\u2029'], passed 1)
  | c :: _ => if isBreak c then (['\n'], passed 1) else ([], cursor)
  | [] => ([], cursor)

def skipBreak (cursor : Cursor) : Cursor := cursor.readBreak.2

/-- A byte order mark may start a line; it has no meaning, and takes a column. -/
def skipByteOrderMark (cursor : Cursor) : Cursor :=
  if cursor.column == 0 && cursor.looksAt 0 '\uFEFF' then cursor.skip 1 else cursor

/-- Three dashes or three dots at the start of a line and before a space mark a document. -/
def atMarker (cursor : Cursor) (mark : Char) : Bool :=
  cursor.column == 0 && cursor.looksAt 0 mark && cursor.looksAt 1 mark && cursor.looksAt 2 mark &&
    cursor.atSpace 3

def atDocumentMarker (cursor : Cursor) : Bool := cursor.atMarker '-' || cursor.atMarker '.'

end Cursor

end ScenarioRunner.Yaml
