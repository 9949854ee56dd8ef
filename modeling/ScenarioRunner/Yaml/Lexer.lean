import ScenarioRunner.Yaml.Directive

/-!
YAML text as tokens. Whether a scalar is the key of a mapping is known only at the colon behind it,
so the place of a possible key is remembered, and the marks of the mapping are put there later.
-/

namespace ScenarioRunner.Yaml

/-- A place where a key may have started. A required key has to be followed by a colon. -/
structure PossibleKey where
  required : Bool
  slot : Nat
  index : Nat
  line : Nat
  column : Nat

/-- Every slot holds the tokens that stand at one place; marks of a mapping come first in it. The
possible keys are listed from the innermost flow collection outwards, one for each. -/
structure Lexer where
  cursor : Cursor
  slots : Array (List Token)
  keys : List (Option PossibleKey)
  keyAllowed : Bool
  indent : Int
  outerIndents : List Int
  ended : Bool

namespace Lexer

def start (text : List Char) : Lexer :=
  { cursor := Cursor.start text, slots := #[], keys := [none], keyAllowed := true, indent := -1,
    outerIndents := [], ended := false }

/-- Brackets are open as long as keys of an outer level are kept. -/
def inFlow (lexer : Lexer) : Bool := 1 < lexer.keys.length

def push (lexer : Lexer) (token : Token) : Lexer :=
  { lexer with slots := lexer.slots.push [token] }

/-- A token of the marks at the cursor. -/
def pushMark (lexer : Lexer) (token : Token) (length : Nat) : Lexer :=
  { lexer with cursor := lexer.cursor.skip length }.push token

/-- A key stands on one line and within 1024 characters. -/
def isStale (cursor : Cursor) (key : PossibleKey) : Bool :=
  key.line < cursor.line || key.index + 1024 < cursor.index

/-- Keys that can no longer be followed by their colon are dropped, unless one is required. -/
def dropStaleKeys (lexer : Lexer) : Option Lexer :=
  let stale (key : Option PossibleKey) : Bool := key.any (isStale lexer.cursor)
  if lexer.keys.any fun key => stale key && key.any (·.required) then none
  else some { lexer with keys := lexer.keys.map fun key => if stale key then none else key }

/-- The innermost possible key is given up, unless it is required. -/
def dropKey (lexer : Lexer) : Option Lexer :=
  match lexer.keys with
  | some key :: outer => if key.required then none else some { lexer with keys := none :: outer }
  | _ => some lexer

/-- The next token may be a key. -/
def saveKey (lexer : Lexer) : Option Lexer :=
  if lexer.keyAllowed then do
    let lexer ← lexer.dropKey
    let cursor := lexer.cursor
    let key : PossibleKey :=
      { required := !lexer.inFlow && lexer.indent == cursor.column, slot := lexer.slots.size,
        index := cursor.index, line := cursor.line, column := cursor.column }
    return { lexer with keys := some key :: lexer.keys.drop 1 }
  else some lexer

/-- A block collection starts where the column passes the indentation. -/
def opensBlock (lexer : Lexer) (column : Nat) : Bool := !lexer.inFlow && lexer.indent < column

def indentTo (lexer : Lexer) (column : Nat) : Lexer :=
  { lexer with indent := column, outerIndents := lexer.indent :: lexer.outerIndents }

def openBlock (lexer : Lexer) (token : Token) : Lexer :=
  let column := lexer.cursor.column
  if lexer.opensBlock column then (lexer.indentTo column).push token else lexer

/-- The block collections that are indented deeper than the column end. -/
def closeBlocksFrom (column : Int) (indent : Int) (slots : Array (List Token)) :
    List Int → Int × List Int × Array (List Token)
  | [] => (indent, [], slots)
  | outer :: rest =>
    if column < indent then closeBlocksFrom column outer (slots.push [.blockEnd]) rest
    else (indent, outer :: rest, slots)

def closeBlocks (lexer : Lexer) (column : Int) : Lexer :=
  if lexer.inFlow then lexer
  else
    let (indent, outerIndents, slots) :=
      closeBlocksFrom column lexer.indent lexer.slots lexer.outerIndents
    { lexer with indent, outerIndents, slots }

/-- Blanks, comments and line breaks are passed. Tabs are blanks unless a key may start here. -/
def skipToToken : Nat → Lexer → Lexer
  | 0, lexer => lexer
  | fuel + 1, lexer =>
    let tabs := lexer.inFlow || !lexer.keyAllowed
    let cursor := lexer.cursor.skipByteOrderMark.skipWhile fun c =>
      c == ' ' || (tabs && c == '\t')
    let cursor := if cursor.looksAt 0 '#' then cursor.skipWhile (!isBreak ·) else cursor
    if cursor.atBreak 0 then
      skipToToken fuel
        { lexer with cursor := cursor.skipBreak, keyAllowed := lexer.keyAllowed || !lexer.inFlow }
    else { lexer with cursor := cursor }

/-- The end of the text ends its last line. -/
def fetchEnd (lexer : Lexer) : Option Lexer := do
  let lexer ← (lexer.closeBlocks (-1)).dropKey
  let line := if lexer.cursor.column == 0 then lexer.cursor.line else lexer.cursor.line + 1
  let cursor := { lexer.cursor with line, column := 0 }
  return { lexer with cursor, keyAllowed := false, ended := true }.push .streamEnd

def fetchDirective (lexer : Lexer) : Option Lexer := do
  let lexer ← (lexer.closeBlocks (-1)).dropKey
  let (token, cursor) ← readDirective lexer.cursor
  return { lexer with keyAllowed := false, cursor }.push token

def fetchMarker (token : Token) (lexer : Lexer) : Option Lexer := do
  let lexer ← (lexer.closeBlocks (-1)).dropKey
  return { lexer with keyAllowed := false }.pushMark token 3

def fetchFlowStart (token : Token) (lexer : Lexer) : Option Lexer := do
  let lexer ← lexer.saveKey
  return { lexer with keys := none :: lexer.keys, keyAllowed := true }.pushMark token 1

def fetchFlowEnd (token : Token) (lexer : Lexer) : Option Lexer := do
  let lexer ← lexer.dropKey
  let keys := if lexer.inFlow then lexer.keys.drop 1 else lexer.keys
  return { lexer with keys, keyAllowed := false }.pushMark token 1

def fetchFlowEntry (lexer : Lexer) : Option Lexer := do
  let lexer ← lexer.dropKey
  return { lexer with keyAllowed := true }.pushMark .flowEntry 1

def fetchBlockEntry (lexer : Lexer) : Option Lexer :=
  if !lexer.inFlow && !lexer.keyAllowed then none
  else do
    let lexer ← (lexer.openBlock .blockSequenceStart).dropKey
    return { lexer with keyAllowed := true }.pushMark .blockEntry 1

def fetchKey (lexer : Lexer) : Option Lexer :=
  if !lexer.inFlow && !lexer.keyAllowed then none
  else do
    let lexer ← (lexer.openBlock .blockMappingStart).dropKey
    return { lexer with keyAllowed := !lexer.inFlow }.pushMark .key 1

/-- The marks of a key are put before the tokens of its slot. -/
def confirmKey (lexer : Lexer) (key : PossibleKey) : Lexer :=
  let opens := lexer.opensBlock key.column
  let marks : List Token := if opens then [.blockMappingStart, .key] else [.key]
  let lexer := if opens then lexer.indentTo key.column else lexer
  { lexer with
    slots := lexer.slots.modify key.slot (marks ++ ·)
    keys := none :: lexer.keys.drop 1
    keyAllowed := false }

/-- A colon belongs to the possible key before it, or else ends a key of its own line or block. -/
def fetchValue (lexer : Lexer) : Option Lexer :=
  match lexer.keys.head?.join with
  | some key => some ((lexer.confirmKey key).pushMark .value 1)
  | none =>
    if lexer.inFlow then some ({ lexer with keyAllowed := false }.pushMark .value 1)
    else if lexer.keyAllowed then
      some ((lexer.openBlock .blockMappingStart).pushMark .value 1)
    else none

def fetchAnchor (makeToken : String → Token) (lexer : Lexer) : Option Lexer := do
  let lexer ← lexer.saveKey
  let (name, cursor) ← readAnchor (lexer.cursor.skip 1)
  return { lexer with keyAllowed := false, cursor }.push (makeToken name)

def fetchTag (lexer : Lexer) : Option Lexer := do
  let lexer ← lexer.saveKey
  let (token, cursor) ← readTag lexer.inFlow lexer.cursor
  return { lexer with keyAllowed := false, cursor }.push token

def fetchBlock (folded : Bool) (lexer : Lexer) : Option Lexer := do
  let lexer ← lexer.dropKey
  let (text, cursor) ← readBlock folded lexer.indent lexer.cursor
  return { lexer with keyAllowed := true, cursor }.push (.scalar false text)

def fetchQuoted (single : Bool) (lexer : Lexer) : Option Lexer := do
  let lexer ← lexer.saveKey
  let (text, cursor) ← readQuoted single lexer.cursor
  return { lexer with keyAllowed := false, cursor }.push (.scalar false text)

/-- Behind a line break a key may follow the plain scalar. -/
def fetchPlain (lexer : Lexer) : Option Lexer := do
  let lexer ← lexer.saveKey
  let (text, broken, cursor) ← readPlain lexer.inFlow (lexer.indent + 1) lexer.cursor
  return { lexer with keyAllowed := broken, cursor }.push (.scalar true text)

/-- These characters start something other than a plain scalar. -/
def isIndicator (c : Char) : Bool :=
  ['-', '?', ':', ',', '[', ']', '{', '}', '#', '&', '*', '!', '|', '>', '\'', '"', '%', '@',
    '\x60'].contains c

/-- A plain scalar starts with neither a blank nor a mark. A dash, and outside of brackets a question
mark or a colon, is no mark before something other than a space. -/
def startsPlain (inFlow : Bool) (cursor : Cursor) (c : Char) : Bool :=
  (!isBlank c && !isIndicator c) || (c == '-' && !cursor.atBlank 1) ||
    (!inFlow && (c == '?' || c == ':') && !cursor.atSpace 1)

/-- The token at the cursor. -/
def fetchHere (lexer : Lexer) : Option Lexer :=
  let cursor := lexer.cursor
  match cursor.peek? 0 with
  | none => lexer.fetchEnd
  | some c =>
    if cursor.column == 0 && c == '%' then lexer.fetchDirective
    else if cursor.atMarker '-' then lexer.fetchMarker .documentStart
    else if cursor.atMarker '.' then lexer.fetchMarker .documentEnd
    else if c == '[' then lexer.fetchFlowStart .flowSequenceStart
    else if c == '{' then lexer.fetchFlowStart .flowMappingStart
    else if c == ']' then lexer.fetchFlowEnd .flowSequenceEnd
    else if c == '}' then lexer.fetchFlowEnd .flowMappingEnd
    else if c == ',' then lexer.fetchFlowEntry
    else if c == '-' && cursor.atSpace 1 then lexer.fetchBlockEntry
    else if c == '?' && (lexer.inFlow || cursor.atSpace 1) then lexer.fetchKey
    else if c == ':' && (lexer.inFlow || cursor.atSpace 1) then lexer.fetchValue
    else if c == '*' then lexer.fetchAnchor .reference
    else if c == '&' then lexer.fetchAnchor .anchor
    else if c == '!' then lexer.fetchTag
    else if c == '|' && !lexer.inFlow then lexer.fetchBlock false
    else if c == '>' && !lexer.inFlow then lexer.fetchBlock true
    else if c == '\'' then lexer.fetchQuoted true
    else if c == '"' then lexer.fetchQuoted false
    else if startsPlain lexer.inFlow cursor c then lexer.fetchPlain
    else none

/-- The next token, with the ends of the blocks that its column leaves. -/
def fetch (lexer : Lexer) : Option Lexer := do
  let lexer := skipToToken (lexer.cursor.rest.length + 1) lexer
  let lexer ← lexer.dropStaleKeys
  let lexer ← (lexer.closeBlocks lexer.cursor.column).fetchHere
  lexer.dropStaleKeys

/-- Tokens from the first undecided key on are not known for sure. -/
def settledSlots (lexer : Lexer) : Nat :=
  lexer.keys.foldl (fun settled key => match key with
    | some key => min settled key.slot
    | none => settled) lexer.slots.size

/-- Tokens are fetched up to the end of the text or the first place that cannot be read. -/
def run : Nat → Lexer → Lexer
  | 0, lexer => lexer
  | fuel + 1, lexer =>
    if lexer.ended then lexer
    else
      match lexer.fetch with
      | some next => run fuel next
      | none => lexer

end Lexer

/-- The tokens of a text as far as it can be read. The end of the stream is the last token of a text
that can be read to its end. -/
def tokenize (text : List Char) : List Token :=
  let lexer := (Lexer.start text).run (text.length + 2)
  let known := if lexer.ended then lexer.slots.size else lexer.settledSlots
  (lexer.slots.toList.take known).flatten

end ScenarioRunner.Yaml
