import ScenarioRunner.Yaml.Cursor
import ScenarioRunner.Yaml.ScalarText
import ScenarioRunner.Yaml.Token

/-!
Tags, anchors and directives: the words of YAML text that describe a node or a document.
-/

namespace ScenarioRunner.Yaml

/-- A name of one or more word characters that ends before a space or one of the marks given. -/
def readName (ending : Char → Bool) (cursor : Cursor) : Option (String × Cursor) :=
  let (name, cursor) := cursor.takeWhile isWord
  if !name.isEmpty && (cursor.atSpace 0 || cursor.satisfies 0 ending) then
    some (String.ofList name, cursor)
  else none

def endsAnchor (c : Char) : Bool :=
  c == '?' || c == ':' || c == ',' || c == ']' || c == '}' || c == '%' || c == '@' || c == '\x60'

/-- An anchor or a reference after its mark. -/
def readAnchor (cursor : Cursor) : Option (String × Cursor) := readName endsAnchor cursor

/-- The length of the character that a first byte announces in UTF-8. -/
def utf8Length? (byte : Nat) : Option Nat :=
  if byte < 0x80 then some 1
  else if 0xC0 ≤ byte && byte < 0xE0 then some 2
  else if 0xE0 ≤ byte && byte < 0xF0 then some 3
  else if 0xF0 ≤ byte && byte < 0xF8 then some 4
  else none

/-- A percent sign and two hexadecimal digits. -/
def readPercentByte (cursor : Cursor) : Option (Nat × Cursor) :=
  if cursor.looksAt 0 '%' then readHex 2 0 (cursor.skip 1) else none

def readPercentBytes : Nat → List Nat → Cursor → Option (List Nat × Cursor)
  | 0, bytes, cursor => some (bytes, cursor)
  | count + 1, bytes, cursor =>
    match readPercentByte cursor with
    | some (byte, cursor) =>
      if 0x80 ≤ byte && byte < 0xC0 then readPercentBytes count (bytes ++ [byte]) cursor else none
    | none => none

/-- Escaped bytes that spell one character. -/
def readPercentCharacter (cursor : Cursor) : Option (List Char × Cursor) := do
  let (first, cursor) ← readPercentByte cursor
  let length ← utf8Length? first
  let (bytes, cursor) ← readPercentBytes (length - 1) [first] cursor
  let text ← String.fromUTF8? (ByteArray.mk (bytes.map Nat.toUInt8).toArray)
  return (text.toList, cursor)

def isUriMark (c : Char) : Bool :=
  [';', '/', '?', ':', '@', '&', '=', '+', '$', '.', '%', '!', '~', '*', '\'', '(', ')'].contains c

def isVerbatimMark (c : Char) : Bool := c == ',' || c == '[' || c == ']'

/-- The characters of a URI; commas and brackets count only where the URI is verbatim. -/
def readUri (verbatim : Bool) : Nat → List Char → Cursor → Option (List Char × Cursor)
  | 0, gathered, cursor => some (gathered, cursor)
  | fuel + 1, gathered, cursor =>
    match cursor.peek? 0 with
    | none => some (gathered, cursor)
    | some c =>
      if c == '%' then
        match readPercentCharacter cursor with
        | some (characters, cursor) => readUri verbatim fuel (gathered ++ characters) cursor
        | none => none
      else if isWord c || isUriMark c || (verbatim && isVerbatimMark c) then
        readUri verbatim fuel (gathered ++ [c]) (cursor.skip 1)
      else some (gathered, cursor)

/-- A URI may continue characters read before it; together they are not empty. -/
def readTagUri (verbatim : Bool) (head : List Char) (cursor : Cursor) :
    Option (String × Cursor) := do
  let (rest, cursor) ← readUri verbatim (cursor.rest.length + 1) [] cursor
  if head.isEmpty && rest.isEmpty then none
  else return (String.ofList (head.drop 1 ++ rest), cursor)

/-- A handle is an exclamation mark, word characters, and perhaps a second mark. -/
def readHandle (cursor : Cursor) : Option (List Char × Cursor) :=
  if cursor.looksAt 0 '!' then
    let (word, cursor) := (cursor.skip 1).takeWhile isWord
    if cursor.looksAt 0 '!' then some ('!' :: word ++ ['!'], cursor.skip 1)
    else some ('!' :: word, cursor)
  else none

/-- A tag is verbatim, a handle with a suffix, or a suffix of the primary handle. -/
def readTag (inFlow : Bool) (cursor : Cursor) : Option (Token × Cursor) := do
  let (token, cursor) ←
    if cursor.looksAt 1 '<' then do
      let (suffix, cursor) ← readTagUri true [] (cursor.skip 2)
      if cursor.looksAt 0 '>' then pure (Token.tag "" suffix, cursor.skip 1) else none
    else do
      let (handle, cursor) ← readHandle cursor
      if 2 ≤ handle.length && handle.getLast? == some '!' then do
        let (suffix, cursor) ← readTagUri false [] cursor
        pure (Token.tag (String.ofList handle) suffix, cursor)
      else do
        let (suffix, cursor) ← readTagUri false handle cursor
        pure (if suffix == "" then Token.tag "" "!" else Token.tag "!" suffix, cursor)
  if cursor.atSpace 0 || (inFlow && cursor.looksAt 0 ',') then return (token, cursor) else none

/-- A version number has up to nine digits. -/
def readVersionNumber (cursor : Cursor) : Option (Nat × Cursor) :=
  let (digits, cursor) := cursor.takeWhile Char.isDigit
  if digits.isEmpty || 9 < digits.length then none
  else some (digits.foldl (fun value digit => value * 10 + (digit.toNat - 48)) 0, cursor)

def readVersion (cursor : Cursor) : Option (Token × Cursor) := do
  let (major, cursor) ← readVersionNumber (cursor.skipWhile isBlank)
  if cursor.looksAt 0 '.' then
    let (minor, cursor) ← readVersionNumber (cursor.skip 1)
    return (.versionDirective major minor, cursor)
  else none

/-- A handle, blanks, and the URI that the handle stands for. -/
def readTagDirective (cursor : Cursor) : Option (Token × Cursor) := do
  let (handle, cursor) ← readHandle (cursor.skipWhile isBlank)
  if handle != ['!'] && handle.getLast? != some '!' then none
  else if cursor.atBlank 0 then
    let (expansion, cursor) ← readTagUri true [] (cursor.skipWhile isBlank)
    if cursor.atSpace 0 then return (.tagDirective (String.ofList handle) expansion, cursor)
    else none
  else none

/-- A directive and the rest of its line; only versions and tags are known. -/
def readDirective (cursor : Cursor) : Option (Token × Cursor) := do
  let (name, cursor) ← readName (fun _ => false) (cursor.skip 1)
  let (token, cursor) ←
    if name == "YAML" then readVersion cursor
    else if name == "TAG" then readTagDirective cursor
    else none
  let cursor := cursor.skipWhile isBlank
  let cursor := if cursor.looksAt 0 '#' then cursor.skipWhile (!isBreak ·) else cursor
  if cursor.atBreakOrEnd 0 then return (token, cursor.skipBreak) else none

end ScenarioRunner.Yaml
