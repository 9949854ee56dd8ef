import ScenarioRunner.Toml.Basic
import ScenarioRunner.Toml.Moment

/-!
TOML text. A document is a row of lines, each of which opens a table or gives a key its value.
-/

namespace ScenarioRunner.Toml

def isBlank (c : Char) : Bool := c == ' ' || c == '\t'

def skipBlanks (input : List Char) : List Char := input.dropWhile isBlank

/-- Characters that may stand in comments and strings: no controls but the tab. -/
def isPrintable (c : Char) : Bool := c == '\t' || (0x20 ≤ c.toNat && c.toNat != 0x7F)

/-- A line feed, with or without a carriage return before it. -/
def readNewline : List Char → Option (List Char)
  | '\n' :: rest => some rest
  | '\r' :: '\n' :: rest => some rest
  | _ => none

/-- A comment reaches to the end of its line. -/
def skipComment (input : List Char) : List Char :=
  match input with
  | '#' :: rest => rest.dropWhile isPrintable
  | rest => rest

/-- Behind a header or a value stands nothing but blanks and a comment. -/
def readLineEnd (input : List Char) : Option (List Char) :=
  match skipComment (skipBlanks input) with
  | [] => some []
  | rest => readNewline rest

/-- Blanks, comments and line breaks between the items of an array. -/
def skipLines : Nat → List Char → List Char
  | 0, input => input
  | fuel + 1, input =>
    let rest := skipComment (skipBlanks input)
    match readNewline rest with
    | some rest => skipLines fuel rest
    | none => rest

def hexValue? (c : Char) : Option Nat :=
  if '0' ≤ c && c ≤ '9' then some (c.toNat - 48)
  else if 'a' ≤ c && c ≤ 'f' then some (c.toNat - 87)
  else if 'A' ≤ c && c ≤ 'F' then some (c.toNat - 55)
  else none

def readHex : Nat → Nat → List Char → Option (Nat × List Char)
  | 0, value, input => some (value, input)
  | count + 1, value, c :: rest =>
    match hexValue? c with
    | some digit => readHex count (value * 16 + digit) rest
    | none => none
  | _ + 1, _, [] => none

/-- A code point that is a character. -/
def readPoint (count : Nat) (input : List Char) : Option (Char × List Char) := do
  let (point, rest) ← readHex count 0 input
  if point < 0xD800 || (0xE000 ≤ point && point ≤ 0x10FFFF) then return (Char.ofNat point, rest)
  else none

/-- An escape after its backslash. -/
def readEscape : List Char → Option (Char × List Char)
  | 'b' :: rest => some ('\x08', rest)
  | 't' :: rest => some ('\t', rest)
  | 'n' :: rest => some ('\n', rest)
  | 'f' :: rest => some ('\x0c', rest)
  | 'r' :: rest => some ('\r', rest)
  | '"' :: rest => some ('"', rest)
  | '\\' :: rest => some ('\\', rest)
  | 'u' :: rest => readPoint 4 rest
  | 'U' :: rest => readPoint 8 rest
  | _ => none

/-- A basic string after its quote, gathered in reverse. -/
def readBasic : Nat → List Char → List Char → Option (String × List Char)
  | 0, _, _ => none
  | fuel + 1, gathered, input =>
    match input with
    | '"' :: rest => some (String.ofList gathered.reverse, rest)
    | '\\' :: rest =>
      match readEscape rest with
      | some (c, rest) => readBasic fuel (c :: gathered) rest
      | none => none
    | c :: rest => if isPrintable c then readBasic fuel (c :: gathered) rest else none
    | [] => none

/-- A literal string after its quote has no escapes. -/
def readLiteral (input : List Char) : Option (String × List Char) :=
  let value := input.takeWhile fun c => isPrintable c && c != '\''
  (expect '\'' (input.drop value.length)).map fun rest => (String.ofList value, rest)

/-- A backslash at the end of a line passes the white space up to the next character. -/
def readContinuation (input : List Char) : Option (List Char) := do
  let rest ← readNewline (skipBlanks input)
  return rest.dropWhile fun c => isBlank c || c == '\n' || c == '\r'

/-- A carriage return stands only before a line feed. -/
def hasLoneReturn : List Char → Bool
  | '\r' :: '\n' :: rest => hasLoneReturn rest
  | '\r' :: _ => true
  | _ :: rest => hasLoneReturn rest
  | [] => false

/-- Three quotes end a long string; one or two more before them belong to it. -/
def readLongEnd (quote : Char) (gathered : List Char) (input : List Char) :
    Option (String × List Char) :=
  let count := min 5 (input.takeWhile (· == quote)).length
  if count < 3 then none
  else
    let kept := List.replicate (count - 3) quote
    some (String.ofList (gathered.reverse ++ kept), input.drop count)

/-- A long string after its quotes and a first line break; a basic one has escapes. -/
def readLong (quote : Char) (escapes : Bool) :
    Nat → List Char → List Char → Option (String × List Char)
  | 0, _, _ => none
  | fuel + 1, gathered, input =>
    match readLongEnd quote gathered input with
    | some done => some done
    | none =>
      match readNewline input with
      | some rest => readLong quote escapes fuel ('\n' :: gathered) rest
      | none =>
        match input with
        | [] => none
        | c :: rest =>
          if escapes && c == '\\' then
            match readEscape rest with
            | some (escaped, rest) => readLong quote escapes fuel (escaped :: gathered) rest
            | none =>
              match readContinuation rest with
              | some after =>
                if hasLoneReturn (rest.take (rest.length - after.length)) then none
                else readLong quote escapes fuel gathered after
              | none => none
          else if isPrintable c then readLong quote escapes fuel (c :: gathered) rest
          else none

/-- A string of any of the four kinds. -/
def readText (input : List Char) : Option (String × List Char) :=
  let long (quote : Char) (escapes : Bool) (rest : List Char) :=
    readLong quote escapes (rest.length + 1) [] ((readNewline rest).getD rest)
  match input with
  | '"' :: '"' :: '"' :: rest => long '"' true rest
  | '\'' :: '\'' :: '\'' :: rest => long '\'' false rest
  | '"' :: rest => readBasic (rest.length + 1) [] rest
  | '\'' :: rest => readLiteral rest
  | _ => none

def isBareKey (c : Char) : Bool := c.isAlphanum || c == '_' || c == '-'

/-- A key is bare, or a string on one line. -/
def readSimpleKey (input : List Char) : Option (String × List Char) :=
  match input with
  | '"' :: rest => readBasic (rest.length + 1) [] rest
  | '\'' :: rest => readLiteral rest
  | rest =>
    let key := rest.takeWhile isBareKey
    if key.isEmpty then none else some (String.ofList key, rest.drop key.length)

/-- Keys with dots between them. -/
def readKey : Nat → List Char → Option (List String × List Char)
  | 0, _ => none
  | fuel + 1, input =>
    match readSimpleKey (skipBlanks input) with
    | none => none
    | some (key, rest) =>
      match skipBlanks rest with
      | '.' :: rest => (readKey fuel rest).map fun (keys, rest) => (key :: keys, rest)
      | rest => some ([key], rest)

/-- Digits of a kind with single underscores between them, without the underscores. -/
def readGrouped (isDigit : Char → Bool) (input : List Char) : Option (List Char × List Char) :=
  let taken := input.takeWhile fun c => isDigit c || c == '_'
  let isGrouped (pair : Char × Char) : Bool := !(pair.1 == '_' && pair.2 == '_')
  if taken.isEmpty || taken.head? == some '_' || taken.getLast? == some '_' ||
      !(taken.zip (taken.drop 1)).all isGrouped then none
  else some (taken.filter (· != '_'), input.drop taken.length)

/-- A whole number has 64 bits. -/
def makeWhole (value : Int) : Option Toml :=
  if -(Int.pow 2 63) ≤ value && value < Int.pow 2 63 then some (.whole value) else none

/-- A whole number behind the mark of its base. -/
def readBased (base : Nat) (input : List Char) : Option (Toml × List Char) := do
  let isDigit (c : Char) : Bool := match hexValue? c with
    | some digit => digit < base
    | none => false
  let (digits, rest) ← readGrouped isDigit input
  let value := digits.foldl (fun value c => value * base + (hexValue? c).getD 0) 0
  return (← makeWhole value, rest)

/-- An exponent may have a sign and leading zeros. -/
def readExponent (input : List Char) : Option (List Char) :=
  let digits := match input with
    | '+' :: rest => rest
    | '-' :: rest => rest
    | rest => rest
  (readGrouped Char.isDigit digits).map (·.2)

/-- Digits without leading zeros, and a fraction or an exponent that make them a decimal. -/
def readDecimalDigits (negative : Bool) (input : List Char) : Option (Toml × List Char) := do
  let (digits, rest) ← readGrouped Char.isDigit input
  if digits.head? == some '0' && digits.length != 1 then none
  else
    match rest with
    | '.' :: fraction => do
      let (_, rest) ← readGrouped Char.isDigit fraction
      match rest with
      | 'e' :: rest => return (.decimal, ← readExponent rest)
      | 'E' :: rest => return (.decimal, ← readExponent rest)
      | rest => return (.decimal, rest)
    | 'e' :: rest => return (.decimal, ← readExponent rest)
    | 'E' :: rest => return (.decimal, ← readExponent rest)
    | rest => do
      let value : Int := digitsValue digits
      return (← makeWhole (if negative then -value else value), rest)

/-- The words for infinity and for no number. -/
def readWord : List Char → Option (Toml × List Char)
  | 'i' :: 'n' :: 'f' :: rest => some (.decimal, rest)
  | 'n' :: 'a' :: 'n' :: rest => some (.decimal, rest)
  | _ => none

def readNumber (input : List Char) : Option (Toml × List Char) :=
  match input with
  | '+' :: rest => (readWord rest).or (readDecimalDigits false rest)
  | '-' :: rest => (readWord rest).or (readDecimalDigits true rest)
  | '0' :: 'x' :: rest => readBased 16 rest
  | '0' :: 'o' :: rest => readBased 8 rest
  | '0' :: 'b' :: rest => readBased 2 rest
  | rest =>
    if beginsMoment rest then (readMoment rest).map fun rest => (.moment, rest)
    else (readWord rest).or (readDecimalDigits false rest)

/-- The nesting of arrays and braces that is read. -/
def nestingLimit : Nat := 80

mutual

/-- A value at a depth that still allows so many levels. -/
def readValue : Nat → Nat → List Char → Option (Toml × List Char)
  | 0, _, _ => none
  | fuel + 1, levels, input =>
    match input with
    | '"' :: _ => (readText input).map fun (value, rest) => (.text value, rest)
    | '\'' :: _ => (readText input).map fun (value, rest) => (.text value, rest)
    | 't' :: 'r' :: 'u' :: 'e' :: rest => some (.bool true, rest)
    | 'f' :: 'a' :: 'l' :: 's' :: 'e' :: rest => some (.bool false, rest)
    | '[' :: rest =>
      match levels with
      | 0 => none
      | levels + 1 => (readItems fuel levels rest).map fun (items, rest) => (.array items, rest)
    | '{' :: rest =>
      match levels with
      | 0 => none
      | levels + 1 =>
        match skipBlanks rest with
        | '}' :: rest => some (.table .closed [], rest)
        | rest =>
          (readPairs fuel levels [] rest).map fun (entries, rest) => (.table .closed entries, rest)
    | _ => readNumber input

/-- The items of an array; a comma may follow the last. -/
def readItems : Nat → Nat → List Char → Option (List Toml × List Char)
  | 0, _, _ => none
  | fuel + 1, levels, input =>
    match skipLines (input.length + 1) input with
    | ']' :: rest => some ([], rest)
    | rest =>
      match readValue fuel levels rest with
      | none => none
      | some (item, rest) =>
        match skipLines (rest.length + 1) rest with
        | ',' :: rest =>
          (readItems fuel levels rest).map fun (items, rest) => (item :: items, rest)
        | ']' :: rest => some ([item], rest)
        | _ => none

/-- The pairs between braces stand on one line, and no comma follows the last. -/
def readPairs : Nat → Nat → Entries → List Char → Option (Entries × List Char)
  | 0, _, _, _ => none
  | fuel + 1, levels, entries, input =>
    match readKey (input.length + 1) input with
    | none => none
    | some (keys, rest) =>
      match rest with
      | '=' :: rest =>
        match readValue fuel levels (skipBlanks rest) with
        | none => none
        | some (value, rest) =>
          match addDotted (keys.getLast?.getD "") value keys.dropLast entries with
          | none => none
          | some entries =>
            match skipBlanks rest with
            | ',' :: rest => readPairs fuel levels entries rest
            | '}' :: rest => some (entries, rest)
            | _ => none
      | _ => none

end

/-- A key, its value, and the end of the line. -/
def readKeyLine (input : List Char) : Option (List String × Toml × List Char) := do
  let (keys, rest) ← readKey (input.length + 1) input
  let rest ← expect '=' rest
  let rest := skipBlanks rest
  let (value, rest) ← readValue (2 * rest.length + 2) nestingLimit rest
  return (keys, value, ← readLineEnd rest)

/-- A header between so many brackets, and the end of its line. -/
def readHeaderLine (doubled : Bool) (input : List Char) : Option (List String × List Char) := do
  let (keys, rest) ← readKey (input.length + 1) input
  let rest ← expect ']' rest
  let rest ← if doubled then expect ']' rest else some rest
  return (keys, ← readLineEnd rest)

/-- The lines of a document grow the entries of its root; the path is that of the open table. -/
def readLines : Nat → List String → Entries → List Char → Option Entries
  | 0, _, _, _ => none
  | fuel + 1, path, root, input =>
    match skipComment (skipBlanks input) with
    | [] => some root
    | rest =>
      match readNewline rest with
      | some rest => readLines fuel path root rest
      | none =>
        match rest with
        | '[' :: '[' :: rest => do
          let (keys, rest) ← readHeaderLine true rest
          let root ← changeAtHeader (addTable (keys.getLast?.getD "")) keys.dropLast root
          readLines fuel keys root rest
        | '[' :: rest => do
          let (keys, rest) ← readHeaderLine false rest
          let root ← changeAtHeader (openTable (keys.getLast?.getD "")) keys.dropLast root
          readLines fuel keys root rest
        | rest => do
          let (keys, value, rest) ← readKeyLine rest
          let add := addDotted (keys.getLast?.getD "") value keys.dropLast
          let root ← changeAtHeader add path root
          readLines fuel path root rest

/-- The entries of a document; a byte order mark before the text is not part of it. -/
def parse? (document : String) : Option Entries :=
  let input := match document.toList with
    | '\uFEFF' :: rest => rest
    | rest => rest
  readLines (input.length + 1) [] [] input

end ScenarioRunner.Toml
