import ScenarioRunner.Json.Basic

/-!
Strict JSON text: nothing but white space may surround the value, strings hold no raw control
characters, and arrays and objects nest less than 128 deep.
-/

namespace ScenarioRunner.Json

/-- JSON knows four characters of white space. -/
def isSpace (c : Char) : Bool :=
  c == ' ' || c == '\n' || c == '\r' || c == '\t'

def skipSpace (input : List Char) : List Char := input.dropWhile isSpace

def hexValue? (c : Char) : Option Nat :=
  if '0' ≤ c && c ≤ '9' then some (c.toNat - 48)
  else if 'a' ≤ c && c ≤ 'f' then some (c.toNat - 87)
  else if 'A' ≤ c && c ≤ 'F' then some (c.toNat - 55)
  else none

/-- Four hexadecimal digits. -/
def readUnit : List Char → Option (Nat × List Char)
  | a :: b :: c :: d :: rest => do
    let a ← hexValue? a
    let b ← hexValue? b
    let c ← hexValue? c
    let d ← hexValue? d
    return (((a * 16 + b) * 16 + c) * 16 + d, rest)
  | _ => none

/-- A code unit, or a pair of surrogates, is one character; a surrogate alone is none. -/
def readCodePoint (input : List Char) : Option (Char × List Char) := do
  let (high, rest) ← readUnit input
  if 0xD800 ≤ high && high ≤ 0xDBFF then
    match rest with
    | '\\' :: 'u' :: rest => do
      let (low, rest) ← readUnit rest
      if 0xDC00 ≤ low && low ≤ 0xDFFF then
        return (Char.ofNat (0x10000 + (high - 0xD800) * 0x400 + (low - 0xDC00)), rest)
      else none
    | _ => none
  else if 0xDC00 ≤ high && high ≤ 0xDFFF then none
  else return (Char.ofNat high, rest)

def simpleEscape? : Char → Option Char
  | '"' => some '"'
  | '\\' => some '\\'
  | '/' => some '/'
  | 'b' => some '\x08'
  | 'f' => some '\x0c'
  | 'n' => some '\n'
  | 'r' => some '\r'
  | 't' => some '\t'
  | _ => none

/-- The characters of a string up to its closing quote, gathered in reverse. -/
def readString : Nat → List Char → List Char → Option (String × List Char)
  | 0, _, _ => none
  | fuel + 1, gathered, input =>
    match input with
    | '"' :: rest => some (String.ofList gathered.reverse, rest)
    | '\\' :: 'u' :: rest =>
      match readCodePoint rest with
      | some (c, rest) => readString fuel (c :: gathered) rest
      | none => none
    | '\\' :: c :: rest =>
      match simpleEscape? c with
      | some c => readString fuel (c :: gathered) rest
      | none => none
    | c :: rest => if c.toNat < 32 || c == '\\' then none else readString fuel (c :: gathered) rest
    | [] => none

def digitsValue (digits : List Char) : Nat :=
  digits.foldl (fun value digit => value * 10 + (digit.toNat - 48)) 0

/-- The largest finite double has its half-way point to the next one here. -/
def doubleLimit : Nat := Nat.pow 2 1024 - Nat.pow 2 970

/-- A decimal is refused when it lies beyond the finite doubles. -/
def decimalInRange (digits : Nat) (exponent : Int) : Bool :=
  let length : Int := (toString digits).length
  if digits == 0 || exponent + length ≤ 300 then true
  else if 310 < exponent + length then false
  else if 0 ≤ exponent then digits * Nat.pow 10 exponent.toNat < doubleLimit
  else digits < doubleLimit * Nat.pow 10 (-exponent).toNat

/-- Whole numbers of 64 bits stay whole; larger ones and those with a point or exponent are decimals. -/
def makeNumber (negative : Bool) (whole fraction : List Char) (exponent : Option Int) :
    Option JsonNumber :=
  let signed (value : Nat) : Int := if negative then -(value : Int) else value
  let wholeValue := digitsValue whole
  let fits := if negative then 0 < wholeValue && wholeValue ≤ Nat.pow 2 63 else wholeValue < Nat.pow 2 64
  if fraction.isEmpty && exponent.isNone && fits then
    some (.whole (signed wholeValue))
  else
    let digits := digitsValue (whole ++ fraction)
    let exponent := exponent.getD 0 - fraction.length
    if decimalInRange digits exponent then some (.decimal (signed digits) exponent) else none

def splitDigits (input : List Char) : List Char × List Char :=
  (input.takeWhile Char.isDigit, input.dropWhile Char.isDigit)

/-- An exponent is an `e`, a sign that may be left out, and digits. -/
def readExponent (input : List Char) : Option (Option Int × List Char) :=
  match input with
  | c :: rest =>
    if c == 'e' || c == 'E' then
      let (negative, rest) : Bool × List Char := match rest with
        | '-' :: rest => (true, rest)
        | '+' :: rest => (false, rest)
        | rest => (false, rest)
      let (digits, rest) := splitDigits rest
      if digits.isEmpty then none
      else
        let value : Int := digitsValue digits
        some (some (if negative then -value else value), rest)
    else some (none, input)
  | [] => some (none, [])

/-- The parts of a number as they are written. -/
structure NumberParts where
  negative : Bool
  whole : List Char
  fraction : List Char
  exponent : Option Int

/-- A number has no leading zeros, and digits on both sides of its point. -/
def splitNumber (input : List Char) : Option (NumberParts × List Char) := do
  let (negative, input) : Bool × List Char := match input with
    | '-' :: rest => (true, rest)
    | rest => (false, rest)
  let (whole, rest) := splitDigits input
  if whole.isEmpty || (whole.head? == some '0' && whole.length != 1) then none
  else
    let (fraction, rest, sound) : List Char × List Char × Bool := match rest with
      | '.' :: after =>
        let (fraction, rest) := splitDigits after
        (fraction, rest, !fraction.isEmpty)
      | rest => ([], rest, true)
    if sound then do
      let (exponent, rest) ← readExponent rest
      return (⟨negative, whole, fraction, exponent⟩, rest)
    else none

def readNumber (input : List Char) : Option (JsonNumber × List Char) := do
  let (parts, rest) ← splitNumber input
  let number ← makeNumber parts.negative parts.whole parts.fraction parts.exponent
  return (number, rest)

mutual

/-- A value at a depth that still allows so many levels; the fuel counts the values and separators. -/
def readValue : Nat → Nat → List Char → Option (Json × List Char)
  | 0, _, _ => none
  | fuel + 1, levels, input =>
    match skipSpace input with
    | 'n' :: 'u' :: 'l' :: 'l' :: rest => some (.null, rest)
    | 't' :: 'r' :: 'u' :: 'e' :: rest => some (.bool true, rest)
    | 'f' :: 'a' :: 'l' :: 's' :: 'e' :: rest => some (.bool false, rest)
    | '"' :: rest => (readString (rest.length + 1) [] rest).map fun (value, rest) => (.text value, rest)
    | '[' :: rest =>
      match levels with
      | 0 => none
      | levels + 1 =>
        match skipSpace rest with
        | ']' :: rest => some (.array [], rest)
        | rest => (readItems fuel levels rest).map fun (items, rest) => (.array items, rest)
    | '{' :: rest =>
      match levels with
      | 0 => none
      | levels + 1 =>
        match skipSpace rest with
        | '}' :: rest => some (.object [], rest)
        | rest => (readMembers fuel levels rest).map fun (members, rest) => (.object members, rest)
    | rest => (readNumber rest).map fun (value, rest) => (.number value, rest)

def readItems : Nat → Nat → List Char → Option (List Json × List Char)
  | 0, _, _ => none
  | fuel + 1, levels, input =>
    match readValue fuel levels input with
    | none => none
    | some (item, rest) =>
      match skipSpace rest with
      | ',' :: rest => (readItems fuel levels rest).map fun (items, rest) => (item :: items, rest)
      | ']' :: rest => some ([item], rest)
      | _ => none

def readMembers : Nat → Nat → List Char → Option (List (String × Json) × List Char)
  | 0, _, _ => none
  | fuel + 1, levels, input =>
    match skipSpace input with
    | '"' :: rest =>
      match readString (rest.length + 1) [] rest with
      | none => none
      | some (name, rest) =>
        match skipSpace rest with
        | ':' :: rest =>
          match readValue fuel levels rest with
          | none => none
          | some (value, rest) =>
            match skipSpace rest with
            | ',' :: rest =>
              (readMembers fuel levels rest).map fun (members, rest) =>
                ((name, value) :: members, rest)
            | '}' :: rest => some ([(name, value)], rest)
            | _ => none
        | _ => none
    | _ => none

end

/-- A string that is passed over. Its code units may be surrogates that stand alone. -/
def skipString : List Char → Option (List Char)
  | [] => none
  | '"' :: rest => some rest
  | '\\' :: 'u' :: a :: b :: c :: d :: rest =>
    if [a, b, c, d].all fun digit => (hexValue? digit).isSome then skipString rest else none
  | '\\' :: c :: rest => if (simpleEscape? c).isSome then skipString rest else none
  | c :: rest => if c.toNat < 32 || c == '\\' then none else skipString rest

mutual

/-- A value that is passed over. It has the form of a value, of any depth and with numbers of any size. -/
def skipValue : Nat → List Char → Option (List Char)
  | 0, _ => none
  | fuel + 1, input =>
    match skipSpace input with
    | 'n' :: 'u' :: 'l' :: 'l' :: rest => some rest
    | 't' :: 'r' :: 'u' :: 'e' :: rest => some rest
    | 'f' :: 'a' :: 'l' :: 's' :: 'e' :: rest => some rest
    | '"' :: rest => skipString rest
    | '[' :: rest =>
      match skipSpace rest with
      | ']' :: rest => some rest
      | rest => skipItems fuel rest
    | '{' :: rest =>
      match skipSpace rest with
      | '}' :: rest => some rest
      | rest => skipMembers fuel rest
    | rest => (splitNumber rest).map (·.2)

def skipItems : Nat → List Char → Option (List Char)
  | 0, _ => none
  | fuel + 1, input =>
    match skipValue fuel input with
    | none => none
    | some rest =>
      match skipSpace rest with
      | ',' :: rest => skipItems fuel rest
      | ']' :: rest => some rest
      | _ => none

def skipMembers : Nat → List Char → Option (List Char)
  | 0, _ => none
  | fuel + 1, input =>
    match skipSpace input with
    | '"' :: rest =>
      match skipString rest with
      | none => none
      | some rest =>
        match skipSpace rest with
        | ':' :: rest =>
          match skipValue fuel rest with
          | none => none
          | some rest =>
            match skipSpace rest with
            | ',' :: rest => skipMembers fuel rest
            | '}' :: rest => some rest
            | _ => none
        | _ => none
    | _ => none

end

/-- The nesting of arrays and objects that is read. -/
def depthLimit : Nat := 127

/-- The value that the whole text spells. -/
def parse? (text : String) : Option Json :=
  let input := text.toList
  match readValue (2 * input.length + 2) depthLimit input with
  | some (value, rest) => if (skipSpace rest).isEmpty then some value else none
  | none => none

end ScenarioRunner.Json
