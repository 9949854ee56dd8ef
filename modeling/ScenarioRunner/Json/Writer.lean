import ScenarioRunner.Json.Basic

/-!
JSON text. The compact form has no white space; the indented form has two spaces for each level.
-/

namespace ScenarioRunner.Json

def hexDigit (value : Nat) : Char :=
  if value < 10 then Char.ofNat (48 + value) else Char.ofNat (87 + value)

/-- Quotes, backslashes and control characters are escaped; every other character stands for itself. -/
def escapeCharacter (c : Char) : List Char :=
  match c with
  | '"' => ['\\', '"']
  | '\\' => ['\\', '\\']
  | '\n' => ['\\', 'n']
  | '\r' => ['\\', 'r']
  | '\t' => ['\\', 't']
  | '\x08' => ['\\', 'b']
  | '\x0c' => ['\\', 'f']
  | _ =>
    if c.toNat < 32 then
      ['\\', 'u', '0', '0', hexDigit (c.toNat / 16), hexDigit (c.toNat % 16)]
    else [c]

/-- The text between double quotes. -/
def quote (text : String) : String :=
  String.ofList ('"' :: text.toList.flatMap escapeCharacter ++ ['"'])

/-- The digits lose the zeros at their end, each of which raises the exponent by one. -/
def stripZeros : Nat → Nat → Int → Nat × Int
  | 0, digits, exponent => (digits, exponent)
  | fuel + 1, digits, exponent =>
    if digits != 0 && digits % 10 == 0 then stripZeros fuel (digits / 10) (exponent + 1)
    else (digits, exponent)

/-- A decimal is positional from one hundred-thousandth up to below ten to the sixteenth. -/
def renderDecimal (digits : Nat) (exponent : Int) : String :=
  if digits == 0 then "0.0"
  else
    let (digits, exponent) := stripZeros (toString digits).length digits exponent
    let written := toString digits
    let point : Int := written.length + exponent
    let zeros (count : Int) : String := String.ofList (List.replicate count.toNat '0')
    if 0 ≤ exponent && point ≤ 16 then written ++ zeros exponent ++ ".0"
    else if 0 < point && point ≤ 16 then
      String.ofList (written.toList.take point.toNat) ++ "." ++
        String.ofList (written.toList.drop point.toNat)
    else if -5 < point && point ≤ 0 then "0." ++ zeros (-point) ++ written
    else
      let fraction := written.toList.drop 1
      let mantissa := String.ofList (written.toList.take 1) ++
        (if fraction.isEmpty then "" else "." ++ String.ofList fraction)
      mantissa ++ "e" ++ toString (point - 1)

def renderNumber : JsonNumber → String
  | .whole value => toString value
  | .decimal digits exponent =>
    (if digits < 0 then "-" else "") ++ renderDecimal digits.natAbs exponent

mutual

/-- The compact form. -/
def render : Json → String
  | .null => "null"
  | .bool value => if value then "true" else "false"
  | .number value => renderNumber value
  | .text value => quote value
  | .array items => "[" ++ String.intercalate "," (renderItems items) ++ "]"
  | .object members => "\x7b" ++ String.intercalate "," (renderMembers members) ++ "\x7d"

def renderItems : List Json → List String
  | [] => []
  | item :: rest => render item :: renderItems rest

def renderMembers : List (String × Json) → List String
  | [] => []
  | (name, value) :: rest => (quote name ++ ":" ++ render value) :: renderMembers rest

end

/-- A line break and two spaces for each level. -/
def lineBreak (level : Nat) : String :=
  "\n" ++ String.ofList (List.replicate (2 * level) ' ')

/-- The parts stand on lines of their own between the brackets; no parts leave the brackets together. -/
def renderBlock (opening closing : String) (level : Nat) (parts : List String) : String :=
  if parts.isEmpty then opening ++ closing
  else
    opening ++ lineBreak (level + 1) ++ String.intercalate ("," ++ lineBreak (level + 1)) parts ++
      lineBreak level ++ closing

mutual

/-- The indented form of a value that stands at a level. -/
def renderIndentedAt (level : Nat) : Json → String
  | .null => "null"
  | .bool value => if value then "true" else "false"
  | .number value => renderNumber value
  | .text value => quote value
  | .array items => renderBlock "[" "]" level (renderIndentedItems (level + 1) items)
  | .object members =>
    renderBlock "\x7b" "\x7d" level (renderIndentedMembers (level + 1) members)

def renderIndentedItems (level : Nat) : List Json → List String
  | [] => []
  | item :: rest => renderIndentedAt level item :: renderIndentedItems level rest

def renderIndentedMembers (level : Nat) : List (String × Json) → List String
  | [] => []
  | (name, value) :: rest =>
    (quote name ++ ": " ++ renderIndentedAt level value) :: renderIndentedMembers level rest

end

/-- The indented form. -/
def renderIndented (value : Json) : String := renderIndentedAt 0 value

end ScenarioRunner.Json
