import ScenarioRunner.Content

/-!
The values that plain scalars spell: null, truth values, whole numbers, decimals, or text.
-/

namespace ScenarioRunner.Yaml

def isNullWord (text : String) : Bool :=
  text == "null" || text == "Null" || text == "NULL" || text == "~"

def truthWord? (text : String) : Option Bool :=
  if text == "true" || text == "True" || text == "TRUE" then some true
  else if text == "false" || text == "False" || text == "FALSE" then some false
  else none

/-- The value of a digit in any base up to 36. -/
def digitValue? (c : Char) : Option Nat :=
  if '0' ≤ c && c ≤ '9' then some (c.toNat - 48)
  else if 'a' ≤ c && c ≤ 'z' then some (c.toNat - 87)
  else if 'A' ≤ c && c ≤ 'Z' then some (c.toNat - 55)
  else none

/-- One or more digits of a base. -/
def digitsValue? (base : Nat) (digits : List Char) : Option Nat :=
  if digits.isEmpty then none
  else
    digits.foldl (fun value c => do
      let digit ← digitValue? c
      if digit < base then return (← value) * base + digit else none) (some 0)

/-- Decimal digits behind a leading zero do not spell a number. -/
def isPaddedZero (digits : List Char) : Bool :=
  match digits with
  | '0' :: rest => !rest.isEmpty && rest.all Char.isDigit
  | _ => false

/-- The digits behind the mark of a base, or decimal digits. -/
def magnitude? : List Char → Option Nat
  | '0' :: 'x' :: digits => digitsValue? 16 digits
  | '0' :: 'o' :: digits => digitsValue? 8 digits
  | '0' :: 'b' :: digits => digitsValue? 2 digits
  | digits => if isPaddedZero digits then none else digitsValue? 10 digits

/-- A whole number with at most one sign. -/
def wholeNumber? : List Char → Option Int
  | '+' :: rest => (magnitude? rest).map fun value => (value : Int)
  | '-' :: rest => (magnitude? rest).map fun value => -(value : Int)
  | rest => (magnitude? rest).map fun value => (value : Int)

/-- An exponent behind its letter: a sign that may be left out, and digits. -/
def exponent? : List Char → Option Int
  | '+' :: digits => (digitsValue? 10 digits).map fun value => (value : Int)
  | '-' :: digits => (digitsValue? 10 digits).map fun value => -(value : Int)
  | digits => (digitsValue? 10 digits).map fun value => (value : Int)

/-- The half-way point behind the largest finite double. -/
def doubleLimit : Nat := Nat.pow 2 1024 - Nat.pow 2 970

/-- A decimal of finite size is below the limit. -/
def isFinite (digits : Nat) (exponent : Int) : Bool :=
  let length : Int := (toString digits).length
  if digits == 0 || exponent + length ≤ 300 then true
  else if 310 < exponent + length then false
  else if 0 ≤ exponent then digits * Nat.pow 10 exponent.toNat < doubleLimit
  else digits < doubleLimit * Nat.pow 10 (-exponent).toNat

/-- Digits with a point anywhere among them and perhaps an exponent spell a finite decimal. -/
def isUnsignedDecimal (characters : List Char) : Bool :=
  let whole := characters.takeWhile Char.isDigit
  let rest := characters.dropWhile Char.isDigit
  let (fraction, rest) : List Char × List Char := match rest with
    | '.' :: rest => (rest.takeWhile Char.isDigit, rest.dropWhile Char.isDigit)
    | rest => ([], rest)
  match digitsValue? 10 (whole ++ fraction) with
  | none => false
  | some digits =>
    match rest with
    | [] => isFinite digits (-(fraction.length : Int))
    | c :: rest =>
      if c == 'e' || c == 'E' then
        match exponent? rest with
        | some exponent => isFinite digits (exponent - fraction.length)
        | none => false
      else false

/-- The signs are taken off; infinities and the value that is no number have words of their own. -/
def isDecimal (characters : List Char) : Bool :=
  let infinities := [".inf", ".Inf", ".INF"].map String.toList
  let notNumbers := [".nan", ".NaN", ".NAN"].map String.toList
  match characters with
  | '+' :: rest => infinities.contains rest || notNumbers.contains rest || isUnsignedDecimal rest
  | '-' :: rest => infinities.contains rest || isUnsignedDecimal rest
  | rest => infinities.contains rest || notNumbers.contains rest || isUnsignedDecimal rest

/-- Leading zeros keep decimal digits from being a number at all. -/
def hasPaddedZero : List Char → Bool
  | '+' :: rest => isPaddedZero rest
  | '-' :: rest => isPaddedZero rest
  | rest => isPaddedZero rest

/-- A whole number is kept within 64 bits, refused within 128 bits, and a decimal beyond them. -/
def wholeContent? (value : Int) : Option (Decoded Content) :=
  if -(Int.pow 2 63) ≤ value && value < Int.pow 2 64 then some (.ok (.whole value))
  else if -(Int.pow 2 127) ≤ value && value < Int.pow 2 128 then some (.error .malformed)
  else none

/-- The value of a plain scalar. -/
def plainContent (text : String) : Decoded Content :=
  if text == "" || isNullWord text then .ok .null
  else
    match truthWord? text with
    | some value => .ok (.bool value)
    | none =>
      let characters := text.toList
      match (wholeNumber? characters).bind wholeContent? with
      | some content => content
      | none =>
        if !hasPaddedZero characters && isDecimal characters then .ok .decimal
        else .ok (.text text)

end ScenarioRunner.Yaml
