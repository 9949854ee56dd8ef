/-!
Dates and times as TOML writes them, checked but not kept.
-/

namespace ScenarioRunner.Toml

def digitsValue (digits : List Char) : Nat :=
  digits.foldl (fun value digit => value * 10 + (digit.toNat - 48)) 0

/-- So many digits, with their value. -/
def readDigits (count : Nat) (input : List Char) : Option (Nat × List Char) :=
  let digits := input.take count
  if digits.length == count && digits.all Char.isDigit then
    some (digitsValue digits, input.drop count)
  else none

def expect (c : Char) : List Char → Option (List Char)
  | first :: rest => if first == c then some rest else none
  | [] => none

def isLeapYear (year : Nat) : Bool := (year % 4 == 0 && year % 100 != 0) || year % 400 == 0

def daysInMonth (year month : Nat) : Nat :=
  if month == 2 then (if isLeapYear year then 29 else 28)
  else if [4, 6, 9, 11].contains month then 30
  else 31

/-- A year, a month and a day of that month. -/
def readDate (input : List Char) : Option (List Char) := do
  let (year, rest) ← readDigits 4 input
  let (month, rest) ← readDigits 2 (← expect '-' rest)
  let (day, rest) ← readDigits 2 (← expect '-' rest)
  if 1 ≤ month && month ≤ 12 && 1 ≤ day && day ≤ daysInMonth year month then return rest else none

/-- Hours, minutes and seconds, of which the last may be a leap second or have a fraction. -/
def readTime (input : List Char) : Option (List Char) := do
  let (hour, rest) ← readDigits 2 input
  let (minute, rest) ← readDigits 2 (← expect ':' rest)
  let (second, rest) ← readDigits 2 (← expect ':' rest)
  if 23 < hour || 59 < minute || 60 < second then none
  else
    match rest with
    | '.' :: fraction =>
      let digits := fraction.takeWhile Char.isDigit
      if digits.isEmpty then none else return fraction.drop digits.length
    | rest => return rest

/-- A zone is a letter or a signed distance of hours and minutes, and may be left out. -/
def readZone (input : List Char) : Option (List Char) :=
  match input with
  | 'Z' :: rest => some rest
  | 'z' :: rest => some rest
  | sign :: rest =>
    if sign == '+' || sign == '-' then do
      let (hour, rest) ← readDigits 2 rest
      let (minute, rest) ← readDigits 2 (← expect ':' rest)
      if hour ≤ 23 && minute ≤ 59 then return rest else none
    else some input
  | [] => some []

/-- A time behind a date needs its letter, or a blank and a digit. -/
def readMoment (input : List Char) : Option (List Char) :=
  match readDate input with
  | some rest =>
    match rest with
    | 'T' :: time => (readTime time).bind readZone
    | 't' :: time => (readTime time).bind readZone
    | ' ' :: digit :: time =>
      if digit.isDigit then (readTime (digit :: time)).bind readZone else some rest
    | rest => some rest
  | none => readTime input

/-- Two digits and a colon, or four digits and a dash, begin a time or a date. -/
def beginsMoment (input : List Char) : Bool :=
  let digits := (input.takeWhile Char.isDigit).length
  (digits == 2 && input[2]? == some ':') || (digits == 4 && input[4]? == some '-')

end ScenarioRunner.Toml
