/-!
JSON values. An object keeps its members in the order of the text, repeated names included.
-/

namespace ScenarioRunner

/-- A JSON number is a whole number or a decimal `digits * 10 ^ exponent`. -/
inductive JsonNumber where
  | whole (value : Int)
  | decimal (digits : Int) (exponent : Int)
deriving DecidableEq, Repr

/-- A JSON value. -/
inductive Json where
  | null
  | bool (value : Bool)
  | number (value : JsonNumber)
  | text (value : String)
  | array (items : List Json)
  | object (members : List (String × Json))
deriving Repr

namespace Json

instance : Inhabited Json := ⟨.null⟩

def nat (value : Nat) : Json := .number (.whole value)

def ofOption (value : Option Json) : Json := value.getD .null

def ofTextOption (value : Option String) : Json := ofOption (value.map .text)

/-- The member of an object; of two members with one name the later counts. -/
def get? (name : String) : Json → Option Json
  | .object members => (members.reverse.find? (·.1 == name)).map (·.2)
  | _ => none

def text? : Json → Option String
  | .text value => some value
  | _ => none

def nat? : Json → Option Nat
  | .number (.whole value) => if value < 0 then none else some value.toNat
  | _ => none

def bool? : Json → Option Bool
  | .bool value => some value
  | _ => none

def array? : Json → Option (List Json)
  | .array items => some items
  | _ => none

def members? : Json → Option (List (String × Json))
  | .object members => some members
  | _ => none

def isNull : Json → Bool
  | .null => true
  | _ => false

end Json

end ScenarioRunner
