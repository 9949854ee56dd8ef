import ScenarioRunner.Error
import ScenarioRunner.Json.Basic

/-!
Data of any shape, as texts in different formats describe it.
-/

namespace ScenarioRunner

/-- Entries keep the order of the text, repeated keys included. Of a number with a point only its
kind is kept. -/
inductive Content where
  | null
  | bool (value : Bool)
  | whole (value : Int)
  | decimal
  | text (value : String)
  | list (items : List Content)
  | table (entries : List (Content × Content))
deriving Repr

namespace Content

mutual

/-- A JSON value as it stands. -/
def ofJson : Json → Content
  | .null => .null
  | .bool value => .bool value
  | .number (.whole value) => .whole value
  | .number (.decimal _ _) => .decimal
  | .text value => .text value
  | .array items => .list (ofJsonItems items)
  | .object members => .table (ofJsonMembers members)

def ofJsonItems : List Json → List Content
  | [] => []
  | item :: rest => ofJson item :: ofJsonItems rest

def ofJsonMembers : List (String × Json) → List (Content × Content)
  | [] => []
  | (name, value) :: rest => (.text name, ofJson value) :: ofJsonMembers rest

end

end Content

/-- Decoding gives a value or the first reason against it. -/
abbrev Decoded (α : Type) := Except DecodeError α

/-- Decodes a value of one shape. -/
abbrev Decoder (α : Type) := Content → Decoded α

namespace Decoder

def text : Decoder String
  | .text value => .ok value
  | _ => .error .malformed

/-- A whole number from zero up to below 2 ^ 64. -/
def word : Decoder UInt64
  | .whole value =>
    if 0 ≤ value && value < Int.pow 2 64 then .ok value.toNat.toUInt64 else .error .malformed
  | _ => .error .malformed

/-- Null stands for a value that is not given. -/
def optional {α : Type} (decode : Decoder α) : Decoder (Option α)
  | .null => .ok none
  | content => some <$> decode content

def list {α : Type} (decode : Decoder α) : Decoder (List α)
  | .list items => items.mapM decode
  | _ => .error .malformed

/-- One of several names: a text has to be one of them, and a number counts them from zero. -/
def name {α : Type} (names : List (String × α)) : Decoder α
  | .text value =>
    match names.lookup value with
    | some found => .ok found
    | none => .error (.unknownVariant value)
  | .whole value =>
    if 0 ≤ value then
      match names[value.toNat]? with
      | some found => .ok found.2
      | none => .error .malformed
    else .error .malformed
  | _ => .error .malformed

/-- A case is a name alone when it takes no argument, or a table with the name as its only key. -/
inductive Case (α : Type) where
  | unit (value : α)
  | withText (make : String → α)

/-- The argument of a case without argument may be null or an empty table. -/
def isUnit : Content → Bool
  | .null => true
  | .table [] => true
  | _ => false

def choice {α : Type} (cases : List (String × Case α)) : Decoder α
  | .table [(key, argument)] => do
    match ← name cases key with
    | .unit value => if isUnit argument then return value else throw .malformed
    | .withText make => return make (← text argument)
  | .table _ => .error .malformed
  | .text value => do
    match ← name cases (.text value) with
    | .unit value => return value
    | .withText _ => throw .malformed
  | _ => .error .malformed

end Decoder

end ScenarioRunner
