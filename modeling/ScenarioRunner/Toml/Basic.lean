/-!
TOML values and the rules by which tables grow.
-/

namespace ScenarioRunner

/-- How a table came to be. A table is opened by a header, implied by a longer header, implied by a
dotted key, or closed between braces. -/
inductive TomlTableKind where
  | header
  | impliedByHeader
  | impliedByKey
  | closed
deriving DecidableEq, Repr

/-- Entries keep the order of the text. Of a decimal or a date only its kind is kept. -/
inductive Toml where
  | text (value : String)
  | whole (value : Int)
  | bool (value : Bool)
  | decimal
  | moment
  | array (items : List Toml)
  | table (kind : TomlTableKind) (entries : List (String × Toml))
  | tables (elements : List (List (String × Toml)))
deriving Repr

namespace Toml

/-- The entries of a table, each key at most once. -/
abbrev Entries := List (String × Toml)

/-- The entry of a key is replaced in its place. -/
def replace (key : String) (value : Toml) : Entries → Entries
  | [] => []
  | entry :: rest =>
    if entry.1 == key then (key, value) :: rest else entry :: replace key value rest

/-- A change of the last list of entries, if there is one and the change succeeds. -/
def changeLast (change : Entries → Option Entries) : List Entries → Option (List Entries)
  | [] => none
  | [last] => (change last).map fun last => [last]
  | first :: rest => (changeLast change rest).map (first :: ·)

/-- A change at the end of a path of headers. Missing tables are implied, and of several tables under
one key the last is meant. -/
def changeAtHeader (change : Entries → Option Entries) : List String → Entries → Option Entries
  | [], entries => change entries
  | key :: path, entries =>
    match entries.lookup key with
    | none => do
      let inner ← changeAtHeader change path []
      return entries ++ [(key, .table .impliedByHeader inner)]
    | some (.table kind inner) =>
      if kind == .closed then none
      else do
        let inner ← changeAtHeader change path inner
        return replace key (.table kind inner) entries
    | some (.tables elements) => do
      let elements ← changeLast (changeAtHeader change path) elements
      return replace key (.tables elements) entries
    | some _ => none

/-- A header opens a table that is new or was only implied by other headers. An implied table moves
behind the tables opened before it. -/
def openTable (key : String) (entries : Entries) : Option Entries :=
  match entries.lookup key with
  | none => some (entries ++ [(key, .table .header [])])
  | some (.table .impliedByHeader inner) =>
    some (entries.filter (·.1 != key) ++ [(key, .table .header inner)])
  | some _ => none

/-- A doubled header adds a table to those of its key. -/
def addTable (key : String) (entries : Entries) : Option Entries :=
  match entries.lookup key with
  | none => some (entries ++ [(key, .tables [[]])])
  | some (.tables elements) => some (replace key (.tables (elements ++ [[]])) entries)
  | some _ => none

/-- A key may be given once. -/
def addValue (key : String) (value : Toml) (entries : Entries) : Option Entries :=
  if (entries.lookup key).isSome then none else some (entries ++ [(key, value)])

/-- A dotted key adds to tables that dotted keys implied. On its way it may pass through tables that
headers implied, and through the last of several tables, but it adds nothing to these. -/
def addDotted (key : String) (value : Toml) : List String → Entries → Option Entries
  | [], entries => addValue key value entries
  | first :: path, entries =>
    match entries.lookup first with
    | none => do
      let inner ← addDotted key value path []
      return entries ++ [(first, .table .impliedByKey inner)]
    | some (.table kind inner) =>
      if kind == .impliedByKey || (kind == .impliedByHeader && !path.isEmpty) then do
        let inner ← addDotted key value path inner
        return replace first (.table kind inner) entries
      else none
    | some (.tables elements) =>
      if path.isEmpty then none
      else do
        let elements ← changeLast (addDotted key value path) elements
        return replace first (.tables elements) entries
    | some _ => none

end Toml

end ScenarioRunner
