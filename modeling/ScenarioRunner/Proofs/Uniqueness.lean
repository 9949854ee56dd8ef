import Mathlib.Data.List.Nodup
import ScenarioRunner.Toml.Reader

/-!
The keys of TOML tables. A document that can be read gives no key of a table twice, whether its table is
opened by headers, grown by dotted keys or written between braces.
-/

namespace ScenarioRunner.Toml

/-- No table in the value has a key twice. -/
inductive KeyedOnce : Toml → Prop where
  | text (value : String) : KeyedOnce (.text value)
  | whole (value : Int) : KeyedOnce (.whole value)
  | bool (value : Bool) : KeyedOnce (.bool value)
  | decimal : KeyedOnce .decimal
  | moment : KeyedOnce .moment
  | array {items : List Toml} (each : ∀ item ∈ items, KeyedOnce item) : KeyedOnce (.array items)
  | table {kind : TomlTableKind} {entries : Entries} (once : (entries.map Prod.fst).Nodup)
      (each : ∀ entry ∈ entries, KeyedOnce entry.2) : KeyedOnce (.table kind entries)
  | tables {elements : List Entries} (once : ∀ entries ∈ elements, (entries.map Prod.fst).Nodup)
      (each : ∀ entries ∈ elements, ∀ entry ∈ entries, KeyedOnce entry.2) :
      KeyedOnce (.tables elements)

/-- The entries of a table have a key each, and so have those below them. -/
structure DistinctKeys (entries : Entries) : Prop where
  once : (entries.map Prod.fst).Nodup
  each : ∀ entry ∈ entries, KeyedOnce entry.2

theorem keyedOnce_table_iff {kind : TomlTableKind} {entries : Entries} :
    KeyedOnce (.table kind entries) ↔ DistinctKeys entries := by
  constructor
  · rintro (_ | _ | _ | _ | _ | _ | ⟨once, each⟩ | _)
    exact ⟨once, each⟩
  · exact fun distinct => .table distinct.once distinct.each

theorem keyedOnce_tables_iff {elements : List Entries} :
    KeyedOnce (.tables elements) ↔ ∀ entries ∈ elements, DistinctKeys entries := by
  constructor
  · rintro (_ | _ | _ | _ | _ | _ | _ | ⟨once, each⟩) entries member
    exact ⟨once entries member, each entries member⟩
  · exact fun distinct => .tables (fun entries member => (distinct entries member).once)
      fun entries member => (distinct entries member).each

theorem distinctKeys_nil : DistinctKeys [] := ⟨List.nodup_nil, by simp⟩

namespace DistinctKeys

variable {entries : Entries} {key : String} {value : Toml}

/-- A key that is not there may be added. -/
theorem append_new (distinct : DistinctKeys entries) (absent : entries.lookup key = none)
    (once : KeyedOnce value) : DistinctKeys (entries ++ [(key, value)]) := by
  constructor
  · rw [List.map_append, List.nodup_append]
    refine ⟨distinct.once, by simp, ?_⟩
    rintro _ member _ new rfl
    obtain ⟨entry, found, rfl⟩ := List.mem_map.mp member
    have other := List.lookup_eq_none_iff.mp absent entry found
    have same : entry.1 = key := by simpa using new
    simp [same] at other
  · refine List.forall_mem_append.mpr ⟨distinct.each, ?_⟩
    simpa using once

theorem map_fst_replace : (replace key value entries).map Prod.fst = entries.map Prod.fst := by
  induction entries with
  | nil => rfl
  | cons entry rest ih =>
      rw [Toml.replace]
      split
      next same => simp [beq_iff_eq.mp same]
      next => simp [ih]

/-- The value of a key may be exchanged. -/
theorem replace (distinct : DistinctKeys entries) (once : KeyedOnce value) :
    DistinctKeys (replace key value entries) := by
  refine ⟨by rw [map_fst_replace]; exact distinct.once, ?_⟩
  have each := distinct.each
  clear distinct
  induction entries with
  | nil => simp [Toml.replace]
  | cons entry rest ih =>
      obtain ⟨first, others⟩ := List.forall_mem_cons.mp each
      rw [Toml.replace]
      split
      · exact List.forall_mem_cons.mpr ⟨once, others⟩
      · exact List.forall_mem_cons.mpr ⟨first, ih others⟩

theorem of_lookup (distinct : DistinctKeys entries) (found : entries.lookup key = some value) :
    KeyedOnce value := by
  obtain ⟨front, back, rfl, -⟩ := List.lookup_eq_some_iff.mp found
  exact distinct.each (key, value) (by simp)

end DistinctKeys

/-- Entries with distinct keys grow to such entries. -/
def Keeps (change : Entries → Option Entries) : Prop :=
  ∀ ⦃entries grown⦄, DistinctKeys entries → change entries = some grown → DistinctKeys grown

theorem Keeps.changeLast {change : Entries → Option Entries} (keeps : Keeps change)
    {elements grown : List Entries} (distinct : ∀ entries ∈ elements, DistinctKeys entries)
    (changed : Toml.changeLast change elements = some grown) :
    ∀ entries ∈ grown, DistinctKeys entries := by
  induction elements generalizing grown with
  | nil => cases changed
  | cons first rest ih =>
      obtain ⟨here, later⟩ := List.forall_mem_cons.mp distinct
      cases rest with
      | nil =>
          obtain ⟨last, made, rfl⟩ := Option.map_eq_some_iff.mp changed
          simpa using keeps here made
      | cons second rest =>
          obtain ⟨others, made, rfl⟩ := Option.map_eq_some_iff.mp changed
          exact List.forall_mem_cons.mpr ⟨here, ih later made⟩

section Below

variable {change : Entries → Option Entries} {entries grown : Entries} {key : String}

/-- A new table is grown from nothing. -/
theorem Keeps.below_new (keeps : Keeps change) (distinct : DistinctKeys entries)
    (absent : entries.lookup key = none) {kind : TomlTableKind}
    (changed : (do return entries ++ [(key, .table kind (← change []))]) = some grown) :
    DistinctKeys grown := by
  obtain ⟨inner, made, same⟩ := Option.bind_eq_some_iff.mp changed
  cases same
  exact distinct.append_new absent (keyedOnce_table_iff.mpr (keeps distinctKeys_nil made))

theorem Keeps.below_table (keeps : Keeps change) (distinct : DistinctKeys entries)
    {kind : TomlTableKind} {inner : Entries} (found : entries.lookup key = some (.table kind inner))
    (changed : (do return replace key (.table kind (← change inner)) entries) = some grown) :
    DistinctKeys grown := by
  have known := keyedOnce_table_iff.mp (distinct.of_lookup found)
  obtain ⟨inner, made, same⟩ := Option.bind_eq_some_iff.mp changed
  cases same
  exact distinct.replace (keyedOnce_table_iff.mpr (keeps known made))

theorem Keeps.below_tables (keeps : Keeps change) (distinct : DistinctKeys entries)
    {elements : List Entries} (found : entries.lookup key = some (.tables elements))
    (changed : (do return replace key (.tables (← Toml.changeLast change elements)) entries) =
      some grown) : DistinctKeys grown := by
  have known := keyedOnce_tables_iff.mp (distinct.of_lookup found)
  obtain ⟨elements, made, same⟩ := Option.bind_eq_some_iff.mp changed
  cases same
  exact distinct.replace (keyedOnce_tables_iff.mpr (keeps.changeLast known made))

end Below

/-- A change below headers keeps keys distinct when it does so at its end. -/
theorem Keeps.changeAtHeader {change : Entries → Option Entries} (keeps : Keeps change)
    (path : List String) : Keeps (changeAtHeader change path) := by
  induction path with
  | nil => exact keeps
  | cons key path ih =>
      intro entries grown distinct changed
      rw [Toml.changeAtHeader] at changed
      split at changed
      next absent => exact ih.below_new distinct absent changed
      next kind inner found =>
        split at changed
        next => cases changed
        next => exact ih.below_table distinct found changed
      next elements found => exact ih.below_tables distinct found changed
      next => cases changed

theorem keeps_openTable (key : String) : Keeps (openTable key) := by
  intro entries grown distinct changed
  rw [openTable] at changed
  split at changed
  next absent =>
    cases changed
    exact distinct.append_new absent (keyedOnce_table_iff.mpr distinctKeys_nil)
  next inner found =>
    cases changed
    have others : DistinctKeys (entries.filter (·.1 != key)) :=
      ⟨distinct.once.sublist (List.filter_sublist.map Prod.fst),
        fun entry member => distinct.each entry (List.mem_of_mem_filter member)⟩
    have absent : (entries.filter (·.1 != key)).lookup key = none := by
      refine List.lookup_eq_none_iff.mpr fun entry member => ?_
      have other := (List.mem_filter.mp member).2
      rwa [bne_comm] at other
    have known := keyedOnce_table_iff.mp (distinct.of_lookup found)
    exact others.append_new absent (keyedOnce_table_iff.mpr known)
  next => cases changed

theorem keeps_addTable (key : String) : Keeps (addTable key) := by
  have empty : ∀ entries ∈ [[]], DistinctKeys entries := by simpa using distinctKeys_nil
  intro entries grown distinct changed
  rw [addTable] at changed
  split at changed
  next absent =>
    cases changed
    exact distinct.append_new absent (keyedOnce_tables_iff.mpr empty)
  next elements found =>
    cases changed
    have known := keyedOnce_tables_iff.mp (distinct.of_lookup found)
    exact distinct.replace (keyedOnce_tables_iff.mpr (List.forall_mem_append.mpr ⟨known, empty⟩))
  next => cases changed

/-- A value below a dotted key is added where its key is new. -/
theorem keeps_addDotted (key : String) {value : Toml} (once : KeyedOnce value) (path : List String) :
    Keeps (addDotted key value path) := by
  induction path with
  | nil =>
      intro entries grown distinct changed
      rw [addDotted, addValue] at changed
      split at changed
      next => cases changed
      next absent =>
        cases changed
        rw [Bool.not_eq_true, Option.isSome_eq_false_iff, Option.isNone_iff_eq_none] at absent
        exact distinct.append_new absent once
  | cons first path ih =>
      intro entries grown distinct changed
      rw [addDotted] at changed
      split at changed
      next absent => exact ih.below_new distinct absent changed
      next kind inner found =>
        split at changed
        next => exact ih.below_table distinct found changed
        next => cases changed
      next elements found =>
        split at changed
        next => cases changed
        next => exact ih.below_tables distinct found changed
      next => cases changed

section Numbers

variable {input rest : List Char} {value : Toml}

theorem keyedOnce_of_makeWhole {whole : Int} (made : makeWhole whole = some value) :
    KeyedOnce value := by
  rw [makeWhole] at made
  split at made
  · cases made
    exact .whole whole
  · cases made

theorem keyedOnce_of_readWord (read : readWord input = some (value, rest)) : KeyedOnce value := by
  fun_cases readWord input with
  | case1 => cases read; exact .decimal
  | case2 => cases read; exact .decimal
  | case3 => simp [readWord] at read

theorem keyedOnce_of_readBased {base : Nat} (read : readBased base input = some (value, rest)) :
    KeyedOnce value := by
  obtain ⟨_, -, continued⟩ := Option.bind_eq_some_iff.mp read
  obtain ⟨_, made, same⟩ := Option.bind_eq_some_iff.mp continued
  cases same
  exact keyedOnce_of_makeWhole made

theorem keyedOnce_of_readDecimalDigits {negative : Bool}
    (read : readDecimalDigits negative input = some (value, rest)) : KeyedOnce value := by
  have decimal {tail : List Char} {made : Toml × List Char}
      (read : (do return (Toml.decimal, ← readExponent tail)) = some made) : KeyedOnce made.1 := by
    obtain ⟨_, -, same⟩ := Option.bind_eq_some_iff.mp read
    cases same
    exact .decimal
  obtain ⟨⟨digits, tail⟩, -, continued⟩ := Option.bind_eq_some_iff.mp read
  dsimp only at continued
  split at continued
  · cases continued
  split at continued
  next fraction =>
    obtain ⟨⟨_, behind⟩, -, continued⟩ := Option.bind_eq_some_iff.mp continued
    dsimp only at continued
    split at continued
    · exact decimal continued
    · exact decimal continued
    · cases continued
      exact .decimal
  · exact decimal continued
  · exact decimal continued
  · obtain ⟨_, made, same⟩ := Option.bind_eq_some_iff.mp continued
    cases same
    exact keyedOnce_of_makeWhole made

/-- A number or a moment has no keys. -/
theorem keyedOnce_of_readNumber (read : readNumber input = some (value, rest)) :
    KeyedOnce value := by
  have signed {negative : Bool} {tail : List Char}
      (read : (readWord tail).or (readDecimalDigits negative tail) = some (value, rest)) :
      KeyedOnce value := by
    rcases Option.or_eq_some_iff.mp read with word | ⟨-, digits⟩
    · exact keyedOnce_of_readWord word
    · exact keyedOnce_of_readDecimalDigits digits
  revert read
  fun_cases readNumber input with
  | case1 => exact signed
  | case2 => exact signed
  | case3 => exact keyedOnce_of_readBased
  | case4 => exact keyedOnce_of_readBased
  | case5 => exact keyedOnce_of_readBased
  | case6 =>
      intro read
      obtain ⟨_, -, same⟩ := Option.map_eq_some_iff.mp read
      cases same
      exact .moment
  | case7 => exact signed

end Numbers

/-- What is read with so much fuel has each key once. -/
structure ReadsOnce (fuel : Nat) : Prop where
  value : ∀ {levels : Nat} {input rest : List Char} {value : Toml},
    readValue fuel levels input = some (value, rest) → KeyedOnce value
  items : ∀ {levels : Nat} {input rest : List Char} {items : List Toml},
    readItems fuel levels input = some (items, rest) → ∀ item ∈ items, KeyedOnce item
  pairs : ∀ {levels : Nat} {entries grown : Entries} {input rest : List Char},
    DistinctKeys entries → readPairs fuel levels entries input = some (grown, rest) →
      DistinctKeys grown

theorem readsOnce (fuel : Nat) : ReadsOnce fuel := by
  -- the three readers call each other with less fuel
  induction fuel using Nat.strongRecOn with
  | ind fuel ih =>
      constructor
      · intro levels input rest value
        fun_cases readValue fuel levels input with
        | case1 => nofun
        | case2 fuel tail =>
            intro read
            obtain ⟨_, -, same⟩ := Option.map_eq_some_iff.mp read
            cases same
            exact .text _
        | case3 fuel tail =>
            intro read
            obtain ⟨_, -, same⟩ := Option.map_eq_some_iff.mp read
            cases same
            exact .text _
        | case4 => rintro ⟨⟩; exact .bool _
        | case5 => rintro ⟨⟩; exact .bool _
        | case6 => nofun
        | case7 fuel tail levels =>
            intro read
            obtain ⟨⟨items, behind⟩, listed, same⟩ := Option.map_eq_some_iff.mp read
            cases same
            exact .array ((ih fuel (Nat.lt_succ_self fuel)).items listed)
        | case8 => nofun
        | case9 => rintro ⟨⟩; exact keyedOnce_table_iff.mpr distinctKeys_nil
        | case10 fuel tail levels more =>
            intro read
            obtain ⟨⟨entries, behind⟩, paired, same⟩ := Option.map_eq_some_iff.mp read
            cases same
            exact keyedOnce_table_iff.mpr
              ((ih fuel (Nat.lt_succ_self fuel)).pairs distinctKeys_nil paired)
        | case11 => exact keyedOnce_of_readNumber
      · intro levels input rest items
        fun_cases readItems fuel levels input with
        | case1 => nofun
        | case2 => rintro ⟨⟩; simp
        | case3 => nofun
        | case4 fuel _ _ item _ _ _ _ first =>
            intro read
            obtain ⟨⟨others, behind⟩, listed, same⟩ := Option.map_eq_some_iff.mp read
            cases same
            have below := ih fuel (Nat.lt_succ_self fuel)
            exact List.forall_mem_cons.mpr ⟨below.value first, below.items listed⟩
        | case5 fuel _ _ item _ _ _ _ first =>
            rintro ⟨⟩
            simpa using (ih fuel (Nat.lt_succ_self fuel)).value first
        | case6 => nofun
      · intro levels entries grown input rest distinct
        fun_cases readPairs fuel levels entries input with
        | case1 => nofun
        | case2 => nofun
        | case3 => nofun
        | case4 => nofun
        | case5 fuel _ _ _ keys _ value _ first added made =>
            have below := ih fuel (Nat.lt_succ_self fuel)
            exact below.pairs (keeps_addDotted _ (below.value first) _ distinct made)
        | case6 fuel _ _ _ keys _ value _ first added made =>
            rintro ⟨⟩
            have once := (ih fuel (Nat.lt_succ_self fuel)).value first
            exact keeps_addDotted _ once _ distinct made
        | case7 => nofun
        | case8 => nofun

theorem keyedOnce_of_readKeyLine {input rest : List Char} {keys : List String} {value : Toml}
    (read : readKeyLine input = some (keys, value, rest)) : KeyedOnce value := by
  obtain ⟨_, -, continued⟩ := Option.bind_eq_some_iff.mp read
  obtain ⟨_, -, continued⟩ := Option.bind_eq_some_iff.mp continued
  obtain ⟨⟨_, _⟩, given, continued⟩ := Option.bind_eq_some_iff.mp continued
  obtain ⟨_, -, same⟩ := Option.bind_eq_some_iff.mp continued
  cases same
  exact (readsOnce _).value given

/-- A line of a document adds to its entries or opens a table, and each key stays alone. -/
theorem distinctKeys_of_readLines {fuel : Nat} {path : List String} {root entries : Entries}
    {input : List Char} (distinct : DistinctKeys root)
    (read : readLines fuel path root input = some entries) : DistinctKeys entries := by
  revert read
  fun_induction readLines fuel path root input with
  | case1 => nofun
  | case2 => rintro ⟨⟩; exact distinct
  | case3 fuel path root input rest _ _ ih => exact ih distinct
  | case4 fuel path root input rest _ _ _ ih =>
      intro read
      obtain ⟨⟨keys, rest⟩, -, continued⟩ := Option.bind_eq_some_iff.mp read
      obtain ⟨opened, made, later⟩ := Option.bind_eq_some_iff.mp continued
      exact ih keys rest opened ((keeps_addTable _).changeAtHeader _ distinct made) later
  | case5 fuel path root input rest _ _ _ _ ih =>
      intro read
      obtain ⟨⟨keys, rest⟩, -, continued⟩ := Option.bind_eq_some_iff.mp read
      obtain ⟨opened, made, later⟩ := Option.bind_eq_some_iff.mp continued
      exact ih keys rest opened ((keeps_openTable _).changeAtHeader _ distinct made) later
  | case6 fuel path root input _ _ _ _ ih =>
      intro read
      obtain ⟨⟨keys, value, rest⟩, line, continued⟩ := Option.bind_eq_some_iff.mp read
      obtain ⟨grown, made, later⟩ := Option.bind_eq_some_iff.mp continued
      have once := keyedOnce_of_readKeyLine line
      exact ih rest grown ((keeps_addDotted _ once _).changeAtHeader _ distinct made) later

/-- No table of a document has a key twice. -/
theorem distinctKeys_of_parse {document : String} {entries : Entries}
    (read : parse? document = some entries) : DistinctKeys entries :=
  distinctKeys_of_readLines distinctKeys_nil read

end ScenarioRunner.Toml
