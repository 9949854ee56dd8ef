import ScenarioRunner.Yaml.Lexer
import ScenarioRunner.Yaml.Node

/-!
The first document of a YAML text, read from its tokens. Reading goes on until the tokens run out or
break the grammar; from there on every node is unreadable.
-/

namespace ScenarioRunner.Yaml

/-- What is left of the tokens, the handles of tags, and the anchors named so far. -/
structure Source where
  tokens : List Token
  handles : List (String × String)
  anchors : List (String × Nat)

/-- A node, and what follows it unless reading broke off. -/
abbrev Reading (α : Type) := α × Option Source

namespace Source

/-- The token at hand is passed. -/
def next (source : Source) : Source := { source with tokens := source.tokens.drop 1 }

def head? (source : Source) : Option Token := source.tokens.head?

/-- An anchor takes the number of different names that were anchored before it. -/
def nameAnchor (source : Source) (name : String) : Nat × Source :=
  let number := source.anchors.length
  let others := source.anchors.filter (·.1 != name)
  (number, { source with anchors := (name, number) :: others })

/-- A handle is replaced by what it stands for. -/
def resolveTag? (source : Source) (handle suffix : String) : Option String :=
  if handle == "" then some suffix
  else (source.handles.lookup handle).map (· ++ suffix)

end Source

def broken : Reading Node := (.unreadable, none)

/-- The node is followed by nothing but the rest of the source. -/
def whole (node : Node) (source : Source) : Reading Node := (node, some source)

/-- The tokens between which a node may be left out. -/
abbrev Stops := Token → Bool

def stopsBlockEntry : Stops
  | .blockEntry => true
  | .blockEnd => true
  | _ => false

def stopsIndentlessEntry : Stops
  | .blockEntry => true
  | .key => true
  | .value => true
  | .blockEnd => true
  | _ => false

def stopsBlockKey : Stops
  | .key => true
  | .value => true
  | .blockEnd => true
  | _ => false

def stopsFlowPairKey : Stops
  | .value => true
  | .flowEntry => true
  | .flowSequenceEnd => true
  | _ => false

def stopsFlowPairValue : Stops
  | .flowEntry => true
  | .flowSequenceEnd => true
  | _ => false

def stopsFlowKey : Stops
  | .value => true
  | .flowEntry => true
  | .flowMappingEnd => true
  | _ => false

def stopsFlowValue : Stops
  | .flowEntry => true
  | .flowMappingEnd => true
  | _ => false

/-- An anchor and a tag in either order, the tag not yet resolved. -/
def readProperties (source : Source) :
    Option Nat × Option (String × String) × Source :=
  match source.head? with
  | some (.anchor name) =>
    let (number, source) := source.next.nameAnchor name
    match source.head? with
    | some (.tag handle suffix) => (some number, some (handle, suffix), source.next)
    | _ => (some number, none, source)
  | some (.tag handle suffix) =>
    let source := source.next
    match source.head? with
    | some (.anchor name) =>
      let (number, source) := source.next.nameAnchor name
      (some number, some (handle, suffix), source)
    | _ => (none, some (handle, suffix), source)
  | _ => (none, none, source)

/-- The tag of a node with its handle replaced; an unknown handle breaks the reading. -/
def resolveProperties (source : Source) (anchor : Option Nat) (tag : Option (String × String)) :
    Option Properties :=
  match tag with
  | none => some ⟨anchor, none⟩
  | some (handle, suffix) => (source.resolveTag? handle suffix).map fun tag => ⟨anchor, some tag⟩

mutual

/-- A node at the cursor. Block collections start only in a block, and a sequence without
indentation of its own only as a key or value of a mapping. -/
def readNode (fuel : Nat) (inBlock indentless : Bool) (source : Source) : Reading Node :=
  match fuel with
  | 0 => broken
  | fuel + 1 =>
    match source.head? with
    | some (.reference name) =>
      match source.anchors.lookup name with
      | some number => whole (.reference number) source.next
      | none => broken
    | _ =>
      let (anchor, tag, source) := readProperties source
      match resolveProperties source anchor tag with
      | none => broken
      | some properties =>
        match source.head? with
        | none => broken
        | some token =>
          match token, inBlock, indentless with
          | .blockEntry, _, true =>
            let (items, rest) := readIndentlessItems fuel source
            (.sequence properties items, rest)
          | .scalar isPlain text, _, _ =>
            let properties := if properties.tag == some "!" then ⟨anchor, none⟩ else properties
            whole (.scalar properties isPlain text) source.next
          | .flowSequenceStart, _, _ =>
            let (items, rest) := readFlowItems fuel true source.next
            (.sequence properties items, rest)
          | .flowMappingStart, _, _ =>
            let (entries, rest) := readFlowEntries fuel true source.next
            (.mapping properties entries, rest)
          | .blockSequenceStart, true, _ =>
            let (items, rest) := readBlockItems fuel source.next
            (.sequence properties items, rest)
          | .blockMappingStart, true, _ =>
            let (entries, rest) := readBlockEntries fuel source.next
            (.mapping properties entries, rest)
          | _, _, _ =>
            if anchor.isSome || tag.isSome then whole (.empty properties) source else broken

/-- A node that is left out before one of the tokens. -/
def readOptional (fuel : Nat) (inBlock indentless : Bool) (stops : Stops) (source : Source) :
    Reading Node :=
  match fuel with
  | 0 => broken
  | fuel + 1 =>
    match source.head? with
    | none => broken
    | some token =>
      if stops token then whole (.empty {}) source
      else readNode fuel inBlock indentless source

/-- A value behind its mark; without the mark it is left out. -/
def readValue (fuel : Nat) (inBlock : Bool) (stops : Stops) (source : Source) : Reading Node :=
  match fuel with
  | 0 => broken
  | fuel + 1 =>
    match source.head? with
    | none => broken
    | some .value => readOptional fuel inBlock inBlock stops source.next
    | some _ => whole (.empty {}) source

def readBlockItems (fuel : Nat) (source : Source) : Reading (List Node) :=
  match fuel with
  | 0 => ([.unreadable], none)
  | fuel + 1 =>
    match source.head? with
    | some .blockEntry =>
      match readOptional fuel true false stopsBlockEntry source.next with
      | (item, none) => ([item, .unreadable], none)
      | (item, some source) =>
        let (items, rest) := readBlockItems fuel source
        (item :: items, rest)
    | some .blockEnd => ([], some source.next)
    | _ => ([.unreadable], none)

def readIndentlessItems (fuel : Nat) (source : Source) : Reading (List Node) :=
  match fuel with
  | 0 => ([.unreadable], none)
  | fuel + 1 =>
    match source.head? with
    | some .blockEntry =>
      match readOptional fuel true false stopsIndentlessEntry source.next with
      | (item, none) => ([item, .unreadable], none)
      | (item, some source) =>
        let (items, rest) := readIndentlessItems fuel source
        (item :: items, rest)
    | some _ => ([], some source)
    | none => ([.unreadable], none)

def readBlockEntries (fuel : Nat) (source : Source) : Reading (List (Node × Node)) :=
  match fuel with
  | 0 => ([(.unreadable, .unreadable)], none)
  | fuel + 1 =>
    match source.head? with
    | some .blockEnd => ([], some source.next)
    | some .key =>
      match readOptional fuel true true stopsBlockKey source.next with
      | (key, none) => ([(key, .unreadable)], none)
      | (key, some source) =>
        match readValue fuel true stopsBlockKey source with
        | (value, none) => ([(key, value), (.unreadable, .unreadable)], none)
        | (value, some source) =>
          let (entries, rest) := readBlockEntries fuel source
          ((key, value) :: entries, rest)
    | _ => ([(.unreadable, .unreadable)], none)

/-- The items of brackets; between two of them stands a comma. -/
def readFlowItems (fuel : Nat) (first : Bool) (source : Source) : Reading (List Node) :=
  match fuel with
  | 0 => ([.unreadable], none)
  | fuel + 1 =>
    match source.head? with
    | none => ([.unreadable], none)
    | some .flowSequenceEnd => ([], some source.next)
    | some token =>
      if !first && token != .flowEntry then ([.unreadable], none)
      else
        let source := if first then source else source.next
        match source.head? with
        | none => ([.unreadable], none)
        | some .flowSequenceEnd => ([], some source.next)
        | some .key =>
          match readFlowPair fuel source.next with
          | (item, none) => ([item, .unreadable], none)
          | (item, some source) =>
            let (items, rest) := readFlowItems fuel false source
            (item :: items, rest)
        | some _ =>
          match readNode fuel false false source with
          | (item, none) => ([item, .unreadable], none)
          | (item, some source) =>
            let (items, rest) := readFlowItems fuel false source
            (item :: items, rest)

/-- One key and its value inside brackets are a mapping. The token behind a key that is left out is
passed. -/
def readFlowPair (fuel : Nat) (source : Source) : Reading Node :=
  match fuel with
  | 0 => broken
  | fuel + 1 =>
    let keyReading : Reading Node :=
      match source.head? with
      | none => broken
      | some token =>
        if stopsFlowPairKey token then whole (.empty {}) source.next
        else readNode fuel false false source
    match keyReading with
    | (key, none) => (.mapping {} [(key, .unreadable)], none)
    | (key, some source) =>
      match readValue fuel false stopsFlowPairValue source with
      | (value, none) => (.mapping {} [(key, value), (.unreadable, .unreadable)], none)
      | (value, some source) => whole (.mapping {} [(key, value)]) source

/-- The entries of braces; a key without its mark has no value. -/
def readFlowEntries (fuel : Nat) (first : Bool) (source : Source) :
    Reading (List (Node × Node)) :=
  match fuel with
  | 0 => ([(.unreadable, .unreadable)], none)
  | fuel + 1 =>
    match source.head? with
    | none => ([(.unreadable, .unreadable)], none)
    | some .flowMappingEnd => ([], some source.next)
    | some token =>
      if !first && token != .flowEntry then ([(.unreadable, .unreadable)], none)
      else
        let source := if first then source else source.next
        match source.head? with
        | none => ([(.unreadable, .unreadable)], none)
        | some .flowMappingEnd => ([], some source.next)
        | some .key =>
          match readOptional fuel false false stopsFlowKey source.next with
          | (key, none) => ([(key, .unreadable)], none)
          | (key, some source) =>
            match readValue fuel false stopsFlowValue source with
            | (value, none) => ([(key, value), (.unreadable, .unreadable)], none)
            | (value, some source) =>
              let (entries, rest) := readFlowEntries fuel false source
              ((key, value) :: entries, rest)
        | some _ =>
          match readNode fuel false false source with
          | (key, none) => ([(key, .unreadable)], none)
          | (key, some source) =>
            let (entries, rest) := readFlowEntries fuel false source
            ((key, .empty {}) :: entries, rest)

end

/-- The directives before a document: at most one version, which is 1.1 or 1.2, and handles that
differ from each other. -/
def readDirectives : Bool → List (String × String) → List Token →
    Option (List (String × String) × Bool × List Token)
  | versioned, handles, .versionDirective major minor :: rest =>
    if versioned || major != 1 || (minor != 1 && minor != 2) then none
    else readDirectives true handles rest
  | versioned, handles, .tagDirective handle expansion :: rest =>
    if handles.any (·.1 == handle) then none
    else readDirectives versioned ((handle, expansion) :: handles) rest
  | versioned, handles, tokens => some (handles, versioned || !handles.isEmpty, tokens)

/-- The handles that every document knows. -/
def defaultHandles : List (String × String) := [("!", "!"), ("!!", "tag:yaml.org,2002:")]

/-- A text has no root when it holds no document. It is sound when its one document and its end can
be read. -/
structure Document where
  root : Option Node
  sound : Bool

/-- After the document nothing but marks of its end may follow. -/
def endsSoundly (tokens : List Token) : Bool :=
  tokens.dropWhile (· == .documentEnd) == [.streamEnd]

def documentOf (reading : Reading Node) : Document :=
  match reading with
  | (root, some source) => ⟨some root, endsSoundly source.tokens⟩
  | (root, none) => ⟨some root, false⟩

/-- A document starts at its first node, or at three dashes where directives may stand before. -/
def readDocument (tokens : List Token) : Document :=
  let fuel := 4 * tokens.length + 8
  match readDirectives false [] tokens with
  | none => ⟨some .unreadable, false⟩
  | some (handles, directed, rest) =>
    let source (tokens : List Token) : Source := ⟨tokens, handles ++ defaultHandles, []⟩
    match rest with
    | .documentStart :: rest =>
      match rest with
      | .documentStart :: _ => ⟨some (.empty {}), false⟩
      | .documentEnd :: _ => documentOf (whole (.empty {}) (source rest))
      | .streamEnd :: _ => documentOf (whole (.empty {}) (source rest))
      | .versionDirective _ _ :: _ => ⟨some (.empty {}), false⟩
      | .tagDirective _ _ :: _ => ⟨some (.empty {}), false⟩
      | rest => documentOf (readNode fuel true false (source rest))
    | .streamEnd :: _ => if directed then ⟨some .unreadable, false⟩ else ⟨none, true⟩
    | rest =>
      if directed then ⟨some .unreadable, false⟩
      else documentOf (readNode fuel true false (source rest))

/-- A text with a character that YAML does not allow cannot be read at all. -/
def Document.ofText (text : String) : Document :=
  let characters := text.toList
  if characters.all isAllowed then readDocument (tokenize characters)
  else ⟨some .unreadable, false⟩

end ScenarioRunner.Yaml
