/-!
A tree of files and directories, and the paths that lead through it.
-/

namespace ScenarioRunner

/-- Why a path does not lead to what is wanted. -/
inductive FileError where
  | notFound
  | alreadyExists
  | notDirectory
  | isDirectory
  | nameTooLong
  | other (text : String)
deriving DecidableEq, Repr

def FileError.message : FileError → String
  | .notFound => "No such file or directory (os error 2)"
  | .alreadyExists => "File exists (os error 17)"
  | .notDirectory => "Not a directory (os error 20)"
  | .isDirectory => "Is a directory (os error 21)"
  | .nameTooLong => "File name too long (os error 36)"
  | .other text => text

/-- A path in bytes. Most paths are texts; one that is none leads to files all the same. -/
abbrev Path := List UInt8

namespace Path

def ofText (text : String) : Path := text.toUTF8.data.toList

instance : Coe String Path := ⟨ofText⟩

/-- The text that a path spells, if it spells one. -/
def text? (path : Path) : Option String := String.fromUTF8? ⟨path.toArray⟩

theorem text?_ofText (text : String) : (ofText text).text? = some text := by
  have valid : text.toByteArray.IsValidUTF8 := text.isValidUTF8
  simp [text?, ofText, String.fromUTF8?, valid, String.toUTF8, String.fromUTF8]

theorem ofText_append (text other : String) : ofText (text ++ other) = ofText text ++ ofText other := by
  simp [ofText]

theorem ofText_inj {text other : String} : ofText text = ofText other ↔ text = other := by
  refine ⟨fun same => ?_, congrArg ofText⟩
  have told := text?_ofText text
  rw [same, text?_ofText] at told
  exact (Option.some.inj told).symm

/-- The ranges of the bytes that follow the first byte of a character. -/
def followers (first : UInt8) : Option (List (UInt8 × UInt8)) :=
  let any : UInt8 × UInt8 := (0x80, 0xBF)
  if first < 0x80 then some []
  else if first < 0xC2 then none
  else if first < 0xE0 then some [any]
  else if first == 0xE0 then some [(0xA0, 0xBF), any]
  else if first == 0xED then some [(0x80, 0x9F), any]
  else if first < 0xF0 then some [any, any]
  else if first == 0xF0 then some [(0x90, 0xBF), any, any]
  else if first < 0xF4 then some [any, any, any]
  else if first == 0xF4 then some [(0x80, 0x8F), any, any]
  else none

/-- A character that is not whole: its bits so far and the ranges of the bytes that it lacks. -/
structure Begun where
  bits : Nat
  next : UInt8 × UInt8
  later : List (UInt8 × UInt8)

/-- The mark in the place of bytes that are no character. -/
def mark : Char := '\uFFFD'

/-- A byte with which a character may begin. -/
def begin (byte : UInt8) : List Char × Option Begun :=
  match followers byte with
  | none => ([mark], none)
  | some [] => ([Char.ofNat byte.toNat], none)
  | some (next :: later) => ([], some ⟨byte.toNat % Nat.pow 2 (5 - later.length), next, later⟩)

/-- A byte that goes on with a character, or shows that it stays without its end. -/
def resume (begun : Begun) (byte : UInt8) : List Char × Option Begun :=
  if begun.next.1 ≤ byte && byte ≤ begun.next.2 then
    let bits := begun.bits * 64 + byte.toNat % 64
    match begun.later with
    | [] => ([Char.ofNat bits], none)
    | next :: later => ([], some ⟨bits, next, later⟩)
  else
    let (shown, begun) := begin byte
    (mark :: shown, begun)

/-- The characters of a path, with a mark for what is no character. -/
def mended : Option Begun → Path → List Char
  | none, [] => []
  | some _, [] => [mark]
  | begun, byte :: rest =>
    let (shown, begun) := match begun with
      | none => begin byte
      | some begun => resume begun byte
    shown ++ mended begun rest

/-- A path as it is shown to a reader. -/
def display (path : Path) : String := path.text?.getD (String.ofList (mended none path))

end Path

/-- What stands at a place of the tree. -/
inductive FileEntry where
  | file (content : ByteArray)
  | directory

/-- A name between two slashes. -/
abbrev FileName := List UInt8

def slash : UInt8 := 47

/-- The name of a directory in itself. -/
def selfName : FileName := [46]

/-- The name of the directory above. -/
def aboveName : FileName := [46, 46]

/-- The names on the way from the working directory to a place. A place outside of it starts with
steps up, or with the root. -/
abbrev Place := List FileName

/-- The place at which absolute paths start. -/
def rootPlace : Place := [[slash]]

/-- The working directory, the root and the directories above are always there; every other place is
listed once. -/
abbrev FileTree := List (Place × FileEntry)

/-- The names of a path between its slashes. -/
def pathNames (path : Path) : List FileName := path.splitOn slash

/-- The longest name of a file or directory, in bytes. -/
def nameLimit : Nat := 255

namespace Place

/-- The working directory and the directories above it. -/
def isAtOrAboveStart (place : Place) : Bool := place.all (· == aboveName)

def parent (place : Place) : Place :=
  if place.isAtOrAboveStart then place ++ [aboveName]
  else if place == rootPlace then place
  else place.dropLast

end Place

namespace FileTree

def entry? (tree : FileTree) (place : Place) : Option FileEntry :=
  if place.isAtOrAboveStart || place == rootPlace then some .directory else tree.lookup place

/-- The place takes the entry in the place of what it held. -/
def put (tree : FileTree) (place : Place) (entry : FileEntry) : FileTree :=
  (place, entry) :: tree.filter (·.1 != place)

/-- One name leads from a directory to a place that may still be free. -/
def enter (tree : FileTree) (place : Place) (name : FileName) : Except FileError Place :=
  match tree.entry? place with
  | none => .error .notFound
  | some (.file _) => .error .notDirectory
  | some .directory =>
    if name == [] || name == selfName then .ok place
    else if name == aboveName then .ok place.parent
    else if nameLimit < name.length then .error .nameTooLong
    else .ok (place ++ [name])

/-- The names of a path are entered one after the other. -/
def walk (tree : FileTree) (path : Path) : Except FileError Place :=
  if path == [] then .error .notFound
  else (pathNames path).foldlM tree.enter (if path.head? == some slash then rootPlace else [])

def fileExists (tree : FileTree) (path : Path) : Bool :=
  match tree.walk path with
  | .ok place => (tree.entry? place).isSome
  | .error _ => false

def isDirectory (tree : FileTree) (path : Path) : Bool :=
  match tree.walk path with
  | .ok place =>
    match tree.entry? place with
    | some .directory => true
    | _ => false
  | .error _ => false

def read (tree : FileTree) (path : Path) : Except FileError ByteArray := do
  match tree.entry? (← tree.walk path) with
  | some (.file content) => return content
  | some .directory => throw .isDirectory
  | none => throw .notFound

/-- A file is made or replaced where its directory is. -/
def write (tree : FileTree) (path : Path) (content : ByteArray) : Except FileError FileTree := do
  let place ← tree.walk path
  match tree.entry? place with
  | some .directory => throw .isDirectory
  | _ => return tree.put place (.file content)

/-- The path without the slashes at its end. -/
def withoutEndSlashes (path : Path) : Path := (path.reverse.dropWhile (· == slash)).reverse

/-- Slashes at the end of the path of a directory have no meaning. -/
def makeDirectory (tree : FileTree) (path : Path) : Except FileError FileTree := do
  let place ← tree.walk (withoutEndSlashes path)
  match tree.entry? place with
  | some _ => throw .alreadyExists
  | none => return tree.put place .directory

/-- The path without its last name; names that lead nowhere are passed over. -/
def parentPath (path : Path) : Path :=
  let names := (pathNames path).filter fun name => name != [] && name != selfName
  (if path.head? == some slash then [slash] else []) ++ [slash].intercalate names.dropLast

/-- A directory is made together with those on the way to it that are missing. -/
def makeDirectories (tree : FileTree) (path : Path) : Nat → Except FileError FileTree
  | 0 => .error .notFound
  | fuel + 1 =>
    if path == [] then .ok tree
    else
      let orStanding (result : Except FileError FileTree) (tree : FileTree) :=
        match result with
        | .error reason => if tree.isDirectory path then .ok tree else .error reason
        | .ok tree => .ok tree
      match tree.makeDirectory path with
      | .error .notFound => do
        let tree ← tree.makeDirectories (parentPath path) fuel
        orStanding (tree.makeDirectory path) tree
      | result => orStanding result tree

/-- The fuel of making directories counts the names of the path. -/
def createDirectory (tree : FileTree) (path : Path) : Except FileError FileTree :=
  tree.makeDirectories path (path.length + 1)

/-- Entries of other places are passed over. -/
theorem lookup_filter_ne {place other : Place} (different : other ≠ place) (tree : FileTree) :
    List.lookup other (tree.filter (·.1 != place)) = List.lookup other tree := by
  induction tree with
  | nil => rfl
  | cons head rest ih =>
      obtain ⟨held, entry⟩ := head
      by_cases same : held = place
      · have unlike : (other == held) = false := by simp [same, different]
        have dropped : (held != place) = false := by simp [same]
        rw [List.filter_cons_of_neg (by simp [dropped]), ih, List.lookup_cons, unlike]
      · have kept : (held != place) = true := by simp [same]
        simp only [List.filter_cons, kept, if_true, List.lookup_cons, ih]

/-- Every other place holds what it held. -/
theorem entry_put_of_ne {tree : FileTree} {place other : Place} (entry : FileEntry)
    (different : other ≠ place) : entry? (tree.put place entry) other = tree.entry? other := by
  have unlike : (other == place) = false := by simp [different]
  simp only [put, entry?, List.lookup_cons, unlike, lookup_filter_ne different]

theorem entry_put_self {tree : FileTree} {place : Place} (entry : FileEntry)
    (free : tree.entry? place ≠ some .directory) :
    entry? (tree.put place entry) place = some entry := by
  unfold entry? at free ⊢
  split at free
  · exact absurd rfl free
  next inside => simp [inside, put]

/-- Only directories are entered, so that no file stands in the way. -/
theorem enter_put {tree : FileTree} {place here next : Place} {name : FileName} {entry : FileEntry}
    (free : tree.entry? place ≠ some .directory) (entered : tree.enter here name = .ok next) :
    (tree.put place entry).enter here name = .ok next := by
  have different : here ≠ place := by
    rintro rfl
    unfold enter at entered
    split at entered
    · cases entered
    · cases entered
    next standing => exact free standing
  rw [← entered, enter, enter, entry_put_of_ne entry different]

theorem foldlM_enter_put {tree : FileTree} {place start last : Place} {names : List FileName}
    {entry : FileEntry} (free : tree.entry? place ≠ some .directory)
    (walked : names.foldlM tree.enter start = .ok last) :
    names.foldlM (tree.put place entry).enter start = .ok last := by
  induction names generalizing start with
  | nil => exact walked
  | cons name rest ih =>
      rw [List.foldlM_cons] at walked ⊢
      cases entered : tree.enter start name with
      | error reason =>
          rw [entered] at walked
          cases walked
      | ok next =>
          rw [entered] at walked
          rw [enter_put free entered]
          exact ih walked

/-- A path leads to the same place after a file was put there or anywhere else. -/
theorem walk_put {tree : FileTree} {place last : Place} {path : Path} {entry : FileEntry}
    (free : tree.entry? place ≠ some .directory) (walked : tree.walk path = .ok last) :
    (tree.put place entry).walk path = .ok last := by
  unfold walk at walked ⊢
  split at walked
  · cases walked
  next named =>
    rw [if_neg named]
    exact foldlM_enter_put free walked

/-- A file is put where its path leads, unless a directory stands there. -/
theorem put_of_write {tree after : FileTree} {path : Path} {content : ByteArray}
    (written : tree.write path content = .ok after) :
    ∃ place, tree.walk path = .ok place ∧ tree.entry? place ≠ some .directory ∧
      after = tree.put place (.file content) := by
  unfold write at written
  cases walked : tree.walk path with
  | error reason =>
      rw [walked] at written
      cases written
  | ok place =>
      rw [walked] at written
      simp only [bind, Except.bind] at written
      split at written
      · cases written
      next free => exact ⟨place, rfl, free, (Except.ok.inj written).symm⟩

/-- What was written to a path is read from it. -/
theorem read_of_write {tree after : FileTree} {path : Path} {content : ByteArray}
    (written : tree.write path content = .ok after) : after.read path = .ok content := by
  obtain ⟨place, walked, free, rfl⟩ := put_of_write written
  simp only [read, walk_put free walked, entry_put_self _ free, bind, Except.bind]
  rfl

/-- The tree still holds every file, with the content that it had. -/
def Keeps (tree after : FileTree) : Prop :=
  ∀ path content, tree.read path = .ok content → after.read path = .ok content

theorem Keeps.refl (tree : FileTree) : tree.Keeps tree := fun _ _ held => held

theorem Keeps.trans {tree middle after : FileTree} (first : tree.Keeps middle)
    (second : middle.Keeps after) : tree.Keeps after :=
  fun path content held => second path content (first path content held)

/-- A file is where its path leads. -/
theorem read_eq_ok_iff {tree : FileTree} {path : Path} {content : ByteArray} :
    tree.read path = .ok content ↔
      ∃ place, tree.walk path = .ok place ∧ tree.entry? place = some (.file content) := by
  unfold read
  cases walked : tree.walk path with
  | error reason => simp [bind, Except.bind]
  | ok place =>
      simp only [bind, Except.bind, Except.ok.injEq, exists_eq_left']
      cases tree.entry? place with
      | none => simp [throw, throwThe, MonadExceptOf.throw]
      | some entry =>
          cases entry <;> simp [throw, throwThe, MonadExceptOf.throw, pure, Except.pure]

/-- A file stays when something is put at another place. -/
theorem read_put {tree : FileTree} {place held : Place} {path : Path} {content : ByteArray}
    {entry : FileEntry} (free : tree.entry? place ≠ some .directory)
    (walked : tree.walk path = .ok held) (different : held ≠ place)
    (found : tree.read path = .ok content) : read (tree.put place entry) path = .ok content := by
  obtain ⟨other, again, listed⟩ := read_eq_ok_iff.mp found
  obtain rfl : held = other := Except.ok.inj (walked.symm.trans again)
  refine read_eq_ok_iff.mpr ⟨held, walk_put free walked, ?_⟩
  rw [entry_put_of_ne entry different, listed]

/-- New directories are made where nothing is. -/
theorem keeps_of_makeDirectory {tree after : FileTree} {path : Path}
    (made : tree.makeDirectory path = .ok after) : tree.Keeps after := by
  unfold makeDirectory at made
  cases walked : tree.walk (withoutEndSlashes path) with
  | error reason =>
      rw [walked] at made
      cases made
  | ok place =>
      rw [walked] at made
      simp only [bind, Except.bind] at made
      split at made
      · cases made
      next free =>
        cases made
        intro other content held
        obtain ⟨here, reached, listed⟩ := read_eq_ok_iff.mp held
        refine read_put (by simp [free]) reached ?_ held
        rintro rfl
        rw [free] at listed
        cases listed

/-- A directory that could not be made may stand already. -/
theorem keeps_of_standing {made : Except FileError FileTree} {tree after : FileTree} {path : Path}
    (ended : (match made with
      | .error reason => if tree.isDirectory path then .ok tree else .error reason
      | .ok tree => .ok tree : Except FileError FileTree) = .ok after)
    (kept : ∀ next, made = .ok next → tree.Keeps next) : tree.Keeps after := by
  cases made with
  | ok next =>
      cases ended
      exact kept _ rfl
  | error reason =>
      dsimp only at ended
      split at ended
      · cases ended
        exact .refl _
      · cases ended

theorem keeps_of_makeDirectories {tree after : FileTree} {path : Path} {fuel : Nat}
    (made : tree.makeDirectories path fuel = .ok after) : tree.Keeps after := by
  induction fuel generalizing tree after path with
  | zero => cases made
  | succ fuel ih =>
      unfold makeDirectories at made
      split at made
      · cases made
        exact .refl _
      · dsimp only at made
        split at made
        · cases parents : tree.makeDirectories (parentPath path) fuel with
          | error reason =>
              rw [parents] at made
              cases made
          | ok middle =>
              rw [parents] at made
              exact (ih parents).trans (keeps_of_standing made fun _ => keeps_of_makeDirectory)
        · exact keeps_of_standing made fun _ => keeps_of_makeDirectory

end FileTree

/-- The path of a file in a directory. -/
def joinPath (directory name : Path) : Path :=
  if directory == [] || directory.getLast? == some slash then directory ++ name
  else directory ++ slash :: name

/-- What comes before the name of a file does not depend on it. -/
theorem joinPath_eq_append (directory : Path) :
    ∃ front, ∀ name, joinPath directory name = front ++ name := by
  unfold joinPath
  split
  · exact ⟨directory, fun _ => rfl⟩
  · exact ⟨directory ++ [slash], fun name => by simp⟩

/-- A name that no slash parts, and that is too long to stand for a directory on the way. -/
structure IsFileName (name : FileName) : Prop where
  whole : slash ∉ name
  long : 2 < name.length

/-- The last slash of a path is in front of the name of a file. -/
theorem pathNames_append (path : Path) :
    ∃ front tail, ∀ name : FileName, slash ∉ name →
      pathNames (path ++ name) = front ++ [tail ++ name] := by
  by_cases parted : slash ∈ path
  · obtain ⟨tail, others, split, whole⟩ :=
      List.eq_append_cons_of_mem (List.mem_reverse.mpr parted)
    have last : path = others.reverse ++ slash :: tail.reverse := by
      rw [← List.reverse_reverse path, split]
      simp
    refine ⟨others.reverse.splitOn slash, tail.reverse, fun name plain => ?_⟩
    have alone : (tail.reverse ++ name).splitOn slash = [tail.reverse ++ name] :=
      List.splitOn_eq_singleton (by simp [whole, plain])
    rw [pathNames, last, List.append_assoc, List.cons_append, List.splitOn_append_cons_self, alone]
  · refine ⟨[], path, fun name plain => ?_⟩
    rw [pathNames, List.splitOn_eq_singleton (by simp [parted, plain]), List.nil_append]

namespace FileTree

theorem enter_eq_append {tree : FileTree} {here next : Place} {name : FileName}
    (long : 2 < name.length) (entered : tree.enter here name = .ok next) :
    next = here ++ [name] := by
  have proper : ∀ short : FileName, short.length ≤ 2 → (name == short) = false := by
    intro short bound
    rw [beq_eq_false_iff_ne]
    rintro rfl
    omega
  unfold enter at entered
  rw [proper [] (by decide), proper selfName (by decide), proper aboveName (by decide)] at entered
  split at entered
  · cases entered
  · cases entered
  · simp only [Bool.or_self, Bool.false_eq_true, if_false] at entered
    split at entered
    · cases entered
    · exact (Except.ok.inj entered).symm

/-- The names before the last slash lead to a directory, and the last name leads on from there. -/
theorem walk_append (path : Path) :
    ∃ (start : Place) (front : List FileName) (tail : FileName), ∀ (tree : FileTree)
      (name : FileName), IsFileName name → tree.walk (path ++ name) =
        front.foldlM tree.enter start >>= fun place => tree.enter place (tail ++ name) := by
  obtain ⟨front, tail, names⟩ := pathNames_append path
  have begins : ∃ start : Place, ∀ name, IsFileName name →
      (if (path ++ name).head? == some slash then rootPlace else []) = start := by
    cases path with
    | nil =>
        refine ⟨[], fun name proper => if_neg fun heads => proper.whole ?_⟩
        exact List.mem_of_mem_head? (by simpa using heads)
    | cons byte rest =>
        exact ⟨if (some byte == some slash) then rootPlace else [], fun name _ => rfl⟩
  obtain ⟨start, begins⟩ := begins
  refine ⟨start, front, tail, fun tree name proper => ?_⟩
  have long := proper.long
  have named : (path ++ name == []) = false := by
    rw [beq_eq_false_iff_ne]
    intro empty
    have short := congrArg List.length empty
    rw [List.length_append, List.length_nil] at short
    omega
  rw [walk, if_neg (by simp [named]), names name proper.whole, begins name proper, List.foldlM_append]
  simp only [List.foldlM_cons, List.foldlM_nil, bind_pure]

/-- Two names of files lead from one directory to two places. -/
theorem walk_ne {path first second : Path} (proper : IsFileName first) (proper' : IsFileName second)
    (different : first ≠ second) {tree : FileTree} {place other : Place}
    (walked : tree.walk (path ++ first) = .ok place)
    (walked' : tree.walk (path ++ second) = .ok other) : place ≠ other := by
  obtain ⟨start, front, tail, leads⟩ := walk_append path
  rw [leads tree first proper] at walked
  rw [leads tree second proper'] at walked'
  cases reached : front.foldlM tree.enter start with
  | error reason =>
      rw [reached] at walked
      cases walked
  | ok directory =>
      rw [reached] at walked walked'
      have long {name : FileName} (proper : IsFileName name) : 2 < (tail ++ name).length := by
        have := proper.long
        rw [List.length_append]
        omega
      rw [enter_eq_append (long proper) walked, enter_eq_append (long proper') walked']
      intro same
      have named : tail ++ first = tail ++ second := by simpa using same
      exact different (by simpa using named)

/-- A file stays when another one is written to its directory. -/
theorem read_of_write_ne {path first second : Path} (proper : IsFileName first)
    (proper' : IsFileName second) (different : second ≠ first) {tree after : FileTree}
    {content held : ByteArray} (written : tree.write (path ++ first) content = .ok after)
    (found : tree.read (path ++ second) = .ok held) : after.read (path ++ second) = .ok held := by
  obtain ⟨place, walked, free, rfl⟩ := put_of_write written
  obtain ⟨other, walked', -⟩ := read_eq_ok_iff.mp found
  exact read_put free walked' (walk_ne proper' proper different walked' walked) found

end FileTree

end ScenarioRunner
