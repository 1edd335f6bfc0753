import PocketLink.IoError
import PocketLink.Path
import PocketLink.Text.Utf8

/-!
# The local file system

A file tree is a table from locations to what stands there. A path is walked step by step from the
root or from the working directory; every step needs a directory to stand in, also one that stays
where it is. Operations answer the cause that stopped them, and those that write answer the tree
afterwards.
-/

namespace PocketLink

/-- A place in the file tree: the names from the root, each behind a slash. The root is empty. Names
are texts, so that a file whose name is not UTF-8 has no place. -/
abbrev Location := String

/-- The directories around the place where a walk is, that place first. The root is left out. -/
abbrev Trail := List Location

namespace Trail

/-- Where the walk is. -/
def here (trail : Trail) : Location := trail.headD ""

/-- The trail after a step to a name. -/
def into (trail : Trail) (name : String) : Trail := (trail.here ++ "/" ++ name) :: trail

/-- The trail after a step upwards. From the root it leads nowhere. -/
def up (trail : Trail) : Trail := trail.tail

/-- The trail of some names from the root. -/
def ofNames (names : List String) : Trail := names.foldl into []

end Trail

/-- What stands at a location. -/
inductive Node where
  /-- A file and its bytes. -/
  | file (content : List UInt8)
  /-- A directory. -/
  | directory
  /-- A socket that others may connect to. -/
  | socket
  deriving DecidableEq, Repr

/-- What was opened to be read. -/
inductive OpenFile where
  /-- A file, and its bytes that are still to be read. -/
  | file (unread : List UInt8)
  /-- A directory. It can be opened, but not read. -/
  | directory
  deriving DecidableEq, Repr

namespace OpenFile

/-- How many bytes are still to be read. -/
def size : OpenFile → Nat
  | .file unread => unread.length
  | .directory => 0

/-- The next bytes, at most `limit` of them, and the file behind them. At the end there are none. -/
def read (limit : Nat) : OpenFile → Except IoError (List UInt8 × OpenFile)
  | .file unread => .ok (unread.take limit, .file (unread.drop limit))
  | .directory => .error .isADirectory

/-- However a file is cut, the pieces are one after another what it has, and an empty one is its
end. -/
theorem read_file (unread : List UInt8) {limit : Nat} (hlimit : 0 < limit) :
    ∃ piece left, (file unread).read limit = .ok (piece, file left) ∧ piece ++ left = unread ∧
      piece.length ≤ limit ∧ (piece = [] → unread = []) := by
  refine ⟨_, _, rfl, List.take_append_drop limit unread, List.length_take_le _ _, fun h => ?_⟩
  rcases List.take_eq_nil_iff.mp h with h | h
  · omega
  · exact h

/-- Reading goes on towards the end. -/
theorem size_lt_of_read {limit : Nat} {file rest : OpenFile} {piece : List UInt8}
    (h : file.read limit = .ok (piece, rest)) (hpiece : piece ≠ []) : rest.size < file.size := by
  cases file with
  | directory => cases h
  | file unread =>
    cases h
    have hlength := List.length_pos_iff.mpr hpiece
    simp only [size, List.length_take, List.length_drop] at hlength ⊢
    omega

end OpenFile

/-- A file tree. The root is always a directory. -/
structure Files where
  /-- What stands where; an earlier entry hides a later one of the same location. -/
  nodes : List (Location × Node) := []
  /-- Where relative paths start: the names from the root. -/
  workingDirectory : List String := []
  deriving DecidableEq, Repr

namespace Files

/-- What stands at a location. -/
def node? (t : Files) (spot : Location) : Option Node :=
  if spot = "" then some .directory else t.nodes.lookup spot

/-- The longest file name, in bytes. -/
def maxName : Nat := 255

/-- The longest path, in bytes, is one less than this. -/
def pathLimit : Nat := 4096

/-- Whether a text can be a path at all. -/
def checkPath (p : Path) : Except IoError Unit :=
  if p.text.toList.contains '\x00' then .error .zeroByteInName
  else if p.text = "" then .error .notFound
  else if pathLimit ≤ p.text.utf8ByteSize then .error .nameTooLong
  else .ok ()

/-- Where the walk along a path starts. -/
def start (t : Files) (p : Path) : Trail :=
  if p.isAbsolute then [] else Trail.ofNames t.workingDirectory

/-- One step of a walk: to the named entry of the directory it is in, upwards, or nowhere. -/
def step (t : Files) (trail : Trail) (name : String) : Except IoError Trail :=
  match t.node? trail.here with
  | some .directory =>
    if name = "." then .ok trail
    else if name = ".." then .ok trail.up
    else if maxName < name.utf8ByteSize then .error .nameTooLong
    else .ok (trail.into name)
  | some _ => .error .notADirectory
  | none => .error .notFound

/-- The location that a path leads to. Nothing need stand there, but its directory exists. -/
def locate (t : Files) (p : Path) : Except IoError Location := do
  checkPath p
  return (← p.steps.foldlM t.step (t.start p)).here

/-- What stands at the end of a path. -/
def find (t : Files) (p : Path) : Except IoError Node := do
  match t.node? (← t.locate p) with
  | none => throw .notFound
  | some .directory => return .directory
  | some node => if p.endsInSlash then throw .notADirectory else return node

/-- Whether anything stands at the end of a path. -/
def contains (t : Files) (p : Path) : Bool := (t.find p).isOk

/-- Whether a directory stands at the end of a path. -/
def isDirectory (t : Files) (p : Path) : Bool :=
  match t.find p with
  | .ok .directory => true
  | _ => false

/-- The bytes of a file. -/
def read (t : Files) (p : Path) : Except IoError (List UInt8) := do
  match ← t.find p with
  | .file content => return content
  | .directory => throw .isADirectory
  | .socket => throw .noSuchDevice

/-- Opens a path to read what stands there. Directories can be opened, sockets cannot. -/
def openToRead (t : Files) (p : Path) : Except IoError OpenFile := do
  match ← t.find p with
  | .file content => return .file content
  | .directory => return .directory
  | .socket => throw .noSuchDevice

def readText (t : Files) (p : Path) : Except IoError String := do
  match Utf8.decode? (← t.read p) with
  | some text => return text
  | none => throw .invalidUtf8

/-- The name of the entry at a place in the directory at a location, if it is one. -/
def nameIn? (spot place : Location) : Option String :=
  let front := spot.toList ++ ['/']
  let name := place.toList.drop front.length
  if front.isPrefixOf place.toList && !name.contains '/' then some (String.ofList name) else none

/-- The names of the entries of the directory at a location. -/
def namesIn (t : Files) (spot : Location) : List String :=
  t.nodes.filterMap fun entry => nameIn? spot entry.1

/-- The names of the entries of a directory, in no particular order. -/
def list (t : Files) (p : Path) : Except IoError (List String) := do
  match ← t.find p with
  | .directory => return t.namesIn (← t.locate p)
  | _ => throw .notADirectory

/-- The tree with a node at a location. -/
def put (t : Files) (spot : Location) (node : Node) : Files :=
  { t with nodes := (spot, node) :: t.nodes.filter fun entry => entry.1 ≠ spot }

/-- Writes a file, which is made if it does not exist. If the path ends in a slash it means a
directory, and the directory in which its last name would be looked up is all that has to exist. -/
def write (t : Files) (p : Path) (content : List UInt8) : Except IoError Files := do
  if p.endsInSlash then
    checkPath p
    let _ ← (p.steps.dropLast ++ ["."]).foldlM t.step (t.start p)
    throw .isADirectory
  let place ← t.locate p
  match t.node? place with
  | some .directory => throw .isADirectory
  | some .socket => throw .noSuchDevice
  | _ => return t.put place (.file content)

/-- Walks along some names and makes the directories that are missing. Something else in the way of
a directory to be made exists already; as long as nothing was missing, it stands in the way only of
the step behind it. -/
def makeAlong (t : Files) (trail : Trail) (wasMissing : Bool) :
    List String → Except IoError Files
  | [] => .ok t
  | name :: rest =>
    if name = ".." then t.makeAlong trail.up wasMissing rest
    else if maxName < name.utf8ByteSize then .error .nameTooLong
    else
      let trail := trail.into name
      match t.node? trail.here with
      | some .directory => t.makeAlong trail wasMissing rest
      | none => (t.put trail.here .directory).makeAlong trail true rest
      | some _ => .error (if wasMissing || rest.isEmpty then .alreadyExists else .notADirectory)

/-- Makes a directory and the missing directories around it. -/
def makeDirectories (t : Files) (p : Path) : Except IoError Files := do
  if p.text = "" then return t
  checkPath p
  t.makeAlong (t.start p) false p.names

/-- The tree with a node at a path, and the directories around it. -/
def install (t : Files) (p : Path) (node : Node) : Except IoError Files := do
  let t ← match p.parent? with
    | some around => t.makeDirectories around
    | none => .ok t
  match node with
  | .directory => t.makeDirectories p
  | .file content => t.write p content
  | .socket => return t.put (← t.locate p) .socket

/-- Who answers at the socket at the end of a path, where some sockets have somebody who does. -/
def answerAt {α : Type} (t : Files) (answers : List (Path × α)) (p : Path) : Except IoError α := do
  let place ← t.locate p
  match ← t.find p with
  | .socket =>
    match answers.find? fun entry => (t.locate entry.1).toOption == some place with
    | some (_, answer) => return answer
    | none => throw .connectionRefused
  | _ => throw .connectionRefused

/-! ## Laws -/

theorem node?_put_self (t : Files) {spot : Location} (node : Node) (h : spot ≠ "") :
    (t.put spot node).node? spot = some node := by
  simp [put, node?, h]

/-- What stands elsewhere stays there. -/
theorem node?_put_of_ne (t : Files) {spot other : Location} (node : Node) (h : other ≠ spot) :
    (t.put spot node).node? other = t.node? other := by
  have hb : (other == spot) = false := beq_eq_false_iff_ne.mpr h
  unfold node?
  split
  · rfl
  · simp only [put, List.lookup_cons, hb]
    induction t.nodes with
    | nil => rfl
    | cons entry rest ih =>
      obtain ⟨place, there⟩ := entry
      by_cases hp : place = spot
      · subst hp
        simpa [List.lookup_cons, hb] using ih
      · rw [List.filter_cons_of_pos (by simpa using hp), List.lookup_cons, List.lookup_cons, ih]

end Files

end PocketLink
