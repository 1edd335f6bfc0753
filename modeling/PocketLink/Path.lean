/-!
# Local paths

A path is a text, shown exactly as it was given or put together. Slashes divide it into parts. Empty
parts mean nothing, and single dots stay where they are; the other parts are names, except that two
dots lead upwards.
-/

namespace PocketLink

/-- A path on the local file system. -/
structure Path where
  /-- The path as it is shown. -/
  text : String
  deriving DecidableEq, Repr

namespace Path

/-- Whether the path starts at the root. -/
def isAbsolute (p : Path) : Bool := p.text.toList.head? = some '/'

/-- The path that leads on from `p` by `rest`. An absolute `rest` stands for itself. -/
def join (p : Path) (rest : String) : Path :=
  if Path.isAbsolute ⟨rest⟩ then ⟨rest⟩
  else match p.text.toList.getLast? with
    | none => ⟨rest⟩
    | some '/' => ⟨p.text ++ rest⟩
    | some _ => ⟨p.text ++ "/" ++ rest⟩

/-- The parts of a text between the given characters, behind the part read so far in reverse. -/
def splitFrom (mark : Char) (before : List Char) : List Char → List (List Char)
  | [] => [before.reverse]
  | c :: cs =>
    if c = mark then before.reverse :: splitFrom mark [] cs else splitFrom mark (c :: before) cs

/-- The parts of the text between slashes. -/
def parts (p : Path) : List String :=
  (splitFrom '/' [] p.text.toList).map String.ofList

/-- The parts that a walk along the path takes, one by one. -/
def steps (p : Path) : List String := p.parts.filter fun part => part ≠ ""

/-- The steps that lead somewhere. -/
def names (p : Path) : List String := p.steps.filter fun part => part ≠ "."

/-- Whether the path ends in a slash, and so can only mean a directory. -/
def endsInSlash (p : Path) : Bool := p.text.toList.getLast? = some '/'

/-- The last name, unless the path ends in a step upwards or has no names. -/
def fileName? (p : Path) : Option String :=
  match p.names.getLast? with
  | some ".." => none
  | last => last

/-- Parts without those at the end that lead nowhere. -/
def trimmed (parts : List String) : List String :=
  (parts.reverse.dropWhile fun part => part = "" || part = ".").reverse

/-- The path of the directory around it: the text before the last name, or before a single dot that
is all there is. The root and the empty path have none. -/
def parent? (p : Path) : Option Path :=
  match p.parts with
  | [] => none
  | first :: rest =>
    match (trimmed rest).reverse with
    | [] => if first = "" then none else some ⟨""⟩
    | _ :: before =>
      let text := "/".intercalate (first :: trimmed before.reverse)
      some ⟨if text = "" then "/" else text⟩

/-- The part of a file name behind its last dot, if something stands before that dot. -/
def extension? (name : String) : Option String :=
  match (splitFrom '.' [] name.toList).reverse with
  | last :: before@(_ :: _) =>
    if before.all List.isEmpty && before.length = 1 then none else some (String.ofList last)
  | _ => none

end Path

end PocketLink
