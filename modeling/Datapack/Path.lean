/-! File paths in normal form: a root, and the names below it. Repeated slashes, `.` and a slash at
the end vanish; `..` stays. Exactly two slashes in front are a root of their own. -/

namespace Datapack

/-- What a path starts from. -/
inductive PathRoot where
  | relative
  | slash
  | doubleSlash
deriving DecidableEq, Repr

structure Path where
  root : PathRoot
  parts : List String
deriving DecidableEq, Repr

namespace Path

/-- The pieces of a text between slashes. -/
def pieces : List Char → List (List Char)
  | [] => [[]]
  | '/' :: rest => [] :: pieces rest
  | c :: rest =>
    match pieces rest with
    | [] => [[c]]
    | piece :: more => (c :: piece) :: more

/-- Names that count: neither empty nor the directory itself. -/
def names (cs : List Char) : List String :=
  ((pieces cs).filter fun p => p != [] && p != ['.']).map String.ofList

def rootOf (cs : List Char) : PathRoot :=
  match (cs.takeWhile (· == '/')).length with
  | 0 => .relative
  | 2 => .doubleSlash
  | _ => .slash

def ofString (s : String) : Path := ⟨rootOf s.toList, names s.toList⟩

def rootText : PathRoot → String
  | .relative => ""
  | .slash => "/"
  | .doubleSlash => "//"

def toText (p : Path) : String :=
  if p.root = .relative ∧ p.parts = [] then "."
  else rootText p.root ++ String.intercalate "/" p.parts

instance : ToString Path := ⟨toText⟩

def isAbsolute (p : Path) : Bool := p.root != .relative

/-- The second path seen from the first: a path with a root replaces it. -/
def join (p q : Path) : Path :=
  if q.isAbsolute then q else ⟨p.root, p.parts ++ q.parts⟩

/-- `join` with a path given as text. -/
def child (p : Path) (s : String) : Path := p.join (ofString s)

/-- The root directory, in which programs start. -/
def rootDirectory : Path := ⟨.slash, []⟩

/-- Resolves `..` against the names before it; what stands above the root is dropped. -/
def collapse : List String → List String → List String
  | seen, [] => seen.reverse
  | seen, ".." :: rest => collapse (seen.drop 1) rest
  | seen, name :: rest => collapse (name :: seen) rest

/-- The absolute path without `..`, seen from the root directory. -/
def resolve (p : Path) : Path := ⟨.slash, collapse [] p.parts⟩

/-- The last name. -/
def name (p : Path) : String := p.parts.getLast?.getD ""

/-- The ending of the last name: its last dot and what follows, if there is something on both
sides of the dot. -/
def suffix (p : Path) : String :=
  let cs := p.name.toList
  let tail := cs.reverse.takeWhile (· != '.')
  if 0 < tail.length ∧ tail.length + 1 < cs.length then String.ofList ('.' :: tail.reverse) else ""

end Path

end Datapack
