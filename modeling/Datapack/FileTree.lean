import Datapack.Fault
import Datapack.Path
import Datapack.Text.Utf8

/-! A tree of files, as far as programs here read and write one. -/

namespace Datapack

inductive FileNode where
  | file (bytes : Text.Bytes)
  | directory
deriving DecidableEq, Repr

/-- Files and directories by the names that lead to them from the root, which is always there. -/
structure FileTree where
  nodes : List (List String × FileNode) := []

namespace FileTree

def node? (t : FileTree) (names : List String) : Option FileNode :=
  if names = [] then some .directory else t.nodes.lookup names

/-- The longest name a directory can hold, in bytes. -/
def maxNameLength : Nat := 255

/-- Follows names from a directory. All names but the last must lead to directories. -/
def locate (t : FileTree) (seen : List String) : List String → Except OsError (List String)
  | [] => .ok seen
  | name :: rest =>
    match t.node? seen with
    | none => .error .notFound
    | some (.file _) => .error .notDirectory
    | some .directory =>
      if maxNameLength < name.utf8ByteSize then .error .nameTooLong
      else if name = ".." then locate t seen.dropLast rest
      else locate t (seen ++ [name]) rest

/-- The longest path that can be asked for, in bytes. -/
def maxPathLength : Nat := 4095

/-- The place a path names. A null character names none. -/
def place (t : FileTree) (p : Path) : Except Fault (List String) :=
  if p.parts.any (·.toList.contains (Char.ofNat 0)) then .error .nullInPath
  else if maxPathLength < p.toText.utf8ByteSize then .error (.os .nameTooLong)
  else (t.locate [] p.parts).mapError Fault.os

def read (t : FileTree) (p : Path) : Except Fault Text.Bytes := do
  let names ← t.place p
  match t.node? names with
  | none => .error (.os .notFound)
  | some .directory => .error (.os .isDirectory)
  | some (.file bytes) => .ok bytes

def erase (t : FileTree) (names : List String) : FileTree :=
  ⟨t.nodes.filter fun n => n.1 != names⟩

/-- Puts a node in its place; the directories above it are made. -/
def insert (t : FileTree) (names : List String) (node : FileNode) : FileTree :=
  let above := (List.range names.length).filterMap fun n =>
    if n = 0 ∨ (t.node? (names.take n)).isSome then none else some (names.take n, FileNode.directory)
  ⟨above ++ (t.erase names).nodes ++ [(names, node)]⟩

/-- Writes a file into a directory that is there. -/
def write (t : FileTree) (p : Path) (bytes : Text.Bytes) : Except Fault FileTree := do
  let names ← t.place p
  match t.node? names with
  | some .directory => .error (.os .isDirectory)
  | _ =>
    match t.node? names.dropLast with
    | some .directory => .ok (t.insert names (.file bytes))
    | some (.file _) => .error (.os .notDirectory)
    | none => .error (.os .notFound)

/-- Removes a file; that there is none is no failure. -/
def remove (t : FileTree) (p : Path) : Except Fault FileTree :=
  match t.place p with
  | .error (.os .notFound) => .ok t
  | .error e => .error e
  | .ok names =>
    match t.node? names with
    | none => .ok t
    | some .directory => .error (.os .isDirectory)
    | some (.file _) => .ok (t.erase names)

end FileTree

end Datapack
