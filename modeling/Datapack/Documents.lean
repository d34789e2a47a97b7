import Datapack.FileTree
import Datapack.Ordered
import Datapack.Text.Lines
import Datapack.Text.Percent
import Datapack.Uri.Basic

/-! Where the text of documents comes from. -/

namespace Datapack

open Text

/-- The documents and folders an editor has open. -/
structure Workspace where
  /-- Texts by percent-decoded uri. -/
  documents : Ordered String := []
  /-- Folder uris by percent-decoded uri. -/
  folders : Ordered String := []
  rootPath : Option String := none
  /-- The uris of the notebooks that are open. -/
  notebooks : List String := []

/-- Sources of documents. -/
inductive Documents where
  /-- Texts given by uri, and given folders. -/
  | given (texts : Ordered String) (folders : List Path)
  /-- Files on disk. -/
  | disk (folders : List Path)
  /-- What an editor has open, and files on disk. -/
  | workspace (w : Workspace)
  /-- Any other source. Each of its answers may fail. -/
  | other (text : String → Except Fault (Option String)) (openUris : Except Fault (List String))
      (folders : Except Fault (List Path))

/-- A uri with its escapes read, under which open documents are kept. -/
def decodedUri (uri : String) : String := String.ofList (percentDecode uri.toList)

/-- A text file, with one spelling of line ends. -/
def FileTree.readText (files : FileTree) (p : Path) : Except Fault String := do
  match decodeStrict? (← files.read p) with
  | some cs => .ok (String.ofList (unifyLineEnds cs))
  | none => .error .undecodable

/-- A failure of the operating system means that there is no text. -/
def textOrNone : Except Fault String → Except Fault (Option String)
  | .ok text => .ok (some text)
  | .error (.os _) => .ok none
  | .error e => .error e

/-- Whether the last piece of a path as it is written names something in a directory. -/
def endsInName (path : List Char) : Bool :=
  match (Path.pieces path).getLast? with
  | some piece => piece != [] && piece != ['.']
  | none => false

/-- A text file whose path is used as it is written: one that ends in a slash or a dot names a
directory. -/
def FileTree.openText (files : FileTree) (path : String) : Except Fault String :=
  match files.readText (Path.ofString path) with
  | .ok text => if endsInName path.toList then .ok text else .error (.os .notDirectory)
  | .error e => .error e

/-- The text of the file that a uri names. -/
def FileTree.textOf (files : FileTree) (uri : String) : Except Fault (Option String) := do
  match ← Uri.toPath uri with
  | none => return none
  | some path => textOrNone (files.readText (Path.ofString path))

namespace Documents

/-- The text of a document, if there is one. -/
def text (docs : Documents) (files : FileTree) (uri : String) : Except Fault (Option String) :=
  match docs with
  | given texts _ => .ok (texts.lookup uri)
  | disk _ => files.textOf uri
  | other text _ _ => text uri
  | workspace w =>
    match w.documents.lookup (decodedUri uri) with
    | some text => .ok (some text)
    | none => do textOrNone (files.openText (← Uri.documentPath uri))

/-- The documents that are open. -/
def openUris : Documents → Except Fault (List String)
  | given texts _ => .ok (Ordered.keys texts)
  | disk _ => .ok []
  | workspace w => .ok (Ordered.keys w.documents)
  | other _ openUris _ => openUris

/-- The folders of a workspace that are file uris, or else its root. -/
def workspaceFolders (w : Workspace) : Except Fault (List Path) := do
  let paths ← w.folders.filterMapM fun f => Uri.toPath f.2
  let folders := (paths.filter (!·.isEmpty)).map Path.ofString
  match folders, w.rootPath with
  | [], some root => return if root.isEmpty then [] else [Path.ofString root]
  | _, _ => return folders

/-- The folders that are compiled. -/
def folders : Documents → Except Fault (List Path)
  | given _ folders => .ok folders
  | disk folders => .ok folders
  | workspace w => workspaceFolders w
  | other _ _ folders => folders

end Documents

end Datapack
