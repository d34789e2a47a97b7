import Datapack.Uri.Host

/-! File uris: from paths, back to paths, and the folder test on them. -/

namespace Datapack.Uri

open Datapack.Text

/-- `/X:` in front, with an ASCII letter: the path of a drive. -/
def isDrivePath : List Char → Bool
  | '/' :: c :: ':' :: _ => c.isAlpha
  | _ => false

/-- Lowers the letter of a drive path. -/
def lowerDrive : List Char → List Char
  | '/' :: c :: ':' :: rest => if c.isAlpha then '/' :: c.toLower :: ':' :: rest else '/' :: c :: ':' :: rest
  | cs => cs

/-- Takes the authority off a path: after two slashes, up to the next one. -/
def splitAuthority : List Char → Except Fault (List Char × List Char)
  | '/' :: '/' :: rest =>
    if rest.contains '/' then .ok (rest.takeWhile (· != '/'), rest.dropWhile (· != '/'))
    else .error .noShare
  | cs => .ok ([], cs)

/-- Escapes a path, but for the colon of a drive. -/
def quotePath (cs : List Char) : List Char :=
  if isDrivePath cs then cs.take 3 ++ percentEncode (cs.drop 3) else percentEncode cs

/-- The uri of a path, on characters. -/
def ofPathChars (cs : List Char) : Except Fault (List Char) := do
  let (authority, path) ← splitAuthority cs
  let rooted := if path.head? = some '/' then path else '/' :: path
  let quoted := quotePath (lowerDrive rooted)
  if authority = [] ∧ ['/', '/'].isPrefixOf quoted then return "file:".toList ++ quoted
  else return "file://".toList ++ percentEncode authority ++ quoted

/-- The uri of a path. -/
def ofPath (path : String) : Except Fault String := (ofPathChars path.toList).map String.ofList

/-- A uri taken apart, before escapes are read. -/
structure Parts where
  scheme : List Char
  authority : List Char
  path : List Char
deriving DecidableEq, Repr

/-- Characters of a scheme. -/
def isSchemeChar (c : Char) : Bool := c.isAlphanum || c == '+' || c == '-' || c == '.'

/-- Splits a scheme off, if there is one. -/
def splitScheme (cs : List Char) : List Char × List Char :=
  let scheme := cs.takeWhile (· != ':')
  match cs.dropWhile (· != ':') with
  | ':' :: rest =>
    if (scheme.head?.map Char.isAlpha).getD false && scheme.all isSchemeChar then
      (scheme.map Char.toLower, rest)
    else ([], cs)
  | _ => ([], cs)

/-- Characters that are a delimiter, or part of one, when written in compatibility form. -/
def isDelimiterLookalike (c : Char) : Bool :=
  [0x2047, 0x2048, 0x2049, 0x2100, 0x2101, 0x2105, 0x2106, 0x2A74, 0xFE13, 0xFE16, 0xFE55, 0xFE56,
   0xFE5F, 0xFE6B, 0xFF03, 0xFF0F, 0xFF1A, 0xFF1F, 0xFF20].contains c.toNat

/-- The host and port of an authority: what follows its last at sign. -/
def hostAndPort (authority : List Char) : List Char :=
  (authority.reverse.takeWhile (· != '@')).reverse

/-- The host of an authority that holds brackets. Nothing stands before a host in brackets, and
after it only a port. -/
def bracketedHost (authority : List Char) : Except Fault (List Char) :=
  let place := hostAndPort authority
  match place.dropWhile (· != '[') with
  | [] => .ok (place.takeWhile (· != ':'))
  | _ :: inner =>
    let port := (inner.dropWhile (· != ']')).drop 1
    if place.head? != some '[' || (port != [] && port.head? != some ':') then .error .badBrackets
    else .ok (inner.takeWhile (· != ']'))

/-- Brackets in an authority come in pairs around an address. -/
def checkBrackets (authority : List Char) : Except Fault Unit :=
  match authority.contains '[', authority.contains ']' with
  | true, true => bracketedHost authority >>= checkBracketed
  | false, false => .ok ()
  | _, _ => .error .badBrackets

/-- An authority holds nothing that looks like a delimiter. -/
def checkLookalikes (authority : List Char) : Except Fault Unit :=
  if authority.any isDelimiterLookalike then .error (.lookalike (String.ofList authority))
  else .ok ()

def isAuthorityEnd (c : Char) : Bool := c == '/' || c == '?' || c == '#'

/-- Takes a uri apart. Leading controls and blanks, and tabs and line ends anywhere, do not count;
query and fragment are dropped. -/
def split (cs : List Char) : Except Fault Parts := do
  let cs := (cs.dropWhile (·.toNat ≤ 0x20)).filter fun c => c != '\t' && c != '\r' && c != '\n'
  let (scheme, rest) := splitScheme cs
  let (authority, rest) :=
    if ['/', '/'].isPrefixOf rest then
      ((rest.drop 2).takeWhile (!isAuthorityEnd ·), (rest.drop 2).dropWhile (!isAuthorityEnd ·))
    else ([], rest)
  checkBrackets authority
  checkLookalikes authority
  return ⟨scheme, authority, (rest.takeWhile (· != '#')).takeWhile (· != '?')⟩

/-- The path that the parts of a file uri name. -/
def Parts.toPath (p : Parts) : Option (List Char) :=
  let authority := percentDecode p.authority
  let path := percentDecode p.path
  if percentDecode p.scheme ≠ "file".toList then none
  else if authority ≠ [] ∧ path ≠ [] then some ('/' :: '/' :: authority ++ path)
  else if isDrivePath path then some ((lowerDrive path).drop 1)
  else some path

/-- The schemes whose last path segment may have parameters after a semicolon. -/
def schemesWithParameters : List String :=
  ["", "ftp", "hdl", "prospero", "http", "imap", "https", "shttp", "rtsp", "rtsps", "rtspu", "sip",
   "sips", "mms", "sftp", "tel"]

/-- A path without the parameters of its last segment. -/
def dropParameters (path : List Char) : List Char :=
  let segment := (path.reverse.takeWhile (· != '/')).reverse
  path.take (path.length - segment.length) ++ segment.takeWhile (· != ';')

/-- The path that the parts of any uri name: other uris than file uris name their path part. -/
def Parts.anyPath (p : Parts) : List Char :=
  match p.toPath with
  | some path => path
  | none =>
    percentDecode <|
      if schemesWithParameters.contains (String.ofList p.scheme) then dropParameters p.path
      else p.path

/-- The path of a file uri, on characters; `none` for other uris. -/
def toPathChars (cs : List Char) : Except Fault (Option (List Char)) := (split cs).map Parts.toPath

/-- The path of a file uri; `none` for other uris. -/
def toPath (uri : String) : Except Fault (Option String) :=
  (toPathChars uri.toList).map fun p => p.map String.ofList

/-- The path under which a document is looked for, whatever the scheme of its uri. -/
def documentPath (uri : String) : Except Fault String :=
  (split uri.toList).map fun p => String.ofList p.anyPath

/-- Whether a uri lies within a folder's uri: it starts with it and a slash, where slashes at the
end of the folder's uri do not count. -/
def isInside (uri folder : String) : Bool :=
  (dropEndWhile (· == '/') folder.toList ++ ['/']).isPrefixOf uri.toList

end Datapack.Uri
