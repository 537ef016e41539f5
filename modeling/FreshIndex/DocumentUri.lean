import FreshIndex.FilePath
import FreshIndex.Url.Basic

/-!
This module contains the identities of documents. A file is known by the normal form of its path,
any other document by the text of its URL; links are not followed.
-/

namespace FreshIndex

open Text

/-- The identity of a document. The path of a file is in its normal form. -/
inductive DocumentUri
  | file (path : FilePath)
  | other (address : String)
  deriving Repr, DecidableEq

inductive DocumentUriError
  | malformed (text : String) (cause : Url.UrlError)
  | notLocal (text : String)
  deriving Repr, DecidableEq

def DocumentUriError.message : DocumentUriError → String
  | malformed text cause => "Invalid document URI: " ++ text ++ ": " ++ cause.message
  | notLocal text => "Invalid document URI: " ++ text ++ ": not a local file path"

namespace DocumentUri

def ofPath (p : FilePath) : DocumentUri :=
  file p.normalize

def ofPathText (s : String) : DocumentUri :=
  ofPath (.ofText s)

def parse (s : String) : Except DocumentUriError DocumentUri :=
  match Url.parse s with
  | .error cause => .error (.malformed s cause)
  | .ok url =>
    if Url.Family.ofScheme url.scheme = .file then
      match url.localPath? with
      | some octets => .ok (ofPath ⟨octets⟩)
      | none => .error (.notLocal s)
    else
      .ok (other url.text)

def filePath? : DocumentUri → Option FilePath
  | file path => some path
  | other _ => none

/-- A text that serves as a path in an index for every document. -/
def pseudoPath : DocumentUri → String
  | file path => path.text
  | other address => address

def fileAddress (p : FilePath) : String :=
  let segments := p.names.map (Percent.encodeOctets Percent.segment)
  let path := Url.joinSegments (if segments.isEmpty then [[]] else segments)
  "file://" ++ String.ofList path

/-- The text of a document's identity: its URL, or the path of a file that is not absolute. -/
def display : DocumentUri → String
  | file path => if path.isAbsolute then fileAddress path else path.text
  | other address => address

/--
Files come first, in the order of their components; other documents follow in the order of texts.
-/
instance : Ord DocumentUri where
  compare
    | file p, file q => compare p.components q.components
    | file _, other _ => .lt
    | other _, file _ => .gt
    | other a, other b => compare (octets a) (octets b)

end DocumentUri

end FreshIndex
