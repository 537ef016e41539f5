import FreshIndex.Url.Host
import FreshIndex.Url.Path

/-!
This module contains URLs, their reading and their text. Reading drops blanks and controls around
the text and line breaks within it, writes scheme and domain in lower case, drops a port that is the
default one, follows dot segments, and escapes what has to be escaped; so texts that mean the same
are mostly read as one URL.
-/

namespace FreshIndex

open Text

namespace Url

/-- What the syntax of a URL depends on in its scheme. -/
inductive Family
  | file
  | special (defaultPort : Nat)
  | plain
  deriving Repr, DecidableEq

def Family.ofScheme (scheme : List Char) : Family :=
  match String.ofList scheme with
  | "file" => file
  | "http" | "ws" => special 80
  | "https" | "wss" => special 443
  | "ftp" => special 21
  | _ => plain

/-- Whether a backslash stands for a slash and a path is always there. -/
def Family.isSpecial : Family → Bool
  | plain => false
  | _ => true

def Family.isSlash (family : Family) (c : Char) : Bool :=
  c == '/' || (c == '\\' && family.isSpecial)

structure Authority where
  user : List Char
  password : Option (List Char)
  host : Host
  port : Option Nat
  deriving Repr, DecidableEq

inductive Path
  | segments (parts : List (List Char))
  | flat (cs : List Char)
  deriving Repr, DecidableEq

def Path.text : Path → List Char
  | segments parts => joinSegments parts
  | flat cs => cs

end Url

structure Url where
  scheme : List Char
  authority : Option Url.Authority
  path : Url.Path
  query : Option (List Char)
  fragment : Option (List Char)
  deriving Repr, DecidableEq

namespace Url

def Authority.text (a : Authority) : List Char :=
  let password := (a.password.map (':' :: ·)).getD []
  let credentials := a.user ++ password
  let port := (a.port.map fun n => ':' :: Nat.toDigits 10 n).getD []
  credentials ++ (if credentials.isEmpty then [] else ['@']) ++ a.host.text ++ port

/--
The text of a URL. A path that starts with two slashes gets a dot segment in front when there is no
authority, or it would be read as one.
-/
def text (u : Url) : String :=
  let path := u.path.text
  let place :=
    match u.authority with
    | some a => '/' :: '/' :: (a.text ++ path)
    | none => if ['/', '/'].isPrefixOf path then '/' :: '.' :: path else path
  let query := (u.query.map ('?' :: ·)).getD []
  let fragment := (u.fragment.map ('#' :: ·)).getD []
  String.ofList (u.scheme ++ ':' :: (place ++ query ++ fragment))

/-- The octets of the path that a `file` URL of this machine names. -/
def localPath? (u : Url) : Option Octets :=
  match u.authority, u.path with
  | some ⟨_, _, .empty, _⟩, .segments parts =>
    some (parts.flatMap fun s => String.utf8EncodeChar '/' ++ Percent.decode s)
  | _, _ => none

namespace Reader

def trimmed (cs : List Char) : List Char :=
  let isEdge (c : Char) : Bool := c.toNat ≤ 0x20
  ((cs.dropWhile isEdge).reverse.dropWhile isEdge).reverse

def scheme? (cs : List Char) : Option (List Char × List Char) :=
  let isSchemeChar (c : Char) : Bool := c.isAlphanum || c == '+' || c == '-' || c == '.'
  match cs with
  | c :: _ =>
    if c.isAlpha then
      match cs.dropWhile isSchemeChar with
      | ':' :: rest => some ((cs.takeWhile isSchemeChar).map Char.toLower, rest)
      | _ => none
    else
      none
  | [] => none

def endsPath (c : Char) : Bool :=
  c == '?' || c == '#'

def queryAndFragment (family : Family) (cs : List Char) :
    Option (List Char) × Option (List Char) :=
  let escaped := if family.isSpecial then Percent.specialQuery else Percent.query
  let fragment (cs : List Char) : Option (List Char) :=
    match cs with
    | '#' :: rest => some (Percent.encode Percent.fragment rest)
    | _ => none
  match cs with
  | '?' :: rest =>
    (some (Percent.encode escaped (rest.takeWhile (· != '#'))),
      fragment (rest.dropWhile (· != '#')))
  | _ => (none, fragment cs)

/-- The path after its first slash, which `cs` starts with, and what follows the path. -/
def trail (family : Family) (cs : List Char) : Trail × List Char :=
  (Trail.along (family == .file) ((cs.takeWhile (!endsPath ·)).splitOnP family.isSlash),
    cs.dropWhile (!endsPath ·))

/-- The path after its first slash in a URL that is not a `file` URL, and what follows the path. -/
def segments (family : Family) (cs : List Char) : Path × List Char :=
  let (t, rest) := trail family cs
  (.segments t.segments, rest)

def pathAfterAuthority (family : Family) (cs : List Char) : Path × List Char :=
  match cs with
  | [] => if family.isSpecial then segments family [] else (.segments [], [])
  | c :: rest =>
    if family.isSlash c then segments family rest
    else if endsPath c && !family.isSpecial then (.segments [], cs)
    else segments family cs

def credentials (family : Family) (cs : List Char) :
    Except UrlError ((List Char × Option (List Char)) × List Char) :=
  let ends (c : Char) : Bool := family.isSlash c || endsPath c
  let authority := cs.takeWhile (!ends ·)
  match authority.reverse.dropWhile (· != '@') with
  | [] => .ok (([], none), cs)
  | _ :: before =>
    let info := before.reverse
    let rest := cs.drop (info.length + 1)
    if info.isEmpty ∧ (rest.head?.map ends).getD false then
      .error .emptyHost
    else
      let user := Percent.encode Percent.userInfo (info.takeWhile (· != ':'))
      let password :=
        match info.dropWhile (· != ':') with
        | ':' :: c :: more => some (Percent.encode Percent.userInfo (c :: more))
        | _ => none
      .ok ((user, password), rest)

/-- The length of the host that `cs` start with; a colon between brackets belongs to it. -/
def hostLength (family : Family) (inBrackets : Bool) : (cs : List Char) → Nat
  | [] => 0
  | c :: rest =>
    if (c == ':' && !inBrackets) || family.isSlash c || endsPath c then 0
    else 1 + hostLength family (c == '[' || (c != ']' && inBrackets)) rest

def port (family : Family) (cs : List Char) : Except UrlError (Option Nat × List Char) :=
  let digits := cs.takeWhile Char.isDigit
  let rest := cs.dropWhile Char.isDigit
  let number := Numeral.ofDigits 10 digits
  let endsPort (c : Char) : Bool := c == '/' || c == '\\' || endsPath c
  if 65535 < number ∨ !(rest.head?.map endsPort).getD true then
    .error .invalidPort
  else
    let isDefault := digits.isEmpty || family == .special number
    .ok (if isDefault then none else some number, rest)

def authority (family : Family) (cs : List Char) : Except UrlError (Authority × List Char) := do
  let ((user, password), cs) ← credentials family cs
  let length := hostLength family false cs
  let (hostText, cs) := (cs.take length, cs.drop length)
  if family.isSpecial ∧ hostText.isEmpty then
    throw .emptyHost
  let host ← if family.isSpecial then Host.parseSpecial hostText else Host.parsePlain hostText
  let hasCredentials := !user.isEmpty || password.isSome
  match cs with
  | ':' :: rest =>
    if host = .empty then
      throw .emptyHost
    let (port, rest) ← port family rest
    return (⟨user, password, host, port⟩, rest)
  | _ =>
    if host = .empty ∧ hasCredentials then
      throw .emptyHost
    return (⟨user, password, host, none⟩, cs)

def afterSlash? (cs : List Char) : Option (List Char) :=
  match cs.dropWhile isBreak with
  | c :: rest => if Family.file.isSlash c then some rest else none
  | [] => none

/--
The host of a `file` URL that `cs` start with, and its path. The slash after a host belongs to
neither; without one, it belongs to the path, which so starts with an empty segment. A drive in the
place of a host belongs to the path too.
-/
def fileHost (cs : List Char) : Except UrlError (Host × List Char) :=
  let ends (c : Char) : Bool := Family.file.isSlash c || endsPath c
  let hostText := unbroken (cs.takeWhile (!ends ·))
  let path := cs.dropWhile (!ends ·)
  if (drive? hostText).isSome then .ok (.empty, cs)
  else if hostText.isEmpty then .ok (.empty, path)
  else do
    let host ← Host.parseSpecial hostText
    let isLocal := host.text = ['l', 'o', 'c', 'a', 'l', 'h', 'o', 's', 't']
    return if isLocal then (.empty, path) else (host, (afterSlash? path).getD path)

def filePlace (cs : List Char) : Except UrlError (Host × List Char) :=
  match afterSlash? cs with
  | none => .ok (.empty, cs)
  | some path =>
    match afterSlash? path with
    | none => .ok (.empty, path)
    | some place => fileHost place

/--
A `file` URL after its colon; breaks are still there. All slashes in front of the path count as one,
and a path that starts at a drive is on this machine.
-/
def fileUrl (scheme cs : List Char) : Except UrlError Url := do
  let (host, rest) ← filePlace cs
  let (t, rest) := trail .file rest
  let host := if t.hasDrive then .empty else host
  let parts := t.segments.dropWhile List.isEmpty
  let path := Path.segments (if parts.isEmpty then [[]] else parts)
  let (query, fragment) := queryAndFragment .file (unbroken rest)
  return { scheme, authority := some ⟨[], none, host, none⟩, path, query, fragment }

def withAuthority (family : Family) (scheme cs : List Char) : Except UrlError Url := do
  let (authority, rest) ← authority family cs
  let (path, rest) := pathAfterAuthority family rest
  let (query, fragment) := queryAndFragment family rest
  return { scheme, authority := some authority, path, query, fragment }

def withoutAuthority (scheme cs : List Char) : Url :=
  let (path, rest) :=
    match cs with
    | '/' :: rest => segments .plain rest
    | _ =>
      (Path.flat (Percent.encode Percent.control (cs.takeWhile (!endsPath ·))),
        cs.dropWhile (!endsPath ·))
  let (query, fragment) := queryAndFragment .plain rest
  { scheme, authority := none, path, query, fragment }

end Reader

def parse (s : String) : Except UrlError Url :=
  let text := Reader.trimmed s.toList
  match Reader.scheme? (unbroken text) with
  | none => .error .noScheme
  | some (scheme, rest) =>
    match Family.ofScheme scheme with
    | .file => Reader.fileUrl scheme ((text.dropWhile (· != ':')).drop 1)
    | .special port =>
      let family := Family.special port
      Reader.withAuthority family scheme (rest.dropWhile family.isSlash)
    | .plain =>
      match rest with
      | '/' :: '/' :: rest => Reader.withAuthority .plain scheme rest
      | _ => .ok (Reader.withoutAuthority scheme rest)

end Url

end FreshIndex
