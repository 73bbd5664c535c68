import Tenancy.Text.Form
import Tenancy.Web.Host
import Tenancy.Web.Path

/-!
URLs as clients read and write them. Reading is lenient and normalises: blanks around and line
breaks inside are dropped, scheme and host are in small letters, the default port is left out, dot
segments are resolved, and characters that may not stand for themselves are percent-encoded.
-/

namespace Tenancy.Web

structure Url where
  scheme : String
  /-- The user and the password that stand before the host, not both empty. -/
  user : Option (List Char × List Char)
  /-- The host, if the URL may have one; then it may still be empty. -/
  host : Option (List Char)
  port : Option Nat
  path : List Char
  query : Option (List Char)
  fragment : Option (List Char)
  deriving DecidableEq, Repr

namespace Url

open Web.Path (isSlash)
open Text.Percent (keeps)

/-- The schemes of the web but that for files, with their default ports. -/
def defaultPort? : String → Option Nat
  | "http" => some 80
  | "ws" => some 80
  | "https" => some 443
  | "wss" => some 443
  | "ftp" => some 21
  | _ => none

def isFile (scheme : String) : Bool := scheme = "file"

def isWeb (scheme : String) : Bool := isFile scheme || (defaultPort? scheme).isSome

def keepsInFragment : Char → Bool := keeps " \"<>\x60".toList

def keepsInQuery (web : Bool) : Char → Bool :=
  keeps (if web then " \"#<>'".toList else " \"#<>".toList)

def keepsInUser : Char → Bool := keeps " \"#<>?\x60\x7b\x7d/:;=@[\\]^|".toList

/-- Drops controls and spaces around a text, and tabs and line breaks inside. -/
def strip (text : List Char) : List Char :=
  let outer (character : Char) : Bool := character.toNat ≤ 0x20
  (((text.dropWhile outer).reverse.dropWhile outer).reverse).filter fun character =>
    character != '\t' && character != '\n' && character != '\r'

def scheme? (text : List Char) : Option (String × List Char) :=
  let isPart (character : Char) : Bool :=
    character.isAlphanum || character == '+' || character == '-' || character == '.'
  match text.takeWhile isPart, text.dropWhile isPart with
  | first :: rest, ':' :: after =>
      if first.isAlpha then some (String.ofList (Name.lower (first :: rest)), after) else none
  | _, _ => none

def splitLast? (isCut : Char → Bool) (text : List Char) : Option (List Char × List Char) :=
  let reversed := text.reverse
  let after := reversed.takeWhile fun character => !isCut character
  match reversed.dropWhile fun character => !isCut character with
  | _ :: before => some (before.reverse, after.reverse)
  | [] => none

/-- The text of a host, which a colon outside of brackets ends. -/
def hostText (bracketed : Bool) : List Char → List Char
  | [] => []
  | character :: rest =>
      if character = ':' && !bracketed then []
      else character :: hostText (character = '[' || bracketed && character ≠ ']') rest

/-- The port after a host's text, none if it is left out, and what follows it. Only a backslash
may. -/
def port? : List Char → Option (Option Nat × List Char)
  | ':' :: text => do
      let digits := text.takeWhile Char.isDigit
      let number ← (Text.numberOf? 10 digits).filter (· < 65536)
      let rest := text.drop digits.length
      if rest.head?.all (· = '\\') then
        some (if digits.isEmpty then none else some number, rest)
      else none
  | rest => some (none, rest)

structure Authority where
  user : Option (List Char × List Char)
  host : List Char
  port : Option Nat
  deriving DecidableEq, Repr

/-- Reads an authority, and gives what of it belongs to the path. Outside of the web the host may be
empty if nothing stands beside it. -/
def authority? (scheme : String) (text : List Char) : Option (Authority × List Char) := do
  let (user, location) :=
    match splitLast? (· == '@') text with
    | some (user, location) => (some user, location)
    | none => (none, text)
  let credentials := (user.map fun text =>
    let name := text.takeWhile (· != ':')
    (Text.Percent.encode keepsInUser name,
      Text.Percent.encode keepsInUser (text.drop (name.length + 1)))).filter (· ≠ ([], []))
  let named := hostText false location
  if named.isEmpty then
    if isWeb scheme || credentials.isSome || user = some [] || !location.isEmpty then none
    else some (⟨none, [], none⟩, [])
  else
    let (port, rest) ← port? (location.drop named.length)
    let host ← Host.read? (isWeb scheme) named
    some (⟨credentials, host, if port = defaultPort? scheme then none else port⟩, rest)

/-- Host and path of a file. The host of the machine itself is not written, and a drive is none. -/
def file? (text : List Char) : Option (List Char × List Char) :=
  let slashes := text.takeWhile (isSlash true)
  if slashes.length < 2 then some (Path.ofFile [] (text.drop slashes.length))
  else
    let opened := text.drop 2
    let named := opened.takeWhile fun character => !isSlash true character
    let path := opened.drop (named.length + 1)
    if Path.isDrive named then some (Path.ofFile [] opened)
    else if named.isEmpty then some (Path.ofFile [] path)
    else (Host.read? true named).map fun host =>
      Path.ofFile (if host = "localhost".toList then [] else host) path

/-- What follows a mark up to the end, none if the mark is missing; and what stands before it. -/
def splitOff (mark : Char) (text : List Char) : List Char × Option (List Char) :=
  let before := text.takeWhile (· != mark)
  if before.length < text.length then (before, some (text.drop (before.length + 1)))
  else (before, none)

/-- What follows the slashes that open an authority. On the web any number of them does. -/
def opened? (web : Bool) (text : List Char) : Option (List Char) :=
  if web then some (text.dropWhile (isSlash web))
  else match text with
  | '/' :: '/' :: rest => some rest
  | _ => none

/-- The part of a URL between scheme and query: authority and path. A path that neither follows an
authority nor begins with a slash is not divided. -/
def hierarchy? (scheme : String) (text : List Char) :
    Option (Option Authority × List Char) :=
  let web := isWeb scheme
  if isFile scheme then
    (file? text).map fun (host, path) => (some ⟨none, host, none⟩, path)
  else match opened? web text with
  | some rest => do
      let location := rest.takeWhile fun character => !isSlash web character
      let (authority, left) ← authority? scheme location
      return (some authority, Path.written web (left ++ rest.drop location.length))
  | none =>
      if text.head? = some '/' then some (none, Path.written web text)
      else some (none, Text.Percent.encode (keeps []) text)

def read? (text : String) : Option Url := do
  let (scheme, afterScheme) ← scheme? (strip text.toList)
  let (beforeFragment, fragment) := splitOff '#' afterScheme
  let (beforeQuery, query) := splitOff '?' beforeFragment
  let (authority, path) ← hierarchy? scheme beforeQuery
  return {
    scheme
    user := authority.bind (·.user)
    host := authority.map (·.host)
    port := authority.bind (·.port)
    path
    query := query.map (Text.Percent.encode (keepsInQuery (isWeb scheme)))
    fragment := fragment.map (Text.Percent.encode keepsInFragment) }

/-- What stands between scheme and path. A path that could be taken for a host is kept apart. -/
def writeAuthority (url : Url) : List Char :=
  match url.host with
  | none => if url.path.take 2 = ['/', '/'] then "/.".toList else []
  | some host =>
      let user := match url.user with
        | none => []
        | some (name, []) => name ++ ['@']
        | some (name, password) => name ++ ':' :: password ++ ['@']
      let port := match url.port with
        | none => []
        | some port => ':' :: (toString port).toList
      "//".toList ++ user ++ host ++ port

/-- The part of a URL that names what is asked for at its host. -/
def target (url : Url) : List Char :=
  url.path ++ (match url.query with
    | none => []
    | some query => '?' :: query)

def write (url : Url) : String :=
  String.ofList (url.scheme.toList ++ ':' :: url.writeAuthority ++ url.target ++
    (match url.fragment with
    | none => []
    | some fragment => '#' :: fragment))

/-- Adds a pair to the query, in form encoding. -/
def withPair (url : Url) (name value : String) : Url :=
  let pair := Text.Form.encodePair name value
  { url with
    query := match url.query with
      | none => some pair
      | some [] => some pair
      | some query => some (query ++ '&' :: pair) }

end Url

end Tenancy.Web
