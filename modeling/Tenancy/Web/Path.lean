import Tenancy.Text.Cut
import Tenancy.Text.Percent
import Tenancy.Web.Name

/-!
Paths of URLs: segments behind slashes, from which dot segments are resolved.
-/

namespace Tenancy.Web.Path

/-- On the web a backslash is a slash too. -/
def isSlash (web : Bool) (character : Char) : Bool :=
  character == '/' || web && character == '\\'

def keepsInSegment : Char → Bool :=
  Text.Percent.keeps " \"#<>?\x60\x7b\x7d".toList

def isSingleDot (segment : List Char) : Bool :=
  [".", "%2e"].contains (String.ofList (Name.lower segment))

def isDoubleDot (segment : List Char) : Bool :=
  ["..", ".%2e", "%2e.", "%2e%2e"].contains (String.ofList (Name.lower segment))

def isDrive : List Char → Bool
  | [letter, mark] => letter.isAlpha && (mark = ':' || mark = '|')
  | _ => false

/-- The path above; a drive is never left. -/
def parent : List (List Char) → List (List Char)
  | [] => []
  | segment :: path => if isDrive segment then segment :: path else path

/-- The written form of a segment. The drive at the head of a file's path is marked by a colon. -/
def writeSegment (drive : Bool) (segment : List Char) : List Char :=
  if drive && isDrive segment then segment.take 1 ++ [':']
  else Text.Percent.encode keepsInSegment segment

/-- Adds segments to a path, latest first. A dot segment adds nothing, a double one also takes the
segment before it away; at the end both leave an empty segment. -/
def resolve (file : Bool) (path : List (List Char)) : List (List Char) → List (List Char)
  | [] => path
  | segment :: rest =>
      let stem := if isDoubleDot segment then parent path else path
      if isSingleDot segment || isDoubleDot segment then
        resolve file (if rest.isEmpty then [] :: stem else stem) rest
      else resolve file (writeSegment (file && path.isEmpty) segment :: path) rest

def join (segments : List (List Char)) : List Char :=
  segments.flatMap fun segment => '/' :: segment

def written (web : Bool) (text : List Char) : List Char :=
  match text with
  | [] => if web then ['/'] else []
  | first :: rest =>
      let relative := if isSlash web first then rest else text
      join (resolve false [] (Text.cut (isSlash web) relative)).reverse

/-- Host and path of a file, from its path's text without the slash that begins it. A drive has no
host, and the path begins with no empty segment. -/
def ofFile (host text : List Char) : List Char × List Char :=
  let segments := (resolve true [] (Text.cut (isSlash true) text)).reverse
  let named := segments.dropWhile List.isEmpty
  (if segments.head?.any isDrive then [] else host, join (if named.isEmpty then [[]] else named))

end Tenancy.Web.Path
