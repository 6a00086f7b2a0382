import ConsentBanner.Url.Host

/-!
# Addresses

`Url.read?` reads an absolute address leniently: blanks around it do not count, nor do line breaks and
tabs in it, backslashes stand for slashes where the scheme is a common one, and dots in the path are
resolved.  It keeps what frames are told by: host, path and the names of parameters.
-/

set_option autoImplicit false

namespace ConsentBanner

/-- An absolute address. -/
structure Url where
  host : String
  path : String
  query : List Char
  deriving DecidableEq, Repr

namespace Url

/-- How an address is read, by its scheme. -/
inductive Scheme where
  /-- A scheme of pages, in which the host matters. -/
  | page
  | file
  | other
  deriving DecidableEq

/-- How an address with a scheme is read. -/
def Scheme.ofName (name : String) : Scheme :=
  if ["http", "https", "ws", "wss", "ftp"].contains name then .page
  else if name = "file" then .file
  else .other

/-- Backslashes stand for slashes. -/
def Scheme.isCommon : Scheme → Bool
  | .other => false
  | _ => true

/-- A slash, or a backslash where it stands for one. -/
def isSlash (scheme : Scheme) (c : Char) : Bool := c = '/' || (c = '\\' && scheme.isCommon)

def endsAuthority (scheme : Scheme) (c : Char) : Bool :=
  isSlash scheme c || c = '?' || c = '#'

/-- The text without blanks and control characters around it, and without line breaks and tabs. -/
def cleaned (text : String) : List Char :=
  let isMargin (c : Char) : Bool := c.toNat ≤ 32
  let inside := ((text.toList.dropWhile isMargin).reverse.dropWhile isMargin).reverse
  inside.filter fun c => !(c = '\t' || c = '\n' || c = '\r')

def scheme? (text : List Char) : Option (String × List Char) :=
  let inName (c : Char) : Bool := c.isAlphanum || c = '+' || c = '-' || c = '.'
  match text.dropWhile inName with
  | ':' :: rest =>
    let name := text.takeWhile inName
    if (name.head?).any Char.isAlpha then some (String.ofList (name.map Char.toLower), rest)
    else none
  | _ => none

/-- The text behind the last sign that ends a user's name, and whether there was one. -/
def behindUser (authority : List Char) : List Char × Bool :=
  if authority.contains '@' then
    ((authority.reverse.takeWhile (· ≠ '@')).reverse, true)
  else (authority, false)

/-- A port, if there is one, is a number below `2^16`. -/
def isPort (text : List Char) : Bool :=
  text.all Char.isDigit && (Host.numberOf? 10 text).any (· < 65536)

/-- Splits a host from its port, which stands behind the first colon outside of brackets. -/
def splitPort (text : List Char) : List Char × Option (List Char) :=
  let rec go (inside : Bool) (before : List Char) : List Char → List Char × Option (List Char)
    | [] => (before.reverse, none)
    | c :: rest =>
      if c = ':' && !inside then (before.reverse, some rest)
      else go (if c = '[' then true else if c = ']' then false else inside) (c :: before) rest
  go false [] text

/-- The host of an address, from the text up to its path. -/
def hostOf? (scheme : Scheme) (authority : List Char) : Option String :=
  let (text, hasUser) := behindUser authority
  let (name, port) := splitPort text
  if !(port.all isPort) then none
  else if name.isEmpty then
    if scheme.isCommon || port.isSome || hasUser then none else some ""
  else if scheme.isCommon then Host.read? name
  else Host.readElsewhere? name

/-- A segment of a path that stands for the place itself. -/
def isDot (segment : List Char) : Bool :=
  ["." , "%2e"].contains (String.ofList (segment.map Char.toLower))

/-- A segment of a path that stands for the place above. -/
def isDoubleDot (segment : List Char) : Bool :=
  ["..", ".%2e", "%2e.", "%2e%2e"].contains (String.ofList (segment.map Char.toLower))

def isDrive (segment : List Char) : Bool :=
  match segment with
  | [letter, mark] => letter.isAlpha && (mark = ':' || mark = '|')
  | _ => false

def segments (scheme : Scheme) : List Char → List (List Char)
  | [] => [[]]
  | c :: rest =>
    if isSlash scheme c then [] :: segments scheme rest
    else
      match segments scheme rest with
      | [] => [[c]]
      | first :: more => (c :: first) :: more

/-- The path without its last segment; a drive stays. -/
def shorten (scheme : Scheme) (path : List (List Char)) : List (List Char) :=
  match scheme, path with
  | .file, [drive] => if isDrive drive then path else []
  | _, _ => path.dropLast

/-- Resolves dots, given the segments so far. -/
def resolveDots (scheme : Scheme) (path : List (List Char)) : List (List Char) → List (List Char)
  | [] => path
  | [last] =>
    if isDoubleDot last then shorten scheme path ++ [[]]
    else if isDot last then path ++ [[]]
    else path ++ [last]
  | segment :: rest =>
    if isDoubleDot segment then resolveDots scheme (shorten scheme path) rest
    else if isDot segment then resolveDots scheme path rest
    else resolveDots scheme (path ++ [segment]) rest

def pathText (path : List (List Char)) : String :=
  String.join (path.map fun segment => "/" ++ String.ofList segment)

def beforeQuery (text : List Char) : List Char := text.takeWhile fun c => c ≠ '?' && c ≠ '#'

/-- The query of an address, from the text behind its path. -/
def queryOf (text : List Char) : List Char :=
  match text.dropWhile fun c => c ≠ '?' && c ≠ '#' with
  | '?' :: rest => rest.takeWhile (· ≠ '#')
  | _ => []

def behindHost (scheme : Scheme) (host : String) (text : List Char) : Url :=
  let given := beforeQuery text
  let path :=
    match given with
    | [] => if scheme.isCommon then "/" else ""
    | c :: rest =>
      let inside := if isSlash scheme c then rest else given
      pathText (resolveDots scheme [] (segments scheme inside))
  ⟨host, path, queryOf text⟩

def withHost? (scheme : Scheme) (text : List Char) : Option Url := do
  let host ← hostOf? scheme (text.takeWhile fun c => !endsAuthority scheme c)
  return behindHost scheme host (text.dropWhile fun c => !endsAuthority scheme c)

/-- The address of a file, from the text behind the scheme. -/
def ofFile? (text : List Char) : Option Url :=
  match text with
  | a :: b :: rest =>
    if isSlash .file a && isSlash .file b then
      let name := rest.takeWhile fun c => !endsAuthority .file c
      if isDrive name then some (behindHost .file "" rest)
      else do
        let host ← if name.isEmpty then some "" else Host.read? name
        return behindHost .file (if host = "localhost" then "" else host)
          (rest.dropWhile fun c => !endsAuthority .file c)
    else some (behindHost .file "" text)
  | _ => some (behindHost .file "" text)

/-- Reads an absolute address. -/
def read? (text : String) : Option Url := do
  let (name, rest) ← scheme? (cleaned text)
  match Scheme.ofName name with
  | .page => withHost? .page (rest.dropWhile (isSlash .page))
  | .file => ofFile? rest
  | .other =>
    match rest with
    | '/' :: '/' :: more => withHost? .other more
    | '/' :: _ => return behindHost .other "" rest
    | _ => return ⟨"", String.ofList (beforeQuery rest), queryOf rest⟩

/-- The name of a parameter: what stands before the equals sign, a plus sign being a blank. -/
def parameterName (parameter : List Char) : List Nat :=
  Host.bytesOf ((parameter.takeWhile (· ≠ '=')).map fun c => if c = '+' then ' ' else c)

def parameters : List Char → List (List Char)
  | [] => [[]]
  | c :: rest =>
    if c = '&' then [] :: parameters rest
    else
      match parameters rest with
      | [] => [[c]]
      | first :: more => (c :: first) :: more

def hasParameter (url : Url) (name : String) : Bool :=
  (parameters url.query).any fun parameter =>
    !parameter.isEmpty && parameterName parameter == name.toUTF8.toList.map UInt8.toNat

end Url

end ConsentBanner
