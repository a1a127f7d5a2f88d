import SourceOutline.Json.Reader
import SourceOutline.Text.Basic

/-!
# Addresses of requests

An address is an optional scheme, an optional authority behind two slashes, and a path; query
and fragment are not looked at. An address with a scheme and a host is absolute. Any other is
taken below the root of the server: whatever slashes its path starts with, one remains.

The path that is routed has no dot segments. Its percent escapes are decoded twice, once as
part of the address and once as the name of a resource.
-/

namespace SourceOutline.Web

structure Url where
  /-- Empty if there is none. -/
  scheme : String := ""
  /-- Empty if there is none. -/
  authority : String := ""
  path : String
  deriving DecidableEq, Repr

namespace Url

/-- Why nothing can be asked for at an address. -/
inductive Fault where
  /-- The text is no address. -/
  | malformed
  /-- The scheme has no server. -/
  | unknownScheme
  deriving DecidableEq, Repr

def isSchemeChar (c : Char) : Bool := c.isAlphanum || c == '+' || c == '.' || c == '-'

/-- Cut off a scheme with its colon. The scheme may be empty, but does not start with a digit
or a mark. -/
def splitScheme (cs : List Char) : List Char × List Char :=
  let scheme := cs.takeWhile isSchemeChar
  match cs.drop scheme.length with
  | ':' :: rest => if scheme.head?.all Char.isAlpha then (scheme, rest) else ([], cs)
  | _ => ([], cs)

/-- Cut off an authority with the slashes before it. -/
def splitAuthority : List Char → List Char × List Char
  | '/' :: '/' :: rest => (rest.takeWhile (· != '/'), rest.dropWhile (· != '/'))
  | cs => ([], cs)

/-- The parts of an address. -/
def split (text : String) : Url :=
  let bare := text.toList.takeWhile fun c => c != '?' && c != '#'
  let (scheme, behindScheme) := splitScheme bare
  let (authority, path) := splitAuthority behindScheme
  { scheme := String.ofList (scheme.map Char.toLower)
    authority := String.ofList authority
    path := String.ofList path }

/-- Host and port, without the user in front of them. The port may be empty. -/
def hostAndPort (url : Url) : String × String :=
  let cs := url.authority.toList
  let server := if cs.contains '@' then (cs.dropWhile (· != '@')).drop 1 else cs
  let host := server.takeWhile (· != ':')
  (String.ofList host, String.ofList ((server.drop host.length).drop 1))

def isAbsolute (url : Url) : Bool := url.scheme != "" && url.hostAndPort.1 != ""

/-- The greatest length of an address. -/
def lengthLimit : Nat := 65536

/-- Whether a character may not occur in an address. -/
def isControl (c : Char) : Bool := c.toNat < 0x20 || c.toNat == 0x7F

/-- Whether the parts can be the parts of an address. -/
def isWellFormed (url : Url) : Bool :=
  let port := url.hostAndPort.2
  (port == "" || (Text.integer? port).isSome) &&
    (url.scheme != "" || url.authority != "" || url.path.toList.head? != some ':')

/-- Schemes for which there is a server. -/
def knownSchemes : List String := ["http", "https"]

/-- Read an address. -/
def ofText (text : String) : Except Fault Url :=
  let url := split text
  if lengthLimit < text.length || text.toList.any isControl || !url.isWellFormed then
    .error .malformed
  else if url.isAbsolute && !knownSchemes.contains url.scheme then .error .unknownScheme
  else .ok url

/-- Leave out single dots, and double dots together with the segment before them. The empty
segment in front of the first slash stays. -/
def withoutDots : (done : List String) → List String → List String
  | done, [] => done
  | done, segment :: rest =>
    if segment = "." then withoutDots done rest
    else if segment = ".." then withoutDots (if done = [""] then done else done.dropLast) rest
    else withoutDots (done ++ [segment]) rest

def dotless (path : String) : String := Text.join '/' (withoutDots [] (Text.segments '/' path))

/-- Decode percent escapes as bytes; a stray percent sign stands for itself. -/
def percentBytes : List Char → List UInt8
  | '%' :: a :: b :: rest =>
    match Json.hexDigit? a, Json.hexDigit? b with
    | some high, some low => (16 * high + low).toUInt8 :: percentBytes rest
    | _, _ => '%'.toNat.toUInt8 :: percentBytes (a :: b :: rest)
  | c :: rest => (String.singleton c).toUTF8.toList ++ percentBytes rest
  | [] => []
  termination_by cs => cs.length

/-- Decode percent escapes; a text whose bytes are not UTF-8 stays as it is. -/
def decode (text : String) : String :=
  (String.fromUTF8? ⟨(percentBytes text.toList).toArray⟩).getD text

/-- The path under which a request is routed. -/
def route (url : Url) : String :=
  let path := if url.scheme = "" && url.authority = "" then url.path else dotless url.path
  let rooted :=
    if url.isAbsolute then path
    else dotless (String.ofList ('/' :: path.toList.dropWhile (· == '/')))
  decode (decode (if rooted = "" then "/" else rooted))

end Url

end SourceOutline.Web
