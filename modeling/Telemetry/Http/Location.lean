import Telemetry.Http.Host
import Telemetry.Http.Target

/-!
Where an answer sends its reader on to. A reference is read against the address of
the request that was answered, which is plain HTTP: it may name a path, a query or
only a fragment there, or another place altogether. A place that cannot be read or
cannot be asked for leads nowhere.
-/

namespace Telemetry.Http

/-- A target on the same server, or another server. -/
inductive Destination
  | here (target : Target)
  | elsewhere
  deriving DecidableEq, Repr

namespace Location

/-! ## Parts of a place -/

/-- A scheme in lower case, and the text after its colon. -/
def scheme? (text : List Char) : Option (List Char × List Char) :=
  let isSchemeChar (c : Char) : Bool := c.isAlphanum || c = '+' || c = '-' || c = '.'
  match text.dropWhile isSchemeChar with
  | ':' :: rest =>
    if text.head?.any Char.isAlpha then
      some ((text.takeWhile isSchemeChar).map Char.toLower, rest)
    else none
  | _ => none

/-- The text that stands for a server, before its path. -/
def authority (isSlash : Char → Bool) (text : List Char) : List Char :=
  text.takeWhile fun c => !isSlash c && c ≠ '?' && c ≠ '#'

/-- A host and the text after its colon. A colon in brackets belongs to the host. -/
def divideHost : (inBrackets : Bool) → List Char → List Char × Option (List Char)
  | _, [] => ([], none)
  | inBrackets, c :: rest =>
    if c = ':' && !inBrackets then ([], some rest)
    else
      let (host, port) := divideHost (c = '[' || inBrackets && c ≠ ']') rest
      (c :: host, port)

def isPort (digits : List Char) : Bool :=
  (Host.digits? 10 digits).any (· < 65536)

/-- A host, which a user may come before and a port after. -/
def isServer (isHost : List Char → Bool) (authority : List Char) : Bool :=
  let (host, port) := divideHost false (Parts.afterLast (· = '@') authority)
  isHost host && port.all isPort

/-! ## Places by their schemes -/

/-- Two slashes and a host that a path follows. A drive is no host, and no host has
drives. -/
def isFileHost (text : List Char) : Bool :=
  match text with
  | first :: second :: text =>
    let host := authority Path.isSlash text
    let path := (text.takeWhile fun c => c ≠ '?' && c ≠ '#').drop host.length
    Path.isSlash first && Path.isSlash second && !Path.isDrive host &&
      Host.isHost host && Host.name? host ≠ some "localhost".toList &&
      !((Path.segments (path.drop 1)).head?.any Path.isDrive)
  | _ => false

/-- A place without slashes is taken for a host and a port, which need not be a
number. Users before the host may have escaped characters. -/
def isHostLike (place : List Char) : Bool :=
  let isEscaped (c : Char) : Bool := c = '%' || c.toNat < 32 || 127 ≤ c.toNat
  let isBracket (c : Char) : Bool := c = '[' || c = ']'
  let host := Parts.afterLast (fun c => c = '@' || c = ']') place
  let opened := Parts.afterLast (· = '@') (place.takeWhile (· ≠ '['))
  place.all (fun c => Name.isPlain c || c = ':' || c = '@' || isEscaped c || isBracket c) &&
    !host.any isEscaped && host.count ':' ≤ 1 && place.getLast? ≠ some '@' &&
    (!place.contains '[' || !opened.any isEscaped) &&
    [[], ['[', ']']].contains (place.filter isBracket)

/-- The longest scheme that may stand before two slashes. -/
def maxScheme : Nat := 64

/-- A place whose scheme says nothing about it. -/
def isNamed (scheme text : List Char) : Bool :=
  match text with
  | '/' :: '/' :: text =>
    scheme.length ≤ maxScheme && isServer Host.isBareHost (authority (· = '/') text)
  | _ => isHostLike (scheme ++ ':' :: text)

/-- Schemes whose places are servers, after any number of slashes. -/
def serverSchemes : List String :=
  ["http", "https", "ws", "wss", "ftp"]

/-! ## Resolution -/

def elsewhereIf (isReadable : Bool) : Option Destination :=
  if isReadable then some .elsewhere else none

def slashes (text : List Char) : Nat :=
  (text.takeWhile Path.isSlash).length

/-- A server after any number of slashes. -/
def server? (text : List Char) : Option Destination :=
  elsewhereIf (isServer Host.isHost (authority Path.isSlash (text.dropWhile Path.isSlash)))

/-- A text without a scheme. Two forward slashes before a server are read as such,
and no further ones. -/
def relative? (target : Target) (text : List Char) : Option Destination :=
  match text with
  | '/' :: '/' :: text => elsewhereIf (isServer Host.isHost (authority Path.isSlash text))
  | _ =>
    if 2 ≤ slashes text then server? text
    else
      let next := target.follow text
      let fragment := Target.escape Target.isUnsafeInFragment (text.dropWhile (· ≠ '#'))
      if next.text.length + fragment.length ≤ Target.maxLength then some (.here next)
      else none

/-- Where a clean text leads a reader of `target`. The scheme of the target itself
counts only before two slashes. -/
def resolve? (target : Target) (text : List Char) : Option Destination :=
  match scheme? text with
  | none => relative? target text
  | some (scheme, text) =>
    if scheme = "http".toList ∧ slashes text < 2 then relative? target text
    else if scheme = "file".toList then elsewhereIf (isFileHost text)
    else if serverSchemes.contains (String.ofList scheme) then server? text
    else elsewhereIf (isNamed scheme text)

end Location

/-- Where the value of a header leads a reader of `target`. -/
def destination? (target : Target) (value : List UInt8) : Option Destination := do
  let text ← (Utf8.decode value).toOption
  Location.resolve? target (Target.clean text.toList)

end Telemetry.Http
