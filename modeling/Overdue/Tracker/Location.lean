import Overdue.Tracker.Authority
import Overdue.Tracker.Target

/-!
# Locations

Where a response says that something else is to be asked: an address, or a reference that is read
from the target of the request. Only addresses of the server lead anywhere, but an address of
another kind is told from a text that is no address.
-/

namespace Overdue

/-- Where a location leads. -/
inductive Destination where
  /-- To a target on the server that gave the location. -/
  | here (target : String)
  | elsewhere
deriving DecidableEq, Repr

namespace Location

/-- What a scheme may hold behind its first letter. -/
def isSchemeChar (c : Char) : Bool :=
  c.isAlphanum || c == '+' || c == '-' || c == '.'

/-- The scheme of an address, in lower case, and what follows its colon. -/
def scheme? (s : List Char) : Option (List Char × List Char) :=
  match s.takeWhile isSchemeChar, s.dropWhile isSchemeChar with
  | c :: cs, ':' :: rest =>
    if c.isAlpha then some ((c :: cs).map Char.toLower, rest) else none
  | _, _ => none

/-- The scheme of a server. -/
def schemeOf (server : List Char) : List Char :=
  server.takeWhile (· != ':')

/-- The well-known schemes whose addresses always name a server. -/
def wellKnown : List String := ["http", "https", "ws", "wss", "ftp"]

/-- Whether a text begins with two slashes of either kind. -/
def hasTwoSlashes (s : List Char) : Bool :=
  2 ≤ (s.takeWhile Target.isSlash).length

/-- What stands before the path, the query and the fragment of an address. -/
def beforePath (isSlash : Char → Bool) (s : List Char) : List Char :=
  s.takeWhile fun c => !isSlash c && c != '?' && c != '#'

/-- Where an address of a well-known scheme leads, given what follows the slashes. -/
def ofAuthority? (server scheme s : List Char) : Option Destination :=
  match Target.restOn? server (scheme ++ "://".toList ++ s) with
  | some rest => (Target.fitting? server (Target.ofRest rest) rest).map .here
  | none =>
    if Authority.isValid Authority.isHost (beforePath Target.isSlash s) then some .elsewhere
    else none

/-- Where a reference without a scheme leads. After two slashes it names a server. -/
def ofReference? (server target s : List Char) : Option Destination :=
  if hasTwoSlashes s then
    ofAuthority? server (schemeOf server) <|
      match "//".toList.isPrefixOf? s with
      | some s => s
      | none => s.dropWhile Target.isSlash
  else (Target.fitting? server (Target.join target s) s).map .here

/-- Whether an address names a file on another machine. -/
def isRemoteFile (s : List Char) : Bool :=
  let host := beforePath Target.isSlash (s.drop 2)
  hasTwoSlashes s && Authority.isHost host && Authority.domain? host != some "localhost".toList

/-- What is known of an address without a path while it is read: the number of colons that might
stand before a port, whether brackets were opened and closed, and whether something is escaped that
might be part of a host. -/
structure Reading where
  colons : Nat := 0
  opened : Bool := false
  closed : Bool := false
  escaped : Bool := false
deriving DecidableEq, Repr

/-- The greatest number of colons in a row of characters that might be a host. -/
def maxColons : Nat := 8

/-- Takes in a character, if it may stand there. -/
def Reading.next? (r : Reading) (c : Char) : Option Reading :=
  if c = ':' then
    if r.colons < maxColons then some { r with colons := r.colons + 1 } else none
  else if c = '[' then
    if r.opened || r.escaped then none else some { r with opened := true }
  else if c = ']' then
    if r.opened && !r.closed then some ⟨0, true, true, false⟩ else none
  else if c = '@' then some { r with colons := 0, escaped := false }
  else if c = '%' || 0x80 ≤ c.toNat then some { r with escaped := true }
  else if Authority.isNameChar c then some r
  else none

/-- Whether an address that names no server and has no path can be sent to, which it can if it reads
like an authority. -/
def isOpaque (s : List Char) : Bool :=
  s.getLast? != some '@' &&
    (s.foldlM Reading.next? {}).any fun r =>
      r.opened == r.closed && r.colons ≤ 1 && !r.escaped

/-- The greatest length of a scheme before a server. -/
def maxSchemeLength : Nat := 64

/-- Where an address of a scheme leads, given what follows the colon. -/
def ofScheme? (server target scheme s : List Char) : Option Destination :=
  if wellKnown.contains (String.ofList scheme) then
    if scheme = schemeOf server && !hasTwoSlashes s then ofReference? server target s
    else ofAuthority? server scheme (s.dropWhile Target.isSlash)
  else
    let isCarried :=
      if scheme = "file".toList then isRemoteFile s
      else
        match "//".toList.isPrefixOf? s with
        | some s =>
          scheme.length ≤ maxSchemeLength &&
            Authority.isValid Authority.isPlainHost (beforePath (· == '/') s)
        | none => isOpaque (scheme ++ ':' :: s)
    if isCarried then some .elsewhere else none

/-- Where a location leads that comes with the response for a target, if it leads anywhere. -/
def resolve? (server target location : String) : Option Destination :=
  let s := Target.significant location.toList
  match scheme? s with
  | some (scheme, s) => ofScheme? server.toList target.toList scheme s
  | none => ofReference? server.toList target.toList s

end Location

end Overdue
