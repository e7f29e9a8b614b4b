/-
# Server addresses

An address is `tcp://`, `ssl://` or `tls://`, a host and a port; scheme and port may be left out,
and then the caller's default and the network's port stand in. A host with a colon stands in
brackets.

`ServerAddress.parse` reads the text, `ServerAddress.display` writes it.
-/

import HeaderFollower.Network
import HeaderFollower.Text.Blank

namespace HeaderFollower
namespace Text

/-- What a text holds behind a fixed beginning. -/
def stripStart? (start s : List Char) : Option (List Char) :=
  if start.isPrefixOf s then some (s.drop start.length) else none

/-- What stands before and behind the first `c`. -/
def splitFirst? (c : Char) (s : List Char) : Option (List Char × List Char) :=
  match s.dropWhile (· ≠ c) with
  | [] => none
  | _ :: behind => some (s.takeWhile (· ≠ c), behind)

/-- What stands before and behind the last `c`. -/
def splitLast? (c : Char) (s : List Char) : Option (List Char × List Char) :=
  match splitFirst? c s.reverse with
  | none => none
  | some (behind, before) => some (before.reverse, behind.reverse)

/-- The value of ASCII digits, at least one, if it is below `bound`. -/
def digitsBelow? (bound : Nat) (s : List Char) : Option Nat :=
  if s ≠ [] ∧ s.all Char.isDigit then
    let n := s.foldl (fun n c => n * 10 + (c.toNat - 48)) 0
    if n < bound then some n else none
  else none

/-- A natural number below `bound`, perhaps with a plus in front. -/
def numeralBelow? (bound : Nat) (s : List Char) : Option Nat :=
  match s with
  | '+' :: rest => digitsBelow? bound rest
  | _ => digitsBelow? bound s

end Text

/-- How the bytes travel. -/
inductive Scheme where
  | tcp
  | tls
  deriving DecidableEq, Repr

/-- The port that stands in for one that is left out. -/
def Scheme.defaultPort (network : Network) : Scheme → Nat
  | .tcp => network.tcpPort
  | .tls => network.tlsPort

/-- Where a server listens. -/
structure ServerAddress where
  host : String
  port : Nat
  scheme : Scheme
  deriving DecidableEq, Repr

namespace ServerAddress

/-- The scheme that a text names, or the default, and what follows it. -/
def takeScheme (tlsDefault : Bool) (s : List Char) : Scheme × List Char :=
  match Text.stripStart? "tcp://".toList s with
  | some rest => (.tcp, rest)
  | none =>
    match Text.stripStart? "ssl://".toList s with
    | some rest => (.tls, rest)
    | none =>
      match Text.stripStart? "tls://".toList s with
      | some rest => (.tls, rest)
      | none => (if tlsDefault then .tls else .tcp, s)

/-- A port number. -/
def port? (s : List Char) : Option Nat := Text.numeralBelow? 65536 s

/-- Host and port of `[host]` or `[host]:port`, behind the opening bracket. -/
def bracketed? (defaultPort : Nat) (inner : List Char) : Option (List Char × Nat) :=
  match Text.splitFirst? ']' inner with
  | none => none
  | some (host, []) => some (host, defaultPort)
  | some (host, ':' :: p) => (port? p).map fun port => (host, port)
  | some (_, _ :: _) => none

/-- Host and port of `host` or `host:port`, where the last colon counts. -/
def plain? (defaultPort : Nat) (s : List Char) : Option (List Char × Nat) :=
  match Text.splitLast? ':' s with
  | none => some (s, defaultPort)
  | some (host, p) => (port? p).map fun port => (host, port)

/-- Host and port of what follows the scheme. -/
def hostPort? (defaultPort : Nat) (s : List Char) : Option (List Char × Nat) :=
  match s with
  | '[' :: inner => bracketed? defaultPort inner
  | _ => plain? defaultPort s

/-- The address that a text names; white space around it does not matter. -/
def parse (text : String) (network : Network) (tlsDefault : Bool) : Option ServerAddress :=
  let (scheme, rest) := takeScheme tlsDefault (Text.trim text).toList
  match hostPort? (scheme.defaultPort network) rest with
  | none => none
  | some (host, port) =>
    if host = [] ∨ '/' ∈ host then none
    else some ⟨String.ofList host, port, scheme⟩

def isTls (a : ServerAddress) : Bool := a.scheme == .tls

/-- The address as text. -/
def display (a : ServerAddress) : String :=
  let scheme := if a.isTls then "ssl" else "tcp"
  let host := if ':' ∈ a.host.toList then "[" ++ a.host ++ "]" else a.host
  scheme ++ "://" ++ host ++ ":" ++ toString a.port

end ServerAddress
end HeaderFollower
