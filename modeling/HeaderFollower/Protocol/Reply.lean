/-
# Results that servers send

Each result is a record (`Json.Fields`) or a simple value; `ofFields?` and `ofJson?` take it from
what was read and refuse a missing or wrongly typed field. An optional field may be absent or null.
-/

import HeaderFollower.Address
import HeaderFollower.Json.Record

namespace HeaderFollower
namespace Json

/-- A field that has to be there. -/
def required {α : Type} (read : Json → Option α) : Option Json → Option α
  | some j => read j
  | none => none

/-- A field that may be absent or null. -/
def optional {α : Type} (read : Json → Option α) : Option Json → Option (Option α)
  | none => some none
  | some .null => some none
  | some j => (read j).map some

/-- A text, or null. -/
def optionalText (o : Option String) : Json :=
  match o with
  | some s => .string s
  | none => .null

/-- A natural number, or null. -/
def optionalNat (o : Option Nat) : Json :=
  match o with
  | some n => nat n
  | none => .null

/-- Every item of an array, read. -/
def listOf? {α : Type} (read : Json → Option α) : Json → Option (List α)
  | .array items => items.mapM read
  | _ => none

end Json

/-- Consecutive headers in one hexadecimal text. -/
structure HeaderBatch where
  count : Nat
  hex : String
  /-- The largest count that the server sends at once. -/
  max : Option Nat
  deriving DecidableEq, Repr

namespace HeaderBatch

def names : List String := ["count", "hex", "max"]

def ofFields? : Json.Fields → Option HeaderBatch
  | [count, hex, max] => do
    return ⟨← Json.required Json.nat? count, ← Json.required Json.string? hex,
      ← Json.optional Json.nat? max⟩
  | _ => none

def ofJson? (j : Json) : Option HeaderBatch := (j.fields? names).bind ofFields?

def toJson (b : HeaderBatch) : Json :=
  .object [("count", .nat b.count), ("hex", .string b.hex), ("max", Json.optionalNat b.max)]

end HeaderBatch

/-- What a server says about itself. -/
structure ServerFeatures where
  genesisHash : String
  serverVersion : Option String
  protocolMin : Option String
  protocolMax : Option String
  hashFunction : Option String
  pruning : Option Nat
  deriving DecidableEq, Repr

namespace ServerFeatures

def names : List String :=
  ["genesis_hash", "server_version", "protocol_min", "protocol_max", "hash_function", "pruning"]

def ofFields? : Json.Fields → Option ServerFeatures
  | [genesis, version, low, high, hash, pruning] => do
    return ⟨← Json.required Json.string? genesis, ← Json.optional Json.string? version,
      ← Json.optional Json.string? low, ← Json.optional Json.string? high,
      ← Json.optional Json.string? hash, ← Json.optional Json.nat? pruning⟩
  | _ => none

def ofJson? (j : Json) : Option ServerFeatures := (j.fields? names).bind ofFields?

def toJson (f : ServerFeatures) : Json :=
  .object [("genesis_hash", .string f.genesisHash),
    ("hash_function", Json.optionalText f.hashFunction),
    ("protocol_max", Json.optionalText f.protocolMax),
    ("protocol_min", Json.optionalText f.protocolMin),
    ("pruning", Json.optionalNat f.pruning),
    ("server_version", Json.optionalText f.serverVersion)]

end ServerFeatures

/-- A transaction in the history of a script. -/
structure HistoryItem where
  txHash : String
  /-- Zero or -1 for a transaction that is in no block. -/
  height : Int
  fee : Option Nat
  deriving DecidableEq, Repr

namespace HistoryItem

def names : List String := ["tx_hash", "height", "fee"]

def ofFields? : Json.Fields → Option HistoryItem
  | [hash, height, fee] => do
    return ⟨← Json.required Json.string? hash, ← Json.required Json.int? height,
      ← Json.optional Json.nat? fee⟩
  | _ => none

def ofJson? (j : Json) : Option HistoryItem := (j.fields? names).bind ofFields?

def toJson (i : HistoryItem) : Json :=
  .object [("fee", Json.optionalNat i.fee), ("height", .int i.height), ("tx_hash", .string i.txHash)]

end HistoryItem

/-- An output that is not spent. -/
structure UnspentItem where
  txHash : String
  txPos : Nat
  height : Nat
  value : Nat
  deriving DecidableEq, Repr

namespace UnspentItem

def names : List String := ["tx_hash", "tx_pos", "height", "value"]

def ofFields? : Json.Fields → Option UnspentItem
  | [hash, pos, height, value] => do
    return ⟨← Json.required Json.string? hash, ← Json.required (Json.natBelow? 0x100000000) pos,
      ← Json.required Json.nat? height, ← Json.required Json.nat? value⟩
  | _ => none

def ofJson? (j : Json) : Option UnspentItem := (j.fields? names).bind ofFields?

def toJson (i : UnspentItem) : Json :=
  .object [("height", .nat i.height), ("tx_hash", .string i.txHash), ("tx_pos", .nat i.txPos),
    ("value", .nat i.value)]

end UnspentItem

/-- The header at the tip of the server's chain. -/
structure TipNotice where
  height : Nat
  hex : String
  deriving DecidableEq, Repr

namespace TipNotice

def names : List String := ["height", "hex"]

def ofFields? : Json.Fields → Option TipNotice
  | [height, hex] => do
    return ⟨← Json.required Json.nat? height, ← Json.required Json.string? hex⟩
  | _ => none

def ofJson? (j : Json) : Option TipNotice := (j.fields? names).bind ofFields?

def toJson (t : TipNotice) : Json :=
  .object [("height", .nat t.height), ("hex", .string t.hex)]

end TipNotice

/-- The state of a watched script. -/
structure ScripthashNotice where
  scripthash : String
  /-- Absent when the script has no history. -/
  status : Option String
  deriving DecidableEq, Repr

def ScripthashNotice.toJson (n : ScripthashNotice) : Json :=
  .object [("scripthash", .string n.scripthash), ("status", Json.optionalText n.status)]

/-- Another server, as a server lists it. -/
structure Peer where
  address : String
  host : String
  features : List String
  deriving DecidableEq, Repr

namespace Peer

def ofJson? : Json → Option Peer
  | .array [.string address, .string host, features] => do
    return ⟨address, host, ← Json.listOf? Json.string? features⟩
  | _ => none

def toJson (p : Peer) : Json :=
  .array [.string p.address, .string p.host, .array (p.features.map .string)]

/-- The first feature that is `mark` and a port. -/
def port? (mark : Char) (p : Peer) : Option Nat :=
  p.features.findSome? fun f =>
    match f.toList with
    | c :: rest => if c = mark then Text.numeralBelow? 65536 rest else none
    | [] => none

def tlsPort? (p : Peer) : Option Nat := p.port? 's'

def tcpPort? (p : Peer) : Option Nat := p.port? 't'

end Peer

/-- A hash from its JSON form, the written form as a string. -/
def Hash256.ofJson? (j : Json) : Option Hash256 :=
  match j with
  | .string s => (Hash256.ofDisplay s).toOption
  | _ => none

def Hash256.toJson (h : Hash256) : Json := .string h.display

end HeaderFollower
