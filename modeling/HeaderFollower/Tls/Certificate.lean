/-
# Certificates

A certificate is a sequence of values, each a tag, a length and a content. `isCertificate` says
whether bytes have the outline of one that may be trusted: what is signed, the kind of signature,
and the signature.

What is signed begins with the version. The third version names the kind of signature once more and
may end with extensions, of which those that are understood stand there at most once and hold a
sequence. A certificate without a version is of the first kind and has no extensions.
-/

namespace HeaderFollower
namespace Certificate

/-- A tagged value. -/
structure Item where
  tag : UInt8
  content : List UInt8
  deriving DecidableEq, Repr

/-- No value is as long as this. -/
def lengthLimit : Nat := 0xffff

/-- The length at the front, in its shortest form and below the limit, and what follows. -/
def length? : List UInt8 → Option (Nat × List UInt8)
  | 0x81 :: a :: rest => if 0x80 ≤ a then some (a.toNat, rest) else none
  | 0x82 :: a :: b :: rest =>
    let n := a.toNat * 256 + b.toNat
    if a ≠ 0 ∧ n < lengthLimit then some (n, rest) else none
  | a :: rest => if a < 0x80 then some (a.toNat, rest) else none
  | [] => none

/-- The value at the front and what follows. Tags of more than one byte are refused. -/
def item? : List UInt8 → Option (Item × List UInt8)
  | tag :: rest =>
    if tag &&& 0x1f = 0x1f then none
    else
      match length? rest with
      | some (n, rest) => if n ≤ rest.length then some (⟨tag, rest.take n⟩, rest.drop n) else none
      | none => none
  | [] => none

/-- At most `fuel` values that fill the bytes. -/
def itemsWithin? : Nat → List UInt8 → Option (List Item)
  | _, [] => some []
  | 0, _ => none
  | fuel + 1, s =>
    match item? s with
    | some (item, rest) => (itemsWithin? fuel rest).map (item :: ·)
    | none => none

/-- The values that fill the bytes. -/
def items? (s : List UInt8) : Option (List Item) := itemsWithin? s.length s

def sequenceTag : UInt8 := 0x30

def integerTag : UInt8 := 0x02

/-- The values inside a sequence. -/
def Item.members? (i : Item) : Option (List Item) :=
  if i.tag = sequenceTag then items? i.content else none

def bitStringTag : UInt8 := 0x03

/-- An extension: its identifier and what it says. -/
structure Extension where
  name : List UInt8
  content : List UInt8
  deriving DecidableEq, Repr

namespace Extension

/-- The identifiers of the extensions that are understood. -/
def known : List (List UInt8) := [15, 17, 19, 30, 31, 37].map fun last => [0x55, 0x1d, last]

/-- The identifier of the uses of the key, which are bits and no sequence. -/
def keyUsage : List UInt8 := [0x55, 0x1d, 15]

/-- An extension is an identifier and a content, between them perhaps whether it is critical. -/
def ofItem? (i : Item) : Option Extension :=
  match i.members? with
  | some [name, content] => read name content
  | some [name, critical, content] =>
    if critical.tag = 0x01 ∧ (critical.content = [0] ∨ critical.content = [0xff]) then
      read name content
    else none
  | _ => none
where
  read (name content : Item) : Option Extension :=
    if name.tag = 0x06 ∧ content.tag = 0x04 then some ⟨name.content, content.content⟩ else none

/-- What an extension that is understood says is a sequence. -/
def isWellFormed (e : Extension) : Bool :=
  !known.contains e.name || e.name == keyUsage ||
    match items? e.content with
    | some [i] => i.tag == sequenceTag
    | _ => false

/-- Whether extensions may stand together: one that is understood stands there only once. -/
def compatible (all : List Extension) : Bool :=
  all.all isWellFormed && known.all fun name => all.countP (·.name == name) ≤ 1

end Extension

/-- What may stand behind the public key. -/
def isTail : List Item → Bool
  | [] => true
  | [extensions] =>
    extensions.tag == 0xa3 &&
      match items? extensions.content with
      | some [all] =>
        ((all.members?.bind fun items => items.mapM Extension.ofItem?).map
          Extension.compatible).getD false
      | _ => false
  | _ => false

/-- What is signed without a version: serial number, kind of signature, issuer, validity, subject
and public key. -/
def isPlainBody : List Item → Bool
  | [serial, kind, issuer, validity, subject, key] =>
    serial.tag == integerTag && [kind, issuer, validity, subject, key].all (·.tag == sequenceTag)
  | _ => false

/-- What is signed under a version, for a kind of signature; the version is the third, written 2. -/
def isVersionedBody (kind : Item) : List Item → Bool
  | version :: serial :: named :: issuer :: validity :: subject :: key :: tail =>
    version.tag == 0xa0 && version.content == [0x02, 0x01, 0x02] && named == kind &&
      isPlainBody [serial, named, issuer, validity, subject, key] && isTail tail
  | _ => false

/-- The bytes have the outline of a certificate of the first or the third version. -/
def isCertificate (bytes : List UInt8) : Bool :=
  match items? bytes with
  | some [all] =>
    match all.members? with
    | some [signed, kind, signature] =>
      kind.tag == sequenceTag && signature.tag == bitStringTag &&
        signature.content.head? == some 0 &&
        (signed.members?.map fun body => isPlainBody body || isVersionedBody kind body).getD false
    | _ => false
  | _ => false

end Certificate
end HeaderFollower
