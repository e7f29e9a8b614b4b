/-
# PEM files

A PEM file holds sections of Base64 text between a line `-----BEGIN label-----` and a line
`-----END label-----`; everything else in it is ignored. Of the sections only those of the known
labels are decoded.
-/

import HeaderFollower.Bytes.Base64
import HeaderFollower.Client.Error

namespace HeaderFollower
namespace Pem

/-- The bytes of an ASCII text. -/
def ascii (s : String) : List UInt8 := s.toUTF8.toList

/-- A decoded section. -/
structure Section where
  label : List UInt8
  content : List UInt8

/-- The labels of sections that are decoded. -/
def knownLabels : List (List UInt8) :=
  ["CERTIFICATE", "PUBLIC KEY", "RSA PRIVATE KEY", "PRIVATE KEY", "EC PRIVATE KEY", "X509 CRL",
    "CERTIFICATE REQUEST", "ECHCONFIG"].map ascii

/-- A dash, or what may stand behind the dashes of a line. -/
def isTrailer (b : UInt8) : Bool := b == 45 || b == 32

/-- The label of a line that begins a section: five dashes close it. -/
def label? (line : List UInt8) : Option (List UInt8) :=
  let trailer := (line.reverse.takeWhile isTrailer).reverse
  let behind := trailer.dropWhile (· != 45)
  if behind.count 45 = 5 then
    some ((line.take (line.length - behind.length)).drop (ascii "-----BEGIN ").length)
  else none

/-- What has been read. -/
structure Scan where
  /-- The label of the open section. -/
  current : Option (List UInt8) := none
  /-- The text since the last section that ended. -/
  text : List UInt8 := []
  /-- The decoded sections, the latest first. -/
  found : List Section := []

/-- Takes a line; none if the file is malformed. -/
def Scan.line (s : Scan) (line : List UInt8) : Option Scan :=
  if (ascii "-----BEGIN ").isPrefixOf line then
    (label? line).map fun label => { s with current := some label }
  else
    match s.current with
    | none => some s
    | some label =>
      if (ascii "-----END " ++ label ++ ascii "-----").isPrefixOf line then
        if knownLabels.contains label then
          (Base64.decode? s.text).map fun bytes => { found := ⟨label, bytes⟩ :: s.found }
        else some { found := s.found }
      else some { s with text := s.text ++ line }

/-- The lines of a file; a line feed or a carriage return ends a line. -/
def lines (content : List UInt8) : List (List UInt8) :=
  let (last, done) := content.foldl (fun (line, done) b =>
    if b = 10 ∨ b = 13 then ([], line.reverse :: done) else (b :: line, done))
    (([], []) : List UInt8 × List (List UInt8))
  (last.reverse :: done).reverse

/-- The bytes of the certificates in a file, or none if the file is malformed. -/
def certificates? (content : List UInt8) : Option (List (List UInt8)) :=
  match (lines content).foldlM Scan.line {} with
  | none => none
  | some s =>
    if s.current.isSome then none
    else some ((s.found.reverse.filter fun f => f.label == ascii "CERTIFICATE").map (·.content))

end Pem
end HeaderFollower
