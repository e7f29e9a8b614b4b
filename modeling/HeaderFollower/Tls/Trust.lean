/-
# Whom to trust

A server on a TLS connection is trusted if its certificate goes back to one of the usual authorities
or to one in a file of the user's, or else without asking.
-/

import HeaderFollower.Tls.Certificate
import HeaderFollower.Tls.Pem

namespace HeaderFollower

/-- Which servers are trusted. -/
inductive Trust where
  | anyone
  /-- Those with a certificate of a usual authority or of one of these. -/
  | verified (more : List (List UInt8))
  deriving DecidableEq, Repr

namespace Trust

/-- The server's certificate is verified. -/
def verifying : Trust → Bool
  | .anyone => false
  | .verified _ => true

/-- Trust in the authorities of a file, or the reason why it cannot be read. -/
def ofFile (content : Except String (List UInt8)) : Except TlsError Trust :=
  match content with
  | .error reason => .error (.io reason)
  | .ok bytes =>
    match Pem.certificates? bytes with
    | none => .error (.io "malformed certificate file")
    | some [] => .error .invalidCertificate
    | some all =>
      if all.all Certificate.isCertificate then .ok (.verified all)
      else .error (.tls "invalid peer certificate: BadEncoding")

/-- Trust as the settings say. A file of authorities, named by the outer option, is read only if
certificates are verified. -/
def ofSettings (verify : Bool) (authorities : Option (Except String (List UInt8))) :
    Except TlsError Trust :=
  if verify then
    match authorities with
    | some content => ofFile content
    | none => .ok (.verified [])
  else .ok .anyone

theorem verifying_of_ofSettings {verify : Bool} {authorities : Option (Except String (List UInt8))}
    {t : Trust} (h : ofSettings verify authorities = .ok t) : t.verifying = verify := by
  unfold ofSettings ofFile at h
  repeat' split at h
  all_goals simp only [Except.ok.injEq, reduceCtorEq] at h
  all_goals subst h
  all_goals simp_all [verifying]

end Trust
end HeaderFollower
