/-
# Connection errors

Why a server could not be reached, and why a request failed. `ClientError.connectionFatal` holds for
the errors after which the connection is of no further use.
-/

import HeaderFollower.Duration

namespace HeaderFollower

/-- Why a TLS connection could not be prepared or made. -/
inductive TlsError where
  | io (text : String)
  | tls (text : String)
  | invalidCertificate
  | invalidServerName (name : String)
  deriving DecidableEq, Repr

def TlsError.message : TlsError → String
  | .io text => "IO error: " ++ text
  | .tls text => "TLS error: " ++ text
  | .invalidCertificate => "Invalid certificate"
  | .invalidServerName name => "Invalid server name: " ++ name

/-- A short name for the error. -/
def TlsError.kind : TlsError → String
  | .io _ => "Io"
  | .tls _ => "Tls"
  | .invalidCertificate => "InvalidCertificate"
  | .invalidServerName _ => "InvalidServerName"

/-- Why a server was not reached. -/
inductive ConnectError where
  | invalidAddress (text : String)
  | io (address text : String)
  | timeout (address : String) (after : Duration)
  | tls (address : String) (cause : TlsError)
  | tlsNotConfigured (address : String)
  deriving DecidableEq, Repr

def ConnectError.message : ConnectError → String
  | .invalidAddress text => "invalid server address: " ++ text
  | .io address text => "failed to connect to " ++ address ++ ": " ++ text
  | .timeout address after => "dial to " ++ address ++ " timed out after " ++ after.text
  | .tls address cause => "TLS handshake with " ++ address ++ " failed: " ++ cause.message
  | .tlsNotConfigured address =>
    address ++ " requires TLS but no TLS configuration was supplied"

/-- A short name for the error. -/
def ConnectError.kind : ConnectError → String
  | .invalidAddress _ => "InvalidAddress"
  | .io _ _ => "Io"
  | .timeout _ _ => "Timeout"
  | .tls _ _ => "Tls"
  | .tlsNotConfigured _ => "TlsNotConfigured"

/-- Why a request failed. -/
inductive ClientError where
  | connect (cause : ConnectError)
  | io (text : String)
  | closed
  | cancelled
  | timeout (method : String) (after : Duration)
  /-- The server's answer to this request is an error. -/
  | rpc (code : Int) (message : String)
  /-- The answer does not have the shape that the method promises. -/
  | decode (detail : String)
  | invalidResponse (text : String)
  | encode (text : String)
  deriving DecidableEq, Repr

namespace ClientError

def message : ClientError → String
  | .connect cause => "connect failed: " ++ cause.message
  | .io text => "I/O error: " ++ text
  | .closed => "connection closed"
  | .cancelled => "request cancelled"
  | .timeout method after => method ++ " timed out after " ++ after.text
  | .rpc code text => "server error " ++ toString code ++ ": " ++ text
  | .decode detail => "failed to decode result: " ++ detail
  | .invalidResponse text => "invalid response: " ++ text
  | .encode text => "failed to encode request: " ++ text

/-- A short name for the error, with that of its cause behind a slash. -/
def kind : ClientError → String
  | .connect cause => "Connect/" ++ cause.kind
  | .io _ => "Io"
  | .closed => "Closed"
  | .cancelled => "Cancelled"
  | .timeout _ _ => "Timeout"
  | .rpc _ _ => "Rpc"
  | .decode _ => "Decode"
  | .invalidResponse _ => "InvalidResponse"
  | .encode _ => "Encode"

/-- The connection has to be made anew. -/
def connectionFatal : ClientError → Bool
  | .connect _ => true
  | .io _ => true
  | .closed => true
  | .timeout _ _ => true
  | .cancelled => false
  | .rpc _ _ => false
  | .decode _ => false
  | .invalidResponse _ => false
  | .encode _ => false

end ClientError
end HeaderFollower
