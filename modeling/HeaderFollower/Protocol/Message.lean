/-
# Messages from a server

A line is a response if it carries the id of a request, and a push if it carries a method and no
id. Pushes are sorted once, here, into tips, scripthash states and methods that nobody handles.

The error of a response is `code` and `message` if it has both; anything else is kept as text.
-/

import HeaderFollower.Json.Writer
import HeaderFollower.Protocol.Method
import HeaderFollower.Protocol.Reply

namespace HeaderFollower

/-- The error that a server answers a request with. -/
structure RpcError where
  code : Int
  message : String
  deriving DecidableEq, Repr

/-- The text under which an error of unknown shape is kept. -/
def RpcError.describe : Json → String
  | .string s => s
  | other => other.write

/-- The error in any shape that a server may send. -/
def RpcError.ofJson (j : Json) : RpcError :=
  match (j.member? "code").bind Json.int?, (j.member? "message").bind Json.string? with
  | some code, some message => ⟨code, message⟩
  | _, _ => ⟨0, describe j⟩

/-- What the server says without being asked. -/
inductive Push where
  | tip (notice : TipNotice)
  | scripthash (notice : ScripthashNotice)
  deriving DecidableEq, Repr

/-- A line from a server. -/
inductive Incoming where
  | response (id : Nat) (result : Except RpcError Json)
  | push (notice : Push)
  /-- A push that nobody handles. -/
  | unknownMethod (method : String)

/-- Why a push of a known method cannot be used. -/
inductive ParamsFault where
  | noTip
  | badTip
  | noList
  | noScripthash
  deriving DecidableEq, Repr

def ParamsFault.reason : ParamsFault → String
  | .noTip => "expected [\x7bheight, hex\x7d]"
  | .badTip => "malformed tip"
  | .noList => "expected [scripthash, status]"
  | .noScripthash => "missing scripthash"

/-- Why a line is no message. -/
inductive MessageError where
  /-- Not JSON, or a member of the wrong type. -/
  | json
  | unclassifiable
  | badParams (method : String) (fault : ParamsFault)
  deriving DecidableEq, Repr

def MessageError.message : MessageError → String
  | .json => "malformed JSON"
  | .unclassifiable => "message has neither id nor method"
  | .badParams method fault => "bad params for " ++ method ++ ": " ++ fault.reason

namespace Incoming

/-- The members that matter, in the order in which an array gives them. -/
def names : List String := ["id", "method", "params", "result", "error"]

/-- The tip in the parameters of a push. -/
def tipOfParams (params : Json) : Except ParamsFault TipNotice :=
  match params with
  | .array (first :: _) =>
    match TipNotice.ofJson? first with
    | some tip => .ok tip
    | none => .error .badTip
  | _ => .error .noTip

/-- The scripthash and its status in the parameters of a push. -/
def scripthashOfParams (params : Json) : Except ParamsFault ScripthashNotice :=
  match params with
  | .array (.string scripthash :: rest) =>
    .ok ⟨scripthash, rest.head?.bind Json.string?⟩
  | .array _ => .error .noScripthash
  | _ => .error .noList

/-- A push by its method. -/
def ofPush (method : String) (params : Json) : Except MessageError Incoming :=
  if method = Method.headersSubscribe then
    match tipOfParams params with
    | .ok tip => .ok (.push (.tip tip))
    | .error fault => .error (.badParams method fault)
  else if method = Method.scripthashSubscribe then
    match scripthashOfParams params with
    | .ok notice => .ok (.push (.scripthash notice))
    | .error fault => .error (.badParams method fault)
  else .ok (.unknownMethod method)

/-- A response; no error, or null in its place, means success. -/
def ofResponse (id : Nat) (result error : Json) : Incoming :=
  .response id (if error.isNull then .ok result else .error (RpcError.ofJson error))

/-- A message from its members. -/
def ofFields : Json.Fields → Except MessageError Incoming
  | [id, method, params, result, error] =>
    match Json.optional Json.nat? id, Json.optional Json.string? method with
    | some (some id), some _ => .ok (ofResponse id (result.getD .null) (error.getD .null))
    | some none, some (some method) => ofPush method (params.getD .null)
    | some none, some none => .error .unclassifiable
    | _, _ => .error .json
  | _ => .error .json

/-- The message as a record. -/
def report : Incoming → Json
  | .response id (.ok result) =>
    .mkObject [("response", .mkObject [("id", .nat id), ("result", result)])]
  | .response id (.error e) =>
    .mkObject [("response", .mkObject [("id", .nat id),
      ("rpc_error", .mkObject [("code", .int e.code), ("message", .string e.message)])])]
  | .push (.tip notice) => .mkObject [("tip", notice.toJson)]
  | .push (.scripthash notice) => .mkObject [("scripthash", notice.toJson)]
  | .unknownMethod method => .mkObject [("unknown", .string method)]

/-- The message that a line holds. -/
def parse (line : List UInt8) : Except MessageError Incoming :=
  match Json.readRecord names line with
  | some fields => ofFields fields
  | none => .error .json

end Incoming
end HeaderFollower
