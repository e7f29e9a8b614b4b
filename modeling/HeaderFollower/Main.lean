/-
# The program

Reads the arguments and the files, and keeps a node connected over the network until it is
interrupted or gives up. Everything is decided elsewhere: this module carries bytes to and from
sockets and files, lets time pass, and prints.

The sockets have no TLS, so connections that ask for it fail.
-/

import HeaderFollower.Client.Calls
import HeaderFollower.Client.ServerSide
import HeaderFollower.Daemon.Offline
import HeaderFollower.Daemon.Report
import Std.Async.DNS
import Std.Async.Signal
import Std.Async.System
import Std.Async.TCP

namespace HeaderFollower

open Std.Async Std.Net

/-! ## Files -/

/-- A file as it is found. -/
def FoundFile.find (path : String) : IO FoundFile := do
  try
    return .content (← IO.FS.readBinFile path)
  catch
    | .noFileOrDirectory .. => return .missing
    | _ => return .unreadable

/-- What a file holds, or the reason why it cannot be read. -/
def readBytes (path : String) : IO (Except String (List UInt8)) := do
  try
    return .ok (← IO.FS.readBinFile path).toList
  catch
    | .noFileOrDirectory .. => return .error FileFault.notFound.message
    | e => return .error (toString e)

/-- Makes the directory of a file if there is none. -/
def makeParent (path : String) : IO Unit := do
  match Text.splitLast? '/' path.toList with
  | some (directory@(_ :: _), _) => IO.FS.createDirAll (String.ofList directory)
  | _ => pure ()

/-- Writes a file, in a directory that is made if there is none. -/
def writeFile (path : String) (bytes : List UInt8) : IO Unit := do
  makeParent path
  IO.FS.writeBinFile path bytes.toByteArray

/-! ## Connections -/

/-- How many turns a connection takes at once. -/
def turns : Nat := 1000000

/-- How long to sleep when there is nothing to do, in milliseconds. -/
def nap : UInt32 := 10

/-- A connection over the network. -/
structure Wire where
  socket : TCP.Socket.Client
  /-- When it was made, in nanoseconds. -/
  began : Nat
  time : IO.Ref Timeline
  calls : IO.Ref OpenCalls
  /-- What the server sends next, unless it has ended. -/
  arriving : IO.Ref (Option (AsyncTask (Option ByteArray)))

namespace Wire

/-- Waits for a task until a time; none if it has not ended then. -/
partial def awaitUntil {α : Type} (deadline : Nat) (task : AsyncTask α) : IO (Option α) := do
  if (← task.getState) matches .finished then return some (← task.block)
  if deadline ≤ (← IO.monoNanosNow) then return none
  IO.sleep nap
  awaitUntil deadline task

/-- The network addresses of a server. -/
def resolve (address : ServerAddress) : IO (List SocketAddress) := do
  let port := UInt16.ofNat address.port
  let all ← (DNS.getAddrInfo address.host (toString address.port)).block
  return all.toList.map fun
    | .v4 addr => .v4 ⟨addr, port⟩
    | .v6 addr => .v6 ⟨addr, port⟩

/-- Connects to the first of the addresses that answers. -/
def connect (deadline : Nat) : List SocketAddress → IO (Option TCP.Socket.Client)
  | [] => throw (.userError "no address")
  | address :: rest => do
    let socket ← TCP.Socket.Client.mk
    try
      let done ← awaitUntil deadline (← (socket.connect address).toIO)
      return done.map fun _ => socket
    catch e =>
      if rest.isEmpty then throw e else connect deadline rest

/-- Makes a connection. -/
def dial (address : ServerAddress) (settings : ClientSettings) : IO (Except ConnectError Wire) := do
  try
    let began ← IO.monoNanosNow
    match ← connect (began + settings.dialTimeout.nanos) (← resolve address) with
    | none => return .error (.timeout address.display settings.dialTimeout)
    | some socket =>
      if address.isTls then
        return .error (.tls address.display (.tls "not available"))
      let arriving ← (socket.recv? 65536).toIO
      return .ok {
        socket
        began := ← IO.monoNanosNow
        time := ← IO.mkRef (.start settings none)
        calls := ← IO.mkRef {}
        arriving := ← IO.mkRef (some arriving) }
  catch e => return .error (.io address.display (toString e))

/-- Carries out what the connection has decided to do. -/
def carryOut (w : Wire) : IO Unit := do
  let (effects, time) := (← w.time.get).takeEffects
  w.time.set time
  for effect in effects do
    try
      match effect with
      | .write bytes => (w.socket.send bytes.toByteArray).block
      | .endOfStream => w.socket.shutdown.block
      | .charge _ _ => pure ()
    catch _ => w.time.modify (·.act .readFails)

/-- Takes in what has arrived; says whether there was anything. -/
def takeIn (w : Wire) : IO Bool := do
  match ← w.arriving.get with
  | none => return false
  | some task =>
    unless (← task.getState) matches .finished do return false
    try
      match ← task.block with
      | some piece =>
        w.time.modify (·.act (.arrive piece))
        w.arriving.set (some (← (w.socket.recv? 65536).toIO))
      | none =>
        w.time.modify (·.act .endOfStream)
        w.arriving.set none
    catch _ =>
      w.time.modify (·.act .readFails)
      w.arriving.set none
    return true

/-- Lets the connection take its turn. -/
def turn (w : Wire) : IO Unit := do
  let busy ← w.takeIn
  let now := (← IO.monoNanosNow) - w.began
  w.time.modify fun t => (t.settle turns).advance turns now turns
  w.carryOut
  unless busy do IO.sleep nap

/-- Something happens to the connection. -/
def act (w : Wire) (a : ClientAction) : IO Unit := do
  w.time.modify fun t => (t.act a).settle turns
  w.carryOut

def client (w : Wire) : IO Client := return (← w.time.get).client

end Wire

/-! ## The daemon at work -/

/-- Everything that the daemon works with. -/
structure Station where
  config : Config
  headerPath : String
  say : LogLine → IO Unit
  /-- Ends when the user interrupts the program. -/
  interrupt : AsyncTask Int
  daemon : IO.Ref Daemon
  wire : IO.Ref (Option Wire)
  /-- The headers as they are on the disk. -/
  kept : IO.Ref (List UInt8)
  /-- The scripthashes of the configuration are subscribed. -/
  watching : IO.Ref Bool
  /-- When the next status line is due, in nanoseconds. -/
  statusDue : IO.Ref Nat

namespace Station

def node (s : Station) : IO Node := return (← s.daemon.get).node

/-- Closes the connection. -/
def hangUp (s : Station) : IO Unit := do
  match ← s.wire.get with
  | some w => w.act .close
  | none => pure ()
  s.wire.set none

/-- The node has changed: its headers go to the disk. One that has been stopped stays so. -/
def setNode (s : Station) (node : Node) : IO Unit := do
  let node := if (← s.node).stopped then node.stop else node
  s.daemon.modify ({ · with node })
  let content := node.store.file.content.getD []
  unless content == (← s.kept.get) do
    writeFile s.headerPath content
    s.kept.set content
  if node.connection.isNone then s.hangUp

/-- Writes a status line when it is time for one. -/
def reportStatus (s : Station) : IO Unit := do
  let every := s.config.wallet.statusSeconds * 1000000000
  let now ← IO.monoNanosNow
  if every ≠ 0 ∧ (← s.statusDue.get) ≤ now then
    s.statusDue.set (now + every)
    let cost ← match ← s.wire.get with
      | some w => do pure (← w.client).cost.cost
      | none => pure 0.0
    s.say (.status (← s.node) cost)

/-- Lets a little time pass. -/
def breathe (s : Station) : IO Unit := do
  s.reportStatus
  if (← s.interrupt.getState) matches .finished then
    unless (← s.node).stopped do
      match ← s.wire.get with
      | some w => w.act .cancelParent
      | none => pure ()
      s.setNode (← s.node).stop
  match ← s.wire.get with
  | some w => w.turn
  | none => IO.sleep nap

/-- Lets time pass up to a moment, or until the node is stopped. -/
partial def rest (s : Station) (moment : Nat) : IO Unit := do
  unless moment ≤ (← IO.monoNanosNow) || (← s.node).stopped do
    s.breathe
    s.rest moment

/-- Waits for the result of the only call. -/
partial def result (s : Station) (w : Wire) : IO Answered := do
  let client ← w.client
  let (results, calls) := (← w.calls.get).collect client
  w.calls.set calls
  match results with
  | (_, outcome) :: _ => return ⟨outcome, !client.isClosed⟩
  | [] =>
    s.breathe
    if (← s.wire.get).isNone then w.turn
    s.result w

/-- Asks the server for something. -/
def request (s : Station) (method : String) (params : Json) : IO Answered := do
  match ← s.wire.get with
  | none => return ⟨.error .closed, false⟩
  | some w =>
    let (calls, time) := (← w.calls.get).make (.any method params) false (← w.time.get)
    w.calls.set calls
    w.time.set (time.settle turns)
    w.carryOut
    s.result w

/-- Asks the server for something of a known shape. -/
def call {α : Type} (s : Station) (c : ServerCall α) : IO (Except ClientError α) := do
  let r ← s.request c.method c.params
  unless r.alive do s.setNode (← s.node).lose
  return r.outcome.bind c.decode

/-- Holds a dialogue with the server. -/
def converse {α : Type} (s : Station) : Dialogue α → IO α
  | .done a => return a
  | .dial address next => do
    match ← Wire.dial address s.config.clientSettings with
    | .error e => s.converse (next (.error e))
    | .ok w =>
      s.wire.set (some w)
      s.converse (next (.ok ()))
  | .ask method params next => do s.converse (next (← s.request method params))

/-- Answers a query of the synchronizer. -/
def answer (s : Station) : (q : Query) → IO q.Answer
  | .overLimit => do
    match ← s.wire.get with
    | some w => return (← w.client).cost.overSoftLimit
    | none => return false
  | .pause => do s.rest ((← IO.monoNanosNow) + s.config.costSettings.decayInterval.nanos)
  | .headers start count => s.call (.blockHeaders start count)
  | .header height => s.call (.blockHeader height)

/-- Subscribes what the configuration names, until all of it has worked once. -/
def watch (s : Station) : IO Unit := do
  unless ← s.watching.get do
    s.watching.set true
    for scripthash in s.config.wallet.scripthashes do
      let (r, node) ← s.converse ((← s.node).subscribe scripthash)
      s.setNode node
      s.say (.watched scripthash r)
      if r matches .error _ then s.watching.set false

/-- Tells what the node has to tell. -/
def tellEvents (s : Station) : IO Unit := do
  let node ← s.node
  let (heights, tips) := node.events.tips.drain
  let (notices, scripthashes) := node.events.scripthashes.drain
  s.setNode (node.withEvents ⟨tips, scripthashes⟩)
  for height in heights do
    s.say (.tipChanged height)
    s.watch
  for notice in notices do s.say (.scripthashChanged notice)

/-- The next push about a scripthash goes to the node's events. -/
def forwardScripthash (s : Station) (w : Wire) : IO Unit := do
  let client ← w.client
  if let (.item notice, scripthashes) := client.scripthashes.receive then
    w.time.modify fun t => { t with client := { t.client with scripthashes } }
    let node ← s.node
    s.setNode (node.withEvents (node.events.emitScripthash notice))

/-- What the forwarder of a session finds, if anything. -/
def nextPush (s : Station) (f : Follow) : IO (Option SessionInput) := do
  match f.forwarder, ← s.wire.get with
  | .granted _, _ => return some .deliver
  | .ready, none => return some .noMoreTips
  | .ready, some w =>
    s.forwardScripthash w
    let (received, tips) := (← w.client).tips.receive
    w.time.modify fun t => { t with client := { t.client with tips } }
    match received with
    | .item notice => return some (.pushed notice)
    | .closed => return some .noMoreTips
    | .empty => return none
  | _, _ => return none

/-- What happens to a session next. -/
partial def nextInput (s : Station) (stage : SessionStage) : IO SessionInput := do
  if (← s.node).stopped then return .wake
  match stage, stage.query? with
  | _, some query => return .answer query (← s.answer query)
  | .following f, none =>
    if f.worker matches .subscribing then return .subscribed (← s.call .headersSubscribe)
    match ← s.nextPush f with
    | some input => return input
    | none =>
      if f.lost || !f.queue.items.isEmpty then return .wake
      s.breathe
      s.nextInput stage
  | _, none => return .wake

/-- Lets the session go on until it ends. -/
partial def follow (s : Station) : IO (Except NodeError Unit) := do
  match (← s.node).session with
  | none => return .ok ()
  | some stage =>
    let input ← s.nextInput stage
    let (ended, node) := (← s.node).step input
    s.setNode node
    s.tellEvents
    match ended with
    | some r => return r
    | none => s.follow

/-- Starts the node and lets a session run. -/
def attempt (s : Station) : IO (Except NodeError Unit) := do
  let (started, node) ← s.converse (← s.node).start
  s.setNode node
  match started with
  | .error e => return .error e
  | .ok () =>
    let (ended, node) := node.run
    s.setNode node
    s.tellEvents
    let r ← match ended with
      | some r => pure r
      | none => s.follow
    s.daemon.modify (·.noteSession)
    return r

/-- Keeps the node connected until there is nothing more to be done. -/
partial def keepConnected (s : Station) : IO (Except DaemonError Unit) := do
  if (← s.node).stopped then return .ok ()
  let outcome ← s.attempt
  let jitter := s.config.reconnect.jitter
  let chance := (← IO.rand 0 2000000).toFloat / 1000000.0 - 1.0
  let (verdict, daemon) := (← s.daemon.get).judge outcome (jitter * chance)
  s.daemon.set daemon
  for line in verdict.lines do s.say line
  match verdict with
  | .finished r => return r
  | .again delay _ _ =>
    s.rest ((← IO.monoNanosNow) + delay.nanos)
    s.keepConnected

end Station

/-! ## The log -/

/-- Prints a line of the log. -/
def sayTo (logging : LoggingSection) (limit : LogLimit) (line : LogLine) : IO Unit := do
  let stamp := (← Std.Time.DateTime.now).toISO8601String
  for l in LogLine.shown limit [line] do
    let text ← if logging.format == "json" then pure (l.json stamp)
      else do pure (l.pretty stamp (← System.getHostName))
    if logging.output == "file" then
      let file ← IO.FS.Handle.mk logging.filePath .append
      file.putStrLn text
    else IO.println text

/-- Runs the daemon of a configuration. -/
def runDaemon (args : Arguments) (config : Config) (home : String) : IO UInt32 := do
  let some limit := args.logLimit? config
    | IO.eprintln "the rules of the log cannot be read"; return Offline.brokenOff.toUInt32
  if config.logging.output == "file" then
    try makeParent config.logging.filePath
    catch e => IO.eprintln ("❌ " ++ (DaemonError.io (toString e)).message); return 1
  let say := sayTo config.logging limit
  for line in LogLine.greeting config home do say line
  let headerPath := config.headerPath home
  let authorities ← readBytes (config.server.caFile.getD "")
  let found ← match ← FoundFile.find headerPath with
    | .missing => pure (.ok [])
    | _ => readBytes headerPath
  match Daemon.create config authorities found with
  | .error e => say e.line; return 1
  | .ok daemon =>
    try writeFile headerPath (found.toOption.getD [])
    catch e => say (DaemonError.node (.chain (.io (toString e)))).line; return 1
    let node := daemon.node
    let streams := ⟨node.events.tips.take.2, node.events.scripthashes.take.2⟩
    let station : Station := {
      config, headerPath, say
      interrupt := ← (← Signal.Waiter.mk .sigint false).wait
      daemon := ← IO.mkRef { daemon with node := node.withEvents streams }
      wire := ← IO.mkRef none
      kept := ← IO.mkRef (node.store.file.content.getD [])
      watching := ← IO.mkRef config.wallet.scripthashes.isEmpty
      statusDue := ← IO.mkRef ((← IO.monoNanosNow) + config.wallet.statusSeconds * 1000000000) }
    match ← station.keepConnected with
    | .ok () => say .farewell; return 0
    | .error _ => return 1

/-- Does what the arguments ask for. -/
def runProgram (args : Arguments) : IO UInt32 := do
  let home := (← IO.getEnv "HOME").getD "."
  let keep (text : String) := writeFile args.config text.toUTF8.toList
  match Launch.ofArguments args (← FoundFile.find args.config) with
  | .generated text line =>
    keep text
    IO.println line
    return 0
  | .refused line text =>
    if let some text := text then keep text
    IO.eprintln line
    return 1
  | .ready config text =>
    if let some text := text then keep text
    runDaemon args config home

end HeaderFollower

/-- The program. -/
def main (arguments : List String) : IO UInt32 := do
  match HeaderFollower.Arguments.read arguments with
  | .wrong =>
    IO.eprintln HeaderFollower.Arguments.help
    return 2
  | .help =>
    IO.println HeaderFollower.Arguments.help
    return 0
  | .run args => HeaderFollower.runProgram args
