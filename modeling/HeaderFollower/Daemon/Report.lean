/-
# What the log says

The lines that the daemon writes while it runs, and the two forms in which they are written: as text
for people and as JSON for programs.
-/

import HeaderFollower.Daemon.Supervisor
import HeaderFollower.Json.Writer

namespace HeaderFollower

/-- A number with one place behind the point. -/
def SessionCost.tenths (x : Float) : String :=
  let (num, den) := Binary64.ratio x.toBits
  let n := Binary64.divideNearest (num * 10) den
  let sign := if Binary64.isNegative x.toBits then "-" else ""
  sign ++ toString (n / 10) ++ "." ++ toString (n % 10)

def LogLevel.name : LogLevel → String
  | error => "ERROR"
  | warn => "WARN"
  | info => "INFO"
  | debug => "DEBUG"
  | trace => "TRACE"

namespace LogLine

/-- A line for people, with the time and the name of the host in front. -/
def pretty (stamp host : String) (l : LogLine) : String :=
  let name := l.level.name
  stamp ++ " [" ++ host ++ "] " ++ (if name.length < 5 then " " else "") ++ name ++ " " ++ l.text

/-- A line for programs. -/
def json (stamp : String) (l : LogLine) : String :=
  (Json.mkObject [("timestamp", .string stamp), ("level", .string l.level.name),
    ("fields", .mkObject [("message", .string l.text)]), ("target", .string logPart)]).write

/-- What is said at the start. -/
def greeting (c : Config) (home : String) : List LogLine :=
  ["🚀 exsyncd v" ++ programVersion ++ " (unknown, built unknown)",
    "📡 Network: " ++ c.network.title, "  └─ Server: " ++ c.server.address,
    "  └─ Data Dir: " ++ c.dataDirectory home,
    "  └─ Start point: " ++ toString c.startPoint].map (⟨.info, ·⟩)

/-- What is said at the end if all is well. -/
def farewell : LogLine := ⟨.info, "👋 Shutdown complete"⟩

def tipChanged (height : Nat) : LogLine := ⟨.info, "⛓️  Tip changed: " ++ toString height⟩

def scripthashChanged (notice : ScripthashNotice) : LogLine :=
  ⟨.info, "💰 Scripthash " ++ notice.scripthash ++ " status " ++ notice.status.getD "none"⟩

/-- What comes of a subscription. -/
def watched (scripthash : String) : Except NodeError (Option String) → LogLine
  | .ok status => ⟨.info, "👀 Watching " ++ scripthash ++ " (status " ++ status.getD "none" ++ ")"⟩
  | .error e => ⟨.warn, "⚠️ Failed to subscribe " ++ scripthash ++ ": " ++ e.message⟩

/-- How the node is doing, with the session cost of its connection. -/
def status (n : Node) (cost : Float) : LogLine :=
  let s := n.status
  ⟨.info, "📊 " ++ " | ".intercalate [
    (s.phase.map (·.text)).getD "idle",
    "peer " ++ (if s.connected then n.address.display else "-"),
    "tip " ++ (s.tip.map toString).getD "-",
    "synced " ++ toString s.synced,
    "recovery " ++ (s.pinned.map fun h => "recovering from " ++ toString h).getD "none",
    "cost " ++ SessionCost.tenths cost]⟩

end LogLine
end HeaderFollower
