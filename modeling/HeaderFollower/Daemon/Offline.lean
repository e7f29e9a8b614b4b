/-
# A run without a server

What a run of the program comes to when it reaches no server: the exit code, the lines for the user,
the log, and the files. Everything is decided by the arguments, the home directory and the files that
are there before.

`exit_eq_two_iff` says that the exit code tells wrong arguments from all other failures.
-/

import HeaderFollower.Daemon.Files
import HeaderFollower.Daemon.Launch
import HeaderFollower.Daemon.LogRule

namespace HeaderFollower

/-- What a run comes to. -/
structure Ending where
  exit : Nat
  /-- Lines for the user. -/
  output : List String := []
  /-- Lines about what went wrong before the daemon ran. -/
  complaints : List String := []
  files : FileTree
  /-- How the log is written. -/
  logging : Option LoggingSection := none
  log : List LogLine := []

/-- The texts of the log's lines of a level, where the log is written as records to the output. -/
def Ending.records (e : Ending) (level : LogLevel) : List String :=
  if e.logging.any fun l => l.format == "json" && l.output == "stdout" then
    (e.log.filter (·.level == level)).map (·.text)
  else []

/-- The last level that the log shows; none if the rules cannot be read. -/
def Arguments.logLimit? (a : Arguments) (c : Config) : Option LogLimit :=
  if a.verbose then some (some .trace) else LogLimit.ofRules? c.logging.level

/-- What becomes of a log that is to be written. -/
inductive LogStart where
  | ready (files : FileTree)
  | refused (fault : FileFault)
  /-- It cannot be set up at all. -/
  | broken

namespace LogStart

/-- The name of a file of the log where the configuration has none. -/
def usualName : String := "exsyncd.log"

/-- The length of a point and a date, which follow the name of a file of the log. -/
def dateLength : Nat := 11

/-- Makes the directory for the files of the log at a path. -/
def atPath (files : FileTree) (path : String) : LogStart :=
  let p := FilePath.ofText path
  match p.parent?.elim (.ok files) files.makeDirectories with
  | .error e => .refused e
  | .ok files =>
    let name := p.name?.getD usualName
    if name.contains '\x00' || longestName < name.utf8ByteSize + dateLength then .broken
    else .ready files

/-- Sets the log up. -/
def ofSection (files : FileTree) (s : LoggingSection) : LogStart :=
  if s.output = "file" then atPath files s.filePath else .ready files

end LogStart

namespace Offline

/-- Exit codes: 0 if all is well, else 1. -/
def exitCode (log : List LogLine) : Nat := if log.any (·.level == .error) then 1 else 0

/-- The exit code of a run that breaks off. -/
def brokenOff : Nat := 101

/-- The daemon's log and the files after it. -/
def daemon (c : Config) (home : String) (fuel : Nat) (files : FileTree) :
    List LogLine × FileTree :=
  let authorities := (files.read (c.server.caFile.getD "")).mapError FileFault.message
  let opened := (files.openFile (c.headerPath home)).mapError FileFault.message
  match Daemon.create c authorities (opened.map (·.1)) with
  | .error e => ([e.line], files)
  | .ok d =>
    (((d.runAlone (.unreachable "unreachable") fuel ()).1).flatMap (·.lines),
      (opened.map (·.2)).toOption.getD files)

/-- A run with a configuration, in which the daemon makes at most `fuel` attempts. -/
def withConfig (a : Arguments) (c : Config) (home : String) (fuel : Nat) (files : FileTree) :
    Ending :=
  match a.logLimit? c, LogStart.ofSection files c.logging with
  | none, _ => { exit := brokenOff, files }
  | _, .broken => { exit := brokenOff, files }
  | _, .refused fault =>
    { exit := 1, complaints := ["❌ " ++ (DaemonError.io fault.message).message], files }
  | some limit, .ready files =>
    let (log, files) := daemon c home fuel files
    { exit := exitCode log, files, logging := some c.logging, log := LogLine.shown limit log }

/-- A run with these arguments, in which the daemon makes at most `fuel` attempts. -/
def run (arguments : List String) (home : String) (fuel : Nat) (files : FileTree) : Ending :=
  match Arguments.read arguments with
  | .wrong => { exit := 2, files }
  | .help => { exit := 0, output := Arguments.help.splitOn "\n", files }
  | .run a =>
    let keep (text : String) : FileTree :=
      (files.save a.config text.toUTF8.toList).toOption.getD files
    match Launch.ofArguments a (files.find a.config) with
    | .generated text line => { exit := 0, output := [line], files := keep text }
    | .refused line text => { exit := 1, complaints := [line], files := text.elim files keep }
    | .ready c text => withConfig a c home fuel (text.elim files keep)

theorem exit_withConfig_ne_two (a : Arguments) (c : Config) (home : String) (fuel : Nat)
    (files : FileTree) : (withConfig a c home fuel files).exit ≠ 2 := by
  unfold withConfig
  split
  · simp [brokenOff]
  · simp [brokenOff]
  · simp
  · simp only [exitCode]
    split <;> decide

theorem exit_eq_two_iff {arguments : List String} {home : String} {fuel : Nat} {files : FileTree} :
    (run arguments home fuel files).exit = 2 ↔ Arguments.read arguments = .wrong := by
  unfold run
  split
  · simp_all
  · simp_all
  · rename_i a h
    rw [h]
    dsimp only
    split
    · simp
    · simp
    · simp [exit_withConfig_ne_two]

end Offline
end HeaderFollower
