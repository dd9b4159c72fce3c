import ModemWatch.CommandLine.Help
import ModemWatch.Files.Access
import ModemWatch.Replay.Text

/-!
# Running a command

A command reads files and prints.  It gets at files only through `FileAccess` and at TOML only
through a `Toml.Codec`, so what it does is said here once, whether the files are those of a computer
or a `FileTree`.

The exit code tells the outcomes apart: 0 for success, 2 for a command line that makes no sense and
for settings that are checked and found wrong, 101 for a log file that cannot be opened, 1 for
anything else that goes wrong.  A replay that fails prints no report at all.

* `checkConfig`, `replayScenario` — the two commands on what they have read;
* `CommandLine.logFits` — the log file can be opened in a directory;
* `CommandLine.run` — a whole command line.
-/

namespace ModemWatch

/-- What the program leaves behind. -/
structure Output where
  code : UInt8
  stdout : String := ""
  stderr : String := ""
  deriving DecidableEq, Repr

/-- A failure that is not a matter of settings under check. -/
def Failure.output (f : Failure) : Output := { code := 1, stderr := s!"Error: {f.message}\n" }

/-- Checks what was read from a settings file, and prints the settings. -/
def checkConfig (toml : Toml.Codec) (path : String) (file : FileContent) : Output :=
  match Settings.loadStrict toml path file with
  | .ok settings =>
    match toml.write settings.datum with
    | .ok text => { code := 0, stdout := text }
    | .error reason => { code := 1, stderr := s!"Error: {reason}\n" }
  | .error f =>
    if f.isFatal then { code := 2, stderr := s!"{path}: {f.message}\n" } else f.output

/-- Replays a scenario with other variants to track, if any are given. -/
def replayScenario (track : List Variant) (pretty : Bool) (s : Scenario) : Output :=
  let s := if track.isEmpty then s else { s with settings := s.settings.withTracking track }
  match Replay.run s with
  | .error f => f.output
  | .ok reports => { code := 0, stdout := String.join (reports.map (Report.render pretty)) }

namespace Command

variable {m : Type → Type} [Monad m]

/-- Runs a command. -/
def run (toml : Toml.Codec) (files : FileAccess m) : Command → m Output
  | checkConfig path => do return ModemWatch.checkConfig toml path (← files.read path)
  | replay path config track pretty => do
    match Scenario.load toml (← files.read path), config with
    | .error f, _ => return f.output
    | .ok s, none => return replayScenario track pretty s
    | .ok s, some config =>
      let settings := Settings.load toml (← files.read config)
      return replayScenario track pretty { s with settings := settings }

end Command

namespace CommandLine

variable {m : Type → Type} [Monad m]

/-- How many bytes the name of a log file has: `devmon.log`, a dot, and the date as `YYYY-MM-DD`. -/
def logNameSize : Nat := 21

/-- The path of the log file in a directory is not too long. -/
def logFits (directory : String) : Bool :=
  let slash := if directory.endsWith "/" then 0 else 1
  directory.utf8ByteSize + slash + logNameSize ≤ Path.longestPath

/-- Runs a command line.  The directory for logs is made before anything else. -/
def run (toml : Toml.Codec) (files : FileAccess m) : CommandLine → m Output
  | misuse => return { code := 2, stderr := HelpPage.program.render }
  | help page => return { code := 0, stdout := page.render }
  | command none c => c.run toml files
  | command (some path) c => do
    if ← files.makeDirectory path then
      if logFits path then c.run toml files
      else return { code := 101, stderr := s!"cannot open a log file in {path}\n" }
    else return (Failure.io s!"cannot make the directory {path}").output

end CommandLine

end ModemWatch
