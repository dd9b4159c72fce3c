import ModemWatch.Device.Variant

/-!
# The words of a command line

The program has two commands.  Options may stand before or behind operands; a value follows its
option as the next word or behind `=`.  A word `--` ends the options.  Only the directory for logs
may also be named before the command.

An option is given at most once on each side of the command, except that variants to track add up.
A value that looks like an option is not taken as a value, so a forgotten value never swallows the
next option.

A value that is a word of its own is looked at only when its side goes on or comes to its end.  The
side before the command comes to its end last: help that is asked for behind the command is given
whatever the last value before the command was.

* `CommandLine.parse` — what a list of words asks for;
* `Word.ofText` — options, operands and the word between them.
-/

namespace ModemWatch

/-- What the program is to do. -/
inductive Command where
  /-- Check a settings file and print the settings. -/
  | checkConfig (path : String)
  /-- Replay a scenario; settings and variants may replace those of the scenario. -/
  | replay (scenario : String) (config : Option String) (track : List Variant) (pretty : Bool)
  deriving DecidableEq, Repr

/-- Pages of help. -/
inductive HelpPage where
  | program
  | checkConfig
  | replay
  | help
  deriving DecidableEq, Repr

/-- What a command line asks for. -/
inductive CommandLine where
  | command (logDirectory : Option String) (command : Command)
  | help (page : HelpPage)
  /-- It makes no sense. -/
  | misuse
  deriving DecidableEq, Repr

namespace CommandLine

/-- The settings file that is checked if none is named. -/
def defaultPath : String := "/etc/devmon/devmon.toml"

/-- The options. -/
inductive Flag where
  | logDirectory
  | config
  | track
  | pretty
  deriving DecidableEq, Repr

instance : Named Flag where
  all := [.logDirectory, .config, .track, .pretty]
  name
    | .logDirectory => "log-dir"
    | .config => "config"
    | .track => "track"
    | .pretty => "pretty"

/-- The option needs a value. -/
def Flag.takesValue : Flag → Bool
  | .logDirectory | .config | .track => true
  | .pretty => false

/-- How far reading has come: before the command, or behind one. -/
inductive Level where
  | program
  | checkConfig
  | replay
  deriving DecidableEq, Repr

namespace Level

/-- The option may be given here. -/
def allows : Level → Flag → Bool
  | _, .logDirectory => true
  | .replay, _ => true
  | .program, _ | .checkConfig, _ => false

/-- The page of help for what stands here. -/
def page : Level → HelpPage
  | .program => .program
  | .checkConfig => .checkConfig
  | .replay => .replay

/-- The command that a word names. -/
def ofWord? : String → Option Level
  | "check-config" => some .checkConfig
  | "replay" => some .replay
  | _ => none

end Level

/-- What kind of word a word is. -/
inductive Word where
  /-- Ends the options. -/
  | endOfOptions
  | help
  | option (name : String) (value : Option String)
  | operand
  /-- Looks like an option but cannot be one. -/
  | unknown
  deriving DecidableEq, Repr

/-- The kind of a word. -/
def Word.ofText (word : String) : Word :=
  match word.toList with
  | ['-', '-'] => .endOfOptions
  | '-' :: '-' :: body =>
    let name := String.ofList (body.takeWhile (fun c => c != '='))
    match body.dropWhile (fun c => c != '=') with
    | [] => if name == "help" then .help else .option name none
    | _ :: value => .option name (some (String.ofList value))
  | ['-'] => .operand
  | '-' :: 'h' :: _ => .help
  | '-' :: _ => .unknown
  | _ => .operand

/-- What has been read. -/
structure Progress where
  level : Level := .program
  /-- An option with the word behind it that nobody has looked at yet. -/
  unchecked : Option (Flag × String) := none
  logDirectory : Option String := none
  config : Option String := none
  track : List Variant := []
  pretty : Bool := false
  operand : Option String := none
  deriving DecidableEq, Repr

namespace Progress

/-- A value that may be given once and is not empty. -/
def once (value : String) : Option String → Option (Option String)
  | some _ => none
  | none => if value == "" then none else some (some value)

/-- Takes in an option with a value. -/
def putValue (flag : Flag) (value : String) (r : Progress) : Option Progress :=
  match flag with
  | .logDirectory => (once value r.logDirectory).map (fun v => { r with logDirectory := v })
  | .config => (once value r.config).map (fun v => { r with config := v })
  | .track => ((value.splitOn ",").mapM Variant.ofWord).toOption.map
      (fun variants => { r with track := r.track ++ variants })
  | .pretty => none

/-- Looks at the value that nobody has looked at yet. -/
def settle (r : Progress) : Option Progress :=
  match r.unchecked with
  | none => some r
  | some (flag, value) => putValue flag value { r with unchecked := none }

/-- Takes in an option without a value. -/
def putFlag (flag : Flag) (r : Progress) : Option Progress :=
  match flag with
  | .pretty => if r.pretty then none else some { r with pretty := true }
  | .logDirectory | .config | .track => none

/-- Takes in an operand of a command; there is at most one. -/
def putOperand (word : String) (r : Progress) : Option Progress :=
  (once word r.operand).map (fun v => { r with operand := v })

/-- What the words from a command on ask for. -/
def finish (r : Progress) : CommandLine :=
  match r.settle with
  | none => .misuse
  | some r =>
    match r.level, r.operand with
    | .program, _ | .replay, none => .misuse
    | .checkConfig, path => .command r.logDirectory (.checkConfig (path.getD defaultPath))
    | .replay, some scenario =>
      .command r.logDirectory (.replay scenario r.config r.track r.pretty)

/-- Adds what stands before a command to what the words from it on ask for. -/
def andThen (r : Progress) : CommandLine → CommandLine
  | .command logDirectory c =>
    match r.settle with
    | none => .misuse
    | some r => .command (logDirectory.or r.logDirectory) c
  | .help page => .help page
  | .misuse => .misuse

end Progress

/-- The page of help that the words behind `help` name. -/
def helpOn : List String → CommandLine
  | [] => .help .program
  | ["check-config"] => .help .checkConfig
  | ["replay"] => .help .replay
  | ["help"] => .help .help
  | _ => .misuse

/-- Reads words behind the end of the options.  No command can be named there. -/
def operands : List String → Progress → CommandLine
  | [], r => r.finish
  | word :: rest, r =>
    if r.level = .program then .misuse
    else match r.putOperand word with
      | none => .misuse
      | some r => operands rest r

/-- Reads words; an option may wait for its value. -/
def scan : Option Flag → List String → Progress → CommandLine
  | none, [], r => r.finish
  | some _, [], _ => .misuse
  | some flag, word :: rest, r =>
    match Word.ofText word with
    | .operand => scan none rest { r with unchecked := some (flag, word) }
    | _ => .misuse
  | none, word :: rest, r =>
    match r.level, Word.ofText word with
    | .program, .operand =>
      if word = "help" then helpOn rest
      else match Level.ofWord? word with
        | none => .misuse
        | some level => r.andThen (scan none rest { level := level })
    | level, kind =>
      match r.settle with
      | none => .misuse
      | some r =>
        match kind with
        | .endOfOptions => operands rest r
        | .help => .help level.page
        | .unknown => .misuse
        | .operand =>
          match r.putOperand word with
          | none => .misuse
          | some r => scan none rest r
        | .option name value =>
          match Named.ofName? name with
          | none => .misuse
          | some flag =>
            if level.allows flag then
              match value, flag.takesValue with
              | none, true => scan (some flag) rest r
              | none, false =>
                match r.putFlag flag with
                | none => .misuse
                | some r => scan none rest r
              | some value, true =>
                match r.putValue flag value with
                | none => .misuse
                | some r => scan none rest r
              | some _, false => .misuse
            else .misuse

/-- What a list of words asks for. -/
def parse (words : List String) : CommandLine := scan none words {}

end CommandLine

end ModemWatch
