import ModemWatch.CommandLine.Words

/-!
# Pages of help

Each page says what something is for, how it is written, and what may be given with it.  What may be
given stands in sections of two columns; the second begins two blanks behind the longest entry of
the first.

* `HelpPage.render` — the text of a page.
-/

namespace ModemWatch

namespace HelpPage

/-- Rows of two columns under a title. -/
structure Rows where
  title : String
  rows : List (String × String)

/-- Options are set off so that short ones line up with long ones. -/
def logDirectoryRow : String × String :=
  ("    --log-dir <DIR>", "Write logs to a daily-rotated file in this directory instead of stderr")

/-- The option that asks for the page itself. -/
def helpRow : String × String := ("-h, --help", "Print help")

/-- What something is for. -/
def about : HelpPage → String
  | program => "Device state tracking for modem sessions"
  | checkConfig => "Validate a settings file and print the effective settings"
  | replay => "Replay a scenario and print one JSON line per step"
  | help => "Print this message or the help of the given subcommand(s)"

/-- How it is written. -/
def usage : HelpPage → String
  | program => "devmon [OPTIONS] <COMMAND>"
  | checkConfig => "devmon check-config [OPTIONS] [PATH]"
  | replay => "devmon replay [OPTIONS] <SCENARIO>"
  | help => "devmon help [COMMAND]..."

/-- What may be given with it. -/
def sections : HelpPage → List Rows
  | program =>
    [⟨"Commands",
      [("check-config", checkConfig.about), ("replay", replay.about), ("help", help.about)]⟩,
     ⟨"Options", [logDirectoryRow, helpRow]⟩]
  | checkConfig =>
    [⟨"Arguments", [("[PATH]", s!"[default: {CommandLine.defaultPath}]")]⟩,
     ⟨"Options", [logDirectoryRow, helpRow]⟩]
  | replay =>
    [⟨"Arguments", [("<SCENARIO>", "")]⟩,
     ⟨"Options",
      [("    --config <PATH>", "Use this settings file instead of the scenario's `[settings]`"),
       logDirectoryRow,
       ("    --track <VARIANT>", "Variants to track, overriding the settings (e.g. `ds,if`)"),
       ("    --pretty", "Pretty-print each step report"),
       helpRow]⟩]
  | help =>
    [⟨"Arguments", [("[COMMAND]...", "Print help for the subcommand(s)")]⟩]

/-- A row whose first column has a given width. -/
def renderRow (width : Nat) (row : String × String) : String :=
  "  " ++ row.1 ++ String.ofList (List.replicate (width - row.1.length + 2) ' ') ++ row.2 ++ "\n"

/-- A section. -/
def renderRows (s : Rows) : String :=
  let width := s.rows.foldl (fun w row => max w row.1.length) 0
  "\n" ++ s.title ++ ":\n" ++ String.join (s.rows.map (renderRow width))

/-- The text of a page. -/
def render (page : HelpPage) : String :=
  page.about ++ "\n\nUsage: " ++ page.usage ++ "\n"
    ++ String.join (page.sections.map renderRows)

end HelpPage

end ModemWatch
