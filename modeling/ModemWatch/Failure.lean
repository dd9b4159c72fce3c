/-!
# Failures

Everything that can go wrong and is reported to a user, with the wording of each report.  Failures
in the settings or in the log setup stop the program at startup; the others do not.
-/

namespace ModemWatch

/-- What went wrong. -/
inductive Failure where
  /-- A file could not be read or written. -/
  | io (reason : String)
  /-- The log could not be set up. -/
  | logging (reason : String)
  /-- A settings or scenario text could not be understood. -/
  | config (reason : String)
  /-- The settings file is not there. -/
  | configNotFound (path : String)
  /-- The settings were understood but no session could work with them. -/
  | configInvalid (reason : String)
  /-- A file could not be watched. -/
  | watch (path reason : String)
  /-- The radio could not do what was asked of it. -/
  | transport (reason : String)
  deriving DecidableEq, Repr

namespace Failure

/-- The report that a user gets to see. -/
def message : Failure → String
  | io reason => s!"IO error: {reason}"
  | logging reason => s!"Failed to initialize logging: {reason}"
  | config reason => s!"Configuration error: {reason}"
  | configNotFound path => s!"Configuration file not found: {path}"
  | configInvalid reason => s!"Invalid configuration: {reason}"
  | watch path reason => s!"Failed to watch {path}: {reason}"
  | transport reason => s!"Radio transport error: {reason}"

/-- The program stops at startup. -/
def isFatal : Failure → Bool
  | config _ | configNotFound _ | configInvalid _ | logging _ => true
  | io _ | watch _ _ | transport _ => false

end Failure

end ModemWatch
