import ModemWatch.Device.Snapshot
import ModemWatch.Files.Notifier
import ModemWatch.Radio.Transport

/-!
# Messages to a session

Everything that can change a session arrives as a message on its queue and is handled there, one
message at a time.  Signals, the radio and the watch on the screen state file only post; what they
post is decided here.
-/

namespace ModemWatch

/-- Identity of a session: its place in the order in which sessions were started. -/
abbrev SessionId := Nat

/-- The session as people read it. -/
def SessionId.text (id : SessionId) : String := s!"session-{id}"

/-- Number of a submission of one session; the first is 1. -/
abbrev Ticket := Nat

/-- The ticket as people read it. -/
def Ticket.text (ticket : Ticket) : String := s!"ticket-{ticket}"

/-- News for a session. -/
inductive Message where
  /-- A signal changed. -/
  | signal (update : SignalUpdate)
  /-- A submitted request was answered, or will not be. -/
  | completed (cls : RequestClass) (ticket : Ticket) (completion : Completion)
  /-- The screen state file changed. -/
  | screenChanged
  /-- The watch on the screen state file broke. -/
  | watchFailed (reason : String)

/-- Where the answer to a request goes: to which session, and as the answer to what. -/
structure Callback where
  session : SessionId
  cls : RequestClass
  ticket : Ticket
  deriving DecidableEq, Repr

/-- The message that an answer arrives as. -/
def Callback.message (c : Callback) (completion : Completion) : Message :=
  .completed c.cls c.ticket completion

/-- The message that a report of a watch arrives as. -/
def WatchEvent.message : WatchEvent → Message
  | .changed => .screenChanged
  | .failed reason => .watchFailed reason

end ModemWatch
