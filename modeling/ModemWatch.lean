import ModemWatch.Device.PowerSupply
import ModemWatch.Files.Directory
import ModemWatch.Files.Watches
import ModemWatch.Main
import ModemWatch.Session.Data
import ModemWatch.Session.Loop
import ModemWatch.Json.Reader
import ModemWatch.Proofs.Ownership
import ModemWatch.Proofs.Supersession
import ModemWatch.Proofs.Deciding
import ModemWatch.Proofs.Performing
import ModemWatch.Proofs.LastWord
import ModemWatch.Proofs.Happenings
import ModemWatch.Proofs.Mail
import ModemWatch.Proofs.Subscribing
import ModemWatch.Proofs.Handlers
import ModemWatch.Proofs.Mirror
import ModemWatch.Proofs.Ledger
import ModemWatch.Proofs.Faithful
import ModemWatch.Proofs.Asking
import ModemWatch.Proofs.Sound
import ModemWatch.Proofs.Replaying
import ModemWatch.Proofs.Showing
import ModemWatch.Proofs.Settled
import ModemWatch.Proofs.Capability
import ModemWatch.Proofs.Lagging
import ModemWatch.Proofs.Sending
import ModemWatch.Proofs.Effects
import ModemWatch.Proofs.Shares
import ModemWatch.Proofs.Wiring
import ModemWatch.Proofs.Accounts
import ModemWatch.Proofs.Ended
import ModemWatch.Proofs.Lines
import ModemWatch.Proofs.Extracts
import ModemWatch.Proofs.Order
import ModemWatch.Proofs.Twins
import ModemWatch.Proofs.Beside
import ModemWatch.Proofs.Together
import ModemWatch.Proofs.Apart
import ModemWatch.Proofs.Unwatched
import ModemWatch.Proofs.Pace
import ModemWatch.Proofs.Fates
import ModemWatch.Proofs.Applying
import ModemWatch.Proofs.PollingRate
import ModemWatch.Proofs.Succeeding
import ModemWatch.Proofs.Reentry
import ModemWatch.Proofs.Resting
import ModemWatch.Proofs.Belated
import ModemWatch.Proofs.Closing
import ModemWatch.Proofs.Revisions
import ModemWatch.Proofs.Answering
import ModemWatch.Proofs.Audience
import ModemWatch.Proofs.Completing
import ModemWatch.Proofs.Unordered
import ModemWatch.Proofs.Rounds
import ModemWatch.Proofs.AtOnce
import ModemWatch.Proofs.Probing
import ModemWatch.Proofs.Tracking
import ModemWatch.Proofs.Delivering
import ModemWatch.Proofs.Lookout
import ModemWatch.Proofs.Grammar
import ModemWatch.Proofs.Quoting
import ModemWatch.Proofs.Values
import ModemWatch.Proofs.Documents
import ModemWatch.Proofs.Rereading
import ModemWatch.Proofs.Loading
