import ModemWatch.Proofs.Delivering
import ModemWatch.Session.Bridge
import ModemWatch.Session.Message

/-!
# One bridge, one watch

A poll bridge that is started again sets up the new watch while it still holds the old one, and only
then lets go of the old one; if the new watch is refused, it never gets that far.  When nobody else
uses the notifier, the table therefore holds the watch of the bridge or nothing.  Two watches at
once would have every event handled twice, and a watch lost by a failed start would leave the bridge
alive and deaf.

* `Lookout.step` — what may be done with such a bridge;
* `Lookout.listener` — whose channel the events go to, from the history;
* `Lookout.Owns` — the watch of the bridge is all that is in the table; `Lookout.kept_run`;
* `Lookout.one_watch_while_alive` — watches and messages, and what each start and close changes.
-/

namespace ModemWatch

/-- A poll bridge, the file it watches, and a notifier that nobody else uses. -/
structure Lookout (κ : Type) where
  path : String
  bridge : Bridge
  notifier : Notifier κ := {}

namespace Lookout

variable {κ : Type}

/-- What may be done with a bridge and its notifier.  A start comes with the channel for the
messages. -/
inductive Order (κ : Type) where
  | start (channel : κ)
  | failNext (reason : String)
  | emit (event : WatchEvent)
  | close
  | look (rules : List PollRule) (sample : PollSample)

/-- What an order means for the next watch. -/
def Order.bearing : Order κ → Option (Option String)
  | .start _ => some none
  | .failNext reason => some (some reason)
  | .emit _ | .close | .look .. => none

/-- What a start with a channel comes to. -/
def start (channel : κ) (l : Lookout κ) : Except Failure Unit × Lookout κ :=
  let r := l.bridge.start l.path channel l.notifier
  (r.1, { l with bridge := r.2.1, notifier := r.2.2 })

/-- Closes the bridge. -/
def close (l : Lookout κ) : Lookout κ :=
  let r := l.bridge.close l.notifier
  { l with bridge := r.1, notifier := r.2 }

/-- One order. -/
def step (l : Lookout κ) : Order κ → Lookout κ
  | .start channel => (l.start channel).2
  | .failNext reason => { l with notifier := l.notifier.failNextWatch reason }
  | .emit _ => l
  | .close => l.close
  | .look rules sample => { l with bridge := (l.bridge.revise rules sample).1 }

/-- What a row of orders makes of a new bridge and a new notifier. -/
def run (path : String) (rules : List PollRule) (orders : List (Order κ)) : Lookout κ :=
  orders.foldl step { path, bridge := .new rules }

/-- The messages that an event posts, and the channels they go to. -/
def posts (event : WatchEvent) (l : Lookout κ) : List (κ × Message) :=
  (l.notifier.emit event).map (fun p => (p.1, p.2.message))

/-! ## The history -/

/-- Why the next start fails. -/
def refusal (orders : List (Order κ)) : Option String := Notifier.refusal Order.bearing orders

/-- Reads the orders back from the last one, up to a close or to a start that was not refused. -/
def readBack : List (Order κ) → Option κ
  | [] => none
  | .close :: _ => none
  | .start channel :: earlier =>
    if refusal earlier.reverse = none then some channel else readBack earlier
  | .failNext _ :: earlier | .emit _ :: earlier | .look .. :: earlier => readBack earlier

/-- The channel of the last start that succeeded, if there was no close after it. -/
def listener (orders : List (Order κ)) : Option κ := readBack orders.reverse

variable {path : String} {rules : List PollRule} {orders later : List (Order κ)} {l : Lookout κ}
  {channel : κ}

theorem run_concat (path : String) (rules : List PollRule) (orders : List (Order κ))
    (order : Order κ) :
    run path rules (orders ++ [order]) = (run path rules orders).step order := by
  rw [run, List.foldl_append]
  rfl

theorem refusal_concat (orders : List (Order κ)) (order : Order κ) :
    refusal (orders ++ [order]) = order.bearing.getD (refusal orders) :=
  Notifier.refusal_concat orders order

theorem listener_concat (orders : List (Order κ)) (order : Order κ) :
    listener (orders ++ [order]) = match order with
      | .close => none
      | .start channel => if refusal orders = none then some channel else listener orders
      | .failNext _ | .emit _ | .look .. => listener orders := by
  rw [listener, List.reverse_append, List.reverse_singleton, List.singleton_append]
  cases order <;> simp [readBack, listener]

/-! ## One order -/

/-- The bridge holds the one watch of the notifier, which reports to a channel, or it holds none and
there is none. -/
inductive Owns (l : Lookout κ) : Option κ → Prop where
  | nothing (held : l.bridge.watch = none) (watches : l.notifier.watches = []) : Owns l none
  | one (id : WatchId) (channel : κ) (held : l.bridge.watch = some id)
      (watches : l.notifier.watches = [(id, channel)]) (given : id < l.notifier.nextId) :
      Owns l (some channel)

theorem start_of_refused {reason : String} (h : l.notifier.failNext = some reason) (channel : κ) :
    l.start channel =
      (.error (.watch l.path reason),
        { l with notifier := { l.notifier with failNext := none } }) := by
  have hwatch := Notifier.watch_of_refused h l.path channel
  have hfailed : (l.notifier.watch l.path channel).1 = .error (.watch l.path reason) := by
    rw [hwatch]
  rw [start, Bridge.start_of_error hfailed, hwatch]

theorem close_of_owns {o : Option κ} (h : Owns l o) :
    l.close = { l with
      bridge := { l.bridge with watch := none }
      notifier := { l.notifier with watches := [] } } := by
  cases h with
  | nothing held watches =>
      have hbridge : ({ l.bridge with watch := none } : Bridge) = l.bridge := by rw [← held]
      have hnotifier : ({ l.notifier with watches := [] } : Notifier κ) = l.notifier := by
        rw [← watches]
      rw [hbridge, hnotifier, close, Bridge.close, held]
  | one id channel held watches given =>
      simp [close, Bridge.close, held, Notifier.close, watches]

/-- A start sets up a watch with a new number, and then the old one goes. -/
theorem start_of_free {o : Option κ} (h : Owns l o) (hfree : l.notifier.failNext = none)
    (channel : κ) :
    l.start channel =
      (.ok (), { l with
        bridge := { l.bridge with watch := some l.notifier.nextId }
        notifier := { l.notifier with
          nextId := l.notifier.nextId + 1
          watches := [(l.notifier.nextId, channel)] } }) := by
  rw [start, Bridge.start, Notifier.watch_of_free hfree]
  cases h with
  | nothing held watches => simp [Bridge.close, held, watches]
  | one id old held watches given =>
      have hnew : l.notifier.nextId ≠ id := Nat.ne_of_gt given
      simp [Bridge.close, held, Notifier.close, watches, hnew]

/-- What is true after a row of orders. -/
structure Kept (orders : List (Order κ)) (l : Lookout κ) : Prop where
  pending : l.notifier.failNext = refusal orders
  owns : Owns l (listener orders)

theorem Owns.congr {l' : Lookout κ} {o : Option κ} (h : Owns l o)
    (hheld : l'.bridge.watch = l.bridge.watch) (hwatches : l'.notifier.watches = l.notifier.watches)
    (hnext : l'.notifier.nextId = l.notifier.nextId) : Owns l' o := by
  cases h with
  | nothing held watches => exact .nothing (hheld.trans held) (hwatches.trans watches)
  | one id channel held watches given =>
      exact .one id channel (hheld.trans held) (hwatches.trans watches) (hnext ▸ given)

theorem Owns.isAlive {o : Option κ} (h : Owns l o) : l.bridge.isAlive = o.isSome := by
  cases h with
  | nothing held watches => rw [Bridge.isAlive, held]; rfl
  | one id channel held watches given => rw [Bridge.isAlive, held]; rfl

theorem Owns.length_watches {o : Option κ} (h : Owns l o) :
    l.notifier.watches.length = if l.bridge.isAlive then 1 else 0 := by
  rw [h.isAlive]
  cases h with
  | nothing held watches => rw [watches]; rfl
  | one id channel held watches given => rw [watches]; rfl

theorem Owns.posts {o : Option κ} (h : Owns l o) (event : WatchEvent) :
    l.posts event = o.toList.map (fun channel => (channel, event.message)) := by
  rw [Lookout.posts, Notifier.emit, Notifier.listeners]
  cases h with
  | nothing held watches => rw [watches]; rfl
  | one id channel held watches given => rw [watches]; rfl

/-- The next number is not that of an open watch. -/
theorem Owns.isOpen_nextId {o : Option κ} (h : Owns l o) :
    l.notifier.isOpen l.notifier.nextId = false := by
  rw [Notifier.isOpen]
  cases h with
  | nothing held watches => rw [watches]; rfl
  | one id channel held watches given =>
      have hold : id ≠ l.notifier.nextId := Nat.ne_of_lt given
      simp [watches, hold]

theorem kept_step (h : Kept orders l) (order : Order κ) :
    Kept (orders ++ [order]) (l.step order) := by
  obtain ⟨hpending, howns⟩ := h
  have hsaid := refusal_concat orders order
  have hheard := listener_concat orders order
  cases order with
  | start channel =>
      cases hr : refusal orders with
      | some reason =>
          have hstart := start_of_refused (hpending.trans hr) channel
          rw [hr] at hheard
          rw [step, hstart]
          refine ⟨hsaid.symm, ?_⟩
          rw [hheard]
          exact howns.congr rfl rfl rfl
      | none =>
          have hstart := start_of_free howns (hpending.trans hr) channel
          rw [hr] at hheard
          rw [step, hstart]
          refine ⟨(hpending.trans hr).trans hsaid.symm, ?_⟩
          rw [hheard]
          exact .one _ channel rfl rfl (Nat.lt_succ_self _)
  | failNext reason =>
      refine ⟨hsaid.symm, ?_⟩
      rw [hheard]
      exact howns.congr rfl rfl rfl
  | emit event =>
      refine ⟨hpending.trans hsaid.symm, ?_⟩
      rw [hheard]
      exact howns
  | close =>
      rw [step, close_of_owns howns]
      refine ⟨hpending.trans hsaid.symm, ?_⟩
      rw [hheard]
      exact .nothing rfl rfl
  | look rules sample =>
      refine ⟨hpending.trans hsaid.symm, ?_⟩
      rw [hheard]
      exact howns.congr rfl rfl rfl

theorem kept_run (path : String) (rules : List PollRule) (orders : List (Order κ)) :
    Kept orders (run path rules orders) := by
  induction orders using List.reverseRecOn with
  | nil => exact ⟨rfl, .nothing rfl rfl⟩
  | append_singleton orders order ih =>
      rw [run_concat]
      exact kept_step ih order

/-! ## Runs -/

theorem path_run (path : String) (rules : List PollRule) (orders : List (Order κ)) :
    (run path rules orders).path = path := by
  induction orders using List.reverseRecOn with
  | nil => rfl
  | append_singleton orders order ih =>
      have hsame : ((run path rules orders).step order).path = (run path rules orders).path := by
        cases order <;> rfl
      rw [run_concat, hsame, ih]

/-- Which starts fail, and why. -/
theorem start_run (path : String) (rules : List PollRule) (orders : List (Order κ)) (channel : κ) :
    ((run path rules orders).start channel).1 =
      match refusal orders with
      | some reason => .error (.watch path reason)
      | none => .ok () := by
  obtain ⟨hpending, howns⟩ := kept_run path rules orders
  cases hr : refusal orders with
  | some reason => rw [start_of_refused (hpending.trans hr), path_run]
  | none => rw [start_of_free howns (hpending.trans hr)]

theorem posts_run (path : String) (rules : List PollRule) (orders : List (Order κ))
    (event : WatchEvent) :
    (run path rules orders).posts event =
      (listener orders).toList.map (fun channel => (channel, event.message)) :=
  (kept_run path rules orders).owns.posts event

/-- None of the starts in some later orders succeeds. -/
def Failing (path : String) (rules : List PollRule) (orders later : List (Order κ)) : Prop :=
  ∀ mid channel since, later = mid ++ .start channel :: since →
    ((run path rules (orders ++ mid)).start channel).1 ≠ .ok ()

/-- As long as no start succeeds the channel stays the same up to a close, and then there is none. -/
theorem listener_append_of_failing (h : Failing path rules orders later) :
    .close ∈ later ∧ listener (orders ++ later) = none ∨
      .close ∉ later ∧ listener (orders ++ later) = listener orders := by
  induction later using List.reverseRecOn with
  | nil => exact .inr ⟨List.not_mem_nil, by rw [List.append_nil]⟩
  | append_singleton later order ih =>
      have hearlier : Failing path rules orders later := by
        intro mid channel since hsplit
        exact h mid channel (since ++ [order]) (by rw [hsplit]; simp)
      have hrefused : ∀ channel, order = .start channel → refusal (orders ++ later) ≠ none := by
        intro channel hstart hfree
        refine h later channel [] (by rw [hstart]) ?_
        rw [start_run, hfree]
      rw [← List.append_assoc, listener_concat]
      cases order with
      | start channel =>
          simpa [hrefused channel rfl] using ih hearlier
      | close => exact .inl ⟨by simp, rfl⟩
      | failNext | emit | look => simpa using ih hearlier

/-- A start that fails uses up the refusal and changes nothing else. -/
theorem run_concat_start_of_error {failure : Failure}
    (hfailed : ((run path rules orders).start channel).1 = .error failure) :
    (∃ reason, refusal orders = some reason ∧ failure = .watch path reason) ∧
      run path rules (orders ++ [.start channel]) =
        { run path rules orders with
          notifier := { (run path rules orders).notifier with failNext := none } } := by
  have hpending := (kept_run path rules orders).pending
  cases hr : refusal orders with
  | none =>
      rw [start_run, hr] at hfailed
      cases hfailed
  | some reason =>
      have hafter := start_of_refused (hpending.trans hr) channel
      rw [start_run, hr] at hfailed
      refine ⟨⟨reason, rfl, (Except.error.inj hfailed).symm⟩, ?_⟩
      rw [run_concat, step, hafter]

theorem refusal_of_start_ok (hok : ((run path rules orders).start channel).1 = .ok ()) :
    refusal orders = none := by
  cases hr : refusal orders with
  | none => rfl
  | some reason =>
      rw [start_run, hr] at hok
      cases hok

/-- A start that succeeds puts a new watch in place of the old one. -/
theorem run_concat_start_of_ok (hok : ((run path rules orders).start channel).1 = .ok ()) :
    ∃ id, (run path rules orders).notifier.isOpen id = false ∧
      (run path rules (orders ++ [.start channel])).bridge =
        { (run path rules orders).bridge with watch := some id } ∧
      (run path rules (orders ++ [.start channel])).notifier.watches = [(id, channel)] := by
  obtain ⟨hpending, howns⟩ := kept_run path rules orders
  refine ⟨_, howns.isOpen_nextId, ?_⟩
  rw [run_concat, step, start_of_free howns (hpending.trans (refusal_of_start_ok hok))]
  exact ⟨rfl, rfl⟩

/-- Where messages go after a start that succeeded. -/
theorem posts_since_start (hok : ((run path rules orders).start channel).1 = .ok ())
    (hfailing : Failing path rules (orders ++ [.start channel]) later) (hopen : .close ∉ later)
    (event : WatchEvent) :
    (run path rules (orders ++ .start channel :: later)).posts event =
      [(channel, event.message)] := by
  have hstarted : listener (orders ++ [.start channel]) = some channel := by
    rw [listener_concat]
    exact if_pos (refusal_of_start_ok hok)
  rcases listener_append_of_failing hfailing with ⟨hclosed, -⟩ | ⟨-, hlistener⟩
  · exact absurd hclosed hopen
  · rw [← List.singleton_append, ← List.append_assoc, posts_run, hlistener, hstarted]
    rfl

/-- No messages after a close. -/
theorem posts_since_close (hfailing : Failing path rules (orders ++ [.close]) later)
    (event : WatchEvent) : (run path rules (orders ++ .close :: later)).posts event = [] := by
  have hclosed : listener (orders ++ [.close]) = none := listener_concat orders .close
  have hnone : listener (orders ++ [.close] ++ later) = none := by
    rcases listener_append_of_failing hfailing with ⟨-, hlistener⟩ | ⟨-, hlistener⟩
    · exact hlistener
    · exact hlistener.trans hclosed
  rw [← List.singleton_append, ← List.append_assoc, posts_run, hnone]
  rfl

/-- **One bridge, one watch.**  Whatever is done with a bridge and a notifier that nobody else uses:

* there is one watch while the bridge is alive, and none otherwise; an event posts one message, with
  what happened, to the channel of the last start that succeeded, or nothing after a close;
* a start fails if that was arranged, for the reason given last.  All that it changes is that the
  arrangement is used up: the bridge, its decisions and its watch stay, and messages go where they
  went;
* a start that succeeds leaves the decisions as they are and has a new watch in place of the old
  one.  From then on each event posts one message to its channel, until the bridge is closed or
  another start succeeds;
* after a close nothing is posted until a start succeeds. -/
theorem one_watch_while_alive (path : String) (rules : List PollRule) (orders : List (Order κ)) :
    let l := run path rules orders
    (l.notifier.watches.length = (if l.bridge.isAlive then 1 else 0) ∧
      l.bridge.isAlive = (listener orders).isSome ∧
      ∀ event, l.posts event =
        (listener orders).toList.map (fun channel => (channel, event.message))) ∧
    (∀ channel failure, (l.start channel).1 = .error failure →
      (∃ reason, refusal orders = some reason ∧ failure = .watch path reason) ∧
      run path rules (orders ++ [.start channel]) =
        { l with notifier := { l.notifier with failNext := none } } ∧
      ∀ event, (run path rules (orders ++ [.start channel])).posts event = l.posts event) ∧
    (∀ channel, (l.start channel).1 = .ok () →
      (∃ id, l.notifier.isOpen id = false ∧
        (run path rules (orders ++ [.start channel])).bridge = { l.bridge with watch := some id } ∧
        (run path rules (orders ++ [.start channel])).notifier.watches = [(id, channel)]) ∧
      ∀ later, Failing path rules (orders ++ [.start channel]) later → .close ∉ later →
        ∀ event, (run path rules (orders ++ .start channel :: later)).posts event =
          [(channel, event.message)]) ∧
    (∀ later, Failing path rules (orders ++ [.close]) later →
      ∀ event, (run path rules (orders ++ .close :: later)).posts event = []) := by
  intro l
  have howns := (kept_run path rules orders).owns
  refine ⟨⟨howns.length_watches, howns.isAlive, howns.posts⟩, ?_, ?_, ?_⟩
  · intro channel failure hfailed
    obtain ⟨hreason, hafter⟩ := run_concat_start_of_error hfailed
    refine ⟨hreason, hafter, ?_⟩
    intro event
    rw [hafter]
    rfl
  · intro channel hok
    exact ⟨run_concat_start_of_ok hok, fun _ => posts_since_start hok⟩
  · intro later hfailing
    exact posts_since_close hfailing

/-- A bridge that is started, and started again in vain. -/
def vigil : List (Order Nat) := [.start 1, .failNext "no inotify", .start 2]

/-- The one watch of that bridge still reports to the first channel, until a third start succeeds;
one that fails afterwards changes nothing, nor does it bring back a watch that was closed. -/
theorem one_watch_while_alive_of_vigil :
    let run := run "/run/screen" Variant.deviceState.profile.pollRules
    let vain : List (Order Nat) := [.failNext "table full", .start 4]
    (run vigil).notifier.watches.length = 1 ∧
    (run vigil).posts (.failed "gone") = [(1, .watchFailed "gone")] ∧
    ((run (vigil.take 2)).start 2).1 = .error (.watch "/run/screen" "no inotify") ∧
    (run (vigil.take 2 ++ [.start 2])).bridge = (run (vigil.take 2)).bridge ∧
    (run (vigil ++ .start 3 :: vain)).posts .changed = [(3, .screenChanged)] ∧
    (run (vigil ++ .close :: vain)).posts .changed = [] := by
  intro run vain
  have hvain : ∀ orders,
      Failing "/run/screen" Variant.deviceState.profile.pollRules orders vain := by
    intro orders mid channel since hsplit
    rcases mid with _ | ⟨a, _ | ⟨b, mid⟩⟩
    · simp [vain] at hsplit
    · simp only [vain, List.cons_append, List.nil_append, List.cons.injEq] at hsplit
      obtain ⟨rfl, -, -⟩ := hsplit
      rw [start_run, refusal_concat]
      simp [Order.bearing]
    · simp [vain] at hsplit
  have hfails : ((run (vigil.take 2)).start 2).1 = .error (.watch "/run/screen" "no inotify") := rfl
  obtain ⟨⟨hlength, -, hposts⟩, -, hstart, hclose⟩ :=
    one_watch_while_alive "/run/screen" Variant.deviceState.profile.pollRules vigil
  obtain ⟨-, hfailed, -⟩ :=
    one_watch_while_alive "/run/screen" Variant.deviceState.profile.pollRules (vigil.take 2)
  refine ⟨hlength.trans rfl, hposts _, hfails, ?_, ?_, hclose vain (hvain _) .changed⟩
  · exact (congrArg Lookout.bridge (hfailed 2 _ hfails).2.1).trans rfl
  · exact (hstart 3 rfl).2 vain (hvain _) (by simp [vain]) .changed

end Lookout

end ModemWatch
