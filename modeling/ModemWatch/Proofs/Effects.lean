import ModemWatch.Proofs.Moves

/-!
# What a move does to a host

Leave aside the moves in which sessions are given other things to share.  Each of the others does
one of four things: mail arrives, an open session handles a message, an open session ends, or a
session starts.  Mail takes nothing from anybody; all else that happens to the handlers, the watches
and the requests for intervals is the doing of the one session that the move is about.

Answers of the radio come to a session by its queue.  A `Ticket` cannot be made up by whoever hands
messages to a session, so a move that hands over an answer stands for nothing that can happen;
`Move.Queued` leaves it out where that matters.

* `Host.Effect` — the four things, and `Host.effect_move` that there are no others;
* `Host.effect_induction` — what holds at first and through each of the four holds throughout.
-/

namespace ModemWatch

/-- Sessions keep what they share. -/
def Move.Inside : Move → Prop
  | .happen _ | .failAll .. | .hand .. => True
  | .exchange .. => False

/-- Sessions keep what they share, and answers of the radio come by the queues. -/
def Move.Queued : Move → Prop
  | .happen _ | .failAll .. | .hand _ (.signal _) | .hand _ .screenChanged
  | .hand _ (.watchFailed _) => True
  | .hand _ (.completed ..) | .exchange .. => False

/-- A move that is not about one session alone; at most it brings mail. -/
def Move.Mail : Move → Prop
  | .happen (.start _) | .happen (.processOne _) | .happen (.shutdown _) | .hand ..
  | .exchange .. => False
  | .happen _ | .failAll .. => True

theorem Move.Queued.inside {e : Move} (h : e.Queued) : e.Inside := by
  cases e with
  | happen | failAll | hand => trivial
  | exchange f signals => exact h

namespace Host

/-- Mail arrived: sessions received messages, and nobody lost or gained anything else. -/
structure Posted (h h' : Host) : Prop where
  length : h'.sessions.length = h.sessions.length
  mail : ∀ {j : SessionId} {s' : Session}, h'.sessions[j]? = some s' →
    ∃ (s : Session) (ms : List Message), h.sessions[j]? = some s ∧ s' = s.receiveAll ms
  registry : ∀ k, (h'.platform.sources.get k).registry = (h.platform.sources.get k).registry
  watches : h'.platform.notifier.watches = h.platform.notifier.watches
  nextWatch : h'.platform.notifier.nextId = h.platform.notifier.nextId
  intervals : h'.platform.slot.intervals = h.platform.slot.intervals
  /-- The record of the slot is as it was, or somebody collected it. -/
  calls : h'.platform.slot.calls = h.platform.slot.calls ∨ h'.platform.slot.calls = []
  pending : ∀ w ∈ h'.platform.transport.pending, w ∈ h.platform.transport.pending

/-- What a move does to a host. -/
inductive Effect (h : Host) : Host → Prop
  | posts {h' : Host} : h.Posted h' → Effect h h'
  /-- An open session handles a message; what waits for it afterwards is left open. -/
  | handles {id : SessionId} {s : Session} (m : Message) (queue : List Message) :
      h.sessions[id]? = some s → s.closed = false →
      Effect h ⟨(s.handle id m h.platform).2,
        h.sessions.set id { (s.handle id m h.platform).1 with queue := queue }⟩
  | ends {id : SessionId} {s : Session} : h.sessions[id]? = some s → s.closed = false →
      Effect h ⟨(s.shutdown id h.platform).2, h.sessions.set id (s.shutdown id h.platform).1⟩
  | starts (m : Monitor) :
      Effect h ⟨(Session.start h.sessions.length m.variant m.intervals m.watchPath h.platform).2,
        h.sessions ++
          [(Session.start h.sessions.length m.variant m.intervals m.watchPath h.platform).1]⟩

/-- Nothing waits for a session that has ended. -/
def Swept (h : Host) : Prop :=
  ∀ (j : SessionId) (s : Session), h.sessions[j]? = some s → s.closed = true → s.queue = []

variable {h h' : Host}

/-- A session that something waits for has not ended. -/
theorem Swept.open_of_cons (hswept : h.Swept) {j : SessionId} {s : Session}
    (hs : h.sessions[j]? = some s) {m : Message} {rest : List Message} (hq : s.queue = m :: rest) :
    s.closed = false := by
  cases hclosed : s.closed with
  | false => rfl
  | true =>
      rw [hswept j s hs hclosed] at hq
      cases hq

/-- A start, spelled out. -/
theorem start_eq (m : Monitor) (h : Host) :
    h.start m =
      ⟨(Session.start h.sessions.length m.variant m.intervals m.watchPath h.platform).2,
        h.sessions ++
          [(Session.start h.sessions.length m.variant m.intervals m.watchPath h.platform).1]⟩ :=
  rfl

theorem Posted.refl (h : Host) : h.Posted h where
  length := rfl
  mail {_ s'} hs' := ⟨s', [], hs', (Session.receiveAll_nil s').symm⟩
  registry _ := rfl
  watches := rfl
  nextWatch := rfl
  intervals := rfl
  calls := .inl rfl
  pending _ hw := hw

/-- A property that mail does not touch is found in the same places afterwards. -/
theorem Posted.exists_iff (hp : h.Posted h') (P : Session → Prop)
    (hmail : ∀ ms s, P (s.receiveAll ms) ↔ P s) (j : SessionId) :
    (∃ s, h.sessions[j]? = some s ∧ P s) ↔ ∃ s', h'.sessions[j]? = some s' ∧ P s' := by
  constructor
  · rintro ⟨s, hs, hP⟩
    have hlt : j < h'.sessions.length := by
      rw [hp.length]
      exact (List.getElem?_eq_some_iff.mp hs).1
    have hs' := List.getElem?_eq_getElem hlt
    obtain ⟨s₀, ms, hs₀, heq⟩ := hp.mail hs'
    obtain rfl : s = s₀ := Option.some.inj (hs.symm.trans hs₀)
    exact ⟨_, hs', by rw [heq, hmail]; exact hP⟩
  · rintro ⟨s', hs', hP⟩
    obtain ⟨s, ms, hs, rfl⟩ := hp.mail hs'
    exact ⟨s, hs, (hmail ms s).mp hP⟩

/-- Letters are posted while no part of the platform that anybody holds changes. -/
theorem posted_deliver {p : Platform} (letters : List (SessionId × Message))
    (hregistry : ∀ k, (p.sources.get k).registry = (h.platform.sources.get k).registry)
    (hnotifier : p.notifier = h.platform.notifier) (hslot : p.slot = h.platform.slot)
    (hpending : ∀ w ∈ p.transport.pending, w ∈ h.platform.transport.pending) :
    h.Posted (({ h with platform := p } : Host).deliver letters) where
  length := length_deliver ..
  mail {j s'} hs' := by
    rw [getElem?_deliver] at hs'
    obtain ⟨s, hs, rfl⟩ := Option.map_eq_some_iff.mp hs'
    exact ⟨s, lettersTo j letters, hs, rfl⟩
  registry := by rw [platform_deliver]; exact hregistry
  watches := by rw [platform_deliver, hnotifier]
  nextWatch := by rw [platform_deliver, hnotifier]
  intervals := by rw [platform_deliver, hslot]
  calls := by rw [platform_deliver, hslot]; exact .inl rfl
  pending := by rw [platform_deliver]; exact hpending

theorem registry_write (u : SignalUpdate) (s : Sources SessionId) (k : SignalKind) :
    ((s.write u).1.get k).registry = (s.get k).registry := by
  unfold Sources.write
  by_cases hk : k = u.kind
  · subst hk
    simp
  · simp [hk]

theorem posted_signal (u : SignalUpdate) (h : Host) : h.Posted (h.signal u) := by
  simp only [Host.signal, postTo_eq_deliver]
  exact posted_deliver _ (registry_write u _) rfl rfl fun _ hw => hw

theorem posted_answer {t : Transport Callback}
    (hpending : ∀ w ∈ t.pending, w ∈ h.platform.transport.pending) (a : Completion)
    (ks : List Callback) :
    h.Posted (({ h with platform := { h.platform with transport := t } } : Host).answer a ks) := by
  rw [answer_eq_deliver]
  exact posted_deliver _ (fun _ => rfl) rfl rfl hpending

theorem posted_emit (event : WatchEvent) (h : Host) : h.Posted (h.emit event) := by
  rw [Host.emit, postTo_eq_deliver]
  exact posted_deliver (p := h.platform) _ (fun _ => rfl) rfl rfl fun _ hw => hw

theorem effect_hand (id : SessionId) (m : Message) (h : Host) : h.Effect (h.handle id m) := by
  cases hs : h.sessions[id]? with
  | none => rw [Host.handle, withSession_of_none hs]; exact .posts (.refl h)
  | some s =>
      rw [Host.handle, withSession_of_some hs]
      cases hopen : s.closed with
      | true => rw [Session.handle_closed hopen, put_back hs]; exact .posts (.refl h)
      | false => exact .handles m (s.handle id m h.platform).1.queue hs hopen

theorem effect_processOne (hswept : h.Swept) (id : SessionId) : h.Effect (h.processOne id) := by
  rcases processOne_cases h id with heq | ⟨s, m, rest, hs, hq, heq⟩
  · rw [heq]
    exact .posts (.refl h)
  · rw [heq]
    exact .handles m rest hs (hswept.open_of_cons hs hq)

theorem effect_shutdown (id : SessionId) (h : Host) : h.Effect (h.shutdown id) := by
  cases hs : h.sessions[id]? with
  | none => rw [Host.shutdown, withSession_of_none hs]; exact .posts (.refl h)
  | some s =>
      cases hopen : s.closed with
      | true => rw [shutdown_of_closed hs hopen]; exact .posts (.refl h)
      | false => rw [Host.shutdown, withSession_of_some hs]; exact .ends hs hopen

/-- What is not about one session is mail, perhaps for nobody. -/
theorem posted_move {e : Move} (he : e.Mail) : h.Posted (h.move e) := by
  have hrefl := Posted.refl h
  cases e with
  | happen e =>
      cases e with
      | signal u => exact posted_signal u h
      | respond n a => exact posted_answer (fun _ hw => (List.mem_filter.mp hw).1) a _
      | failAll status => exact posted_answer (fun _ hw => absurd hw List.not_mem_nil) _ _
      | emit event => exact posted_emit event h
      | collectSlot => exact { hrefl with calls := .inr rfl }
      | closeOutgoing | failNextWatch | writeScreen | setPower | takeOutgoing =>
          exact { hrefl with }
      | start | processOne | shutdown => exact absurd he not_false
  | failAll status order perm => exact posted_answer (fun _ hw => absurd hw List.not_mem_nil) _ _
  | hand | exchange => exact absurd he not_false

/-- **Mail, a message handled, an end or a start**: a move does nothing else. -/
theorem effect_move (hswept : h.Swept) {e : Move} (he : e.Inside) : h.Effect (h.move e) := by
  cases e with
  | happen e =>
      cases e with
      | start m => exact .starts m
      | processOne id => exact effect_processOne hswept id
      | shutdown id => exact effect_shutdown id h
      | _ => exact .posts (posted_move trivial)
  | failAll status order perm => exact .posts (posted_move trivial)
  | hand id m => exact effect_hand id m h
  | exchange f signals => exact absurd he id

/-- **Whatever waited for a session that ends is thrown away**, and nothing comes after it. -/
theorem Swept.effect (hswept : h.Swept) (he : h.Effect h') : h'.Swept := by
  intro j s' hs' hclosed
  cases he with
  | posts hp =>
      obtain ⟨s, ms, hs, rfl⟩ := hp.mail hs'
      rw [Session.closed_receiveAll] at hclosed
      simp only [Session.receiveAll, hclosed, if_true]
      exact hswept j s hs hclosed
  | handles m queue hs hopen =>
      rcases getElem?_set_cases hs' with ⟨rfl, rfl⟩ | ⟨-, hold⟩
      · rw [(Session.same_handle ..).closed, hopen] at hclosed
        cases hclosed
      · exact hswept j s' hold hclosed
  | ends hs hopen =>
      rcases getElem?_set_cases hs' with ⟨rfl, rfl⟩ | ⟨-, hold⟩
      · rw [Session.shutdown_of_open _ _ hopen]
      · exact hswept j s' hold hclosed
  | starts m =>
      rcases getElem?_concat_cases hs' with ⟨-, hold⟩ | ⟨-, rfl⟩
      · exact hswept j s' hold hclosed
      · rw [(Session.started ..).closed] at hclosed
        cases hclosed

theorem swept_new (slot : String) (interface : Interface) : (new slot interface).Swept := by
  intro j s hs
  simp [new] at hs

/-- **What every effect keeps, a row of moves keeps.** -/
theorem effect_induction {P : Host → Prop} (hswept : h.Swept)
    (hstep : ∀ h h' : Host, h.Swept → h.Effect h' → P h → P h') {es : List Move}
    (hes : ∀ e ∈ es, e.Inside) (hP : P h) : (h.travel es).Swept ∧ P (h.travel es) := by
  induction es generalizing h with
  | nil => exact ⟨hswept, hP⟩
  | cons e es ih =>
      have heffect := effect_move hswept (hes e List.mem_cons_self)
      exact ih (hswept.effect heffect) (fun e' he' => hes e' (List.mem_cons_of_mem _ he'))
        (hstep h (h.move e) hswept heffect hP)

/-- **Everybody keeps the handlers that are his**, whatever is done to a host. -/
theorem Subscribed.effect (hm : h.Subscribed) (he : h.Effect h') : h'.Subscribed := by
  cases he with
  | posts hp =>
      refine hm.frame (fun k => ?_) (fun k o => ?_) hp.length fun j s' hs' => ?_
      · rw [hp.registry]
        exact hm.tidy k
      · rw [Sources.heldBy, Sources.heldBy, hp.registry]
      · obtain ⟨s, ms, hs, rfl⟩ := hp.mail hs'
        exact ⟨s, hs, Session.same_receiveAll ms s⟩
  | @handles id s m queue hs hopen =>
      have hsources := Session.sources_handle id m s h.platform
      refine hm.frame ?_ (fun k o => by rw [hsources]) (List.length_set ..) fun j s' hs' => ?_
      · rw [hsources]
        exact hm.tidy
      · rcases getElem?_set_cases hs' with ⟨rfl, rfl⟩ | ⟨-, hold⟩
        · have hsame := Session.same_handle j m s h.platform
          exact ⟨s, hs, hsame.subscriptions, hsame.closed, hsame.variant, hsame.intervals⟩
        · exact ⟨s', hold, .refl s'⟩
  | @ends id s hs hopen =>
      have hended := hm.shutdown id
      rw [Host.shutdown, withSession_of_some hs] at hended
      exact hended
  | starts m => exact hm.start m

end Host

end ModemWatch
