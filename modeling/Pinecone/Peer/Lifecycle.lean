import Pinecone.Peer.Basic

/-!
# The peer lifecycle

`start` and `stop` flip `started` and clear `alive`; `updateAnnouncement`
stores a received announcement with its arrival time and the coordinates
`PeerCoords` derives from it, or clears all three when `PeerCoords` fails;
`lastAnnouncement` hides the stored announcement while the peer is stopped
and once it is `announcementTimeout` old.

Neither `start` nor `stop` touches the stored announcement or coordinates.
After a stop and a new start within the timeout, `lastAnnouncement` returns
the previous session's announcement while `alive` is false, and
`Coordinates` the previous session's coordinates.

`PeerCoords` is not among the sources: it is a parameter, any function from
an announcement and a key to coordinates, possibly a nil `SwitchPorts`, or an
error. With a nil result and no error, `updateAnnouncement` stores the
announcement and leaves `Coordinates` nil.
-/

namespace Pinecone

/-- Modelled from the spec: `announcementTimeout`, 45 seconds, counted in
nanoseconds as a `time.Duration` is. -/
def announcementTimeout : Nat := 45 * 1000000000

/-- `types.SwitchAnnouncement.PeerCoords`, which is not among the sources; `none`
is Go's nil `SwitchPorts`, apart from an empty one. -/
abbrev PeerCoordsFn := SwitchAnnouncement → PublicKey → Except String (Option SwitchPorts)

namespace Peer

/-- `Peer.start`: the compare-and-swap on `started`, then `alive` cleared. The
three tasks it launches and the first announcement it queues are modelled in
`Pinecone.Peer.Tasks`. -/
def start (p : Peer) : Except String Peer :=
  if p.started then .error "switch peer is already started"
  else .ok { p with started := true, alive := false }

/-- `Peer.stop`: the compare-and-swap on `started`, then `alive` cleared; the
context is cancelled and the connection closed. -/
def stop (p : Peer) : Except String Peer :=
  if p.started then .ok { p with started := false, alive := false }
  else .error "switch peer is already stopped"

/-- `Peer.updateAnnouncement(new)` at local time `now`, with `found` the
result of `new.PeerCoords(p.public)`. It returns the updated peer and the
error it reports. -/
def updateAnnouncement (p : Peer) (new : SwitchAnnouncement) (found : Except String (Option SwitchPorts))
    (now : Nat) : Peer × Option String :=
  match found with
  | .error err =>
    ({ p with alive := false, announcement := none, coords := none }, some ("new.PeerCoords: " ++ err))
  | .ok coords =>
    ({ p with alive := true, announcement := some ⟨new, now⟩, coords }, none)

/-- `Peer.lastAnnouncement` at local time `now`. -/
def lastAnnouncement (p : Peer) (now : Nat) : Option RootAnnouncementWithTime :=
  if !p.started then none
  else match p.announcement with
    | some last => if announcementTimeout ≤ now - last.receivedAt then none else some last
    | none => none

/-- `Peer.SeenRecently`. -/
def seenRecently (p : Peer) (now : Nat) : Bool := (p.lastAnnouncement now).isSome

/-- `Peer.SeenCommonRootRecently`, with `rootPublicKey` what `p.r.RootPublicKey()`
returns. -/
def seenCommonRootRecently (p : Peer) (now : Nat) (rootPublicKey : PublicKey) : Bool :=
  if !p.alive then false
  else match p.lastAnnouncement now with
    | none => false
    | some last => last.announcement.rootPublicKey = rootPublicKey

/-- `Peer.Coordinates`: `none` is Go's `nil`. -/
def coordinates (p : Peer) : Option SwitchPorts := p.coords

end Peer

/-! ## Runs -/

/-- A peer and the local clock. -/
structure PeerClock where
  peer : Peer
  now : Nat
  deriving DecidableEq, Repr

/-- The calls and clock advances a peer goes through. -/
inductive LifecycleEvent where
  | start
  | stop
  | updateAnnouncement (new : SwitchAnnouncement)
  | advance (elapsed : Nat)
  deriving DecidableEq, Repr

/-- One event; a call that returns an error leaves the peer as it was. -/
def lifecycleStep (peerCoords : PeerCoordsFn) (state : PeerClock) : LifecycleEvent → PeerClock
  | .start =>
    match state.peer.start with
    | .ok peer => { state with peer }
    | .error _ => state
  | .stop =>
    match state.peer.stop with
    | .ok peer => { state with peer }
    | .error _ => state
  | .updateAnnouncement new =>
    { state with
      peer := (state.peer.updateAnnouncement new (peerCoords new state.peer.public) state.now).1 }
  | .advance elapsed => { state with now := state.now + elapsed }

/-- The state after a sequence of events. -/
def lifecycleRun (peerCoords : PeerCoordsFn) (state : PeerClock) (events : List LifecycleEvent) :
    PeerClock :=
  events.foldl (lifecycleStep peerCoords) state

/-- A stop followed by a start keeps the stored announcement and
coordinates, and leaves `alive` false. -/
theorem stop_start_keeps_announcement {p stopped restarted : Peer}
    (stopOk : p.stop = .ok stopped) (startOk : stopped.start = .ok restarted) :
    restarted.announcement = p.announcement ∧ restarted.coords = p.coords ∧
      restarted.alive = false ∧ restarted.started = true := by
  unfold Peer.stop at stopOk
  unfold Peer.start at startOk
  split at stopOk <;> cases stopOk
  simp only [if_false, Except.ok.injEq, Bool.false_eq_true] at startOk
  subst startOk
  exact ⟨rfl, rfl, rfl, rfl⟩

/-- A successful `stop` leaves the peer stopped. -/
theorem Peer.stop_started {p stopped : Peer} (stopOk : p.stop = .ok stopped) : stopped.started = false := by
  unfold Peer.stop at stopOk
  split at stopOk <;> cases stopOk
  rfl

/-- A `stop` and then a `start` of a started peer keep the stored announcement,
the coordinates and the clock, and leave the peer started and not alive. -/
theorem lifecycleStep_stop_start (peerCoords : PeerCoordsFn) {state : PeerClock} (running : state.peer.started = true) :
    let restarted := lifecycleStep peerCoords (lifecycleStep peerCoords state .stop) .start
    restarted.peer.announcement = state.peer.announcement ∧ restarted.peer.coords = state.peer.coords ∧
      restarted.peer.alive = false ∧ restarted.peer.started = true ∧ restarted.now = state.now := by
  obtain ⟨stopped, stopOk⟩ : ∃ stopped, state.peer.stop = .ok stopped := ⟨_, by rw [Peer.stop, if_pos running]⟩
  obtain ⟨restarted, startOk⟩ : ∃ restarted, stopped.start = .ok restarted :=
    ⟨_, by rw [Peer.start, if_neg (by simp [Peer.stop_started stopOk])]⟩
  obtain ⟨announcement, coords, alive, started⟩ := stop_start_keeps_announcement stopOk startOk
  have run : lifecycleStep peerCoords (lifecycleStep peerCoords state .stop) .start = { state with peer := restarted } := by
    simp only [lifecycleStep, stopOk, startOk]
  rw [run]
  exact ⟨announcement, coords, alive, started, rfl⟩

/-- What `Peer.lastAnnouncement` returns for a started peer whose stored
announcement is younger than `announcementTimeout`. -/
theorem Peer.lastAnnouncement_of_young {p : Peer} {now : Nat} {last : RootAnnouncementWithTime}
    (started : p.started = true) (stored : p.announcement = some last)
    (young : now - last.receivedAt < announcementTimeout) : p.lastAnnouncement now = some last := by
  simp [Peer.lastAnnouncement, started, stored, Nat.not_le.mpr young]

/-- A remote peer on port 1 that accepts every announcement with coordinates `[1]`. -/
def acceptingCoords : PeerCoordsFn := fun _ _ => .ok (some [1])

/-- The announcement of root `0x03…` at sequence 7 with an empty chain. -/
def rootThreeAnnouncement : SwitchAnnouncement := ⟨SizedBytes.replicate 32 3, 7, []⟩

/-- Start, accept an announcement, stop, start again, all at time 0. -/
def reconnectRun : PeerClock :=
  lifecycleRun acceptingCoords ⟨Peer.fresh 1 "" peerTypeRemote (SizedBytes.replicate 32 1), 0⟩
    [.start, .updateAnnouncement rootThreeAnnouncement, .stop, .start]

/-- After the reconnect, the new session has received nothing, yet
`lastAnnouncement` returns the old session's announcement, `SeenRecently` is
true while `alive` is false, and `Coordinates` is the old coordinates. -/
theorem reconnect_keeps_previous_session :
    reconnectRun.peer.started = true ∧ reconnectRun.peer.alive = false ∧
      reconnectRun.peer.lastAnnouncement reconnectRun.now = some ⟨rootThreeAnnouncement, 0⟩ ∧
      reconnectRun.peer.seenRecently reconnectRun.now = true ∧
      reconnectRun.peer.coordinates = some [1] := by
  have accepted : (lifecycleRun acceptingCoords ⟨Peer.fresh 1 "" peerTypeRemote (SizedBytes.replicate 32 1), 0⟩
      [.start, .updateAnnouncement rootThreeAnnouncement]).peer =
      { Peer.fresh 1 "" peerTypeRemote (SizedBytes.replicate 32 1) with
        started := true
        alive := true
        announcement := some ⟨rootThreeAnnouncement, 0⟩
        coords := some [1] } := rfl
  obtain ⟨announcement, coords, alive, started, -⟩ :=
    lifecycleStep_stop_start acceptingCoords (by rw [accepted])
  rw [accepted] at announcement coords
  have last : reconnectRun.peer.lastAnnouncement reconnectRun.now = some ⟨rootThreeAnnouncement, 0⟩ :=
    Peer.lastAnnouncement_of_young started announcement (by decide)
  exact ⟨started, alive, last, by simp [Peer.seenRecently, last], coords⟩

/-! ## What every run keeps -/

/-- Coordinates are cleared with the announcement, and a peer marked alive has
an announcement. -/
structure Peer.Paired (p : Peer) : Prop where
  cleared : p.announcement = none → p.coords = none
  aliveHas : p.alive = true → p.announcement.isSome = true

/-- The step lemma: every call keeps the pairing. -/
theorem Peer.Paired.step {peerCoords : PeerCoordsFn} {state : PeerClock} (paired : state.peer.Paired)
    (event : LifecycleEvent) : (lifecycleStep peerCoords state event).peer.Paired := by
  cases event with
  | start =>
    by_cases started : state.peer.started = true
    · simpa [lifecycleStep, Peer.start, started] using paired
    · simp only [lifecycleStep, Peer.start, started, Bool.false_eq_true, if_false]
      exact ⟨paired.cleared, by simp⟩
  | stop =>
    by_cases started : state.peer.started = true
    · simp only [lifecycleStep, Peer.stop, started, if_true]
      exact ⟨paired.cleared, by simp⟩
    · simpa [lifecycleStep, Peer.stop, started] using paired
  | updateAnnouncement new =>
    simp only [lifecycleStep, Peer.updateAnnouncement]
    split <;> exact ⟨by simp, by simp⟩
  | advance elapsed => exact paired

/-- The run lemma. -/
theorem Peer.Paired.run (peerCoords : PeerCoordsFn) :
    ∀ (events : List LifecycleEvent) (state : PeerClock), state.peer.Paired →
      (lifecycleRun peerCoords state events).peer.Paired
  | [], _, paired => paired
  | event :: rest, _, paired => Peer.Paired.run peerCoords rest _ (paired.step event)

/-! ## How old an announcement `lastAnnouncement` returns -/

/-- What `Peer.lastAnnouncement` returns: the stored announcement, while the
peer is started and the announcement is younger than `announcementTimeout`. -/
theorem Peer.lastAnnouncement_eq_some {p : Peer} {now : Nat} {last : RootAnnouncementWithTime}
    (returned : p.lastAnnouncement now = some last) :
    p.started = true ∧ p.announcement = some last ∧ now - last.receivedAt < announcementTimeout := by
  unfold Peer.lastAnnouncement at returned
  split at returned
  · cases returned
  · rename_i running
    split at returned
    · rename_i stored
      split at returned
      · cases returned
      · rename_i young
        cases returned
        exact ⟨by simpa using running, stored, by omega⟩
    · cases returned

/-- What the stored announcement satisfies against the local clock: it arrived
no later than now, `PeerCoords` accepted it for the peer's key, and
`Coordinates` holds the coordinates `PeerCoords` derived. -/
structure PeerClock.Recorded (peerCoords : PeerCoordsFn) (state : PeerClock) : Prop where
  past : ∀ last, state.peer.announcement = some last → last.receivedAt ≤ state.now
  accepted : ∀ last, state.peer.announcement = some last →
    ∃ coords, peerCoords last.announcement state.peer.public = .ok coords ∧ state.peer.coords = coords

/-- The step lemma: every call and every clock advance keeps the record. -/
theorem PeerClock.Recorded.step {peerCoords : PeerCoordsFn} {state : PeerClock} (recorded : state.Recorded peerCoords)
    (event : LifecycleEvent) : (lifecycleStep peerCoords state event).Recorded peerCoords := by
  cases event with
  | start =>
    by_cases started : state.peer.started = true
    · simpa [lifecycleStep, Peer.start, started] using recorded
    · simp only [lifecycleStep, Peer.start, started, Bool.false_eq_true, if_false]
      exact ⟨recorded.past, recorded.accepted⟩
  | stop =>
    by_cases started : state.peer.started = true
    · simp only [lifecycleStep, Peer.stop, started, if_true]
      exact ⟨recorded.past, recorded.accepted⟩
    · simpa [lifecycleStep, Peer.stop, started] using recorded
  | updateAnnouncement new =>
    simp only [lifecycleStep, Peer.updateAnnouncement]
    split
    · exact ⟨by simp, by simp⟩
    · rename_i coords found
      exact ⟨by simp_all [eq_comm], by simp_all [eq_comm]⟩
  | advance elapsed =>
    exact ⟨fun last stored => Nat.le_add_right_of_le (recorded.past last stored), recorded.accepted⟩

/-- The run lemma. -/
theorem PeerClock.Recorded.run (peerCoords : PeerCoordsFn) :
    ∀ (events : List LifecycleEvent) (state : PeerClock), state.Recorded peerCoords →
      (lifecycleRun peerCoords state events).Recorded peerCoords
  | [], _, recorded => recorded
  | event :: rest, _, recorded => PeerClock.Recorded.run peerCoords rest _ (recorded.step event)

/-- In every run of `start`, `stop`, `updateAnnouncement` and clock advances
from a fresh peer, whatever `PeerCoords` returns, an announcement that
`lastAnnouncement` returns was received while the clock read at most now and
less than `announcementTimeout` ago, the peer is started, `PeerCoords`
accepted the announcement for the peer's key, and `Coordinates` returns the
coordinates it derived. -/
theorem last_announcement_is_recent (peerCoords : PeerCoordsFn) (port : SwitchPortID) (zone : String)
    (peertype : Int) (public : PublicKey) (now : Nat) (events : List LifecycleEvent) :
    let state := lifecycleRun peerCoords ⟨Peer.fresh port zone peertype public, now⟩ events
    ∀ last, state.peer.lastAnnouncement state.now = some last →
      state.peer.started = true ∧ last.receivedAt ≤ state.now ∧ state.now < last.receivedAt + announcementTimeout ∧
        ∃ coords, peerCoords last.announcement state.peer.public = .ok coords ∧ state.peer.coordinates = coords := by
  intro state last returned
  have recorded := PeerClock.Recorded.run peerCoords events ⟨Peer.fresh port zone peertype public, now⟩
    ⟨by simp [Peer.fresh], by simp [Peer.fresh]⟩
  obtain ⟨started, stored, young⟩ := Peer.lastAnnouncement_eq_some returned
  have past := recorded.past last stored
  exact ⟨started, past, by omega, recorded.accepted last stored⟩

/-- The peer of the reconnect run, once it has accepted the announcement, ten
seconds later. -/
def acceptedRun : PeerClock :=
  lifecycleRun acceptingCoords ⟨Peer.fresh 1 "" peerTypeRemote (SizedBytes.replicate 32 1), 0⟩
    [.start, .updateAnnouncement rootThreeAnnouncement, .advance 10000000000]

theorem accepted_announcement_is_recent :
    acceptedRun.peer.lastAnnouncement acceptedRun.now = some ⟨rootThreeAnnouncement, 0⟩ ∧
      acceptedRun.peer.started = true ∧ 0 ≤ acceptedRun.now ∧ acceptedRun.now < 0 + announcementTimeout ∧
        ∃ coords, acceptingCoords rootThreeAnnouncement acceptedRun.peer.public = .ok coords ∧
          acceptedRun.peer.coordinates = coords :=
  ⟨by decide, last_announcement_is_recent acceptingCoords 1 "" peerTypeRemote (SizedBytes.replicate 32 1) 0
    [.start, .updateAnnouncement rootThreeAnnouncement, .advance 10000000000] ⟨rootThreeAnnouncement, 0⟩ (by decide)⟩

/-- In every run of `start`, `stop`, `updateAnnouncement` and clock advances
from a fresh peer, for every `PeerCoords` that returns no nil `SwitchPorts`
without an error, `Coordinates` is set exactly when an announcement is stored,
and a peer marked alive has one. -/
theorem coordinates_set_with_announcement (peerCoords : PeerCoordsFn)
    (nonNil : ∀ new public, peerCoords new public ≠ .ok none) (port : SwitchPortID) (zone : String)
    (peertype : Int) (public : PublicKey) (now : Nat) (events : List LifecycleEvent) :
    let p := (lifecycleRun peerCoords ⟨Peer.fresh port zone peertype public, now⟩ events).peer
    p.coordinates.isSome = p.announcement.isSome ∧ (p.alive = true → p.announcement.isSome = true) := by
  dsimp only
  have paired := Peer.Paired.run peerCoords events ⟨Peer.fresh port zone peertype public, now⟩
    ⟨fun _ => rfl, by simp [Peer.fresh]⟩
  have recorded := PeerClock.Recorded.run peerCoords events ⟨Peer.fresh port zone peertype public, now⟩
    ⟨by simp [Peer.fresh], by simp [Peer.fresh]⟩
  refine ⟨?_, paired.aliveHas⟩
  cases stored : (lifecycleRun peerCoords ⟨Peer.fresh port zone peertype public, now⟩ events).peer.announcement with
  | none => simp [Peer.coordinates, paired.cleared stored]
  | some last =>
    obtain ⟨coords, found, kept⟩ := recorded.accepted last stored
    cases coords with
    | none => exact absurd found (nonNil _ _)
    | some coords => simp [Peer.coordinates, kept]

theorem reconnect_coordinates_set_with_announcement :
    (∀ new public, acceptingCoords new public ≠ .ok none) ∧
      reconnectRun.peer.coordinates.isSome = reconnectRun.peer.announcement.isSome ∧
        (reconnectRun.peer.alive = true → reconnectRun.peer.announcement.isSome = true) :=
  have nonNil : ∀ new public, acceptingCoords new public ≠ .ok none := by simp [acceptingCoords]
  ⟨nonNil, coordinates_set_with_announcement acceptingCoords nonNil 1 "" peerTypeRemote (SizedBytes.replicate 32 1) 0
    [.start, .updateAnnouncement rootThreeAnnouncement, .stop, .start]⟩

/-! ## `SeenCommonRootRecently` needs an announcement of the current session -/

/-- A call other than `updateAnnouncement`, or a clock advance, never marks a
peer alive. -/
theorem lifecycleStep_alive_false {peerCoords : PeerCoordsFn} {state : PeerClock} (dead : state.peer.alive = false)
    {event : LifecycleEvent} (noUpdate : ∀ new, event ≠ .updateAnnouncement new) :
    (lifecycleStep peerCoords state event).peer.alive = false := by
  cases event with
  | start => by_cases started : state.peer.started = true <;> simp [lifecycleStep, Peer.start, started, dead]
  | stop => by_cases started : state.peer.started = true <;> simp [lifecycleStep, Peer.stop, started, dead]
  | updateAnnouncement new => exact absurd rfl (noUpdate new)
  | advance elapsed => exact dead

/-- The run lemma: with no `updateAnnouncement`, a peer that is not alive stays so. -/
theorem lifecycleRun_alive_false (peerCoords : PeerCoordsFn) :
    ∀ (events : List LifecycleEvent) (state : PeerClock), (∀ new, .updateAnnouncement new ∉ events) →
      state.peer.alive = false → (lifecycleRun peerCoords state events).peer.alive = false
  | [], _, _, dead => dead
  | _ :: rest, _, quiet, dead =>
    lifecycleRun_alive_false peerCoords rest _ (fun new mem => quiet new (List.mem_cons_of_mem _ mem))
      (lifecycleStep_alive_false dead fun new same => quiet new (same ▸ List.mem_cons_self _ _))

/-- In every run from a fresh peer, whatever `PeerCoords` returns and whatever
the router's root, after a `start` of a stopped peer `SeenCommonRootRecently`
stays false until an `updateAnnouncement`, however recent the announcement
kept from the session before: it counts only announcements of the current
session, where `SeenRecently` does not. -/
theorem seen_common_root_needs_update_since_start (peerCoords : PeerCoordsFn) (port : SwitchPortID)
    (zone : String) (peertype : Int) (public : PublicKey) (now : Nat) (before after : List LifecycleEvent)
    (stopped : (lifecycleRun peerCoords ⟨Peer.fresh port zone peertype public, now⟩ before).peer.started = false)
    (quiet : ∀ new, .updateAnnouncement new ∉ after) (rootPublicKey : PublicKey) :
    let state := lifecycleRun peerCoords ⟨Peer.fresh port zone peertype public, now⟩ (before ++ .start :: after)
    state.peer.seenCommonRootRecently state.now rootPublicKey = false := by
  intro state
  have started : (lifecycleStep peerCoords
      (lifecycleRun peerCoords ⟨Peer.fresh port zone peertype public, now⟩ before) .start).peer.alive = false := by
    simp [lifecycleStep, Peer.start, stopped]
  have dead : state.peer.alive = false := by
    simpa [state, lifecycleRun, List.foldl_append] using lifecycleRun_alive_false peerCoords after _ quiet started
  simp [Peer.seenCommonRootRecently, dead]

/-- The reconnect run: the peer accepted an announcement of root `0x03…`,
stopped, and started again. -/
theorem reconnect_not_seen_common_root :
    (lifecycleRun acceptingCoords ⟨Peer.fresh 1 "" peerTypeRemote (SizedBytes.replicate 32 1), 0⟩
        [.start, .updateAnnouncement rootThreeAnnouncement, .stop]).peer.started = false ∧
      (∀ new, LifecycleEvent.updateAnnouncement new ∉ ([] : List LifecycleEvent)) ∧
      reconnectRun.peer.seenCommonRootRecently reconnectRun.now (SizedBytes.replicate 32 3) = false :=
  have stopped : (lifecycleRun acceptingCoords ⟨Peer.fresh 1 "" peerTypeRemote (SizedBytes.replicate 32 1), 0⟩
      [.start, .updateAnnouncement rootThreeAnnouncement, .stop]).peer.started = false := by decide
  ⟨stopped, by simp, seen_common_root_needs_update_since_start acceptingCoords 1 "" peerTypeRemote
    (SizedBytes.replicate 32 1) 0 [.start, .updateAnnouncement rootThreeAnnouncement, .stop] [] stopped (by simp)
    (SizedBytes.replicate 32 3)⟩

end Pinecone
