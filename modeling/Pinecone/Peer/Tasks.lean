import Pinecone.Types

/-!
# The peer tasks: `start`, `announcer`, `writer` and `stop`

Every peer runs an announcer and a writer. All announcers share the tree's
`advertise` condition and its lock `advertise.L`; each peer's announcer hands
announcements to its own writer over the channel `p.announce`, and so does
`start`, once, after launching the tasks. The writer also drains the peer's
`protoOut` and `trafficOut` queues, which are bounded: a full `protoOut`
refuses a push, and a full `trafficOut` evicts its oldest frame.

The state records where each task and `start` are, the channel's buffer and
capacity, the two queues and their sizes, the frames written and dropped, and
which announcer holds `advertise.L`. An event is one step of one task or of
`start`, a `Broadcast` on `advertise`, a `stop`, or a producer pushing a
frame; `tasksStep` is `none` when the event cannot happen in that state, and a
run skips such events, so the states a run reaches are exactly the reachable
ones. Go's `select` picks any ready case, and the event says which; when both
senders are blocked on `p.announce`, the event also says which one blocked
first, and so is handed over first.

The writer also keeps a log of the `select`s it ran, with what was ready at
each: it is only read by the theorems.

The announcer sends on `p.announce` without a `select` on the context. If
`stop` cancels the context while the announcer is in `Wait`, the next
`Broadcast` wakes it: it takes `advertise.L` back, calls
`generateAnnouncement`, and blocks on the send while holding the lock. Once
its writer has returned, nothing receives, and no other announcer can take
the lock again.
-/

namespace Pinecone

/-- A frame passed between the tasks; its content plays no part here. -/
abbrev FrameID := Nat

/-- Where `Peer.announcer` is: before `advertise.L.Lock()`, at the `select`,
inside `advertise.Wait()` before and after the `Broadcast` that wakes it, at
`p.announce <- ann`, or returned. -/
inductive AnnouncerAt where
  | entry
  | loop
  | waiting
  | woken
  | sending (ann : FrameID)
  | returned
  deriving DecidableEq, Repr

/-- Whether the announcer holds `advertise.L` there. -/
def AnnouncerAt.holdsLock : AnnouncerAt → Bool
  | .loop | .sending _ => true
  | _ => false

/-- Whether the announcer is at its send. -/
def AnnouncerAt.isSending : AnnouncerAt → Bool
  | .sending _ => true
  | _ => false

/-- What a `Broadcast` does to one announcer: one in `Wait` is woken. -/
def AnnouncerAt.notify : AnnouncerAt → AnnouncerAt
  | .waiting => .woken
  | other => other

@[simp] theorem AnnouncerAt.holdsLock_notify (point : AnnouncerAt) : point.notify.holdsLock = point.holdsLock := by
  cases point <;> rfl

/-- Where `Peer.start` is after launching the tasks: before
`generateAnnouncement`, at `p.announce <- ann`, or returned. -/
inductive StarterAt where
  | generating
  | sending (ann : FrameID)
  | returned
  deriving DecidableEq, Repr

/-- Whether `start` is at its send. -/
def StarterAt.isSending : StarterAt → Bool
  | .sending _ => true
  | _ => false

/-- Where `start` goes after `generateAnnouncement`: to its send, or on `nil`
returned. -/
def StarterAt.generated : Option FrameID → StarterAt
  | some ann => .sending ann
  | none => .returned

/-- The two goroutines that send on `p.announce`. -/
inductive Sender where
  | announcer
  | starter
  deriving DecidableEq, Repr

/-- Which of the writer's three `select`s it is at, or returned. -/
inductive WriterAt where
  | first
  | second
  | third
  | returned
  deriving DecidableEq, Repr

/-- A case of the writer's `select`s. -/
inductive SelectCase where
  | done
  | announce
  | protoOut
  | trafficOut
  | default
  deriving DecidableEq, Repr

/-- The cases each `select` offers besides `default`. -/
def WriterAt.offers : WriterAt → List SelectCase
  | .first => [.done, .announce]
  | .second => [.done, .announce, .protoOut]
  | .third => [.done, .announce, .protoOut, .trafficOut]
  | .returned => []

/-- The first two `select`s have a `default` case; the third blocks. -/
def WriterAt.hasDefault : WriterAt → Bool
  | .first | .second => true
  | _ => false

/-- Where the writer goes on `default`. -/
def WriterAt.afterDefault : WriterAt → WriterAt
  | .first => .second
  | .second => .third
  | other => other

/-- Which cases are ready when a `select` runs. -/
structure Readiness where
  done : Bool
  announce : Bool
  protoOut : Bool
  trafficOut : Bool
  deriving DecidableEq, Repr

/-- Whether a case is ready; `default` never is. -/
def Readiness.has (ready : Readiness) : SelectCase → Bool
  | .done => ready.done
  | .announce => ready.announce
  | .protoOut => ready.protoOut
  | .trafficOut => ready.trafficOut
  | .default => false

/-- One `select` the writer ran: which one, what was ready, and the case taken. -/
structure WriterChoice where
  select : WriterAt
  ready : Readiness
  case : SelectCase
  deriving DecidableEq, Repr

/-- Go's rule for a `select`: a ready case that it offers, or `default` when it
has one and none of its cases is ready. -/
def WriterChoice.legal (choice : WriterChoice) : Bool :=
  match choice.case with
  | .default => choice.select.hasDefault && choice.select.offers.all (fun offered => !choice.ready.has offered)
  | taken => choice.select.offers.contains taken && choice.ready.has taken

/-- Where the writer is after a choice: returned on `ctx.Done()`, at the next
`select` on `default`, and back at the first after sending (`continue`). -/
def WriterChoice.next (choice : WriterChoice) : WriterAt :=
  match choice.case with
  | .done => .returned
  | .default => choice.select.afterDefault
  | _ => .first

/-- Where a writer that made these choices is. -/
def writerAt (choices : List WriterChoice) : WriterAt :=
  (choices.getLast?.map WriterChoice.next).getD .first

/-- One peer's part of the state: its port, its context, where its tasks and
`start` are, the capacity of `p.announce` and the sizes of `protoOut` and
`trafficOut`, their contents, and the frames written. The frames its queues
refused or evicted, and the writer's log, are only read by the theorems. -/
structure PeerTasks where
  port : SwitchPortID
  cancelled : Bool
  announcer : AnnouncerAt
  starter : StarterAt
  writer : WriterAt
  capacity : Nat
  protoCapacity : Nat
  trafficCapacity : Nat
  announce : List FrameID
  protoOut : List FrameID
  trafficOut : List FrameID
  written : List FrameID
  dropped : List FrameID
  choices : List WriterChoice
  deriving DecidableEq, Repr

/-- The state of all peers' tasks and the holder of `advertise.L`. -/
structure Tasks where
  peers : Nat → PeerTasks
  advertiseHolder : Option Nat

/-- The capacity the router gives a peer's channel `p.announce`, and the sizes
of its queues (`NewPeer` and the queues are not among the sources). -/
structure Capacities where
  announce : Nat
  protoOut : Nat
  trafficOut : Nat
  deriving DecidableEq, Repr

/-- Every peer just after `start` launched its tasks: the tasks at their
entry, `start` about to generate its announcement, channel and queues empty. -/
def Tasks.initial (ports : Nat → SwitchPortID) (capacity : Nat → Capacities) : Tasks where
  peers peer := ⟨ports peer, false, .entry, .generating, .first, (capacity peer).announce,
    (capacity peer).protoOut, (capacity peer).trafficOut, [], [], [], [], [], []⟩
  advertiseHolder := none

/-- Replace one peer's part. -/
def Tasks.setPeer (s : Tasks) (peer : Nat) (p : PeerTasks) : Tasks :=
  { s with peers := Function.update s.peers peer p }

@[simp] theorem Tasks.setPeer_peers (s : Tasks) (peer : Nat) (p : PeerTasks) (other : Nat) :
    (s.setPeer peer p).peers other = if other = peer then p else s.peers other := by
  simp [Tasks.setPeer, Function.update_apply]

@[simp] theorem Tasks.setPeer_advertiseHolder (s : Tasks) (peer : Nat) (p : PeerTasks) :
    (s.setPeer peer p).advertiseHolder = s.advertiseHolder := rfl

/-- Replacing a peer's record by one with the same announcer leaves every
announcer where it is. -/
theorem Tasks.setPeer_announcer {s : Tasks} {peer : Nat} {p : PeerTasks} (other : Nat)
    (announcer : p.announcer = (s.peers peer).announcer) :
    ((s.setPeer peer p).peers other).announcer = (s.peers other).announcer := by
  by_cases same : other = peer
  · subst same
    simp [announcer]
  · simp [same]

/-- `Peer.generateAnnouncement`: `nil` on port 0, otherwise what signing the
tree's root gives, `signed` (`signedAnnouncement` in `Pinecone.Peer.Announce`;
the tasks only tell the frames apart). -/
def generateAnnouncement {α : Type} (port : SwitchPortID) (signed : Option α) : Option α :=
  if port = 0 then none else signed

/-- One step of `Peer.announcer` of `peer`. -/
def announcerStep (s : Tasks) (peer : Nat) (signed : Option FrameID) : Option Tasks :=
  let p := s.peers peer
  match p.announcer with
  | .entry =>
    if s.advertiseHolder = none then
      some { s.setPeer peer { p with announcer := .loop } with advertiseHolder := some peer }
    else none
  | .loop =>
    some { s.setPeer peer { p with announcer := if p.cancelled then .returned else .waiting } with
      advertiseHolder := none }
  | .woken =>
    if s.advertiseHolder = none then
      let next := match generateAnnouncement p.port signed with
        | some ann => AnnouncerAt.sending ann
        | none => .loop
      some { s.setPeer peer { p with announcer := next } with advertiseHolder := some peer }
    else none
  | .sending ann =>
    if p.announce.length < p.capacity then
      some (s.setPeer peer { p with announce := p.announce ++ [ann], announcer := .loop })
    else none
  | .waiting | .returned => none

/-- One step of `Peer.start` of `peer` after it launched the tasks: it calls
`generateAnnouncement`, then sends what it got on `p.announce`, outside any
`select`. -/
def starterStep (s : Tasks) (peer : Nat) (signed : Option FrameID) : Option Tasks :=
  let p := s.peers peer
  match p.starter with
  | .generating => some (s.setPeer peer { p with starter := .generated (generateAnnouncement p.port signed) })
  | .sending ann =>
    if p.announce.length < p.capacity then
      some (s.setPeer peer { p with announce := p.announce ++ [ann], starter := .returned })
    else none
  | .returned => none

/-- `protoOut.push(frame)`, modelled from the specification (the queue is not
among the sources): the bounded FIFO refuses a frame when full, and the
frame is dropped. -/
def PeerTasks.pushProto (p : PeerTasks) (frame : FrameID) : PeerTasks :=
  if p.protoOut.length < p.protoCapacity then { p with protoOut := p.protoOut ++ [frame] }
  else { p with dropped := p.dropped ++ [frame] }

/-- `trafficOut.push(frame)`, modelled from the specification: the bounded
LIFO takes every frame, evicting its oldest when full (with no room at all,
the frame itself is dropped). -/
def PeerTasks.pushTraffic (p : PeerTasks) (frame : FrameID) : PeerTasks :=
  if p.trafficOut.length < p.trafficCapacity then { p with trafficOut := p.trafficOut ++ [frame] }
  else match p.trafficOut with
    | oldest :: rest => { p with trafficOut := rest ++ [frame], dropped := p.dropped ++ [oldest] }
    | [] => { p with dropped := p.dropped ++ [frame] }

/-- What is ready for the writer: the context is done, an announcement is
buffered or a sender is at its send, a queue is non-empty. -/
def PeerTasks.readiness (p : PeerTasks) : Readiness :=
  ⟨p.cancelled, !p.announce.isEmpty || p.announcer.isSending || p.starter.isSending, !p.protoOut.isEmpty,
    !p.trafficOut.isEmpty⟩

/-- The blocked sender whose frame a receive on `p.announce` takes, with that
sender moved past its send: `first` when it is at its send, the other one
otherwise. Go hands blocked senders over in the order they blocked, which the
schedule names. -/
def PeerTasks.release (p : PeerTasks) (first : Sender) : Option (FrameID × PeerTasks) :=
  match first, p.announcer, p.starter with
  | .announcer, .sending ann, _ => some (ann, { p with announcer := .loop })
  | _, _, .sending ann => some (ann, { p with starter := .returned })
  | _, .sending ann, _ => some (ann, { p with announcer := .loop })
  | _, _, _ => none

/-- What the writer does with the case it took: receive from `p.announce`
(taking the buffer's head, and moving a blocked sender's frame into the
buffer), pop the head of the FIFO `protoOut` or the top of the LIFO
`trafficOut`, and `send` the frame. -/
def PeerTasks.take (p : PeerTasks) (first : Sender) : SelectCase → PeerTasks
  | .announce =>
    match p.announce, p.release first with
    | ann :: rest, some (pending, released) =>
      { released with announce := rest ++ [pending], written := p.written ++ [ann] }
    | ann :: rest, none => { p with announce := rest, written := p.written ++ [ann] }
    | [], some (pending, released) => { released with written := p.written ++ [pending] }
    | [], none => p
  | .protoOut =>
    match p.protoOut with
    | frame :: rest => { p with protoOut := rest, written := p.written ++ [frame] }
    | [] => p
  | .trafficOut =>
    match p.trafficOut.getLast? with
    | some frame => { p with trafficOut := p.trafficOut.dropLast, written := p.written ++ [frame] }
    | none => p
  | .done | .default => p

/-- One `select` of `Peer.writer`, taking `case`. -/
def writerStep (p : PeerTasks) (case : SelectCase) (first : Sender) : Option PeerTasks :=
  let choice : WriterChoice := ⟨p.writer, p.readiness, case⟩
  if choice.legal then some { p.take first case with writer := choice.next, choices := p.choices ++ [choice] }
  else none

/-- What can happen next. -/
inductive TaskEvent where
  | stop (peer : Nat)
  | broadcast
  | start (peer : Nat) (signed : Option FrameID)
  | announcer (peer : Nat) (signed : Option FrameID)
  | writer (peer : Nat) (case : SelectCase) (first : Sender)
  | pushProto (peer : Nat) (frame : FrameID)
  | pushTraffic (peer : Nat) (frame : FrameID)
  deriving DecidableEq, Repr

/-- One event, or `none` when it cannot happen. `stop` is `Peer.stop` as the
tasks see it: the context is cancelled (the rest of it is in
`Pinecone.Peer.Lifecycle`). -/
def tasksStep (s : Tasks) : TaskEvent → Option Tasks
  | .stop peer => some (s.setPeer peer { s.peers peer with cancelled := true })
  | .broadcast =>
    some { s with peers := fun peer => { s.peers peer with announcer := (s.peers peer).announcer.notify } }
  | .start peer signed => starterStep s peer signed
  | .announcer peer signed => announcerStep s peer signed
  | .writer peer case first => (writerStep (s.peers peer) case first).map (s.setPeer peer)
  | .pushProto peer frame => some (s.setPeer peer ((s.peers peer).pushProto frame))
  | .pushTraffic peer frame => some (s.setPeer peer ((s.peers peer).pushTraffic frame))

/-- A schedule, skipping the events that cannot happen. -/
def tasksRun (s : Tasks) : List TaskEvent → Tasks
  | [] => s
  | event :: rest => tasksRun ((tasksStep s event).getD s) rest

/-- The run lemma: what every step keeps holds after every schedule. -/
theorem tasksRun_induction {holds : Tasks → Prop}
    (preserved : ∀ s event next, holds s → tasksStep s event = some next → holds next) :
    ∀ events s, holds s → holds (tasksRun s events)
  | [], _, start => start
  | event :: rest, s, start => by
    apply tasksRun_induction preserved rest
    cases stepped : tasksStep s event with
    | none => exact start
    | some next => exact preserved s event next start stepped

/-- A `start` step: it generates its announcement, or sends it into a channel
with room. -/
theorem starterStep_cases {s next : Tasks} {peer : Nat} {signed : Option FrameID}
    (stepped : starterStep s peer signed = some next) :
    ((s.peers peer).starter = .generating ∧
      next = s.setPeer peer
        { s.peers peer with starter := .generated (generateAnnouncement (s.peers peer).port signed) }) ∨
    ∃ ann, (s.peers peer).starter = .sending ann ∧ (s.peers peer).announce.length < (s.peers peer).capacity ∧
      next = s.setPeer peer { s.peers peer with announce := (s.peers peer).announce ++ [ann], starter := .returned } := by
  unfold starterStep at stepped
  dsimp only at stepped
  split at stepped
  · exact .inl ⟨‹_›, (Option.some.inj stepped).symm⟩
  · split at stepped
    · exact .inr ⟨_, ‹_›, ‹_›, (Option.some.inj stepped).symm⟩
    · cases stepped
  · cases stepped

/-- A push changes only its queue and the frames dropped. -/
theorem PeerTasks.pushProto_eq (p : PeerTasks) (frame : FrameID) :
    ∃ protoOut dropped, p.pushProto frame = { p with protoOut, dropped } := by
  unfold PeerTasks.pushProto
  split
  exacts [⟨_, _, rfl⟩, ⟨_, _, rfl⟩]

theorem PeerTasks.pushTraffic_eq (p : PeerTasks) (frame : FrameID) :
    ∃ trafficOut dropped, p.pushTraffic frame = { p with trafficOut, dropped } := by
  unfold PeerTasks.pushTraffic
  split
  · exact ⟨_, _, rfl⟩
  · split <;> exact ⟨_, _, rfl⟩

/-- A receive takes the frame of a blocked announcer or of a blocked `start`,
and moves that sender past its send. -/
theorem PeerTasks.release_cases {p : PeerTasks} {first : Sender} {pending : FrameID} {released : PeerTasks}
    (releasing : p.release first = some (pending, released)) :
    (p.announcer = .sending pending ∧ released = { p with announcer := .loop }) ∨
      (p.starter = .sending pending ∧ released = { p with starter := .returned }) := by
  unfold PeerTasks.release at releasing
  split at releasing <;> cases releasing
  all_goals first | exact .inl ⟨‹_›, rfl⟩ | exact .inr ⟨‹_›, rfl⟩

/-- The writer's cases move the announcer only from a blocked send back to the
loop. -/
theorem PeerTasks.take_announcer (p : PeerTasks) (first : Sender) (case : SelectCase) :
    (p.take first case).announcer = p.announcer ∨
      ∃ ann, p.announcer = .sending ann ∧ (p.take first case).announcer = .loop := by
  cases case <;> simp only [PeerTasks.take]
  case announce =>
    split
    all_goals first
      | exact .inl rfl
      | rcases PeerTasks.release_cases ‹_› with ⟨sending, rfl⟩ | ⟨-, rfl⟩
        exacts [.inr ⟨_, sending, rfl⟩, .inl rfl]
  case protoOut => split <;> simp
  case trafficOut => split <;> simp
  all_goals simp

/-! ## `advertise.L` -/

/-- The announcers at a point that holds `advertise.L` are exactly the lock's
recorded holder. -/
def LockInvariant (s : Tasks) : Prop :=
  ∀ peer, (s.peers peer).announcer.holdsLock = true ↔ s.advertiseHolder = some peer

theorem lockInvariant_initial (ports : Nat → SwitchPortID) (capacity : Nat → Capacities) :
    LockInvariant (Tasks.initial ports capacity) := by
  intro peer
  simp [Tasks.initial, AnnouncerAt.holdsLock]

/-- A step that keeps the holder and whether each announcer holds the lock
keeps the invariant. -/
theorem LockInvariant.of_holdsLock_eq {s next : Tasks} (invariant : LockInvariant s)
    (holder : next.advertiseHolder = s.advertiseHolder)
    (same : ∀ peer, (next.peers peer).announcer.holdsLock = (s.peers peer).announcer.holdsLock) :
    LockInvariant next := fun peer => by
  rw [same, holder]
  exact invariant peer

/-- Replacing a peer's record by one with the same announcer keeps the
invariant. -/
theorem LockInvariant.setPeer {s : Tasks} (invariant : LockInvariant s) {peer : Nat} {p : PeerTasks}
    (announcer : p.announcer = (s.peers peer).announcer) : LockInvariant (s.setPeer peer p) :=
  invariant.of_holdsLock_eq rfl fun other => by rw [Tasks.setPeer_announcer other announcer]

/-- Taking the free lock at a point that holds it. -/
theorem LockInvariant.acquire {s : Tasks} (invariant : LockInvariant s)
    (free : s.advertiseHolder = none) (peer : Nat) (p : PeerTasks) (holding : p.announcer.holdsLock = true) :
    LockInvariant { s.setPeer peer p with advertiseHolder := some peer } := by
  intro other
  by_cases same : other = peer
  · subst same
    simp [holding]
  · simpa [same, Ne.symm same, free] using invariant other

/-- Releasing the lock held by `peer`, which moves to a point that does not
hold it. -/
theorem LockInvariant.release {s : Tasks} (invariant : LockInvariant s) {peer : Nat}
    (holder : s.advertiseHolder = some peer) (p : PeerTasks) (released : p.announcer.holdsLock = false) :
    LockInvariant { s.setPeer peer p with advertiseHolder := none } := by
  intro other
  by_cases same : other = peer
  · subst same
    simp [released]
  · have notHolding : (s.peers other).announcer.holdsLock = false := by
      simpa [holder, Ne.symm same] using invariant other
    simp [same, notHolding]

/-- Receiving and sending keep whether the announcer holds the lock: a blocked
announcer released by the receive goes from its send back to the loop. -/
theorem PeerTasks.take_holdsLock (p : PeerTasks) (first : Sender) (case : SelectCase) :
    (p.take first case).announcer.holdsLock = p.announcer.holdsLock := by
  rcases p.take_announcer first case with same | ⟨ann, sending, loop⟩
  · rw [same]
  · rw [sending, loop]
    rfl

theorem writerStep_holdsLock {p next : PeerTasks} {case : SelectCase} {first : Sender}
    (stepped : writerStep p case first = some next) : next.announcer.holdsLock = p.announcer.holdsLock := by
  unfold writerStep at stepped
  dsimp only at stepped
  split at stepped
  · cases stepped
    exact p.take_holdsLock first case
  · cases stepped

/-- The step lemma for `advertise.L`. -/
theorem LockInvariant.step {s next : Tasks} {event : TaskEvent} (invariant : LockInvariant s)
    (stepped : tasksStep s event = some next) : LockInvariant next := by
  cases event with
  | stop peer =>
    cases stepped
    exact invariant.setPeer rfl
  | broadcast =>
    cases stepped
    exact invariant.of_holdsLock_eq rfl fun other => AnnouncerAt.holdsLock_notify _
  | start peer signed =>
    rcases starterStep_cases stepped with ⟨-, rfl⟩ | ⟨ann, -, -, rfl⟩ <;> exact invariant.setPeer rfl
  | announcer peer signed =>
    change announcerStep s peer signed = some next at stepped
    unfold announcerStep at stepped
    dsimp only at stepped
    split at stepped
    · split at stepped
      · cases stepped
        exact invariant.acquire (by assumption) peer _ rfl
      · cases stepped
    · rename_i looping
      cases stepped
      refine invariant.release ((invariant peer).mp (by simp [looping, AnnouncerAt.holdsLock])) _ ?_
      split <;> rfl
    · split at stepped
      · cases stepped
        refine invariant.acquire (by assumption) peer _ ?_
        split <;> rfl
      · cases stepped
    · rename_i ann sending
      split at stepped
      · cases stepped
        refine invariant.of_holdsLock_eq rfl fun other => ?_
        by_cases same : other = peer
        · subst same
          simp [sending, AnnouncerAt.holdsLock]
        · simp [same]
      · cases stepped
    · cases stepped
    · cases stepped
  | writer peer case first =>
    obtain ⟨p, written, rfl⟩ := Option.map_eq_some'.mp stepped
    refine invariant.of_holdsLock_eq rfl fun other => ?_
    by_cases same : other = peer
    · subst same
      simp [writerStep_holdsLock written]
    · simp [same]
  | pushProto peer frame =>
    obtain ⟨protoOut, dropped, pushed⟩ := (s.peers peer).pushProto_eq frame
    cases stepped
    exact invariant.setPeer (by rw [pushed])
  | pushTraffic peer frame =>
    obtain ⟨trafficOut, dropped, pushed⟩ := (s.peers peer).pushTraffic_eq frame
    cases stepped
    exact invariant.setPeer (by rw [pushed])

/-- The lock invariant holds after every schedule from the start. -/
theorem lockInvariant_tasksRun (ports : Nat → SwitchPortID) (capacity : Nat → Capacities)
    (events : List TaskEvent) : LockInvariant (tasksRun (Tasks.initial ports capacity) events) :=
  tasksRun_induction (fun _ _ _ invariant stepped => invariant.step stepped) events _
    (lockInvariant_initial ports capacity)

/-! ## An announcer blocked after `stop` -/

/-- Announcer `blocked` holds `advertise.L` at its send of `ann`, the channel
is full, and its writer, the only receiver, has returned. -/
structure Deadlocked (s : Tasks) (blocked : Nat) (ann : FrameID) : Prop where
  holds : s.advertiseHolder = some blocked
  sending : (s.peers blocked).announcer = .sending ann
  full : (s.peers blocked).capacity ≤ (s.peers blocked).announce.length
  writerReturned : (s.peers blocked).writer = .returned

/-- A returned writer takes no step. -/
theorem writerStep_returned {p : PeerTasks} (returned : p.writer = .returned) (case : SelectCase)
    (first : Sender) : writerStep p case first = none := by
  cases case <;> simp [writerStep, returned, WriterChoice.legal, WriterAt.offers, WriterAt.hasDefault]

/-- The writer's cases leave an announcer in `Wait` where it is. -/
theorem PeerTasks.take_woken {p : PeerTasks} (woken : p.announcer = .woken) (first : Sender) (case : SelectCase) :
    (p.take first case).announcer = .woken := by
  rcases p.take_announcer first case with same | ⟨ann, sending, -⟩
  · rw [same, woken]
  · simp [woken] at sending

/-- Replacing another peer's record keeps a deadlock. -/
theorem Deadlocked.setPeer_other {s : Tasks} {blocked : Nat} {ann : FrameID} (deadlocked : Deadlocked s blocked ann)
    {peer : Nat} (other : peer ≠ blocked) (p : PeerTasks) : Deadlocked (s.setPeer peer p) blocked ann := by
  obtain ⟨holds, sending, full, writerReturned⟩ := deadlocked
  exact ⟨holds, by simp [Ne.symm other, sending], by simpa [Ne.symm other] using full,
    by simp [Ne.symm other, writerReturned]⟩

/-- Replacing a peer's record by one with the same announcer, channel and
writer keeps a deadlock. -/
theorem Deadlocked.setPeer {s : Tasks} {blocked : Nat} {ann : FrameID} (deadlocked : Deadlocked s blocked ann)
    {peer : Nat} {p : PeerTasks} (announcer : p.announcer = (s.peers peer).announcer)
    (announce : p.announce = (s.peers peer).announce) (capacity : p.capacity = (s.peers peer).capacity)
    (writer : p.writer = (s.peers peer).writer) : Deadlocked (s.setPeer peer p) blocked ann := by
  by_cases same : peer = blocked
  · subst same
    obtain ⟨holds, sending, full, writerReturned⟩ := deadlocked
    exact ⟨holds, by simp [announcer, sending], by simp [announce, capacity, full],
      by simp [writer, writerReturned]⟩
  · exact deadlocked.setPeer_other same p

/-- The step lemma: a deadlocked announcer stays so, and an announcer woken
from `Wait`, which needs `advertise.L`, stays woken. -/
theorem Deadlocked.step {s next : Tasks} {blocked : Nat} {ann : FrameID} {event : TaskEvent}
    (invariant : LockInvariant s) (deadlocked : Deadlocked s blocked ann)
    (stepped : tasksStep s event = some next) :
    Deadlocked next blocked ann ∧
      ∀ other, (s.peers other).announcer = .woken → (next.peers other).announcer = .woken := by
  have ⟨holds, sending, full, writerReturned⟩ := deadlocked
  have holder : ∀ peer, (s.peers peer).announcer.holdsLock = true → peer = blocked := fun peer holding =>
    Option.some.inj (((invariant peer).mp holding).symm.trans holds)
  have kept : ∀ {peer} {p : PeerTasks}, p.announcer = (s.peers peer).announcer →
      p.announce = (s.peers peer).announce → p.capacity = (s.peers peer).capacity →
      p.writer = (s.peers peer).writer → Deadlocked (s.setPeer peer p) blocked ann ∧
        ∀ other, (s.peers other).announcer = .woken → ((s.setPeer peer p).peers other).announcer = .woken :=
    fun announcer announce capacity writer => ⟨deadlocked.setPeer announcer announce capacity writer,
      fun other woken => (Tasks.setPeer_announcer other announcer).trans woken⟩
  cases event with
  | stop peer =>
    cases stepped
    exact kept rfl rfl rfl rfl
  | broadcast =>
    cases stepped
    exact ⟨⟨holds, by simp [sending, AnnouncerAt.notify], full, writerReturned⟩,
      fun other woken => by simp [woken, AnnouncerAt.notify]⟩
  | start peer signed =>
    rcases starterStep_cases stepped with ⟨-, rfl⟩ | ⟨pending, -, room, rfl⟩
    · exact kept rfl rfl rfl rfl
    · have other : peer ≠ blocked := by
        rintro rfl
        omega
      exact ⟨deadlocked.setPeer_other other _, fun q woken => (Tasks.setPeer_announcer q (by rfl)).trans woken⟩
  | announcer peer signed =>
    change announcerStep s peer signed = some next at stepped
    unfold announcerStep at stepped
    dsimp only at stepped
    split at stepped
    · rw [if_neg (by simp [holds])] at stepped
      cases stepped
    · rename_i looping
      obtain rfl := holder peer (by simp [looping, AnnouncerAt.holdsLock])
      simp [sending] at looping
    · rw [if_neg (by simp [holds])] at stepped
      cases stepped
    · rename_i pending atSend
      obtain rfl := holder peer (by simp [atSend, AnnouncerAt.holdsLock])
      rw [if_neg (Nat.not_lt.mpr full)] at stepped
      cases stepped
    · cases stepped
    · cases stepped
  | writer peer case first =>
    obtain ⟨p, written, rfl⟩ := Option.map_eq_some'.mp stepped
    have other : peer ≠ blocked := by
      rintro rfl
      simp [writerStep_returned writerReturned] at written
    refine ⟨deadlocked.setPeer_other other p, fun q woken => ?_⟩
    by_cases same : q = peer
    · subst same
      unfold writerStep at written
      dsimp only at written
      split at written
      · cases written
        simpa using PeerTasks.take_woken woken first case
      · cases written
    · simp [same, woken]
  | pushProto peer frame =>
    obtain ⟨protoOut, dropped, pushed⟩ := (s.peers peer).pushProto_eq frame
    cases stepped
    exact pushed ▸ kept rfl rfl rfl rfl
  | pushTraffic peer frame =>
    obtain ⟨trafficOut, dropped, pushed⟩ := (s.peers peer).pushTraffic_eq frame
    cases stepped
    exact pushed ▸ kept rfl rfl rfl rfl

/-- The run lemma: a deadlock lasts through every schedule, and so does every
woken announcer's wait for `advertise.L`. -/
theorem Deadlocked.run {s : Tasks} {blocked : Nat} {ann : FrameID} (invariant : LockInvariant s)
    (deadlocked : Deadlocked s blocked ann) (events : List TaskEvent) :
    Deadlocked (tasksRun s events) blocked ann ∧
      ∀ other, (s.peers other).announcer = .woken → ((tasksRun s events).peers other).announcer = .woken := by
  have lasts := @tasksRun_induction
    (fun t => LockInvariant t ∧ Deadlocked t blocked ann ∧
      ∀ other, (s.peers other).announcer = .woken → (t.peers other).announcer = .woken)
    (fun _ _ _ ⟨holding, stuck, waits⟩ stepped =>
      ⟨holding.step stepped, (stuck.step holding stepped).1,
        fun other woken => (stuck.step holding stepped).2 other (waits other woken)⟩)
    events s ⟨invariant, deadlocked, fun _ woken => woken⟩
  exact lasts.2

/-- Peers 1 and 2 on ports 1 and 2, with unbuffered `p.announce` channels. -/
def unbufferedPeers : Tasks := Tasks.initial id (fun _ => ⟨0, 16, 16⟩)

/-- `start` on each peer generates announcement 3 or 4 and hands it to its
writer; then both announcers take `advertise.L` in turn and go into `Wait`. -/
def bothWaiting : Tasks :=
  tasksRun unbufferedPeers
    [.start 1 (some 3), .writer 1 .announce .starter, .start 2 (some 4), .writer 2 .announce .starter,
      .announcer 1 none, .announcer 1 none, .announcer 2 none, .announcer 2 none]

/-- Then peer 1 is stopped and its writer returns; a `Broadcast` wakes both
announcers, peer 1's takes `advertise.L` first, and `generateAnnouncement`
gives it announcement 7. -/
def stoppedThenWoken : Tasks :=
  tasksRun bothWaiting [.stop 1, .writer 1 .done .announcer, .broadcast, .announcer 1 (some 7)]

/-- Peer 1's announcer was in `Wait` when `stop` cancelled its context; woken
afterwards, it calls `generateAnnouncement` and blocks on its send holding
`advertise.L`, with its writer returned. Whatever happens next, it stays
there, and peer 2's announcer never gets out of `Wait`. -/
theorem stopped_announcer_blocks_advertise_forever :
    (bothWaiting.peers 1).announcer = .waiting ∧ (stoppedThenWoken.peers 1).cancelled = true ∧
      ∀ later, ((tasksRun stoppedThenWoken later).peers 1).announcer = .sending 7 ∧
        (tasksRun stoppedThenWoken later).advertiseHolder = some 1 ∧
        ((tasksRun stoppedThenWoken later).peers 1).writer = .returned ∧
        ((tasksRun stoppedThenWoken later).peers 2).announcer = .woken := by
  have invariant : LockInvariant stoppedThenWoken :=
    tasksRun_induction (fun _ _ _ holding stepped => holding.step stepped) _ _
      (lockInvariant_tasksRun id (fun _ => ⟨0, 16, 16⟩) _)
  have deadlocked : Deadlocked stoppedThenWoken 1 7 := ⟨by decide, by decide, by decide, by decide⟩
  refine ⟨by decide, by decide, fun later => ?_⟩
  obtain ⟨⟨holds, sending, -, writerReturned⟩, woken⟩ := deadlocked.run invariant later
  exact ⟨sending, holds, writerReturned, woken 2 (by decide)⟩

/-! ## The writer's choices -/

/-- The writer's log agrees with the writer: it is where its choices lead,
each choice was made by Go's rule, at the `select` the choices before it lead
to. -/
structure WriterLog (p : PeerTasks) : Prop where
  current : p.writer = writerAt p.choices
  legal : ∀ choice ∈ p.choices, choice.legal = true
  placed : ∀ earlier choice later, p.choices = earlier ++ choice :: later → choice.select = writerAt earlier

theorem WriterLog.of_eq {p next : PeerTasks} (log : WriterLog p) (writer : next.writer = p.writer)
    (choices : next.choices = p.choices) : WriterLog next := by
  obtain ⟨current, legal, placed⟩ := log
  exact ⟨by rw [writer, choices, current], by rwa [choices], by rwa [choices]⟩

@[simp] theorem writerAt_append_single (choices : List WriterChoice) (choice : WriterChoice) :
    writerAt (choices ++ [choice]) = choice.next := by
  simp [writerAt]

/-- The step lemma for one `select`. -/
theorem WriterLog.step {p next : PeerTasks} {case : SelectCase} {first : Sender} (log : WriterLog p)
    (stepped : writerStep p case first = some next) : WriterLog next := by
  obtain ⟨current, legal, placed⟩ := log
  unfold writerStep at stepped
  dsimp only at stepped
  split at stepped
  · rename_i chosen
    cases stepped
    refine ⟨by simp, fun choice mem => ?_, fun earlier choice later split => ?_⟩
    · rcases List.mem_append.mp mem with old | new
      · exact legal choice old
      · rw [List.mem_singleton.mp new]
        exact chosen
    · rcases List.eq_nil_or_concat later with rfl | ⟨front, last, rfl⟩
      · obtain ⟨rfl, same⟩ := List.append_inj' split rfl
        obtain rfl := List.singleton_inj.mp same
        exact current
      · have split' : p.choices ++ [⟨p.writer, p.readiness, case⟩] = (earlier ++ choice :: front) ++ [last] := by
          simpa using split
        exact placed earlier choice front (List.append_inj' split' rfl).1
  · cases stepped

/-- Every step keeps the writers' logs. -/
theorem tasksStep_writerLog {s next : Tasks} {event : TaskEvent} (logs : ∀ peer, WriterLog (s.peers peer))
    (stepped : tasksStep s event = some next) (peer : Nat) : WriterLog (next.peers peer) := by
  have setPeer : ∀ (q : Nat) (p : PeerTasks), p.writer = (s.peers q).writer →
      p.choices = (s.peers q).choices → WriterLog ((s.setPeer q p).peers peer) := by
    intro q p writer choices
    by_cases same : peer = q
    · subst same
      simpa using (logs peer).of_eq writer choices
    · simpa [same] using logs peer
  cases event with
  | stop q => cases stepped; exact setPeer q _ rfl rfl
  | broadcast => cases stepped; exact (logs peer).of_eq rfl rfl
  | start q signed => rcases starterStep_cases stepped with ⟨-, rfl⟩ | ⟨ann, -, -, rfl⟩ <;> exact setPeer q _ rfl rfl
  | announcer q signed =>
    change announcerStep s q signed = some next at stepped
    unfold announcerStep at stepped
    dsimp only at stepped
    split at stepped <;> (try split at stepped) <;> cases stepped <;> exact setPeer q _ rfl rfl
  | writer q case first =>
    obtain ⟨p, written, rfl⟩ := Option.map_eq_some'.mp stepped
    by_cases same : peer = q
    · subst same
      simpa using (logs peer).step written
    · simpa [same] using logs peer
  | pushProto q frame =>
    obtain ⟨protoOut, dropped, pushed⟩ := (s.peers q).pushProto_eq frame
    cases stepped
    exact setPeer q _ (by rw [pushed]) (by rw [pushed])
  | pushTraffic q frame =>
    obtain ⟨trafficOut, dropped, pushed⟩ := (s.peers q).pushTraffic_eq frame
    cases stepped
    exact setPeer q _ (by rw [pushed]) (by rw [pushed])

/-- A writer past its first `select` got there by `default`. -/
theorem exists_default_of_writerAt {earlier : List WriterChoice}
    (past : writerAt earlier = .second ∨ writerAt earlier = .third) :
    ∃ previous, earlier.getLast? = some previous ∧ previous.case = .default ∧
      previous.select.afterDefault = writerAt earlier := by
  unfold writerAt at past ⊢
  cases last : earlier.getLast? with
  | none => simp [last] at past
  | some previous =>
    simp only [last, Option.map_some', Option.getD_some, WriterChoice.next] at past ⊢
    refine ⟨previous, rfl, ?_⟩
    cases choice : previous.case <;> simp_all

/-- A `default` by Go's rule: the `select` has one, and none of its cases is ready. -/
theorem WriterChoice.legal_default {choice : WriterChoice} (legal : choice.legal = true)
    (isDefault : choice.case = .default) :
    choice.select.hasDefault = true ∧ ∀ offered ∈ choice.select.offers, choice.ready.has offered = false := by
  simp only [WriterChoice.legal, isDefault, Bool.and_eq_true, List.all_eq_true, Bool.not_eq_true'] at legal
  exact legal

/-- Where the writer takes from `protoOut` and from `trafficOut`. -/
theorem WriterChoice.select_of_legal {choice : WriterChoice} (legal : choice.legal = true) :
    (choice.case = .protoOut → choice.select = .second ∨ choice.select = .third) ∧
      (choice.case = .trafficOut → choice.select = .third) := by
  constructor <;> intro taken <;>
    cases select : choice.select <;> simp_all [WriterChoice.legal, WriterAt.offers]

/-- Every writer's log stays consistent through every schedule. -/
theorem writerLog_tasksRun (ports : Nat → SwitchPortID) (capacity : Nat → Capacities) (events : List TaskEvent)
    (peer : Nat) : WriterLog ((tasksRun (Tasks.initial ports capacity) events).peers peer) :=
  @tasksRun_induction (fun t => ∀ q, WriterLog (t.peers q))
    (fun _ _ _ logs stepped => tasksStep_writerLog logs stepped) events _
    (fun _ => ⟨rfl, by simp [Tasks.initial], by simp [Tasks.initial]⟩) peer

/-- A choice at the second or third `select` follows a `default`, by Go's
rule, at the `select` before it. -/
theorem WriterLog.previous_default {p : PeerTasks} (log : WriterLog p)
    {earlier later : List WriterChoice} {choice : WriterChoice}
    (split : p.choices = earlier ++ choice :: later) (past : choice.select = .second ∨ choice.select = .third) :
    ∃ previous, earlier.getLast? = some previous ∧ previous.case = .default ∧
      previous.select.afterDefault = choice.select ∧ previous.select.hasDefault = true ∧
      ∀ offered ∈ previous.select.offers, previous.ready.has offered = false := by
  rw [log.placed earlier choice later split] at past ⊢
  obtain ⟨previous, last, isDefault, after⟩ := exists_default_of_writerAt past
  have mem : previous ∈ p.choices := split ▸ List.mem_append_left _ (List.mem_of_getLast?_eq_some last)
  exact ⟨previous, last, isDefault, after, WriterChoice.legal_default (log.legal previous mem) isDefault⟩

/-- A take from `protoOut` follows a `default` at a `select` that found no
announcement pending. -/
theorem WriterLog.protoOut_after_quiet {p : PeerTasks} (log : WriterLog p)
    {earlier later : List WriterChoice} {choice : WriterChoice}
    (split : p.choices = earlier ++ choice :: later) (taken : choice.case = .protoOut) :
    ∃ previous, earlier.getLast? = some previous ∧ previous.case = .default ∧
      previous.ready.announce = false := by
  have past := (WriterChoice.select_of_legal (log.legal choice (by rw [split]; simp))).1 taken
  obtain ⟨previous, last, isDefault, -, hasDefault, quiet⟩ := log.previous_default split past
  refine ⟨previous, last, isDefault, quiet .announce ?_⟩
  cases select : previous.select <;> simp_all [WriterAt.offers, WriterAt.hasDefault]

/-- A take from `trafficOut` follows a `default` at the second `select`, which
found neither an announcement nor a proto frame pending. -/
theorem WriterLog.trafficOut_after_quiet {p : PeerTasks} (log : WriterLog p)
    {earlier later : List WriterChoice} {choice : WriterChoice}
    (split : p.choices = earlier ++ choice :: later) (taken : choice.case = .trafficOut) :
    ∃ previous, earlier.getLast? = some previous ∧ previous.select = .second ∧
      previous.case = .default ∧ previous.ready.announce = false ∧ previous.ready.protoOut = false := by
  have third := (WriterChoice.select_of_legal (log.legal choice (by rw [split]; simp))).2 taken
  obtain ⟨previous, last, isDefault, after, hasDefault, quiet⟩ := log.previous_default split (.inr third)
  have second : previous.select = .second := by
    rw [third] at after
    cases select : previous.select <;> simp_all [WriterAt.afterDefault, WriterAt.hasDefault]
  refine ⟨previous, last, second, isDefault, quiet .announce ?_, quiet .protoOut ?_⟩ <;>
    simp [second, WriterAt.offers]

/-- For every schedule of producers, announcers, `Broadcast`s and `stop`s,
and every channel capacity, each `select` of every writer takes a ready case
(or `default` when none is); it takes from `protoOut` only right after a
`default` at a `select` that found no announcement pending, and from
`trafficOut` only right after a `default` at the second `select`, which found
neither an announcement nor a proto frame pending. -/
theorem writer_priority_holds_against_previous_select (ports : Nat → SwitchPortID)
    (capacity : Nat → Capacities) (events : List TaskEvent) (peer : Nat) :
    let choices := ((tasksRun (Tasks.initial ports capacity) events).peers peer).choices
    (∀ choice ∈ choices, choice.legal = true) ∧
    (∀ earlier choice later, choices = earlier ++ choice :: later → choice.case = .protoOut →
      ∃ previous, earlier.getLast? = some previous ∧ previous.case = .default ∧
        previous.ready.announce = false) ∧
    (∀ earlier choice later, choices = earlier ++ choice :: later → choice.case = .trafficOut →
      ∃ previous, earlier.getLast? = some previous ∧ previous.select = .second ∧
        previous.case = .default ∧ previous.ready.announce = false ∧ previous.ready.protoOut = false) :=
  have log := writerLog_tasksRun ports capacity events peer
  ⟨log.legal, fun _ _ _ split taken => log.protoOut_after_quiet split taken,
    fun _ _ _ split taken => log.trafficOut_after_quiet split taken⟩

/-- Peer 1 on port 1 with a one-slot `p.announce` and room for four frames in
each queue. -/
def oneSlotPeers : Tasks := Tasks.initial id (fun _ => ⟨1, 4, 4⟩)

/-- The writer finds nothing at its first `select` and goes on by `default`;
before its second `select` runs, the announcer buffers announcement 5 and a
producer pushes proto frame 9; the second `select` then takes `protoOut`. -/
def protoOverAnnouncement : Tasks :=
  tasksRun oneSlotPeers
    [.writer 1 .default .announcer, .announcer 1 none, .announcer 1 none, .broadcast, .announcer 1 (some 5),
      .announcer 1 none, .pushProto 1 9, .writer 1 .protoOut .announcer]

/-- The writer sends proto frame 9 while announcement 5 is pending, from a
`select` at which both were ready. -/
theorem writer_takes_proto_over_pending_announcement :
    (protoOverAnnouncement.peers 1).written = [9] ∧ (protoOverAnnouncement.peers 1).announce = [5] ∧
      (protoOverAnnouncement.peers 1).choices.getLast? =
        some ⟨.second, ⟨false, true, true, false⟩, .protoOut⟩ := by
  decide

end Pinecone
