import Pinecone.Peer.Basic

/-!
# The forwarding step of `Peer.reader`

After a frame is decoded, the reader runs a closure over the ports
`getNextHops` returns. It skips a port whose peer is stopped, or is not the
local port and not alive, or (between two non-local ports) is the ingress
port or carries the ingress peer's key. For a port it keeps, it pushes the
frame by type: pathfind frames as a signed copy onto `trafficOut`,
protocol frames onto `protoOut`, traffic frames onto `trafficOut`. The first
push a queue accepts ends the loop; a refused push is counted as dropped and
its reference released. When nothing was accepted the closure counts
`rxDroppedNoDestination` on the ingress peer, and it always releases the
reader's own reference to the frame.

What the environment decides is an input: the result of each `signPathfind`
call and whether each push is accepted are read, in call order, from a
`ForwardEnvironment`.
-/

namespace Pinecone

/-- The frame types of `types.FrameType` that the reader names. -/
inductive FrameType where
  | keepalive
  | stp
  | virtualSnakeBootstrap
  | virtualSnakeBootstrapACK
  | virtualSnakeSetup
  | virtualSnakeTeardown
  | virtualSnake
  | virtualSnakePathfind
  | dhtRequest
  | dhtResponse
  | greedy
  | source
  | pathfind
  deriving DecidableEq, Repr

/-- The arms of the `switch frame.Type` of the forwarding loop. -/
inductive Handling where
  | signedTraffic
  | protocol
  | traffic
  | ignored
  deriving DecidableEq, Repr

/-- The arm a frame type takes; keepalive and tree announcements match none. -/
def FrameType.handling : FrameType → Handling
  | .pathfind | .virtualSnakePathfind => .signedTraffic
  | .dhtRequest | .dhtResponse | .virtualSnakeBootstrap | .virtualSnakeBootstrapACK
  | .virtualSnakeSetup | .virtualSnakeTeardown => .protocol
  | .greedy | .source | .virtualSnake => .traffic
  | .keepalive | .stp => .ignored

/-- A peer's two outbound queues. -/
inductive Queue where
  | protoOut
  | trafficOut
  deriving DecidableEq, Repr

/-- A frame the step may hand to a queue: the received frame itself, or the
signed copy that the `call`-th `signPathfind` call returned. -/
inductive QueuedFrame where
  | received
  | signedCopy (call : Nat)
  deriving DecidableEq, Repr

/-- One push: the destination slot, the queue, the frame, and whether the
queue took it. -/
structure PushAttempt where
  port : SwitchPortID
  queue : Queue
  item : QueuedFrame
  accepted : Bool
  deriving DecidableEq, Repr

/-- `r.signPathfind(frame, p, dest)`: an error, a nil frame, or a signed copy. -/
inductive SignResult where
  | failed
  | empty
  | signed
  deriving DecidableEq, Repr

/-- The results the environment gives, in call order. -/
structure ForwardEnvironment where
  signPathfind : Nat → SignResult
  pushAccepted : Nat → Bool

/-- The counters a push increments: exactly one per push. -/
def PeerStatistics.recordPush (s : PeerStatistics) : Queue → Bool → PeerStatistics
  | .protoOut, true => { s with txProtoSuccessful := s.txProtoSuccessful + 1 }
  | .protoOut, false => { s with txProtoDropped := s.txProtoDropped + 1 }
  | .trafficOut, true => { s with txTrafficSuccessful := s.txTrafficSuccessful + 1 }
  | .trafficOut, false => { s with txTrafficDropped := s.txTrafficDropped + 1 }

/-- `rxDroppedNoDestination.Inc()`. -/
def PeerStatistics.recordNoDestination (s : PeerStatistics) : PeerStatistics :=
  { s with rxDroppedNoDestination := s.rxDroppedNoDestination + 1 }

/-- The router's peer slots as the closure changes them, the `sent` flag, the
pushes made so far, the number of `signPathfind` calls, and the references
held on each frame. -/
structure ForwardState where
  ports : SwitchPortID → Peer
  sent : Bool
  pushes : List PushAttempt
  signCalls : Nat
  references : QueuedFrame → Nat

/-- The state on entry: the reader holds the one reference `GetFrame` gave it. -/
def ForwardState.initial (ports : SwitchPortID → Peer) : ForwardState :=
  { ports, sent := false, pushes := [], signCalls := 0,
    references := fun item => if item = .received then 1 else 0 }

/-- `frame.Borrow()` or `frame.Done()` on one frame. -/
def ForwardState.adjust (s : ForwardState) (item : QueuedFrame) (next : Nat → Nat) : ForwardState :=
  { s with references := Function.update s.references item (next (s.references item)) }

/-- The shared body of the three push arms:
`if sent = dest.<queue>.push(item); sent { <queue>Successful.Inc(); return }`
`else { <queue>Dropped.Inc(); item.Done(); continue }`. -/
def ForwardState.offer (env : ForwardEnvironment) (s : ForwardState) (port : SwitchPortID)
    (queue : Queue) (item : QueuedFrame) : ForwardState :=
  let accepted := env.pushAccepted s.pushes.length
  let dest := s.ports port
  let s :=
    { s with
      sent := accepted
      pushes := s.pushes ++ [⟨port, queue, item, accepted⟩]
      ports := Function.update s.ports port
        { dest with statistics := dest.statistics.recordPush queue accepted } }
  if accepted then s else s.adjust item (· - 1)

@[simp] theorem ForwardState.adjust_ports (s : ForwardState) (item : QueuedFrame) (next : Nat → Nat) :
    (s.adjust item next).ports = s.ports := rfl

@[simp] theorem ForwardState.adjust_pushes (s : ForwardState) (item : QueuedFrame) (next : Nat → Nat) :
    (s.adjust item next).pushes = s.pushes := rfl

theorem ForwardState.adjust_references (s : ForwardState) (item other : QueuedFrame) (next : Nat → Nat) :
    (s.adjust item next).references other =
      if other = item then next (s.references item) else s.references other := by
  by_cases same : other = item
  · subst same
    simp [ForwardState.adjust]
  · simp [ForwardState.adjust, Function.update_noteq same, same]

/-- How one iteration of the loop ends. -/
inductive HopOutcome where
  | next (s : ForwardState)
  | done (s : ForwardState)

/-- Whether a slot may receive the frame, the two `continue` guards. -/
def skipsDestination (p dest : Peer) : Bool :=
  !dest.started || (dest.port != 0 && !dest.alive) ||
    (p.port != 0 && dest.port != 0 && (p.port == dest.port || p.public == dest.public))

/-- The end of a push arm: `return` once a queue took the frame. -/
def HopOutcome.ofOffer (s : ForwardState) : HopOutcome := if s.sent then .done s else .next s

/-- One iteration of `for _, port := range p.getNextHops(frame, p.port)` for a
frame of type `frameType` that arrived on slot `ingress`. -/
def forwardHop (env : ForwardEnvironment) (ingress : SwitchPortID) (frameType : FrameType)
    (s : ForwardState) (port : SwitchPortID) : HopOutcome :=
  if skipsDestination (s.ports ingress) (s.ports port) then .next s
  else match frameType.handling with
    | .signedTraffic =>
      let call := s.signCalls
      let s := { s with signCalls := call + 1 }
      match env.signPathfind call with
      | .failed | .empty => .next s
      | .signed => .ofOffer ((s.adjust (.signedCopy call) fun _ => 1).offer env port .trafficOut
          (.signedCopy call))
    | .protocol => .ofOffer ((s.adjust .received (· + 1)).offer env port .protoOut .received)
    | .traffic => .ofOffer ((s.adjust .received (· + 1)).offer env port .trafficOut .received)
    | .ignored => .next s

/-- The loop over the next hops. -/
def forwardLoop (env : ForwardEnvironment) (ingress : SwitchPortID) (frameType : FrameType) :
    List SwitchPortID → ForwardState → ForwardState
  | [], s => s
  | port :: rest, s =>
    match forwardHop env ingress frameType s port with
    | .next s => forwardLoop env ingress frameType rest s
    | .done s => s

/-- The closure for a frame of type `frameType` received on slot `ingress`,
with `hops` what `getNextHops` returned: the loop, then the two deferred
calls, `rxDroppedNoDestination.Inc()` unless sent and `frame.Done()`. -/
def forward (env : ForwardEnvironment) (ingress : SwitchPortID) (frameType : FrameType)
    (hops : List SwitchPortID) (ports : SwitchPortID → Peer) : ForwardState :=
  let s := forwardLoop env ingress frameType hops (ForwardState.initial ports)
  let s :=
    if s.sent then s
    else
      let p := s.ports ingress
      { s with
        ports := Function.update s.ports ingress
          { p with statistics := p.statistics.recordNoDestination } }
  s.adjust .received (· - 1)

/-! ## What the step guarantees -/

/-- A destination the step may push to: started, the local port or alive,
and, between two non-local ports, neither the ingress port nor a peer with
the ingress peer's key. -/
def Eligible (p dest : Peer) : Prop :=
  dest.started = true ∧ (dest.port = 0 ∨ dest.alive = true) ∧
    (p.port ≠ 0 → dest.port ≠ 0 → dest.port ≠ p.port ∧ dest.public ≠ p.public)

theorem eligible_of_not_skips {p dest : Peer} (kept : skipsDestination p dest = false) :
    Eligible p dest := by
  simp only [skipsDestination, Bool.or_eq_false_iff, Bool.not_eq_false', Bool.and_eq_false_iff,
    bne_eq_false_iff_eq, Bool.or_eq_false_iff, beq_eq_false_iff_ne, ne_eq] at kept
  refine ⟨kept.1.1, ?_, ?_⟩
  · rcases kept.1.2 with isLocal | alive
    · exact .inl isLocal
    · exact .inr (by simpa using alive)
  · intro ingressRemote destRemote
    rcases kept.2 with (ingressLocal | destLocal) | distinct
    · exact absurd ingressLocal ingressRemote
    · exact absurd destLocal destRemote
    · exact ⟨fun same => distinct.1 same.symm, fun same => distinct.2 same.symm⟩

/-- The queue and the frame the type's arm pushes. -/
def PushMatches (handling : Handling) (push : PushAttempt) : Prop :=
  match handling with
  | .signedTraffic => push.queue = .trafficOut ∧ ∃ call, push.item = .signedCopy call
  | .protocol => push.queue = .protoOut ∧ push.item = .received
  | .traffic => push.queue = .trafficOut ∧ push.item = .received
  | .ignored => False

/-- The counters of slot `port` after the pushes made to it. -/
def PeerStatistics.afterPushes (s : PeerStatistics) (port : SwitchPortID)
    (pushes : List PushAttempt) : PeerStatistics :=
  (pushes.filter (·.port = port)).foldl (fun counters push => counters.recordPush push.queue push.accepted) s

/-- The references held on a frame: the reader's own on the received frame,
and one per accepted push. -/
def heldReferences (pushes : List PushAttempt) (item : QueuedFrame) : Nat :=
  (if item = .received then 1 else 0) + pushes.countP (fun push => push.accepted ∧ push.item = item)

@[simp] theorem afterPushes_nil (s : PeerStatistics) (port : SwitchPortID) :
    s.afterPushes port [] = s := rfl

theorem afterPushes_append_single (s : PeerStatistics) (port : SwitchPortID)
    (pushes : List PushAttempt) (push : PushAttempt) :
    s.afterPushes port (pushes ++ [push]) =
      if push.port = port then (s.afterPushes port pushes).recordPush push.queue push.accepted
      else s.afterPushes port pushes := by
  by_cases same : push.port = port <;> simp [PeerStatistics.afterPushes, List.filter_append, same]

section Invariant

variable (env : ForwardEnvironment) (ingress : SwitchPortID) (frameType : FrameType)
  (ports : SwitchPortID → Peer)

/-- What holds of the state between two iterations of the loop, started from
`ForwardState.initial ports`. -/
structure ForwardInvariant (s : ForwardState) : Prop where
  peers : ∀ q, s.ports q = { ports q with statistics := (ports q).statistics.afterPushes q s.pushes }
  eligible : ∀ push ∈ s.pushes, skipsDestination (ports ingress) (ports push.port) = false
  shape : ∀ push ∈ s.pushes, PushMatches frameType.handling push
  fresh : ∀ push ∈ s.pushes, ∀ call, push.item = .signedCopy call → call < s.signCalls
  references : ∀ item, s.references item = heldReferences s.pushes item

/-- Between iterations nothing has been accepted yet. -/
def Pending (s : ForwardState) : Prop := s.sent = false ∧ ∀ push ∈ s.pushes, push.accepted = false

theorem ForwardInvariant.initial : ForwardInvariant ingress frameType ports (ForwardState.initial ports) where
  peers q := rfl
  eligible := by simp [ForwardState.initial]
  shape := by simp [ForwardState.initial]
  fresh := by simp [ForwardState.initial]
  references item := by simp [ForwardState.initial, heldReferences]

/-- Once a push is accepted the loop has returned: that push is the last one
and every push before it was refused. -/
def Finished (s : ForwardState) : Prop :=
  s.sent = true ∧ ∃ refused final, s.pushes = refused ++ [final] ∧ final.accepted = true ∧
    ∀ push ∈ refused, push.accepted = false

/-- What the outcome of one iteration satisfies: an iteration that goes on
keeps the invariant with nothing accepted, one that returns has finished. -/
def HopOutcome.Settled : HopOutcome → Prop
  | .next s => ForwardInvariant ingress frameType ports s ∧ Pending s
  | .done s => ForwardInvariant ingress frameType ports s ∧ Finished s

variable {env ingress frameType ports}

theorem heldReferences_append_single (pushes : List PushAttempt) (push : PushAttempt)
    (item : QueuedFrame) :
    heldReferences (pushes ++ [push]) item =
      heldReferences pushes item + if push.accepted ∧ push.item = item then 1 else 0 := by
  simp only [heldReferences, List.countP_append, List.countP_singleton]
  by_cases taken : push.accepted ∧ push.item = item <;> simp [taken, Nat.add_assoc]

/-- A push arm, entered with one reference on `item` beyond those the
invariant counts (the `Borrow`, or the fresh signed copy), ends in a state
that satisfies the invariant, with the new push last. -/
theorem ForwardInvariant.offer {s : ForwardState} (holds : ForwardInvariant ingress frameType ports s)
    {references : QueuedFrame → Nat} {calls : Nat} {port : SwitchPortID} {queue : Queue}
    {item : QueuedFrame} (more : s.signCalls ≤ calls)
    (kept : skipsDestination (ports ingress) (ports port) = false)
    (arm : ∀ accepted, PushMatches frameType.handling ⟨port, queue, item, accepted⟩)
    (itemFresh : ∀ call, item = .signedCopy call → call < calls)
    (extra : ∀ other, references other = heldReferences s.pushes other + if other = item then 1 else 0) :
    ForwardInvariant ingress frameType ports
        (({ s with references, signCalls := calls }).offer env port queue item) ∧
      (({ s with references, signCalls := calls }).offer env port queue item).sent =
        env.pushAccepted s.pushes.length ∧
      (({ s with references, signCalls := calls }).offer env port queue item).pushes =
        s.pushes ++ [⟨port, queue, item, env.pushAccepted s.pushes.length⟩] := by
  have peers : ∀ accepted q, Function.update s.ports port
      { s.ports port with statistics := (s.ports port).statistics.recordPush queue accepted } q =
      { ports q with statistics := (ports q).statistics.afterPushes q (s.pushes ++ [⟨port, queue, item, accepted⟩]) } := by
    intro accepted q
    rw [afterPushes_append_single]
    by_cases same : q = port
    · subst same
      rw [Function.update_same, holds.peers q]
      simp
    · rw [Function.update_noteq same, holds.peers q]
      simp [Ne.symm same]
  have listed : ∀ accepted, ∀ push ∈ s.pushes ++ [⟨port, queue, item, accepted⟩],
      skipsDestination (ports ingress) (ports push.port) = false ∧
        PushMatches frameType.handling push ∧ ∀ call, push.item = .signedCopy call → call < calls := by
    intro accepted push mem
    rcases List.mem_append.mp mem with old | new
    · exact ⟨holds.eligible push old, holds.shape push old,
        fun call copy => Nat.lt_of_lt_of_le (holds.fresh push old call copy) more⟩
    · rw [List.mem_singleton.mp new]
      exact ⟨kept, arm accepted, itemFresh⟩
  have invariant : ∀ (accepted : Bool) (finalReferences : QueuedFrame → Nat),
      (∀ other, finalReferences other = heldReferences (s.pushes ++ [⟨port, queue, item, accepted⟩]) other) →
      ForwardInvariant ingress frameType ports
        { ports := Function.update s.ports port { s.ports port with statistics := (s.ports port).statistics.recordPush queue accepted },
          sent := accepted, pushes := s.pushes ++ [⟨port, queue, item, accepted⟩], signCalls := calls,
          references := finalReferences } :=
    fun accepted _ counted => ⟨peers accepted, fun push mem => (listed accepted push mem).1,
      fun push mem => (listed accepted push mem).2.1, fun push mem => (listed accepted push mem).2.2, counted⟩
  unfold ForwardState.offer
  cases acceptance : env.pushAccepted s.pushes.length
  · refine ⟨invariant false _ fun other => ?_, rfl, rfl⟩
    rw [heldReferences_append_single]
    by_cases same : other = item
    · subst same
      simp [ForwardState.adjust, extra]
    · simp [ForwardState.adjust, Function.update_noteq same, extra, same]
  · refine ⟨invariant true references fun other => ?_, rfl, rfl⟩
    rw [heldReferences_append_single, extra]
    by_cases same : other = item
    · simp [same]
    · simp [same, Ne.symm same]

theorem HopOutcome.settled_ofOffer {s x : ForwardState} {port : SwitchPortID} {queue : Queue}
    {item : QueuedFrame} {accepted : Bool} (pending : Pending s)
    (offered : ForwardInvariant ingress frameType ports x ∧ x.sent = accepted ∧
      x.pushes = s.pushes ++ [⟨port, queue, item, accepted⟩]) :
    (HopOutcome.ofOffer x).Settled ingress frameType ports := by
  obtain ⟨holds, sent, pushed⟩ := offered
  unfold HopOutcome.ofOffer
  split
  · rename_i isSent
    exact ⟨holds, isSent, s.pushes, _, pushed, sent ▸ isSent, pending.2⟩
  · rename_i refused
    have refused : accepted = false := by simpa [sent] using refused
    refine ⟨holds, by simpa [sent] using refused, fun other mem => ?_⟩
    rw [pushed] at mem
    rcases List.mem_append.mp mem with old | new
    · exact pending.2 other old
    · rw [List.mem_singleton.mp new]
      exact refused

theorem ForwardInvariant.bumpCalls {s : ForwardState} (holds : ForwardInvariant ingress frameType ports s) :
    ForwardInvariant ingress frameType ports { s with signCalls := s.signCalls + 1 } :=
  ⟨holds.peers, holds.eligible, holds.shape,
    fun push mem call copy => Nat.lt_succ_of_lt (holds.fresh push mem call copy), holds.references⟩

/-- One iteration of the loop, from a state with nothing accepted. -/
theorem ForwardInvariant.hop {s : ForwardState} (holds : ForwardInvariant ingress frameType ports s)
    (pending : Pending s) (port : SwitchPortID) :
    (forwardHop env ingress frameType s port).Settled ingress frameType ports := by
  have sameGuard : skipsDestination (s.ports ingress) (s.ports port) =
      skipsDestination (ports ingress) (ports port) := by
    rw [holds.peers ingress, holds.peers port]
    rfl
  have borrowed : ∀ other, Function.update s.references .received (s.references .received + 1) other =
      heldReferences s.pushes other + if other = .received then 1 else 0 := by
    intro other
    by_cases same : other = .received
    · subst same
      simp [holds.references]
    · simp [Function.update_noteq same, holds.references, same]
  unfold forwardHop
  rw [sameGuard]
  split
  · exact ⟨holds, pending⟩
  · rename_i kept
    have kept : skipsDestination (ports ingress) (ports port) = false := by simpa using kept
    cases handles : frameType.handling with
    | signedTraffic =>
      dsimp only
      cases env.signPathfind s.signCalls with
      | failed => exact ⟨holds.bumpCalls, pending⟩
      | empty => exact ⟨holds.bumpCalls, pending⟩
      | signed =>
        have unheld : heldReferences s.pushes (.signedCopy s.signCalls) = 0 := by
          simp only [heldReferences, reduceCtorEq, if_false, Nat.zero_add, List.countP_eq_zero,
            decide_eq_true_eq, not_and]
          intro push mem _ copy
          exact absurd (holds.fresh push mem _ copy) (Nat.lt_irrefl _)
        refine HopOutcome.settled_ofOffer pending
          (holds.offer (Nat.le_add_right _ 1) kept (fun accepted => by simp [PushMatches, handles])
            (fun call copy => by cases copy; exact Nat.lt_succ_self _) fun other => ?_)
        by_cases same : other = .signedCopy s.signCalls
        · subst same
          simp [ForwardState.adjust, unheld]
        · simp [ForwardState.adjust, Function.update_noteq same, holds.references, same]
    | protocol =>
      exact HopOutcome.settled_ofOffer pending
        (holds.offer le_rfl kept (fun accepted => by simp [PushMatches, handles])
          (fun _ copy => by cases copy) borrowed)
    | traffic =>
      exact HopOutcome.settled_ofOffer pending
        (holds.offer le_rfl kept (fun accepted => by simp [PushMatches, handles])
          (fun _ copy => by cases copy) borrowed)
    | ignored => exact ⟨holds, pending⟩

/-- The loop keeps the invariant and ends with nothing accepted, or with the
one accepted push last. -/
theorem ForwardInvariant.loop (hops : List SwitchPortID) : ∀ {s : ForwardState},
    ForwardInvariant ingress frameType ports s → Pending s →
      ForwardInvariant ingress frameType ports (forwardLoop env ingress frameType hops s) ∧
        (Pending (forwardLoop env ingress frameType hops s) ∨
          Finished (forwardLoop env ingress frameType hops s)) := by
  induction hops with
  | nil => exact fun holds pending => ⟨holds, .inl pending⟩
  | cons port rest inductionHypothesis =>
    intro s holds pending
    have settled : (forwardHop env ingress frameType s port).Settled ingress frameType ports :=
      holds.hop pending port
    rw [forwardLoop]
    cases hop : forwardHop env ingress frameType s port with
    | next s' =>
      rw [hop] at settled
      exact inductionHypothesis settled.1 settled.2
    | done s' =>
      rw [hop] at settled
      exact ⟨settled.1, .inr settled.2⟩

/-- At the end of the loop, `sent` says whether some push was accepted, and
at most one was. -/
theorem sent_and_accepted_of_ended {s : ForwardState} (ended : Pending s ∨ Finished s) :
    s.sent = s.pushes.any (·.accepted) ∧ s.pushes.countP (·.accepted) ≤ 1 := by
  rcases ended with ⟨notSent, refused⟩ | ⟨isSent, refused, final, pushed, accepted, earlier⟩
  · have none : s.pushes.countP (·.accepted) = 0 := List.countP_eq_zero.mpr (by simpa using refused)
    refine ⟨?_, by omega⟩
    rw [notSent, eq_comm, List.any_eq_false]
    simpa using refused
  · have one : s.pushes.countP (·.accepted) = 1 := by
      rw [pushed, List.countP_append, List.countP_eq_zero.mpr (by simpa using earlier)]
      simp [accepted]
    refine ⟨?_, by omega⟩
    rw [isSent, pushed, eq_comm, List.any_eq_true]
    exact ⟨final, by simp, accepted⟩

end Invariant

theorem rxDroppedNoDestination_recordPush (s : PeerStatistics) (queue : Queue) (accepted : Bool) :
    (s.recordPush queue accepted).rxDroppedNoDestination = s.rxDroppedNoDestination := by
  cases queue <;> cases accepted <;> rfl

theorem rxDroppedNoDestination_afterPushes (s : PeerStatistics) (port : SwitchPortID)
    (pushes : List PushAttempt) :
    (s.afterPushes port pushes).rxDroppedNoDestination = s.rxDroppedNoDestination := by
  unfold PeerStatistics.afterPushes
  generalize pushes.filter (·.port = port) = atPort
  induction atPort generalizing s with
  | nil => rfl
  | cons push rest inductionHypothesis =>
    rw [List.foldl_cons, inductionHypothesis, rxDroppedNoDestination_recordPush]

/-- The forwarding step of `Peer.reader`, for every next-hop list, every state
of the peer slots, and every outcome of `signPathfind` and of each push:
(a) at most one push is accepted, and each push goes to the queue of the
type's arm; (b) every push goes to an eligible slot; (c) each push
increments exactly one counter of its slot, `rxDroppedNoDestination` of the
ingress slot goes up by one exactly when nothing was accepted, and nothing
else of any slot changes; (d) every frame ends holding exactly the
references that accepted pushes keep. -/
theorem forward_contract (env : ForwardEnvironment) (ingress : SwitchPortID) (frameType : FrameType)
    (hops : List SwitchPortID) (ports : SwitchPortID → Peer) :
    let s := forward env ingress frameType hops ports
    s.pushes.countP (·.accepted) ≤ 1 ∧
      (∀ push ∈ s.pushes, PushMatches frameType.handling push) ∧
      (∀ push ∈ s.pushes, Eligible (ports ingress) (ports push.port)) ∧
      (∀ q, s.ports q = { ports q with statistics := if q = ingress ∧ s.pushes.any (·.accepted) = false then ((ports q).statistics.afterPushes q s.pushes).recordNoDestination else (ports q).statistics.afterPushes q s.pushes }) ∧
      (s.ports ingress).statistics.rxDroppedNoDestination =
        (ports ingress).statistics.rxDroppedNoDestination + (if s.pushes.any (·.accepted) then 0 else 1) ∧
      (∀ item, s.references item = s.pushes.countP (fun push => push.accepted ∧ push.item = item)) := by
  have ⟨holds, ended⟩ : ForwardInvariant ingress frameType ports
      (forwardLoop env ingress frameType hops (ForwardState.initial ports)) ∧
      (Pending (forwardLoop env ingress frameType hops (ForwardState.initial ports)) ∨
        Finished (forwardLoop env ingress frameType hops (ForwardState.initial ports))) :=
    ForwardInvariant.loop hops (ForwardInvariant.initial ingress frameType ports)
      ⟨rfl, by simp [ForwardState.initial]⟩
  obtain ⟨sentAny, atMostOne⟩ := sent_and_accepted_of_ended ended
  simp only [forward]
  generalize forwardLoop env ingress frameType hops (ForwardState.initial ports) = loopEnd at *
  have references : ∀ item, (loopEnd.adjust .received (· - 1)).references item =
      loopEnd.pushes.countP (fun push => push.accepted ∧ push.item = item) := by
    intro item
    rw [ForwardState.adjust_references]
    by_cases same : item = .received <;> simp [same, holds.references, heldReferences]
  cases sent : loopEnd.sent
  · have none : loopEnd.pushes.any (·.accepted) = false := by rw [← sentAny, sent]
    simp only [Bool.false_eq_true, if_false, ForwardState.adjust_ports, ForwardState.adjust_pushes]
    refine ⟨atMostOne, fun push mem => holds.shape push mem,
      fun push mem => eligible_of_not_skips (holds.eligible push mem), fun q => ?_, ?_, references⟩
    · by_cases same : q = ingress
      · subst same
        rw [Function.update_same, holds.peers q]
        simp [none]
      · rw [Function.update_noteq same, holds.peers q]
        simp [same]
    · rw [Function.update_same, holds.peers ingress]
      simp [none, PeerStatistics.recordNoDestination, rxDroppedNoDestination_afterPushes]
  · have some : loopEnd.pushes.any (·.accepted) = true := by rw [← sentAny, sent]
    simp only [if_true, ForwardState.adjust_ports, ForwardState.adjust_pushes]
    refine ⟨atMostOne, fun push mem => holds.shape push mem,
      fun push mem => eligible_of_not_skips (holds.eligible push mem), fun q => ?_, ?_, references⟩
    · rw [holds.peers q]
      simp [some]
    · rw [holds.peers ingress]
      simp [some, rxDroppedNoDestination_afterPushes]

/-! ## Counters only grow -/

/-- Counters compared one by one. -/
instance : Preorder PeerStatistics where
  le a b := a.txProtoSuccessful ≤ b.txProtoSuccessful ∧ a.txProtoDropped ≤ b.txProtoDropped ∧
    a.txTrafficSuccessful ≤ b.txTrafficSuccessful ∧ a.txTrafficDropped ≤ b.txTrafficDropped ∧
    a.rxDroppedNoDestination ≤ b.rxDroppedNoDestination
  le_refl _ := ⟨le_rfl, le_rfl, le_rfl, le_rfl, le_rfl⟩
  le_trans _ _ _ first second := ⟨first.1.trans second.1, first.2.1.trans second.2.1,
    first.2.2.1.trans second.2.2.1, first.2.2.2.1.trans second.2.2.2.1, first.2.2.2.2.trans second.2.2.2.2⟩

/-- Peer slots that differ from `ports` at most in their counters, none of
which has gone down. -/
def CountersGrown (ports after : SwitchPortID → Peer) : Prop :=
  ∀ q, ∃ statistics, after q = { ports q with statistics } ∧ (ports q).statistics ≤ statistics

theorem CountersGrown.trans {ports middle after : SwitchPortID → Peer} (first : CountersGrown ports middle)
    (second : CountersGrown middle after) : CountersGrown ports after := by
  intro q
  obtain ⟨counted, middleAt, grown⟩ := first q
  obtain ⟨recounted, afterAt, regrown⟩ := second q
  rw [middleAt] at afterAt regrown
  exact ⟨recounted, afterAt, grown.trans regrown⟩

end Pinecone
