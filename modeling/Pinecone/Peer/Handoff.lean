import Pinecone.Peer.Tasks

/-!
# No frame lost or written twice between the tasks

Frames reach a peer's writer four ways: `start` generates the peer's first
announcement, its announcer generates one when a `Broadcast` wakes it, and
producers push onto `protoOut` and `trafficOut`, which refuse a frame or evict
their oldest when full. The writer takes them from the channel (from a blocked
sender too, as Go's channels hand over), from the FIFO and from the LIFO, and
writes them. In every schedule, the frames written to a peer's connection,
those still waiting for it (in its channel, at a blocked send, in its queues)
and those its queues dropped are exactly the frames handed to it so far,
counted with multiplicity: none is lost unaccounted, none is written twice,
and none is made up.
-/

namespace Pinecone

/-- The frame an announcer blocked at its send holds. -/
def AnnouncerAt.pending : AnnouncerAt → List FrameID
  | .sending ann => [ann]
  | _ => []

@[simp] theorem AnnouncerAt.pending_notify (point : AnnouncerAt) : point.notify.pending = point.pending := by
  cases point <;> rfl

/-- The frame `start` blocked at its send holds. -/
def StarterAt.pending : StarterAt → List FrameID
  | .sending ann => [ann]
  | _ => []

@[simp] theorem StarterAt.pending_generating : StarterAt.generating.pending = [] := rfl

@[simp] theorem StarterAt.pending_sending (ann : FrameID) : (StarterAt.sending ann).pending = [ann] := rfl

@[simp] theorem StarterAt.pending_returned : StarterAt.returned.pending = [] := rfl

@[simp] theorem StarterAt.pending_generated (generated : Option FrameID) :
    (StarterAt.generated generated).pending = generated.toList := by
  cases generated <;> rfl

/-- The frames waiting for a peer's writer: the channel's buffer, the blocked
sends, and the two queues. -/
def PeerTasks.waiting (p : PeerTasks) : List FrameID :=
  p.announce ++ p.announcer.pending ++ p.starter.pending ++ p.protoOut ++ p.trafficOut

/-- The frames written, waiting, and dropped by the queues, which the tasks
only move. -/
def PeerTasks.handled (p : PeerTasks) : List FrameID := p.written ++ p.waiting ++ p.dropped

/-- The frames an event hands to peer `q` in state `s`: the announcement
`start` generates, the one its announcer generates on leaving `Wait`, or the
frame a producer pushes. -/
def TaskEvent.arrivals (s : Tasks) (q : Nat) : TaskEvent → List FrameID
  | .start peer signed =>
    if q = peer ∧ (s.peers peer).starter = .generating then (generateAnnouncement (s.peers peer).port signed).toList
    else []
  | .announcer peer signed =>
    if q = peer ∧ (s.peers peer).announcer = .woken then (generateAnnouncement (s.peers peer).port signed).toList
    else []
  | .pushProto peer frame | .pushTraffic peer frame => if q = peer then [frame] else []
  | .stop _ | .broadcast | .writer _ _ _ => []

/-- What a schedule hands to peer `q`, counting the events that happen. -/
def tasksArrivals (s : Tasks) (q : Nat) : List TaskEvent → List FrameID
  | [] => []
  | event :: rest =>
    match tasksStep s event with
    | some next => event.arrivals s q ++ tasksArrivals next q rest
    | none => tasksArrivals s q rest

/-- Each case the writer takes moves at most one frame from waiting to
written. -/
theorem PeerTasks.take_handled (p : PeerTasks) (first : Sender) (case : SelectCase) :
    (p.take first case).handled.Perm p.handled := by
  cases case <;> simp only [PeerTasks.take]
  case announce =>
    rcases announce : p.announce with _ | ⟨ann, rest⟩ <;>
      rcases releasing : p.release first with _ | ⟨pending, released⟩
    · rfl
    · rcases release_cases releasing with ⟨sending, rfl⟩ | ⟨sending, rfl⟩ <;>
        exact List.perm_iff_count.mpr fun frame => by
          simp [PeerTasks.handled, PeerTasks.waiting, AnnouncerAt.pending, announce, sending,
            List.count_append, List.count_cons] <;> omega
    · simp [PeerTasks.handled, PeerTasks.waiting, announce]
    · rcases release_cases releasing with ⟨sending, rfl⟩ | ⟨sending, rfl⟩ <;>
        exact List.perm_iff_count.mpr fun frame => by
          simp [PeerTasks.handled, PeerTasks.waiting, AnnouncerAt.pending, announce, sending,
            List.count_append, List.count_cons] <;> omega
  case protoOut =>
    split
    · exact List.perm_iff_count.mpr fun frame => by
        simp_all [PeerTasks.handled, PeerTasks.waiting, List.count_append, List.count_cons]
        omega
    · rfl
  case trafficOut =>
    split
    · rename_i frame last
      have whole := List.dropLast_append_getLast? frame last
      exact List.perm_iff_count.mpr fun other => by
        conv_rhs => rw [PeerTasks.handled, PeerTasks.waiting, ← whole]
        simp only [PeerTasks.handled, PeerTasks.waiting, List.count_append, List.count_singleton']
        omega
    · rfl
  all_goals rfl

/-- A push hands the peer one frame, which its queue keeps or drops. -/
theorem PeerTasks.pushProto_handled (p : PeerTasks) (frame : FrameID) :
    (p.pushProto frame).handled.Perm (p.handled ++ [frame]) := by
  unfold PeerTasks.pushProto
  split <;> exact List.perm_iff_count.mpr fun other => by
    simp [PeerTasks.handled, PeerTasks.waiting, List.count_append, List.count_cons] <;> omega

/-- A push onto the LIFO keeps the frame, or drops the oldest or itself. -/
theorem PeerTasks.pushTraffic_handled (p : PeerTasks) (frame : FrameID) :
    (p.pushTraffic frame).handled.Perm (p.handled ++ [frame]) := by
  unfold PeerTasks.pushTraffic
  split
  · exact List.perm_iff_count.mpr fun other => by
      simp [PeerTasks.handled, PeerTasks.waiting, List.count_append, List.count_cons]
  · rcases traffic : p.trafficOut with _ | ⟨oldest, rest⟩
    · simp [PeerTasks.handled, PeerTasks.waiting, traffic]
    · exact List.perm_iff_count.mpr fun other => by
        simp [PeerTasks.handled, PeerTasks.waiting, traffic, List.count_append, List.count_cons]
        omega

/-- A `start` step: the announcement it generates joins what waits, and its
send moves it into the channel. -/
theorem starterStep_handled {s next : Tasks} {peer : Nat} {signed : Option FrameID}
    (stepped : starterStep s peer signed = some next) (q : Nat) :
    (next.peers q).handled.Perm ((s.peers q).handled ++ TaskEvent.arrivals s q (.start peer signed)) := by
  by_cases same : q = peer
  · subst same
    rcases starterStep_cases stepped with ⟨generating, rfl⟩ | ⟨ann, sending, -, rfl⟩
    · exact List.perm_iff_count.mpr fun frame => by
        simp [TaskEvent.arrivals, generating, PeerTasks.handled, PeerTasks.waiting, List.count_append]
        omega
    · exact List.perm_iff_count.mpr fun frame => by
        simp [TaskEvent.arrivals, sending, PeerTasks.handled, PeerTasks.waiting, List.count_append, List.count_cons]
        omega
  · rcases starterStep_cases stepped with ⟨-, rfl⟩ | ⟨ann, -, -, rfl⟩ <;> simp [same, TaskEvent.arrivals]

/-- An announcer step on peer `q`'s own record: a woken announcer's generated
frame, if any, joins what waits, and its send moves it into the channel. -/
theorem announcerStep_handled {s next : Tasks} {peer : Nat} {signed : Option FrameID}
    (stepped : announcerStep s peer signed = some next) :
    (next.peers peer).handled.Perm
      ((s.peers peer).handled ++ if (s.peers peer).announcer = .woken then
        (generateAnnouncement (s.peers peer).port signed).toList else []) := by
  unfold announcerStep at stepped
  dsimp only at stepped
  split at stepped <;> rename_i point
  · split at stepped <;> cases stepped
    simp [point, PeerTasks.handled, PeerTasks.waiting, AnnouncerAt.pending]
  · cases stepped
    split <;> simp [point, PeerTasks.handled, PeerTasks.waiting, AnnouncerAt.pending]
  · split at stepped <;> cases stepped
    cases generateAnnouncement (s.peers peer).port signed with
    | none => simp [point, PeerTasks.handled, PeerTasks.waiting, AnnouncerAt.pending]
    | some ann =>
      exact List.perm_iff_count.mpr fun frame => by
        simp [point, PeerTasks.handled, PeerTasks.waiting, AnnouncerAt.pending, List.count_append, List.count_cons]
        omega
  · split at stepped <;> cases stepped
    simp [point, PeerTasks.handled, PeerTasks.waiting, AnnouncerAt.pending]
  · cases stepped
  · cases stepped

/-- An announcer step leaves the other peers' records as they were. -/
theorem announcerStep_other {s next : Tasks} {peer : Nat} {signed : Option FrameID}
    (stepped : announcerStep s peer signed = some next) {q : Nat} (other : q ≠ peer) : next.peers q = s.peers q := by
  unfold announcerStep at stepped
  dsimp only at stepped
  split at stepped
  · split at stepped <;> cases stepped
    simp [other]
  · cases stepped
    simp [other]
  · split at stepped <;> cases stepped
    simp [other]
  · split at stepped <;> cases stepped
    simp [other]
  · cases stepped
  · cases stepped

/-- The step lemma: what one event does to the frames of peer `q`. -/
theorem tasksStep_handled {s next : Tasks} {event : TaskEvent} (stepped : tasksStep s event = some next) (q : Nat) :
    (next.peers q).handled.Perm ((s.peers q).handled ++ event.arrivals s q) := by
  cases event with
  | stop peer =>
    cases stepped
    by_cases same : q = peer <;> simp [same, TaskEvent.arrivals, PeerTasks.handled, PeerTasks.waiting]
  | broadcast =>
    cases stepped
    simp [TaskEvent.arrivals, PeerTasks.handled, PeerTasks.waiting]
  | start peer signed => exact starterStep_handled stepped q
  | announcer peer signed =>
    change announcerStep s peer signed = some next at stepped
    by_cases same : q = peer
    · subst same
      simpa [TaskEvent.arrivals] using announcerStep_handled stepped
    · simp [TaskEvent.arrivals, same, announcerStep_other stepped same]
  | writer peer case first =>
    obtain ⟨p, written, rfl⟩ := Option.map_eq_some'.mp stepped
    by_cases same : q = peer
    · subst same
      unfold writerStep at written
      dsimp only at written
      split at written <;> cases written
      simpa [TaskEvent.arrivals, PeerTasks.handled, PeerTasks.waiting] using (s.peers q).take_handled first case
    · simp [same, TaskEvent.arrivals]
  | pushProto peer frame =>
    cases stepped
    by_cases same : q = peer
    · subst same
      simpa [TaskEvent.arrivals] using (s.peers q).pushProto_handled frame
    · simp [same, TaskEvent.arrivals]
  | pushTraffic peer frame =>
    cases stepped
    by_cases same : q = peer
    · subst same
      simpa [TaskEvent.arrivals] using (s.peers q).pushTraffic_handled frame
    · simp [same, TaskEvent.arrivals]

/-- The run lemma: through a schedule, the frames of peer `q` change only by
what the events that happen hand to it. -/
theorem tasksRun_handled (q : Nat) :
    ∀ (events : List TaskEvent) (s : Tasks),
      ((tasksRun s events).peers q).handled.Perm ((s.peers q).handled ++ tasksArrivals s q events)
  | [], s => by simp [tasksRun, tasksArrivals]
  | event :: rest, s => by
    cases stepped : tasksStep s event with
    | none => simpa [tasksRun, tasksArrivals, stepped] using tasksRun_handled q rest s
    | some next =>
      simp only [tasksRun, tasksArrivals, stepped, Option.getD_some]
      exact (tasksRun_handled q rest next).trans
        (((tasksStep_handled stepped q).append_right _).trans (by rw [List.append_assoc]))

/-- In every schedule of the peer tasks, whatever the channel's capacity and
the queues' sizes, the frames written to a peer's connection, those still
waiting for it (in its channel, at the blocked sends of its announcer and of
`start`, in its two queues) and those its queues refused or evicted are,
counted with multiplicity, exactly the announcements `start` and its announcer
generated and the frames pushed to its queues: no frame is lost unaccounted,
written twice or made up. -/
theorem tasks_write_each_handed_frame_once (ports : Nat → SwitchPortID) (capacity : Nat → Capacities)
    (events : List TaskEvent) (q : Nat) :
    let s := tasksRun (Tasks.initial ports capacity) events
    ((s.peers q).written ++ (s.peers q).announce ++ (s.peers q).announcer.pending ++ (s.peers q).starter.pending ++
        (s.peers q).protoOut ++ (s.peers q).trafficOut ++ (s.peers q).dropped).Perm
      (tasksArrivals (Tasks.initial ports capacity) q events) := by
  simpa [PeerTasks.handled, PeerTasks.waiting, Tasks.initial, AnnouncerAt.pending, StarterAt.pending,
    List.append_assoc] using tasksRun_handled q events (Tasks.initial ports capacity)

/-! ## At most one announcement per `Broadcast` -/

/-- Whether an announcer is woken and about to generate: the one pending
wake-up a `Broadcast` has given it. -/
def AnnouncerAt.wokenCount : AnnouncerAt → Nat
  | .woken => 1
  | _ => 0

/-- The announcements an event makes the announcer of `q` generate. -/
def TaskEvent.announcements (s : Tasks) (q : Nat) (event : TaskEvent) : Nat :=
  match event with
  | .announcer .. => (event.arrivals s q).length
  | _ => 0

/-- The announcements the announcer of `q` generates along a schedule,
counting the events that happen. -/
def announcementsGenerated (s : Tasks) (q : Nat) : List TaskEvent → Nat
  | [] => 0
  | event :: rest =>
    match tasksStep s event with
    | some next => event.announcements s q + announcementsGenerated next q rest
    | none => announcementsGenerated s q rest

theorem AnnouncerAt.wokenCount_le_one (point : AnnouncerAt) : point.wokenCount ≤ 1 := by
  cases point <;> simp [AnnouncerAt.wokenCount]

/-- The writer's cases leave the announcer's pending wake-up as it was. -/
theorem PeerTasks.take_wokenCount (p : PeerTasks) (first : Sender) (case : SelectCase) :
    (p.take first case).announcer.wokenCount = p.announcer.wokenCount := by
  rcases p.take_announcer first case with same | ⟨ann, sending, loop⟩
  · rw [same]
  · rw [sending, loop]
    rfl

/-- An announcer step uses up the announcer's wake-up, if it had one. -/
theorem announcerStep_wokenCount {s next : Tasks} {peer : Nat} {signed : Option FrameID}
    (stepped : announcerStep s peer signed = some next) : (next.peers peer).announcer.wokenCount = 0 := by
  unfold announcerStep at stepped
  dsimp only at stepped
  split at stepped
  · split at stepped <;> cases stepped
    simp [AnnouncerAt.wokenCount]
  · cases stepped
    split <;> simp [AnnouncerAt.wokenCount]
  · split at stepped <;> cases stepped
    simp only [Tasks.setPeer_peers, if_true]
    split <;> simp [AnnouncerAt.wokenCount]
  · split at stepped <;> cases stepped
    simp [AnnouncerAt.wokenCount]
  · cases stepped
  · cases stepped

/-- The step lemma: only a `Broadcast` gives an announcer a wake-up, and each
announcement generated uses one up. -/
theorem tasksStep_announcements {s next : Tasks} {event : TaskEvent} (stepped : tasksStep s event = some next)
    (q : Nat) :
    event.announcements s q + (next.peers q).announcer.wokenCount ≤
      (if event = .broadcast then 1 else 0) + (s.peers q).announcer.wokenCount := by
  cases event with
  | stop peer =>
    cases stepped
    by_cases same : q = peer <;> simp [same, TaskEvent.announcements]
  | broadcast =>
    cases stepped
    have atMostOne := AnnouncerAt.wokenCount_le_one (s.peers q).announcer.notify
    simp only [TaskEvent.announcements, if_true]
    omega
  | start peer signed =>
    rcases starterStep_cases stepped with ⟨-, rfl⟩ | ⟨ann, -, -, rfl⟩ <;>
      by_cases same : q = peer <;> simp [same, TaskEvent.announcements]
  | announcer peer signed =>
    change announcerStep s peer signed = some next at stepped
    by_cases same : q = peer
    · subst same
      simp only [TaskEvent.announcements, TaskEvent.arrivals, true_and, announcerStep_wokenCount stepped,
        reduceCtorEq, if_false, Nat.add_zero, Nat.zero_add]
      split
      · rename_i woken
        rw [woken]
        cases generateAnnouncement (s.peers q).port signed <;> simp [AnnouncerAt.wokenCount]
      · simp
    · simp [TaskEvent.announcements, TaskEvent.arrivals, same, announcerStep_other stepped same]
  | writer peer case first =>
    obtain ⟨p, written, rfl⟩ := Option.map_eq_some'.mp stepped
    by_cases same : q = peer
    · subst same
      unfold writerStep at written
      dsimp only at written
      split at written <;> cases written
      simp [TaskEvent.announcements, PeerTasks.take_wokenCount]
    · simp [same, TaskEvent.announcements]
  | pushProto peer frame =>
    obtain ⟨protoOut, dropped, pushed⟩ := (s.peers peer).pushProto_eq frame
    cases stepped
    by_cases same : q = peer <;> simp [same, pushed, TaskEvent.announcements]
  | pushTraffic peer frame =>
    obtain ⟨trafficOut, dropped, pushed⟩ := (s.peers peer).pushTraffic_eq frame
    cases stepped
    by_cases same : q = peer <;> simp [same, pushed, TaskEvent.announcements]

/-- The run lemma: the announcements generated and the wake-up pending at the
end are no more than the `Broadcast`s and the wake-up pending at the start. -/
theorem announcementsGenerated_le (q : Nat) :
    ∀ (events : List TaskEvent) (s : Tasks),
      announcementsGenerated s q events + ((tasksRun s events).peers q).announcer.wokenCount ≤
        events.count .broadcast + (s.peers q).announcer.wokenCount
  | [], s => by simp [announcementsGenerated, tasksRun]
  | event :: rest, s => by
    cases stepped : tasksStep s event with
    | none =>
      have later := announcementsGenerated_le q rest s
      simp only [announcementsGenerated, tasksRun, stepped, Option.getD_none, List.count_cons]
      omega
    | some next =>
      have step := tasksStep_announcements stepped q
      have later := announcementsGenerated_le q rest next
      simp only [announcementsGenerated, tasksRun, stepped, Option.getD_some, List.count_cons, beq_iff_eq]
      omega

/-- In every schedule of the peer tasks from their start, whatever the channel
capacities and whatever signing the root announcement gives, the announcer of
every peer generates at most as many announcements as there were `Broadcast`s
of `advertise`: each one follows a `Wait` that a `Broadcast` of its own ended. -/
theorem announcer_generates_at_most_one_per_broadcast (ports : Nat → SwitchPortID) (capacity : Nat → Capacities)
    (events : List TaskEvent) (q : Nat) :
    announcementsGenerated (Tasks.initial ports capacity) q events ≤ events.count .broadcast := by
  have bound := announcementsGenerated_le q events (Tasks.initial ports capacity)
  have start : ((Tasks.initial ports capacity).peers q).announcer.wokenCount = 0 := rfl
  omega

/-! ## The writer alone drains what waits -/

end Pinecone
