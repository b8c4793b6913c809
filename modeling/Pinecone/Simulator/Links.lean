import Mathlib.Data.List.Nodup
import Mathlib.Data.List.Pairwise

/-!
# The simulator's wires: `ConnectNodes`, `DisconnectNodes`, `DisconnectAllPeers`

The simulator keeps the connection it made for each linked pair of nodes at
`sim.wires[a][b]`. `ConnectNodes(a, b)` checks the pair under read locks,
makes a connection (a TCP dial, or a `net.Pipe`), hands it to the routers and
registers it at `wires[a][b]` under the write lock; `DisconnectNodes` reads the
wire in either direction, then clears that entry and closes it;
`DisconnectAllPeers` closes and clears every wire of a node.

A connection is a number, in the order the simulator made them, and the state
records the `Close` calls in order. The routers' side of each connection,
`CalculateShortestPaths` and the log play no part.

One call at a time, the calls keep the registry consistent: no wire from a
node to itself, at most one wire per pair of nodes, and every registered
connection open and held by one wire; they then act on the graph of linked
pairs as their names say. The checks and the writes of `ConnectNodes` and of
`DisconnectNodes` are under two different lock acquisitions, though. The
concurrent model lets the calls interleave there: as long as no call starts
on a pair of nodes that another call in flight is working on, the registry
stays consistent; two calls on one pair can both pass their checks, and then
the registry holds two wires for the pair or loses a connection it never
closes.
-/

namespace Pinecone

/-- A connection the simulator made, by the order it made them in. -/
abbrev ConnID := Nat

/-- Whether `x, y` and `a, b` are the same pair of nodes, in either order. -/
def SamePair (x y a b : String) : Prop := (x = a ∧ y = b) ∨ (x = b ∧ y = a)

instance (x y a b : String) : Decidable (SamePair x y a b) :=
  inferInstanceAs (Decidable ((_ ∧ _) ∨ (_ ∧ _)))

theorem samePair_comm {x y a b : String} : SamePair x y a b ↔ SamePair a b x y := by
  unfold SamePair
  constructor <;> rintro (⟨rfl, rfl⟩ | ⟨rfl, rfl⟩) <;> simp

theorem samePair_refl (x y : String) : SamePair x y x y := .inl ⟨rfl, rfl⟩

theorem samePair_trans {x y a b c d : String} (first : SamePair x y a b) (second : SamePair a b c d) :
    SamePair x y c d := by
  unfold SamePair at *
  rcases first with ⟨rfl, rfl⟩ | ⟨rfl, rfl⟩ <;> rcases second with ⟨rfl, rfl⟩ | ⟨rfl, rfl⟩ <;> simp

/-- A non-nil entry `sim.wires[node][peer] = conn`. -/
structure Wire where
  node : String
  peer : String
  conn : ConnID
  deriving DecidableEq, Repr

/-- Two wires for different pairs of nodes, holding different connections. -/
def Wire.Separate (wire other : Wire) : Prop :=
  ¬SamePair wire.node wire.peer other.node other.peer ∧ wire.conn ≠ other.conn

theorem Wire.separate_symm : Symmetric Wire.Separate :=
  fun _ _ separate => ⟨fun same => separate.1 (samePair_comm.1 same), separate.2.symm⟩

/-- `sim.wires[a][b]`, with `nil` as `none`. -/
def lookupWire (wires : List Wire) (a b : String) : Option ConnID :=
  (wires.find? fun wire => wire.node = a ∧ wire.peer = b).map (·.conn)

/-- `sim.wires[a][b] = nil`. -/
def clearWire (wires : List Wire) (a b : String) : List Wire :=
  wires.filter fun wire => ¬(wire.node = a ∧ wire.peer = b)

/-- The simulator's state as `links.go` reads and writes it. -/
structure Simulator where
  /-- The names `sim.nodes` holds. -/
  nodes : List String
  /-- `sim.sockets`: TCP connections rather than pipes. -/
  sockets : Bool
  /-- The non-nil entries of `sim.wires`. -/
  wires : List Wire
  /-- How many connections have been made. -/
  opened : Nat
  /-- The connections closed, in the order of the `Close` calls. -/
  closed : List ConnID
  deriving DecidableEq, Repr

/-- A simulator with its nodes and no wires. -/
def Simulator.initial (nodes : List String) (sockets : Bool) : Simulator := ⟨nodes, sockets, [], 0, []⟩

/-- What `net.DialTCP` and `nb.Connect` do on the sockets path. -/
inductive SocketOutcome where
  | connected
  | dialFailed (err : String)
  | connectFailed (err : String)
  deriving DecidableEq, Repr

/-- The checks of `ConnectNodes`, under the read locks of `nodesMutex` and
`wiresMutex`. -/
def Simulator.connectCheck (sim : Simulator) (a b : String) : Except String Unit :=
  if a = b then .error "invalid node pair, a node cannot peer with iself"
  else if a ∉ sim.nodes ∨ b ∉ sim.nodes then
    .error "invalid node pair, one or both of the nodes don't exist"
  else if (lookupWire sim.wires a b).isSome ∨ (lookupWire sim.wires b a).isSome then
    .error "already connected"
  else .ok ()

/-- `ConnectNodes` up to `register`: the checks, then the connection. On the
sockets path the dial or `nb.Connect` may fail, and a connection dialed before
`nb.Connect` fails is returned with the error, neither registered nor closed;
on the pipe path the two `Connect` calls run in goroutines whose errors are
dropped. -/
def Simulator.connectDial (sim : Simulator) (a b : String) (outcome : SocketOutcome) :
    Simulator × Except String ConnID :=
  match sim.connectCheck a b with
  | .error err => (sim, .error err)
  | .ok () =>
    let dialed := { sim with opened := sim.opened + 1 }
    if sim.sockets then
      match outcome with
      | .connected => (dialed, .ok sim.opened)
      | .dialFailed err => (sim, .error ("net.Dial: " ++ err))
      | .connectFailed err => (dialed, .error ("nb.AuthenticatedConnect: " ++ err))
    else (dialed, .ok sim.opened)

/-- `register`: `sim.wires[a][b] = conn`, under the write lock. -/
def Simulator.register (sim : Simulator) (a b : String) (conn : ConnID) : Simulator :=
  { sim with wires := clearWire sim.wires a b ++ [⟨a, b, conn⟩] }

/-- `ConnectNodes(a, b)`. -/
def Simulator.connectNodes (sim : Simulator) (a b : String) (outcome : SocketOutcome) :
    Simulator × Except String Unit :=
  match sim.connectDial a b outcome with
  | (dialed, .ok conn) => (dialed.register a b conn, .ok ())
  | (dialed, .error err) => (dialed, .error err)

/-- The read of `DisconnectNodes`, under the read lock: the wire at
`wires[a][b]`, else the one at `wires[b][a]`, with the indices it sits at. -/
def Simulator.disconnectRead (sim : Simulator) (a b : String) : Except String (String × String × ConnID) :=
  match lookupWire sim.wires a b, lookupWire sim.wires b a with
  | some wire, _ => .ok (a, b, wire)
  | none, some wire => .ok (b, a, wire)
  | none, none => .error "nodes not connected"

/-- The rest of `DisconnectNodes`: `sim.wires[first][second] = nil` under the
write lock, then `wire.Close()`. -/
def Simulator.clearAndClose (sim : Simulator) (first second : String) (wire : ConnID) : Simulator :=
  { sim with wires := clearWire sim.wires first second, closed := sim.closed ++ [wire] }

/-- `DisconnectNodes(a, b)`, returning what `Close` returns. -/
def Simulator.disconnectNodes (sim : Simulator) (a b : String) (closing : Except String Unit) :
    Simulator × Except String Unit :=
  match sim.disconnectRead a b with
  | .ok (first, second, wire) => (sim.clearAndClose first second wire, closing)
  | .error err => (sim, .error err)

/-- `DisconnectAllPeers(node)`, under the write lock: the node's own wires are
closed and cleared, then every wire of another node to it. -/
def Simulator.disconnectAllPeers (sim : Simulator) (node : String) : Simulator :=
  let outgoing := sim.wires.filter (·.node = node)
  let others := sim.wires.filter (·.node ≠ node)
  let incoming := others.filter (·.peer = node)
  { sim with wires := others.filter (·.peer ≠ node),
             closed := sim.closed ++ outgoing.map (·.conn) ++ incoming.map (·.conn) }

/-- A call into `links.go`, with what the environment answers. -/
inductive LinkCall where
  | connectNodes (a b : String) (outcome : SocketOutcome)
  | disconnectNodes (a b : String) (closing : Except String Unit)
  | disconnectAllPeers (node : String)

/-- The state after a call. -/
def Simulator.call (sim : Simulator) : LinkCall → Simulator
  | .connectNodes a b outcome => (sim.connectNodes a b outcome).1
  | .disconnectNodes a b closing => (sim.disconnectNodes a b closing).1
  | .disconnectAllPeers node => sim.disconnectAllPeers node

/-- Calls made one after another. -/
def Simulator.run (sim : Simulator) : List LinkCall → Simulator
  | [] => sim
  | call :: rest => (sim.call call).run rest

/-! ## Reading the registry -/

theorem lookupWire_eq_none {wires : List Wire} {a b : String} :
    lookupWire wires a b = none ↔ ∀ wire ∈ wires, ¬(wire.node = a ∧ wire.peer = b) := by
  simp [lookupWire, List.find?_eq_none]

theorem mem_of_lookupWire_eq_some {wires : List Wire} {a b : String} {conn : ConnID}
    (found : lookupWire wires a b = some conn) : ⟨a, b, conn⟩ ∈ wires := by
  simp only [lookupWire, Option.map_eq_some'] at found
  obtain ⟨wire, found, rfl⟩ := found
  have atKey := List.find?_some found
  simp only [decide_eq_true_eq] at atKey
  obtain ⟨rfl, rfl⟩ := atKey
  exact List.mem_of_find?_eq_some found

theorem mem_clearWire {wires : List Wire} {a b : String} {wire : Wire} :
    wire ∈ clearWire wires a b ↔ wire ∈ wires ∧ ¬(wire.node = a ∧ wire.peer = b) := by
  simp only [clearWire, List.mem_filter, decide_eq_true_eq]

theorem clearWire_sublist (wires : List Wire) (a b : String) : (clearWire wires a b).Sublist wires :=
  List.filter_sublist _

theorem lookupWire_append_of_absent {front : List Wire} (back : List Wire) {a b : String}
    (absent : ∀ wire ∈ front, ¬(wire.node = a ∧ wire.peer = b)) :
    lookupWire (front ++ back) a b = lookupWire back a b := by
  have missing : front.find? (fun wire => decide (wire.node = a ∧ wire.peer = b)) = none :=
    List.find?_eq_none.2 fun wire mem => by simpa using absent wire mem
  simp only [lookupWire, List.find?_append, missing, Option.none_or]

theorem clearWire_of_absent {wires : List Wire} {a b : String}
    (absent : ∀ wire ∈ wires, ¬(wire.node = a ∧ wire.peer = b)) : clearWire wires a b = wires :=
  List.filter_eq_self.2 fun wire mem => decide_eq_true (absent wire mem)

theorem clearWire_of_unlinked {wires : List Wire} {a b : String}
    (unlinked : ∀ wire ∈ wires, ¬SamePair wire.node wire.peer a b) : clearWire wires a b = wires :=
  clearWire_of_absent fun wire mem same => unlinked wire mem (.inl same)

/-- The checks pass exactly for two different nodes of the simulator with no
wire between them. -/
theorem connectCheck_eq_ok {sim : Simulator} {a b : String} :
    sim.connectCheck a b = .ok () ↔
      a ≠ b ∧ a ∈ sim.nodes ∧ b ∈ sim.nodes ∧ ∀ wire ∈ sim.wires, ¬SamePair wire.node wire.peer a b := by
  have unlinked : (∀ wire ∈ sim.wires, ¬SamePair wire.node wire.peer a b) ↔
      lookupWire sim.wires a b = none ∧ lookupWire sim.wires b a = none := by
    simp only [lookupWire_eq_none, SamePair, not_or, ← forall_and]
  rw [unlinked]
  unfold Simulator.connectCheck
  split_ifs <;> simp_all [Option.isSome_iff_ne_none] <;> tauto

/-- A connection is handed on only after the checks passed, and it is the next
one made. -/
theorem connectDial_eq_ok {sim dialed : Simulator} {a b : String} {outcome : SocketOutcome} {conn : ConnID}
    (dialResult : sim.connectDial a b outcome = (dialed, .ok conn)) :
    sim.connectCheck a b = .ok () ∧ dialed = { sim with opened := sim.opened + 1 } ∧ conn = sim.opened := by
  unfold Simulator.connectDial at dialResult
  split at dialResult
  · cases dialResult
  · dsimp only at dialResult
    split_ifs at dialResult <;> [cases outcome; skip] <;> cases dialResult <;> exact ⟨‹_›, rfl, rfl⟩

/-- A failed `ConnectNodes` changes nothing, or leaves one more connection made. -/
theorem connectDial_eq_error {sim dialed : Simulator} {a b : String} {outcome : SocketOutcome} {err : String}
    (dialResult : sim.connectDial a b outcome = (dialed, .error err)) :
    dialed = sim ∨ dialed = { sim with opened := sim.opened + 1 } := by
  unfold Simulator.connectDial at dialResult
  split at dialResult
  · cases dialResult
    exact .inl rfl
  · dsimp only at dialResult
    split_ifs at dialResult <;> [cases outcome; skip] <;> cases dialResult
    exacts [.inl rfl, .inr rfl]

/-- The read finds a registered wire of the pair it was asked about. -/
theorem disconnectRead_eq_ok {sim : Simulator} {a b first second : String} {wire : ConnID}
    (read : sim.disconnectRead a b = .ok (first, second, wire)) :
    ⟨first, second, wire⟩ ∈ sim.wires ∧ SamePair first second a b := by
  unfold Simulator.disconnectRead at read
  split at read <;> cases read
  · exact ⟨mem_of_lookupWire_eq_some ‹_›, samePair_refl a b⟩
  · exact ⟨mem_of_lookupWire_eq_some ‹_›, .inr ⟨rfl, rfl⟩⟩

/-- The read fails exactly when no wire links the pair. -/
theorem disconnectRead_eq_error {sim : Simulator} {a b : String} {err : String}
    (read : sim.disconnectRead a b = .error err) :
    ∀ wire ∈ sim.wires, ¬SamePair wire.node wire.peer a b := by
  unfold Simulator.disconnectRead at read
  split at read <;> cases read
  rintro wire mem (same | same)
  exacts [lookupWire_eq_none.1 ‹_› wire mem same, lookupWire_eq_none.1 ‹_› wire mem same]

/-! ## A consistent registry -/

/-- The registry a run of the simulator should hold. -/
structure Simulator.Consistent (sim : Simulator) : Prop where
  noSelfWire : ∀ wire ∈ sim.wires, wire.node ≠ wire.peer
  separate : sim.wires.Pairwise Wire.Separate
  registeredOpened : ∀ wire ∈ sim.wires, wire.conn < sim.opened
  registeredOpen : ∀ wire ∈ sim.wires, wire.conn ∉ sim.closed
  closedOpened : ∀ conn ∈ sim.closed, conn < sim.opened
  closedOnce : sim.closed.Nodup

theorem consistent_initial (nodes : List String) (sockets : Bool) :
    (Simulator.initial nodes sockets).Consistent :=
  by refine ⟨?_, ?_, ?_, ?_, ?_, ?_⟩ <;> simp [Simulator.initial]

section Consistent

variable {sim : Simulator} (consistent : sim.Consistent)
include consistent

/-- Two registered wires with one connection are one wire. -/
theorem Simulator.Consistent.eq_of_conn_eq {wire other : Wire} (mem : wire ∈ sim.wires)
    (otherMem : other ∈ sim.wires) (same : wire.conn = other.conn) : wire = other := by
  by_contra differ
  exact (consistent.separate.forall Wire.separate_symm mem otherMem differ).2 same

theorem Simulator.Consistent.dialed : ({ sim with opened := sim.opened + 1 } : Simulator).Consistent :=
  ⟨consistent.noSelfWire, consistent.separate,
    fun wire mem => Nat.lt_succ_of_lt (consistent.registeredOpened wire mem), consistent.registeredOpen,
    fun conn mem => Nat.lt_succ_of_lt (consistent.closedOpened conn mem), consistent.closedOnce⟩

/-- Registering a fresh connection for two different, unlinked nodes. -/
theorem Simulator.Consistent.register {a b : String} {conn : ConnID} (distinct : a ≠ b)
    (unlinked : ∀ wire ∈ sim.wires, ¬SamePair wire.node wire.peer a b) (opened : conn < sim.opened)
    (unclosed : conn ∉ sim.closed) (unregistered : ∀ wire ∈ sim.wires, wire.conn ≠ conn) :
    (sim.register a b conn).Consistent := by
  have wires : (sim.register a b conn).wires = sim.wires ++ [⟨a, b, conn⟩] := by
    simp [Simulator.register, clearWire_of_unlinked unlinked]
  refine ⟨?_, ?_, ?_, ?_, consistent.closedOpened, consistent.closedOnce⟩ <;>
    simp only [wires, List.forall_mem_append, List.forall_mem_singleton]
  · exact ⟨consistent.noSelfWire, distinct⟩
  · exact List.pairwise_append.2 ⟨consistent.separate, List.pairwise_singleton _ _,
      fun wire mem _ new => by
        rw [List.mem_singleton.1 new]
        exact ⟨unlinked wire mem, unregistered wire mem⟩⟩
  · exact ⟨consistent.registeredOpened, opened⟩
  · exact ⟨consistent.registeredOpen, unclosed⟩

/-- Registered wires are all different. -/
theorem Simulator.Consistent.nodup : sim.wires.Nodup :=
  consistent.separate.imp @fun _ other separate same => separate.1 (by subst same; exact samePair_refl _ _)

/-- Closing registered wires and keeping some of the others. -/
theorem Simulator.Consistent.closing (kept cleared : List Wire) (keptSub : kept.Sublist sim.wires)
    (clearedIn : ∀ wire ∈ cleared, wire ∈ sim.wires) (clearedOnce : cleared.Nodup)
    (apart : ∀ wire ∈ kept, wire ∉ cleared) :
    ({ sim with wires := kept, closed := sim.closed ++ cleared.map (·.conn) } : Simulator).Consistent := by
  have conns : (cleared.map (·.conn)).Nodup :=
    clearedOnce.map_on fun wire mem other otherMem same =>
      consistent.eq_of_conn_eq (clearedIn wire mem) (clearedIn other otherMem) same
  refine ⟨fun wire mem => consistent.noSelfWire wire (keptSub.subset mem),
    consistent.separate.sublist keptSub,
    fun wire mem => consistent.registeredOpened wire (keptSub.subset mem), ?_, ?_, ?_⟩
  · intro wire mem closed
    simp only [List.mem_append, List.mem_map] at closed
    rcases closed with closed | ⟨other, otherMem, same⟩
    · exact consistent.registeredOpen wire (keptSub.subset mem) closed
    · have := consistent.eq_of_conn_eq (clearedIn other otherMem) (keptSub.subset mem) same
      exact apart wire mem (this ▸ otherMem)
  · simp only [List.mem_append, List.mem_map]
    rintro conn (closed | ⟨wire, mem, rfl⟩)
    exacts [consistent.closedOpened conn closed, consistent.registeredOpened wire (clearedIn wire mem)]
  · refine List.nodup_append.2 ⟨consistent.closedOnce, conns, fun conn closed cleared => ?_⟩
    obtain ⟨wire, mem, rfl⟩ := List.mem_map.1 cleared
    exact consistent.registeredOpen wire (clearedIn wire mem) closed

theorem Simulator.Consistent.clearAndClose {first second : String} {wire : ConnID}
    (registered : ⟨first, second, wire⟩ ∈ sim.wires) : (sim.clearAndClose first second wire).Consistent := by
  have := consistent.closing _ [⟨first, second, wire⟩] (clearWire_sublist sim.wires first second)
    (by simpa using registered) (List.nodup_singleton _) fun other kept cleared => by
      rw [List.mem_singleton] at cleared
      subst cleared
      exact (mem_clearWire.1 kept).2 ⟨rfl, rfl⟩
  simpa [Simulator.clearAndClose] using this

theorem Simulator.Consistent.disconnectAllPeers (node : String) :
    (sim.disconnectAllPeers node).Consistent := by
  have once : (sim.wires.filter (·.node = node) ++
      (sim.wires.filter (·.node ≠ node)).filter (·.peer = node)).Nodup :=
    List.nodup_append.2 ⟨consistent.nodup.filter _, (consistent.nodup.filter _).filter _,
      fun wire outgoing incoming => by simp_all⟩
  have := consistent.closing ((sim.wires.filter (·.node ≠ node)).filter (·.peer ≠ node)) _
    ((List.filter_sublist _).trans (List.filter_sublist _))
    (fun wire mem => (List.mem_append.1 mem).elim (fun mem => (List.mem_filter.1 mem).1)
      fun mem => (List.mem_filter.1 (List.mem_filter.1 mem).1).1) once (by simp +contextual)
  simpa [Simulator.disconnectAllPeers] using this

end Consistent

/-! ## The graph of linked nodes -/

/-- Whether the registry links `a` and `b`: the graph of linked pairs the
calls are meant to edit. -/
def Simulator.linked (sim : Simulator) (a b : String) : Bool :=
  sim.wires.any fun wire => SamePair wire.node wire.peer a b

theorem linked_eq_false {sim : Simulator} {a b : String} :
    sim.linked a b = false ↔ ∀ wire ∈ sim.wires, ¬SamePair wire.node wire.peer a b := by
  simp [Simulator.linked]

theorem linked_register {sim : Simulator} {a b : String} (conn : ConnID)
    (unlinked : ∀ wire ∈ sim.wires, ¬SamePair wire.node wire.peer a b) (x y : String) :
    (sim.register a b conn).linked x y = (sim.linked x y || decide (SamePair x y a b)) := by
  simp only [Simulator.linked, Simulator.register, clearWire_of_unlinked unlinked, List.any_append,
    List.any_cons, List.any_nil, Bool.or_false]
  exact congrArg _ (decide_eq_decide.2 samePair_comm)

/-- `ConnectNodes` succeeds exactly for two different, unlinked nodes of the
simulator, when the sockets path connects. -/
theorem connectNodes_isOk (sim : Simulator) (a b : String) (outcome : SocketOutcome) :
    (sim.connectNodes a b outcome).2.isOk = true ↔
      (a ≠ b ∧ a ∈ sim.nodes ∧ b ∈ sim.nodes ∧ sim.linked a b = false) ∧
        (sim.sockets = true → outcome = .connected) := by
  rw [linked_eq_false, ← connectCheck_eq_ok]
  unfold Simulator.connectNodes Simulator.connectDial
  cases checked : sim.connectCheck a b with
  | error err => simp [Except.isOk, Except.toBool]
  | ok _ =>
    dsimp only
    split_ifs with sockets <;> [cases outcome; skip] <;> simp [sockets, Except.isOk, Except.toBool]

theorem linked_connectNodes (sim : Simulator) (a b : String) (outcome : SocketOutcome) (x y : String) :
    (sim.connectNodes a b outcome).1.linked x y =
      (sim.linked x y || (sim.connectNodes a b outcome).2.isOk && decide (SamePair x y a b)) := by
  unfold Simulator.connectNodes
  rcases dialResult : sim.connectDial a b outcome with ⟨dialed, err | conn⟩
  · rcases connectDial_eq_error dialResult with rfl | rfl <;>
      simp [Except.isOk, Except.toBool, Simulator.linked]
  · obtain ⟨checked, rfl, rfl⟩ := connectDial_eq_ok dialResult
    exact linked_register _ (connectCheck_eq_ok.1 checked).2.2.2 x y

theorem mem_disconnectAllPeers_wires {sim : Simulator} {node : String} {wire : Wire} :
    wire ∈ (sim.disconnectAllPeers node).wires ↔ wire ∈ sim.wires ∧ wire.node ≠ node ∧ wire.peer ≠ node := by
  simp only [Simulator.disconnectAllPeers, List.mem_filter, decide_eq_true_eq, and_assoc]

theorem mem_disconnectAllPeers_closed {sim : Simulator} {node : String} {conn : ConnID} :
    conn ∈ (sim.disconnectAllPeers node).closed ↔
      conn ∈ sim.closed ∨ ∃ wire ∈ sim.wires, (wire.node = node ∨ wire.peer = node) ∧ wire.conn = conn := by
  simp only [Simulator.disconnectAllPeers, List.mem_append, List.mem_map, List.mem_filter, decide_eq_true_eq,
    or_assoc]
  constructor
  · rintro (closed | ⟨wire, ⟨mem, node⟩, rfl⟩ | ⟨wire, ⟨⟨mem, -⟩, peer⟩, rfl⟩)
    exacts [.inl closed, .inr ⟨wire, mem, .inl node, rfl⟩, .inr ⟨wire, mem, .inr peer, rfl⟩]
  · rintro (closed | ⟨wire, mem, node | peer, rfl⟩)
    · exact .inl closed
    · exact .inr (.inl ⟨wire, ⟨mem, node⟩, rfl⟩)
    · by_cases atNode : wire.node = node
      exacts [.inr (.inl ⟨wire, ⟨mem, atNode⟩, rfl⟩), .inr (.inr ⟨wire, ⟨⟨mem, atNode⟩, peer⟩, rfl⟩)]

theorem linked_disconnectAllPeers (sim : Simulator) (node x y : String) :
    (sim.disconnectAllPeers node).linked x y = (sim.linked x y && decide (x ≠ node) && decide (y ≠ node)) := by
  rw [Bool.eq_iff_iff]
  simp only [Simulator.linked, List.any_eq_true, mem_disconnectAllPeers_wires, Bool.and_eq_true, decide_eq_true_eq]
  constructor
  · rintro ⟨wire, ⟨mem, notNode, notPeer⟩, same⟩
    rcases same with ⟨rfl, rfl⟩ | ⟨rfl, rfl⟩
    exacts [⟨⟨⟨wire, mem, .inl ⟨rfl, rfl⟩⟩, notNode⟩, notPeer⟩, ⟨⟨⟨wire, mem, .inr ⟨rfl, rfl⟩⟩, notPeer⟩, notNode⟩]
  · rintro ⟨⟨⟨wire, mem, same⟩, notX⟩, notY⟩
    refine ⟨wire, ⟨mem, ?_, ?_⟩, same⟩ <;> rcases same with ⟨rfl, rfl⟩ | ⟨rfl, rfl⟩ <;> assumption

/-- Two registered wires of one pair of nodes are one wire. -/
theorem Simulator.Consistent.eq_of_samePair {sim : Simulator} (consistent : sim.Consistent)
    {wire other : Wire} (mem : wire ∈ sim.wires) (otherMem : other ∈ sim.wires)
    (same : SamePair wire.node wire.peer other.node other.peer) : wire = other := by
  by_contra differ
  exact (consistent.separate.forall Wire.separate_symm mem otherMem differ).1 same

theorem Simulator.Consistent.linked_disconnectNodes {sim : Simulator} (consistent : sim.Consistent)
    (a b : String) (closing : Except String Unit) (x y : String) :
    (sim.disconnectNodes a b closing).1.linked x y = (sim.linked x y && !decide (SamePair x y a b)) := by
  unfold Simulator.disconnectNodes
  split
  · rename_i first second wire read
    obtain ⟨registered, readPair⟩ := disconnectRead_eq_ok read
    rw [Bool.eq_iff_iff]
    simp only [Simulator.linked, Simulator.clearAndClose, Bool.and_eq_true, Bool.not_eq_true',
      decide_eq_false_iff_not, List.any_eq_true, mem_clearWire, decide_eq_true_eq]
    constructor
    · rintro ⟨other, ⟨mem, notRead⟩, same⟩
      refine ⟨⟨other, mem, same⟩, fun pair => notRead ?_⟩
      have isRead := consistent.eq_of_samePair mem registered
        (samePair_trans same (samePair_trans pair (samePair_comm.1 readPair)))
      rw [isRead]
      exact ⟨rfl, rfl⟩
    · rintro ⟨⟨other, mem, same⟩, notPair⟩
      refine ⟨other, ⟨mem, fun ⟨node, peer⟩ => notPair ?_⟩, same⟩
      rw [← node, ← peer] at readPair
      exact samePair_trans (samePair_comm.1 same) readPair
  · rename_i err read
    have unlinked := disconnectRead_eq_error read
    by_cases pair : SamePair x y a b
    · simp only [pair, decide_True, Bool.not_true, Bool.and_false]
      exact linked_eq_false.2 fun wire mem same => unlinked wire mem (samePair_trans same pair)
    · simp [pair]


/-- Under a consistent registry the calls edit the graph of linked pairs:
`ConnectNodes` succeeds exactly for two different, unlinked nodes when the
sockets path connects, and adds their pair; `DisconnectNodes` removes its pair;
`DisconnectAllPeers` removes every pair of its node. -/
theorem links_calls_edit_link_graph (sim : Simulator) (consistent : sim.Consistent) (a b node : String)
    (outcome : SocketOutcome) (closing : Except String Unit) :
    ((sim.connectNodes a b outcome).2.isOk = true ↔
        (a ≠ b ∧ a ∈ sim.nodes ∧ b ∈ sim.nodes ∧ sim.linked a b = false) ∧
          (sim.sockets = true → outcome = .connected)) ∧
      (∀ x y, (sim.connectNodes a b outcome).1.linked x y =
        (sim.linked x y || (sim.connectNodes a b outcome).2.isOk && decide (SamePair x y a b))) ∧
      (∀ x y, (sim.disconnectNodes a b closing).1.linked x y =
        (sim.linked x y && !decide (SamePair x y a b))) ∧
      (∀ x y, (sim.disconnectAllPeers node).linked x y =
        (sim.linked x y && decide (x ≠ node) && decide (y ≠ node))) :=
  ⟨connectNodes_isOk sim a b outcome, linked_connectNodes sim a b outcome,
    consistent.linked_disconnectNodes a b closing, linked_disconnectAllPeers sim node⟩

theorem link_graph_of_two_nodes :
    (Simulator.initial ["a", "b"] false).Consistent ∧
      ((((Simulator.initial ["a", "b"] false).connectNodes "a" "b" .connected).2.isOk = true ↔
          ("a" ≠ "b" ∧ "a" ∈ (Simulator.initial ["a", "b"] false).nodes ∧
            "b" ∈ (Simulator.initial ["a", "b"] false).nodes ∧
            (Simulator.initial ["a", "b"] false).linked "a" "b" = false) ∧
          ((Simulator.initial ["a", "b"] false).sockets = true → SocketOutcome.connected = .connected)) ∧
        (∀ x y, ((Simulator.initial ["a", "b"] false).connectNodes "a" "b" .connected).1.linked x y =
          ((Simulator.initial ["a", "b"] false).linked x y ||
            ((Simulator.initial ["a", "b"] false).connectNodes "a" "b" .connected).2.isOk &&
              decide (SamePair x y "a" "b"))) ∧
        (∀ x y, ((Simulator.initial ["a", "b"] false).disconnectNodes "a" "b" (.ok ())).1.linked x y =
          ((Simulator.initial ["a", "b"] false).linked x y && !decide (SamePair x y "a" "b"))) ∧
        (∀ x y, ((Simulator.initial ["a", "b"] false).disconnectAllPeers "a").linked x y =
          ((Simulator.initial ["a", "b"] false).linked x y && decide (x ≠ "a") && decide (y ≠ "a")))) :=
  ⟨consistent_initial _ _, links_calls_edit_link_graph _ (consistent_initial _ _) "a" "b" "a" .connected (.ok ())⟩

/-! ## Calls in flight -/

/-- A call between its read-locked checks and its write-locked update. -/
inductive InFlight where
  /-- `ConnectNodes(a, b)`, its checks passed and its connection made, before
  `register`. -/
  | connecting (a b : String) (conn : ConnID)
  /-- `DisconnectNodes`, having read `wire` at `wires[first][second]`. -/
  | disconnecting (first second : String) (wire : ConnID)
  deriving DecidableEq, Repr

/-- The first node of the pair the call works on. -/
def InFlight.first : InFlight → String
  | .connecting a _ _ | .disconnecting a _ _ => a

/-- The second node of the pair the call works on. -/
def InFlight.second : InFlight → String
  | .connecting _ b _ | .disconnecting _ b _ => b

/-- The connection the call holds. -/
def InFlight.conn : InFlight → ConnID
  | .connecting _ _ conn | .disconnecting _ _ conn => conn

/-- The write-locked part of the call. -/
def InFlight.finish : InFlight → Simulator → Simulator
  | .connecting a b conn, sim => sim.register a b conn
  | .disconnecting first second wire, sim => sim.clearAndClose first second wire

/-- The simulator with the calls in flight. -/
structure LinkTasks where
  sim : Simulator
  inFlight : List InFlight

/-- One step of the concurrent simulator: the checks and connection of a
`ConnectNodes`, the read of a `DisconnectNodes`, the rest of a call in flight,
or a whole `DisconnectAllPeers`, which runs under one lock. -/
inductive LinkStep where
  | connectDial (a b : String) (outcome : SocketOutcome)
  | disconnectRead (a b : String)
  | finish (call : InFlight)
  | disconnectAllPeers (node : String)

/-- A step; finishing a call that is not in flight does nothing. -/
def LinkTasks.step (s : LinkTasks) : LinkStep → LinkTasks
  | .connectDial a b outcome =>
    match s.sim.connectDial a b outcome with
    | (dialed, .ok conn) => ⟨dialed, s.inFlight ++ [.connecting a b conn]⟩
    | (dialed, .error _) => ⟨dialed, s.inFlight⟩
  | .disconnectRead a b =>
    match s.sim.disconnectRead a b with
    | .ok (first, second, wire) => ⟨s.sim, s.inFlight ++ [.disconnecting first second wire]⟩
    | .error _ => s
  | .finish call => if call ∈ s.inFlight then ⟨call.finish s.sim, s.inFlight.erase call⟩ else s
  | .disconnectAllPeers node => ⟨s.sim.disconnectAllPeers node, s.inFlight⟩

/-- A schedule. -/
def LinkTasks.run (s : LinkTasks) : List LinkStep → LinkTasks
  | [] => s
  | step :: rest => (s.step step).run rest

/-- Whether a step starts work on a pair of nodes that a call in flight is
working on. -/
def LinkStep.overlaps (inFlight : List InFlight) : LinkStep → Bool
  | .connectDial a b _ | .disconnectRead a b => inFlight.any fun call => SamePair call.first call.second a b
  | .disconnectAllPeers node => inFlight.any fun call => call.first = node ∨ call.second = node
  | .finish _ => false

/-- A schedule whose steps never overlap the calls in flight when they run. -/
def LinkTasks.overlapFree (s : LinkTasks) : List LinkStep → Bool
  | [] => true
  | step :: rest => !step.overlaps s.inFlight && (s.step step).overlapFree rest

/-- The steps of one call made alone. -/
def LinkCall.steps (sim : Simulator) : LinkCall → List LinkStep
  | .connectNodes a b outcome => [.connectDial a b outcome, .finish (.connecting a b sim.opened)]
  | .disconnectNodes a b _ =>
    match sim.disconnectRead a b with
    | .ok (first, second, wire) => [.disconnectRead a b, .finish (.disconnecting first second wire)]
    | .error _ => [.disconnectRead a b]
  | .disconnectAllPeers node => [.disconnectAllPeers node]

/-- A call made alone is its steps run back to back, and they overlap nothing. -/
theorem LinkTasks.run_steps (sim : Simulator) (call : LinkCall) :
    (LinkTasks.mk sim []).run (call.steps sim) = ⟨sim.call call, []⟩ ∧
      (LinkTasks.mk sim []).overlapFree (call.steps sim) = true := by
  cases call with
  | connectNodes a b outcome =>
    simp only [LinkCall.steps, LinkTasks.run, LinkTasks.overlapFree, LinkTasks.step, Simulator.call,
      Simulator.connectNodes]
    rcases dialResult : sim.connectDial a b outcome with ⟨dialed, conn | err⟩
    · simp [LinkStep.overlaps]
    · obtain ⟨-, -, rfl⟩ := connectDial_eq_ok dialResult
      simp [LinkStep.overlaps, InFlight.finish]
  | disconnectNodes a b closing =>
    simp only [LinkCall.steps, Simulator.call, Simulator.disconnectNodes]
    rcases read : sim.disconnectRead a b with err | ⟨first, second, wire⟩
    · simp [LinkTasks.run, LinkTasks.overlapFree, LinkTasks.step, LinkStep.overlaps, read]
    · simp [LinkTasks.run, LinkTasks.overlapFree, LinkTasks.step, LinkStep.overlaps, read, InFlight.finish]
  | disconnectAllPeers node => simp [LinkCall.steps, LinkTasks.run, LinkTasks.overlapFree, LinkTasks.step,
      Simulator.call, LinkStep.overlaps]

/-! ## Calls on different pairs -/

/-- What a call in flight relies on when it finishes: a `ConnectNodes` that the
pair is still two different, unlinked nodes and its connection open and held
by no wire; a `DisconnectNodes` that the wire it read is still registered. -/
def InFlight.Ready (sim : Simulator) : InFlight → Prop
  | .connecting a b conn => a ≠ b ∧ (∀ wire ∈ sim.wires, ¬SamePair wire.node wire.peer a b) ∧
      conn < sim.opened ∧ conn ∉ sim.closed ∧ ∀ wire ∈ sim.wires, wire.conn ≠ conn
  | .disconnecting first second wire => ⟨first, second, wire⟩ ∈ sim.wires

/-- Two calls in flight on different pairs of nodes, holding different
connections. -/
def InFlight.Apart (call other : InFlight) : Prop :=
  ¬SamePair call.first call.second other.first other.second ∧ call.conn ≠ other.conn

theorem InFlight.apart_symm : Symmetric InFlight.Apart :=
  fun _ _ apart => ⟨fun same => apart.1 (samePair_comm.1 same), apart.2.symm⟩

/-- The concurrent simulator is safe: its registry is consistent, and the
calls in flight are ready and on different pairs. -/
structure LinkTasks.Safe (s : LinkTasks) : Prop where
  consistent : s.sim.Consistent
  ready : ∀ call ∈ s.inFlight, call.Ready s.sim
  apart : s.inFlight.Pairwise InFlight.Apart

/-- Finishing a call leaves every call apart from it ready. -/
theorem InFlight.Ready.finish {sim : Simulator} {call other : InFlight} (ready : call.Ready sim)
    (otherReady : other.Ready sim)
    (apart : call.Apart other) : other.Ready (call.finish sim) := by
  cases call with
  | connecting a b conn =>
    have wires : (sim.register a b conn).wires = sim.wires ++ [⟨a, b, conn⟩] := by
      simp [Simulator.register, clearWire_of_unlinked ready.2.1]
    cases other with
    | connecting c d conn' =>
      obtain ⟨distinct, unlinked, opened, unclosed, unregistered⟩ := otherReady
      refine ⟨distinct, ?_, opened, unclosed, ?_⟩ <;>
        simp only [InFlight.finish, wires, List.forall_mem_append, List.forall_mem_singleton]
      exacts [⟨unlinked, apart.1⟩, ⟨unregistered, apart.2⟩]
    | disconnecting first second wire =>
      show _ ∈ (sim.register a b conn).wires
      exact wires ▸ List.mem_append_left _ otherReady
  | disconnecting first second wire =>
    cases other with
    | connecting c d conn' =>
      obtain ⟨distinct, unlinked, opened, unclosed, unregistered⟩ := otherReady
      refine ⟨distinct, fun kept mem => unlinked kept (mem_clearWire.1 mem).1, opened, ?_,
        fun kept mem => unregistered kept (mem_clearWire.1 mem).1⟩
      simpa [InFlight.finish, Simulator.clearAndClose] using ⟨unclosed, apart.2.symm⟩
    | disconnecting first' second' wire' =>
      exact mem_clearWire.2 ⟨otherReady, fun ⟨node, peer⟩ => apart.1 (.inl ⟨node.symm, peer.symm⟩)⟩

/-- `DisconnectAllPeers` leaves every call away from its node ready. -/
theorem InFlight.Ready.disconnectAllPeers {sim : Simulator} {call : InFlight} (node : String)
    (ready : call.Ready sim)
    (away : ¬(call.first = node ∨ call.second = node)) : call.Ready (sim.disconnectAllPeers node) := by
  cases call with
  | connecting a b conn =>
    obtain ⟨distinct, unlinked, opened, unclosed, unregistered⟩ := ready
    refine ⟨distinct, fun wire mem => unlinked wire (mem_disconnectAllPeers_wires.1 mem).1, opened, ?_,
      fun wire mem => unregistered wire (mem_disconnectAllPeers_wires.1 mem).1⟩
    rw [mem_disconnectAllPeers_closed]
    rintro (closed | ⟨wire, mem, -, same⟩)
    exacts [unclosed closed, unregistered wire mem same]
  | disconnecting first second wire =>
    exact mem_disconnectAllPeers_wires.2 ⟨ready, fun same => away (.inl same), fun same => away (.inr same)⟩

section Ready

variable {sim : Simulator} (consistent : sim.Consistent)
include consistent

theorem InFlight.Ready.conn_lt {call : InFlight} (ready : call.Ready sim) : call.conn < sim.opened := by
  cases call with
  | connecting a b conn => exact ready.2.2.1
  | disconnecting first second wire => exact consistent.registeredOpened _ ready

theorem InFlight.Ready.finish_consistent {call : InFlight} (ready : call.Ready sim) :
    (call.finish sim).Consistent := by
  cases call with
  | connecting a b conn =>
    obtain ⟨distinct, unlinked, opened, unclosed, unregistered⟩ := ready
    exact consistent.register distinct unlinked opened unclosed unregistered
  | disconnecting first second wire => exact consistent.clearAndClose ready

/-- A call in flight holds a connection other than that of any registered wire
of another pair. -/
theorem InFlight.Ready.conn_ne {call : InFlight} (ready : call.Ready sim) {wire : Wire}
    (registered : wire ∈ sim.wires) (otherPair : ¬SamePair call.first call.second wire.node wire.peer) :
    call.conn ≠ wire.conn := by
  cases call with
  | connecting a b conn => exact (ready.2.2.2.2 wire registered).symm
  | disconnecting first second read =>
    intro same
    have isRead := consistent.eq_of_conn_eq registered ready same.symm
    exact otherPair (by rw [isRead]; exact samePair_refl _ _)

end Ready

theorem InFlight.Ready.dialed {sim : Simulator} {call : InFlight} (ready : call.Ready sim) :
    call.Ready { sim with opened := sim.opened + 1 } := by
  cases call with
  | connecting a b conn =>
    obtain ⟨distinct, unlinked, opened, unclosed, unregistered⟩ := ready
    exact ⟨distinct, unlinked, Nat.lt_succ_of_lt opened, unclosed, unregistered⟩
  | disconnecting first second wire => exact ready

/-- The step lemma: a step that overlaps no call in flight keeps the simulator
safe. -/
theorem LinkTasks.Safe.step {s : LinkTasks} (safe : s.Safe) (step : LinkStep)
    (free : step.overlaps s.inFlight = false) : (s.step step).Safe := by
  cases step with
  | connectDial a b outcome =>
    simp only [LinkStep.overlaps, List.any_eq_false, decide_eq_true_eq] at free
    simp only [LinkTasks.step]
    rcases dialResult : s.sim.connectDial a b outcome with ⟨dialed, err | conn⟩
    · rcases connectDial_eq_error dialResult with rfl | rfl
      exacts [safe, ⟨safe.consistent.dialed, fun call mem => (safe.ready call mem).dialed, safe.apart⟩]
    · obtain ⟨checked, rfl, rfl⟩ := connectDial_eq_ok dialResult
      obtain ⟨distinct, -, -, unlinked⟩ := connectCheck_eq_ok.1 checked
      refine ⟨safe.consistent.dialed, ?_, List.pairwise_append.2 ⟨safe.apart, List.pairwise_singleton _ _,
        fun call mem new isNew => ?_⟩⟩
      · simp only [List.forall_mem_append, List.forall_mem_singleton]
        exact ⟨fun call mem => (safe.ready call mem).dialed, distinct, unlinked, Nat.lt_succ_self _,
          fun closed => Nat.lt_irrefl _ (safe.consistent.closedOpened _ closed),
          fun wire mem same => Nat.lt_irrefl _ (same ▸ safe.consistent.registeredOpened wire mem)⟩
      · rw [List.mem_singleton.1 isNew]
        exact ⟨free call mem, ((safe.ready call mem).conn_lt safe.consistent).ne⟩
  | disconnectRead a b =>
    simp only [LinkStep.overlaps, List.any_eq_false, decide_eq_true_eq] at free
    simp only [LinkTasks.step]
    rcases read : s.sim.disconnectRead a b with err | ⟨first, second, wire⟩
    · exact safe
    · obtain ⟨registered, readPair⟩ := disconnectRead_eq_ok read
      refine ⟨safe.consistent, ?_, List.pairwise_append.2 ⟨safe.apart, List.pairwise_singleton _ _,
        fun call mem new isNew => ?_⟩⟩
      · simp only [List.forall_mem_append, List.forall_mem_singleton]
        exact ⟨safe.ready, registered⟩
      · rw [List.mem_singleton.1 isNew]
        have otherPair : ¬SamePair call.first call.second first second :=
          fun same => free call mem (samePair_trans same readPair)
        exact ⟨otherPair, (safe.ready call mem).conn_ne safe.consistent registered otherPair⟩
  | finish call =>
    simp only [LinkTasks.step]
    split_ifs with inFlight
    · have nodup : s.inFlight.Nodup :=
        safe.apart.imp @fun _ other apart same => apart.1 (by subst same; exact samePair_refl _ _)
      have ready := safe.ready call inFlight
      refine ⟨ready.finish_consistent safe.consistent, fun other mem => ?_,
        safe.apart.sublist (List.erase_sublist _ _)⟩
      obtain ⟨differ, otherIn⟩ := nodup.mem_erase_iff.1 mem
      exact ready.finish (safe.ready other otherIn)
        (safe.apart.forall InFlight.apart_symm inFlight otherIn (Ne.symm differ))
    · exact safe
  | disconnectAllPeers node =>
    simp only [LinkStep.overlaps, List.any_eq_false, decide_eq_true_eq] at free
    exact ⟨safe.consistent.disconnectAllPeers node,
      fun call mem => (safe.ready call mem).disconnectAllPeers node (free call mem), safe.apart⟩

/-- The run lemma: a schedule that never overlaps the calls in flight keeps
the simulator safe. -/
theorem LinkTasks.Safe.run {s : LinkTasks} (safe : s.Safe) :
    ∀ steps, s.overlapFree steps = true → (s.run steps).Safe
  | [], _ => safe
  | step :: rest, free => by
    simp only [LinkTasks.overlapFree, Bool.and_eq_true, Bool.not_eq_true'] at free
    exact (safe.step step free.1).run rest free.2

theorem overlap_free_schedules_keep_registry_consistent (sim : Simulator) (steps : List LinkStep)
    (consistent : sim.Consistent) (free : (LinkTasks.mk sim []).overlapFree steps = true) :
    ((LinkTasks.mk sim []).run steps).sim.Consistent :=
  ((⟨consistent, by simp, List.Pairwise.nil⟩ : LinkTasks.Safe ⟨sim, []⟩).run steps free).consistent

theorem sequential_connect_keeps_registry_consistent :
    (Simulator.initial ["a", "b"] false).Consistent ∧
      (LinkTasks.mk (Simulator.initial ["a", "b"] false) []).overlapFree
        [.connectDial "a" "b" .connected, .finish (.connecting "a" "b" 0)] = true ∧
      ((LinkTasks.mk (Simulator.initial ["a", "b"] false) []).run
        [.connectDial "a" "b" .connected, .finish (.connecting "a" "b" 0)]).sim.Consistent :=
  have free : (LinkTasks.mk (Simulator.initial ["a", "b"] false) []).overlapFree
      [.connectDial "a" "b" .connected, .finish (.connecting "a" "b" 0)] = true := by decide
  ⟨consistent_initial _ _, free,
    overlap_free_schedules_keep_registry_consistent _ _ (consistent_initial _ _) free⟩

/-- The step lemma for calls made one at a time: a call is its own steps run
back to back, which overlap nothing. -/
theorem Simulator.Consistent.call {sim : Simulator} (consistent : sim.Consistent) (call : LinkCall) :
    (sim.call call).Consistent := by
  obtain ⟨ran, free⟩ := LinkTasks.run_steps sim call
  simpa [ran] using ((⟨consistent, by simp, .nil⟩ : LinkTasks.Safe ⟨sim, []⟩).run _ free).consistent

/-- The run lemma: calls made one at a time keep the registry consistent. -/
theorem Simulator.Consistent.run {sim : Simulator} (consistent : sim.Consistent) :
    ∀ calls : List LinkCall, (sim.run calls).Consistent
  | [] => consistent
  | call :: rest => (consistent.call call).run rest

/-- `ConnectNodes`, `DisconnectNodes` and `DisconnectAllPeers` called one at a
time, each running its read-locked and write-locked parts back to back, keep
the registry consistent, whatever the dials, connects and `Close`s return. -/
theorem links_calls_keep_registry_consistent (sim : Simulator) (calls : List LinkCall)
    (consistent : sim.Consistent) : (sim.run calls).Consistent :=
  consistent.run calls

theorem registry_consistent_after_connect :
    (Simulator.initial ["a", "b"] false).Consistent ∧
      ((Simulator.initial ["a", "b"] false).run [.connectNodes "a" "b" .connected]).Consistent :=
  ⟨consistent_initial _ _, links_calls_keep_registry_consistent _ _ (consistent_initial _ _)⟩

/-! ## Connections nothing reaches again -/

/-- A connection made and still open that no wire and no call in flight holds:
no call of `links.go` can close it any more. -/
def LinkTasks.Abandoned (s : LinkTasks) (conn : ConnID) : Prop :=
  conn < s.sim.opened ∧ conn ∉ s.sim.closed ∧ (∀ wire ∈ s.sim.wires, wire.conn ≠ conn) ∧
    ∀ call ∈ s.inFlight, call.conn ≠ conn

theorem LinkTasks.Abandoned.step {s : LinkTasks} {conn : ConnID} (abandoned : s.Abandoned conn)
    (step : LinkStep) : (s.step step).Abandoned conn := by
  obtain ⟨opened, unclosed, unregistered, unheld⟩ := abandoned
  cases step with
  | connectDial a b outcome =>
    simp only [LinkTasks.step]
    rcases dialResult : s.sim.connectDial a b outcome with ⟨dialed, err | new⟩
    · rcases connectDial_eq_error dialResult with rfl | rfl
      exacts [⟨opened, unclosed, unregistered, unheld⟩,
        ⟨Nat.lt_succ_of_lt opened, unclosed, unregistered, unheld⟩]
    · obtain ⟨-, rfl, rfl⟩ := connectDial_eq_ok dialResult
      refine ⟨Nat.lt_succ_of_lt opened, unclosed, unregistered, ?_⟩
      simp only [List.forall_mem_append, List.forall_mem_singleton]
      exact ⟨unheld, opened.ne'⟩
  | disconnectRead a b =>
    simp only [LinkTasks.step]
    rcases read : s.sim.disconnectRead a b with err | ⟨first, second, wire⟩
    · exact ⟨opened, unclosed, unregistered, unheld⟩
    · refine ⟨opened, unclosed, unregistered, ?_⟩
      simp only [List.forall_mem_append, List.forall_mem_singleton]
      exact ⟨unheld, unregistered _ (disconnectRead_eq_ok read).1⟩
  | finish call =>
    simp only [LinkTasks.step]
    split_ifs with inFlight
    · have held := unheld call inFlight
      have stillUnheld := fun other mem => unheld other ((List.erase_sublist call s.inFlight).subset mem)
      cases call with
      | connecting a b new =>
        refine ⟨opened, unclosed, ?_, stillUnheld⟩
        simp only [InFlight.finish, Simulator.register, List.forall_mem_append, List.forall_mem_singleton]
        exact ⟨fun wire mem => unregistered wire (mem_clearWire.1 mem).1, held⟩
      | disconnecting first second wire =>
        refine ⟨opened, ?_, fun kept mem => unregistered kept (mem_clearWire.1 mem).1, stillUnheld⟩
        simpa [InFlight.finish, Simulator.clearAndClose] using ⟨unclosed, Ne.symm held⟩
    · exact ⟨opened, unclosed, unregistered, unheld⟩
  | disconnectAllPeers node =>
    refine ⟨opened, ?_, fun wire mem => unregistered wire (mem_disconnectAllPeers_wires.1 mem).1, unheld⟩
    rw [LinkTasks.step, mem_disconnectAllPeers_closed]
    rintro (closed | ⟨wire, mem, -, same⟩)
    exacts [unclosed closed, unregistered wire mem same]

/-- The run lemma: an abandoned connection stays open and unreachable under
every schedule. -/
theorem LinkTasks.Abandoned.run {s : LinkTasks} {conn : ConnID} (abandoned : s.Abandoned conn) :
    ∀ steps, (s.run steps).Abandoned conn
  | [] => abandoned
  | step :: rest => (abandoned.step step).run rest

/-- The next connection a consistent simulator makes is new to it. -/
theorem Simulator.Consistent.abandoned_opened {sim : Simulator} (consistent : sim.Consistent)
    (inFlight : List InFlight) (unheld : ∀ call ∈ inFlight, call.conn ≠ sim.opened) :
    (LinkTasks.mk { sim with opened := sim.opened + 1 } inFlight).Abandoned sim.opened :=
  ⟨Nat.lt_succ_self _, fun closed => Nat.lt_irrefl _ (consistent.closedOpened _ closed),
    fun wire mem same => Nat.lt_irrefl _ (same ▸ consistent.registeredOpened wire mem), unheld⟩

theorem failed_socket_connect_abandons_connection (sim : Simulator) (consistent : sim.Consistent)
    (a b err : String) (sockets : sim.sockets = true) (checked : sim.connectCheck a b = .ok ())
    (steps : List LinkStep) :
    (sim.connectNodes a b (.connectFailed err)).2 = .error ("nb.AuthenticatedConnect: " ++ err) ∧
      ((LinkTasks.mk (sim.connectNodes a b (.connectFailed err)).1 []).run steps).Abandoned sim.opened := by
  have result : sim.connectNodes a b (.connectFailed err) =
      ({ sim with opened := sim.opened + 1 }, .error ("nb.AuthenticatedConnect: " ++ err)) := by
    simp [Simulator.connectNodes, Simulator.connectDial, checked, sockets]
  rw [result]
  exact ⟨rfl, (consistent.abandoned_opened [] (by simp)).run steps⟩

theorem failed_connect_between_socket_nodes :
    (Simulator.initial ["a", "b"] true).Consistent ∧ (Simulator.initial ["a", "b"] true).sockets = true ∧
      (Simulator.initial ["a", "b"] true).connectCheck "a" "b" = .ok () ∧
      (((Simulator.initial ["a", "b"] true).connectNodes "a" "b" (.connectFailed "refused")).2 =
          .error ("nb.AuthenticatedConnect: " ++ "refused") ∧
        ((LinkTasks.mk ((Simulator.initial ["a", "b"] true).connectNodes "a" "b"
          (.connectFailed "refused")).1 []).run []).Abandoned (Simulator.initial ["a", "b"] true).opened) :=
  have checked : (Simulator.initial ["a", "b"] true).connectCheck "a" "b" = .ok () := rfl
  ⟨consistent_initial _ _, rfl, checked,
    failed_socket_connect_abandons_connection _ (consistent_initial _ _) "a" "b" "refused" rfl checked []⟩

/-! ## Two calls on one pair -/

theorem connectDial_connected {sim : Simulator} {a b : String} (checked : sim.connectCheck a b = .ok ()) :
    sim.connectDial a b .connected = ({ sim with opened := sim.opened + 1 }, .ok sim.opened) := by
  unfold Simulator.connectDial
  rw [checked]
  dsimp only
  split_ifs <;> rfl

theorem connectCheck_swap {sim : Simulator} {a b : String} (checked : sim.connectCheck a b = .ok ()) :
    sim.connectCheck b a = .ok () := by
  obtain ⟨distinct, aNode, bNode, unlinked⟩ := connectCheck_eq_ok.1 checked
  exact connectCheck_eq_ok.2 ⟨Ne.symm distinct, bNode, aNode,
    fun wire mem same => unlinked wire mem (samePair_trans same (.inr ⟨rfl, rfl⟩))⟩

theorem reversed_connects_register_two_wires (sim : Simulator) (a b : String)
    (checked : sim.connectCheck a b = .ok ()) :
    let raced := (LinkTasks.mk sim []).run [.connectDial a b .connected, .connectDial b a .connected,
      .finish (.connecting a b sim.opened), .finish (.connecting b a (sim.opened + 1))]
    raced.inFlight = [] ∧ lookupWire raced.sim.wires a b = some sim.opened ∧
      lookupWire raced.sim.wires b a = some (sim.opened + 1) ∧ ¬raced.sim.Consistent ∧
      ∀ closing, let after := (raced.sim.disconnectNodes a b closing).1
        after.closed = sim.closed ++ [sim.opened] ∧ lookupWire after.wires b a = some (sim.opened + 1) ∧
          after.linked a b = true := by
  obtain ⟨distinct, -, -, unlinked⟩ := connectCheck_eq_ok.1 checked
  have back : ({ sim with opened := sim.opened + 1 } : Simulator).connectCheck b a = .ok () :=
    connectCheck_swap checked
  have racedEq : (LinkTasks.mk sim []).run [.connectDial a b .connected, .connectDial b a .connected,
      .finish (.connecting a b sim.opened), .finish (.connecting b a (sim.opened + 1))] =
      ⟨⟨sim.nodes, sim.sockets, sim.wires ++ [⟨a, b, sim.opened⟩, ⟨b, a, sim.opened + 1⟩],
        sim.opened + 1 + 1, sim.closed⟩, []⟩ := by
    have absent : ∀ wire ∈ sim.wires ++ [⟨a, b, sim.opened⟩], ¬(wire.node = b ∧ wire.peer = a) := by
      simp only [List.forall_mem_append, List.forall_mem_singleton]
      exact ⟨fun wire mem same => unlinked wire mem (.inr same), fun same => distinct same.2.symm⟩
    simp [LinkTasks.run, LinkTasks.step, connectDial_connected checked, connectDial_connected back,
      InFlight.finish, Simulator.register, clearWire_of_unlinked unlinked, clearWire_of_absent absent]
  have absentAB : ∀ wire ∈ sim.wires, ¬(wire.node = a ∧ wire.peer = b) :=
    fun wire mem same => unlinked wire mem (.inl same)
  have absentBA : ∀ wire ∈ sim.wires, ¬(wire.node = b ∧ wire.peer = a) :=
    fun wire mem same => unlinked wire mem (.inr same)
  have lookupAB : lookupWire (sim.wires ++ [⟨a, b, sim.opened⟩, ⟨b, a, sim.opened + 1⟩]) a b = some sim.opened := by
    rw [lookupWire_append_of_absent _ absentAB]
    simp [lookupWire]
  dsimp only
  rw [racedEq]
  refine ⟨rfl, lookupAB, by rw [lookupWire_append_of_absent _ absentBA]; simp [lookupWire, distinct], ?_, ?_⟩
  · intro consistent
    have same := consistent.eq_of_samePair (by simp) (by simp) (.inr ⟨rfl, rfl⟩ :
      SamePair (Wire.mk a b sim.opened).node (Wire.mk a b sim.opened).peer
        (Wire.mk b a (sim.opened + 1)).node (Wire.mk b a (sim.opened + 1)).peer)
    exact distinct (Wire.mk.inj same).1
  · intro closing
    have cleared : clearWire (sim.wires ++ [⟨a, b, sim.opened⟩, ⟨b, a, sim.opened + 1⟩]) a b =
        sim.wires ++ [⟨b, a, sim.opened + 1⟩] := by
      rw [clearWire, List.filter_append, ← clearWire, clearWire_of_absent absentAB]
      simp [Ne.symm distinct]
    simp only [Simulator.disconnectNodes, Simulator.disconnectRead, lookupAB, Simulator.clearAndClose, cleared]
    refine ⟨by simp, by rw [lookupWire_append_of_absent _ absentBA]; simp [lookupWire], ?_⟩
    simp only [Simulator.linked, List.any_eq_true, decide_eq_true_eq]
    exact ⟨⟨b, a, sim.opened + 1⟩, by simp, .inr ⟨rfl, rfl⟩⟩

theorem reversed_connects_between_two_nodes :
    (Simulator.initial ["a", "b"] false).connectCheck "a" "b" = .ok () ∧
      let raced := (LinkTasks.mk (Simulator.initial ["a", "b"] false) []).run
        [.connectDial "a" "b" .connected, .connectDial "b" "a" .connected,
          .finish (.connecting "a" "b" (Simulator.initial ["a", "b"] false).opened),
          .finish (.connecting "b" "a" ((Simulator.initial ["a", "b"] false).opened + 1))]
      raced.inFlight = [] ∧ lookupWire raced.sim.wires "a" "b" = some (Simulator.initial ["a", "b"] false).opened ∧
        lookupWire raced.sim.wires "b" "a" = some ((Simulator.initial ["a", "b"] false).opened + 1) ∧
        ¬raced.sim.Consistent ∧
        ∀ closing, let after := (raced.sim.disconnectNodes "a" "b" closing).1
          after.closed = (Simulator.initial ["a", "b"] false).closed ++ [(Simulator.initial ["a", "b"] false).opened] ∧
            lookupWire after.wires "b" "a" = some ((Simulator.initial ["a", "b"] false).opened + 1) ∧
            after.linked "a" "b" = true :=
  have checked : (Simulator.initial ["a", "b"] false).connectCheck "a" "b" = .ok () := rfl
  ⟨checked, reversed_connects_register_two_wires _ "a" "b" checked⟩

theorem racing_connects_abandon_connection (sim : Simulator) (consistent : sim.Consistent) (a b : String)
    (checked : sim.connectCheck a b = .ok ()) :
    let raced := (LinkTasks.mk sim []).run [.connectDial a b .connected, .connectDial a b .connected,
      .finish (.connecting a b sim.opened), .finish (.connecting a b (sim.opened + 1))]
    raced.inFlight = [] ∧ lookupWire raced.sim.wires a b = some (sim.opened + 1) ∧
      ∀ steps, (raced.run steps).Abandoned sim.opened := by
  have absent : ∀ wire ∈ sim.wires, ¬(wire.node = a ∧ wire.peer = b) :=
    fun wire mem same => (connectCheck_eq_ok.1 checked).2.2.2 wire mem (.inl same)
  have again : ({ sim with opened := sim.opened + 1 } : Simulator).connectCheck a b = .ok () := checked
  have overwritten : clearWire (sim.wires ++ [⟨a, b, sim.opened⟩]) a b = sim.wires := by
    rw [clearWire, List.filter_append, ← clearWire, clearWire_of_absent absent]
    simp
  have racedEq : (LinkTasks.mk sim []).run [.connectDial a b .connected, .connectDial a b .connected,
      .finish (.connecting a b sim.opened), .finish (.connecting a b (sim.opened + 1))] =
      ⟨⟨sim.nodes, sim.sockets, sim.wires ++ [⟨a, b, sim.opened + 1⟩], sim.opened + 1 + 1, sim.closed⟩, []⟩ := by
    simp [LinkTasks.run, LinkTasks.step, connectDial_connected checked, connectDial_connected again,
      InFlight.finish, Simulator.register, clearWire_of_absent absent, overwritten]
  dsimp only
  rw [racedEq]
  refine ⟨rfl, by rw [lookupWire_append_of_absent _ absent]; simp [lookupWire], fun steps => ?_⟩
  refine LinkTasks.Abandoned.run ⟨show sim.opened < sim.opened + 1 + 1 by omega, fun closed => Nat.lt_irrefl _ (consistent.closedOpened _ closed), ?_,
    by simp⟩ steps
  simp only [List.forall_mem_append, List.forall_mem_singleton]
  exact ⟨fun wire mem same => Nat.lt_irrefl _ (same ▸ consistent.registeredOpened wire mem), by simp⟩

theorem racing_connects_between_two_nodes :
    (Simulator.initial ["a", "b"] false).Consistent ∧
      (Simulator.initial ["a", "b"] false).connectCheck "a" "b" = .ok () ∧
      let raced := (LinkTasks.mk (Simulator.initial ["a", "b"] false) []).run
        [.connectDial "a" "b" .connected, .connectDial "a" "b" .connected,
          .finish (.connecting "a" "b" (Simulator.initial ["a", "b"] false).opened),
          .finish (.connecting "a" "b" ((Simulator.initial ["a", "b"] false).opened + 1))]
      raced.inFlight = [] ∧
        lookupWire raced.sim.wires "a" "b" = some ((Simulator.initial ["a", "b"] false).opened + 1) ∧
        ∀ steps, (raced.run steps).Abandoned (Simulator.initial ["a", "b"] false).opened :=
  have checked : (Simulator.initial ["a", "b"] false).connectCheck "a" "b" = .ok () := rfl
  ⟨consistent_initial _ _, checked, racing_connects_abandon_connection _ (consistent_initial _ _) "a" "b" checked⟩

end Pinecone
