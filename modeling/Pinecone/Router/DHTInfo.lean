import Pinecone.Types
import Pinecone.Peer.Basic

/-!
# `Router.DHTInfo` and the router's other accessors

`DHTInfo` copies the SNEK routing table under the router's actor and counts
the entries it reports as stale. The count takes two independent
increments per entry: one when another entry carries the same public key,
and one when the entry's root key or root sequence differs from the current
root announcement. The `switch` with `fallthrough` merges the two root
comparisons into one increment; the duplicate check stands apart, so an entry
that is both duplicated and root-mismatched is counted twice.

`Ascending` and `Descending` read their entries through `DHTInfo`;
`RootPublicKey`, `ParentPublicKey` and `IsRoot` fall back to the router's own
key when there is no root announcement or no parent. `Peers` lists the
started peers, each with its zone and the root key of the announcement the
router last took from it, or the router's own key when there is none.
-/

namespace Pinecone.Router

/-- `virtualSnakeIndex`: the key of a SNEK routing-table entry. -/
structure VirtualSnakeIndex where
  publicKey : PublicKey
  pathID : VirtualSnakePathID
  deriving DecidableEq, Repr

/-- `virtualSnakeEntry`, with the fields the specification lists. -/
structure VirtualSnakeEntry where
  index : VirtualSnakeIndex
  sourcePort : SwitchPortID
  destinationPort : SwitchPortID
  lastSeen : Nat
  rootPublicKey : PublicKey
  rootSequence : Nat
  deriving DecidableEq, Repr

/-- `map[virtualSnakeIndex]*virtualSnakeEntry`, as the list of its pairs with
no key repeated. Go ranges over a map in an unspecified order, and the
results below hold for every order of the list. -/
structure VirtualSnakeTable where
  entries : List (VirtualSnakeIndex × VirtualSnakeEntry)
  keysDistinct : (entries.map Prod.fst).Nodup

/-- The router state `DHTInfo` reads inside `phony.Block`. -/
structure SnekState where
  rootAnnouncement : SwitchAnnouncement
  ascending : Option VirtualSnakeEntry
  descending : Option VirtualSnakeEntry
  table : VirtualSnakeTable

/-- The four results of `DHTInfo`. -/
structure DHTSnapshot where
  ascending : Option VirtualSnakeEntry
  descending : Option VirtualSnakeEntry
  table : List (VirtualSnakeIndex × VirtualSnakeEntry)
  stale : Nat

/-- The first loop: `dupes[k.PublicKey]++` for every key of the table. A key
missing from the map reads as zero, so `ok && c > 1` below is `c > 1`. -/
def countDupes (entries : List (VirtualSnakeIndex × VirtualSnakeEntry)) : PublicKey → Nat :=
  entries.foldl (fun dupes entry =>
    Function.update dupes entry.1.publicKey (dupes entry.1.publicKey + 1)) fun _ => 0

/-- The body of the second loop for one entry: copy it into the snapshot and
count it. -/
def snapshotStep (ann : SwitchAnnouncement) (dupes : PublicKey → Nat)
    (acc : List (VirtualSnakeIndex × VirtualSnakeEntry) × Nat)
    (entry : VirtualSnakeIndex × VirtualSnakeEntry) :
    List (VirtualSnakeIndex × VirtualSnakeEntry) × Nat :=
  let (table, stale) := acc
  let stale := if 1 < dupes entry.1.publicKey then stale + 1 else stale
  -- `case RootPublicKey != ...: fallthrough` runs the body of the next case.
  let stale :=
    if entry.2.rootPublicKey ≠ ann.rootPublicKey then stale + 1
    else if entry.2.rootSequence ≠ ann.sequence then stale + 1
    else stale
  (table ++ [entry], stale)

/-- `Router.DHTInfo`, given the announcement `_rootAnnouncement()` returns. -/
def dhtInfo (state : SnekState) : DHTSnapshot :=
  let ann := state.rootAnnouncement
  let dupes := countDupes state.table.entries
  let (table, stale) := state.table.entries.foldl (snapshotStep ann dupes) ([], 0)
  { ascending := state.ascending, descending := state.descending, table, stale }

/-- `Router.Descending`: the key and path of the descending entry `DHTInfo`
returns, or `nil, nil`. -/
def descending (state : SnekState) : Option (PublicKey × VirtualSnakePathID) :=
  (dhtInfo state).descending.map fun desc => (desc.index.publicKey, desc.index.pathID)

/-- `Router.Ascending`: the key and path of the ascending entry `DHTInfo`
returns, or `nil, nil`. -/
def ascending (state : SnekState) : Option (PublicKey × VirtualSnakePathID) :=
  (dhtInfo state).ascending.map fun asc => (asc.index.publicKey, asc.index.pathID)

/-- What `Router.RootPublicKey`, `ParentPublicKey` and `IsRoot` read: the
router's own key, what `_rootAnnouncement()` returns and the key of `_parent`,
`none` standing for `nil`. -/
structure TreeView where
  public : PublicKey
  rootAnnouncement : Option SwitchAnnouncement
  parent : Option PublicKey

/-- `Router.RootPublicKey`: the root announcement's key, or our own without one. -/
def TreeView.rootPublicKey (r : TreeView) : PublicKey :=
  match r.rootAnnouncement with
  | some ann => ann.rootPublicKey
  | none => r.public

/-- `Router.ParentPublicKey`: the parent's key, or our own without a parent. -/
def TreeView.parentPublicKey (r : TreeView) : PublicKey := r.parent.getD r.public

/-- `Router.IsRoot`. -/
def TreeView.isRoot (r : TreeView) : Bool := r.rootPublicKey = r.public

/-! ## What the count counts -/

/-- An entry whose public key another entry of the table also carries. -/
def sharesKey (entries : List (VirtualSnakeIndex × VirtualSnakeEntry))
    (entry : VirtualSnakeIndex × VirtualSnakeEntry) : Bool :=
  1 < entries.countP (·.1.publicKey = entry.1.publicKey)

/-- An entry installed under another root key or root sequence than the
current announcement's. -/
def rootMismatch (ann : SwitchAnnouncement) (entry : VirtualSnakeIndex × VirtualSnakeEntry) :
    Bool :=
  entry.2.rootPublicKey ≠ ann.rootPublicKey ∨ entry.2.rootSequence ≠ ann.sequence

theorem countDupes_apply (entries : List (VirtualSnakeIndex × VirtualSnakeEntry))
    (key : PublicKey) : countDupes entries key = entries.countP (·.1.publicKey = key) := by
  suffices general : ∀ start : PublicKey → Nat,
      entries.foldl (fun dupes entry =>
        Function.update dupes entry.1.publicKey (dupes entry.1.publicKey + 1)) start key =
        start key + entries.countP (·.1.publicKey = key) by
    simpa using general fun _ => 0
  induction entries with
  | nil => simp
  | cons entry entries inductionHypothesis =>
    intro start
    rw [List.foldl_cons, inductionHypothesis, List.countP_cons]
    by_cases same : entry.1.publicKey = key
    · subst same
      simp only [Function.update_same, decide_True, if_true]
      omega
    · simp [Function.update_noteq (Ne.symm same), same]

theorem snapshotStep_fold (ann : SwitchAnnouncement) (dupes : PublicKey → Nat)
    (entries : List (VirtualSnakeIndex × VirtualSnakeEntry)) :
    ∀ (table : List (VirtualSnakeIndex × VirtualSnakeEntry)) (stale : Nat),
      entries.foldl (snapshotStep ann dupes) (table, stale) =
        (table ++ entries, stale + entries.countP (fun entry => 1 < dupes entry.1.publicKey) +
          entries.countP (rootMismatch ann)) := by
  induction entries with
  | nil => simp
  | cons entry entries inductionHypothesis =>
    intro table stale
    rw [List.foldl_cons, snapshotStep, inductionHypothesis, List.countP_cons, List.countP_cons]
    simp only [List.append_assoc, List.singleton_append, Prod.mk.injEq, true_and, rootMismatch]
    split_ifs <;> simp_all <;> omega

/-- `DHTInfo` returns the live table, and its stale count is the number of
entries that share their key plus the number of root-mismatched entries: an
entry that is both is counted twice. -/
theorem dhtInfo_snapshot (state : SnekState) :
    (dhtInfo state).table = state.table.entries ∧
      (dhtInfo state).stale = state.table.entries.countP (sharesKey state.table.entries) +
        state.table.entries.countP (rootMismatch state.rootAnnouncement) := by
  simp only [dhtInfo, snapshotStep_fold, List.nil_append, Nat.zero_add, countDupes_apply, true_and]
  rfl

/-- The stale count never exceeds twice the table size. -/
theorem dhtInfo_stale_le (state : SnekState) :
    (dhtInfo state).stale ≤ 2 * state.table.entries.length := by
  rw [(dhtInfo_snapshot state).2]
  have shared := List.countP_le_length (sharesKey state.table.entries) (l := state.table.entries)
  have mismatched := List.countP_le_length (rootMismatch state.rootAnnouncement)
    (l := state.table.entries)
  omega

/-! ## A table where one entry is counted twice -/

/-- Two paths to the same key, both installed under an older root. -/
def sharedKeyState : SnekState where
  rootAnnouncement := ⟨SizedBytes.replicate 32 2, 0, []⟩
  ascending := none
  descending := none
  table :=
    { entries :=
        [(⟨SizedBytes.replicate 32 0, SizedBytes.replicate 8 0⟩,
            ⟨⟨SizedBytes.replicate 32 0, SizedBytes.replicate 8 0⟩, 1, 2, 0,
              SizedBytes.replicate 32 1, 0⟩),
         (⟨SizedBytes.replicate 32 0, SizedBytes.replicate 8 1⟩,
            ⟨⟨SizedBytes.replicate 32 0, SizedBytes.replicate 8 1⟩, 1, 2, 0,
              SizedBytes.replicate 32 1, 0⟩)]
      keysDistinct := by decide }

/-- On a table of two entries the stale count is 4. -/
theorem dhtInfo_counts_entries_twice :
    (dhtInfo sharedKeyState).stale = 4 ∧ sharedKeyState.table.entries.length = 2 := by
  decide

/-! ## `Router.Peers` -/

/-- `PeerInfo`, one line of the listing `Router.Peers` returns. -/
structure PeerInfo where
  port : Nat
  publicKey : String
  rootPublicKey : String
  peerType : Int
  zone : String
  deriving DecidableEq, Repr

/-- The `PeerInfo` of a started peer, with `keyString` what `PublicKey.String()`
gives, `public` the router's own key, and `announcements` the router's
`_announcements`, read by the peer's port. The root key is left empty
without an announcement and then replaced by the router's own. -/
def peerInfo (keyString : PublicKey → String) (public : PublicKey)
    (announcements : SwitchPortID → Option SwitchAnnouncement) (p : Peer) : PeerInfo :=
  let info : PeerInfo :=
    { port := p.port, peerType := p.peertype, publicKey := keyString p.public, zone := p.zone, rootPublicKey := "" }
  let info := match announcements p.port with
    | some ann => { info with rootPublicKey := keyString ann.rootPublicKey }
    | none => info
  if info.rootPublicKey = "" then { info with rootPublicKey := keyString public } else info

/-- One iteration of the loop of `Router.Peers` over the router's peer slots
`_peers`, `none` standing for `nil`: an empty or stopped slot is skipped. -/
def listSlot (keyString : PublicKey → String) (public : PublicKey)
    (announcements : SwitchPortID → Option SwitchAnnouncement) (listed : List PeerInfo) : Option Peer → List PeerInfo
  | none => listed
  | some p => if !p.started then listed else listed ++ [peerInfo keyString public announcements p]

/-- `Router.Peers`. -/
def peers (keyString : PublicKey → String) (public : PublicKey) (slots : List (Option Peer))
    (announcements : SwitchPortID → Option SwitchAnnouncement) : List PeerInfo :=
  slots.foldl (listSlot keyString public announcements) []

/-- When no key prints as the empty string, a listed peer shows its
announcement's root key, or the router's own key without one. -/
theorem peerInfo_eq {keyString : PublicKey → String} (readable : ∀ key, keyString key ≠ "")
    (public : PublicKey) (announcements : SwitchPortID → Option SwitchAnnouncement) (p : Peer) :
    peerInfo keyString public announcements p =
      { port := p.port, publicKey := keyString p.public, peerType := p.peertype, zone := p.zone,
        rootPublicKey := keyString (((announcements p.port).map (·.rootPublicKey)).getD public) } := by
  unfold peerInfo
  cases announcements p.port <;> simp [readable]

/-- The run lemma: the loop appends one line per started peer, in slot order. -/
theorem foldl_listSlot (keyString : PublicKey → String) (public : PublicKey)
    (announcements : SwitchPortID → Option SwitchAnnouncement) :
    ∀ (slots : List (Option Peer)) (listed : List PeerInfo),
      slots.foldl (listSlot keyString public announcements) listed =
        listed ++ (((slots.filterMap id).filter (·.started)).map (peerInfo keyString public announcements))
  | [], listed => by simp
  | none :: rest, listed => by simp [listSlot, foldl_listSlot keyString public announcements rest]
  | some p :: rest, listed => by
    cases started : p.started <;> simp [listSlot, started, foldl_listSlot keyString public announcements rest]

/-- For every state of the router's peer slots and announcements, as long as
no key prints as the empty string, `Router.Peers` lists exactly the peers
that are started, in slot order, each with its port, type, key and zone, and
with the root key of the announcement the router holds from it, or the
router's own key when it holds none. -/
theorem peers_lists_started_peers {keyString : PublicKey → String} (readable : ∀ key, keyString key ≠ "")
    (public : PublicKey) (slots : List (Option Peer)) (announcements : SwitchPortID → Option SwitchAnnouncement) :
    peers keyString public slots announcements =
      ((slots.filterMap id).filter (·.started)).map fun p =>
        { port := p.port, publicKey := keyString p.public, peerType := p.peertype, zone := p.zone,
          rootPublicKey := keyString (((announcements p.port).map (·.rootPublicKey)).getD public) } := by
  rw [peers, foldl_listSlot, List.nil_append]
  exact List.map_congr_left fun p _ => peerInfo_eq readable public announcements p

/-- A key printed two hexadecimal digits a byte, as `hex.EncodeToString` prints it. -/
def keyHex (key : PublicKey) : String :=
  String.mk (key.val.flatMap fun byte => [Nat.digitChar (byte.toNat / 16), Nat.digitChar (byte.toNat % 16)])

theorem keyHex_ne_empty (key : PublicKey) : keyHex key ≠ "" := by
  obtain ⟨_ | ⟨byte, rest⟩, size⟩ := key
  · cases size
  · simp [keyHex, String.ext_iff]

/-- Three slots: an empty one, a started peer on port 1, and a stopped peer on
port 2. -/
def listedSlots : List (Option Peer) :=
  [none, some { Peer.fresh 1 "tcp" peerTypeRemote (SizedBytes.replicate 32 1) with started := true },
    some (Peer.fresh 2 "wlan0" peerTypeMulticast (SizedBytes.replicate 32 2))]

/-- The router holds an announcement of root `0x03…` from port 1 only. -/
def listedAnnouncements (port : SwitchPortID) : Option SwitchAnnouncement :=
  if port = 1 then some ⟨SizedBytes.replicate 32 3, 7, []⟩ else none

theorem peers_lists_one_started_peer :
    (∀ key, keyHex key ≠ "") ∧
      peers keyHex (SizedBytes.replicate 32 0) listedSlots listedAnnouncements =
        ((listedSlots.filterMap id).filter (·.started)).map fun p =>
          { port := p.port, publicKey := keyHex p.public, peerType := p.peertype, zone := p.zone,
            rootPublicKey :=
              keyHex (((listedAnnouncements p.port).map (·.rootPublicKey)).getD (SizedBytes.replicate 32 0)) } :=
  ⟨keyHex_ne_empty,
    peers_lists_started_peers keyHex_ne_empty (SizedBytes.replicate 32 0) listedSlots listedAnnouncements⟩

end Pinecone.Router
