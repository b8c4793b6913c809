import Pinecone.Types

/-!
# Peers

The fields of `router.Peer` that the modelled functions read or write. The
connection, the cancellation context, the announce channel and the two
outbound queues belong to the peer's concurrent tasks and are modelled with
them in `Pinecone.Peer.Tasks`; the router back-pointer is read by nothing
modelled.
-/

namespace Pinecone

/-- `peerStatistics`: the atomic counters of one peer. -/
structure PeerStatistics where
  txProtoSuccessful : Nat
  txProtoDropped : Nat
  txTrafficSuccessful : Nat
  txTrafficDropped : Nat
  rxDroppedNoDestination : Nat
  deriving DecidableEq, Repr

/-- `peerStatistics.reset`: every counter back to zero. -/
def PeerStatistics.reset : PeerStatistics := ⟨0, 0, 0, 0, 0⟩

/-- `rootAnnouncementWithTime`: an announcement and the local time it arrived
(the Go field `at`). -/
structure RootAnnouncementWithTime where
  announcement : SwitchAnnouncement
  receivedAt : Nat
  deriving DecidableEq, Repr

/-- `router.Peer`, the fields read by the lifecycle, forwarding, ordering and
listing code. -/
structure Peer where
  port : SwitchPortID
  started : Bool
  alive : Bool
  zone : String
  peertype : Int
  public : PublicKey
  coords : Option SwitchPorts
  announcement : Option RootAnnouncementWithTime
  statistics : PeerStatistics
  deriving DecidableEq, Repr

/-- `PeerTypeMulticast`, `PeerTypeBluetooth`, `PeerTypeRemote`: the `iota` constants. -/
def peerTypeMulticast : Int := 0
def peerTypeBluetooth : Int := 1
def peerTypeRemote : Int := 2

/-- A peer slot before its first `start`: stopped, not alive, no announcement,
no coordinates, zeroed counters. -/
def Peer.fresh (port : SwitchPortID) (zone : String) (peertype : Int) (public : PublicKey) : Peer :=
  { port, started := false, alive := false, zone, peertype, public, coords := none,
    announcement := none, statistics := PeerStatistics.reset }

end Pinecone
