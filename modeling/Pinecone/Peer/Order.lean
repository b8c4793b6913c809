import Pinecone.Peer.Basic

/-!
# `peers.Less`

The `sort.Interface` on a slice of peers. `Less` returns true as soon as the
first peer's type is lower, but it never returns false when the type is
higher: it falls through to the port comparison. It is then not a strict weak
ordering, and the order `sort.Sort` produces depends on the order it is given.
For slices of up to twelve peers `sort.Sort` is an insertion sort, modelled
here to show that dependence on two peers.
-/

namespace Pinecone

/-- A slice of peers, `type peers []*Peer`. -/
abbrev Peers := List Peer

/-- `peers.Less(i, j)` on the peers at `i` and `j`. -/
def Peers.less (a b : Peer) : Bool :=
  if a.peertype < b.peertype then true else a.port < b.port

/-- One pass of the inner loop of `sort.Sort`'s insertion sort: `x` moves left
past every element it is `Less` than. The sorted prefix is given reversed, its
last element first. -/
def Peers.sinkInto (x : Peer) : Peers → Peers
  | [] => [x]
  | y :: ys => if Peers.less x y then y :: Peers.sinkInto x ys else x :: y :: ys

/-- `insertionSort(data, 0, n)`, the path `sort.Sort` takes for at most twelve
elements: `for i := 1; i < n; i++ { for j := i; j > 0 && Less(j, j-1); j-- { Swap(j, j-1) } }`. -/
def Peers.insertionSort (p : Peers) : Peers :=
  (p.foldl (fun sortedReversed x => Peers.sinkInto x sortedReversed) []).reverse

/-- A multicast peer on port 5 and a Bluetooth peer on port 1. -/
def multicastOnFive : Peer := Peer.fresh 5 "" peerTypeMulticast (SizedBytes.replicate 32 5)
def bluetoothOnOne : Peer := Peer.fresh 1 "" peerTypeBluetooth (SizedBytes.replicate 32 1)

/-- Each of the two peers is `Less` than the other, and sorting the two gives
the reverse of whichever order they came in. -/
theorem less_both_ways :
    Peers.less multicastOnFive bluetoothOnOne = true ∧ Peers.less bluetoothOnOne multicastOnFive = true ∧
      Peers.insertionSort [multicastOnFive, bluetoothOnOne] = [bluetoothOnOne, multicastOnFive] ∧
      Peers.insertionSort [bluetoothOnOne, multicastOnFive] = [multicastOnFive, bluetoothOnOne] := by
  decide

end Pinecone
