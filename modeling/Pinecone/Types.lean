import Mathlib.Data.List.Basic

/-!
# Wire-level identifiers

The fixed-size values of the `types` package: public keys, signatures and
SNEK path identifiers are byte strings of an exact length, carried here as
subtypes so that a value of the wrong size cannot be built. Ports and
sequence numbers are unsigned 64-bit integers in Go; nothing modelled here
overflows them, so they are naturals.
-/

namespace Pinecone

/-- A byte string whose length is part of its type. -/
abbrev SizedBytes (count : Nat) := {value : List UInt8 // value.length = count}

/-- `types.PublicKey`: an ed25519 public key. -/
abbrev PublicKey := SizedBytes 32

/-- `types.Signature`: an ed25519 signature. -/
abbrev Signature := SizedBytes 64

/-- `types.VirtualSnakePathID`: the identifier a bootstrap requester mints for a path. -/
abbrev VirtualSnakePathID := SizedBytes 8

/-- `types.SwitchPortID`. -/
abbrev SwitchPortID := Nat

/-- `types.SwitchPorts`: a coordinate list. -/
abbrev SwitchPorts := List SwitchPortID

/-- The byte string of the given size with every byte set to `fill`. -/
def SizedBytes.replicate (count : Nat) (fill : UInt8) : SizedBytes count :=
  ⟨List.replicate count fill, List.length_replicate count fill⟩

/-- Modelled from the spec: `types.FrameMagicBytes`, "pine". -/
def frameMagicBytes : List UInt8 := [0x70, 0x69, 0x6e, 0x65]

/-- `types.SignatureWithHop`: one hop of an announcement's ancestor chain. -/
structure SignatureWithHop where
  hop : SwitchPortID
  publicKey : PublicKey
  signature : Signature
  deriving DecidableEq, Repr

/-- `types.SwitchAnnouncement`: a root announcement with its signature chain,
root first. -/
structure SwitchAnnouncement where
  rootPublicKey : PublicKey
  sequence : Nat
  signatures : List SignatureWithHop
  deriving DecidableEq, Repr

end Pinecone
