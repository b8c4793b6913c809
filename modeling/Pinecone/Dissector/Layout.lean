import Pinecone.Types
import Pinecone.Dissector.Varu64

/-!
# The wire layout of a frame

The Go codec, `types.Frame.MarshalBinary`, is not among the sources; the
dissector is written against what it produces. `Frame.marshal` follows the
layout the specification gives: a ten-byte header `"pine" | version | type |
extra(2) | frame_len(2)`, where `frame_len` counts the whole frame as
`frame_test.go` expects, then a body laid out by type. The frame types and
their codes are the dissector's `frame_types` table.
-/

namespace Pinecone.Dissector

/-- The tree-routed frames besides announcements. -/
inductive TreeType where
  | routed
  | ping
  | pong
  deriving DecidableEq, Repr

/-- `frame_types`: Tree Routed 2, Tree Ping 7, Tree Pong 8. -/
def TreeType.code : TreeType → UInt8
  | .routed => 2
  | .ping => 7
  | .pong => 8

/-- The SNEK-routed frames. -/
inductive SnekType where
  | routed
  | ping
  | pong
  deriving DecidableEq, Repr

/-- `frame_types`: SNEK Routed 4, SNEK Ping 5, SNEK Pong 6. -/
def SnekType.code : SnekType → UInt8
  | .routed => 4
  | .ping => 5
  | .pong => 6

/-- Modelled from the spec: the payload of a bootstrap, `varint seq |
root_key(32) | varint root_seq | sig(64)`. -/
structure BootstrapPayload where
  sequence : Nat
  rootPublicKey : PublicKey
  rootSequence : Nat
  signature : Signature
  deriving DecidableEq, Repr

/-- Modelled from the spec: what a frame carries after its header, by type. A
tree announcement is a tree-routed frame whose payload is the announcement. -/
inductive FrameBody where
  | keepalive
  | treeAnnouncement (destination source : SwitchPorts) (announcement : SwitchAnnouncement)
  | tree (kind : TreeType) (destination source : SwitchPorts) (payload : Bytes)
  | bootstrap (destinationKey watermarkKey : PublicKey) (watermarkSequence : Nat)
      (payload : BootstrapPayload)
  | snek (kind : SnekType) (destinationKey sourceKey watermarkKey : PublicKey)
      (watermarkSequence : Nat) (payload : Bytes)
  deriving DecidableEq, Repr

/-- Modelled from the spec: a frame as `types.Frame` holds it. -/
structure Frame where
  version : UInt8
  extra : SizedBytes 2
  body : FrameBody
  deriving DecidableEq, Repr

/-- The type byte of each body, from `frame_types`. -/
def FrameBody.code : FrameBody → UInt8
  | .keepalive => 0
  | .treeAnnouncement .. => 1
  | .tree kind .. => kind.code
  | .bootstrap .. => 3
  | .snek kind .. => kind.code

/-- A coordinate list: its length in bytes, then its ports. -/
def encodeCoords (ports : SwitchPorts) : Bytes :=
  be16 (encodePorts ports).length ++ encodePorts ports

/-- A signature entry, `port(varint) | key(32) | sig(64)`. -/
def encodeSignature (signature : SignatureWithHop) : Bytes :=
  encodeVaru64 signature.hop ++ signature.publicKey.val ++ signature.signature.val

/-- A tree announcement's payload: `root_key | root_seq(varint) | signatures[]`. -/
def encodeAnnouncement (announcement : SwitchAnnouncement) : Bytes :=
  announcement.rootPublicKey.val ++ encodeVaru64 announcement.sequence ++
    announcement.signatures.flatMap encodeSignature

/-- A bootstrap's payload. -/
def BootstrapPayload.encode (payload : BootstrapPayload) : Bytes :=
  encodeVaru64 payload.sequence ++ payload.rootPublicKey.val ++ encodeVaru64 payload.rootSequence ++
    payload.signature.val

/-- The body of a tree-routed frame: `payload_len(2) | dst_len(2) | dst |
src_len(2) | src | payload`. -/
def treeBody (destination source : SwitchPorts) (payload : Bytes) : Bytes :=
  be16 payload.length ++ encodeCoords destination ++ encodeCoords source ++ payload

/-- The body after the header. -/
def FrameBody.encode : FrameBody → Bytes
  | .keepalive => []
  | .treeAnnouncement destination source announcement =>
    treeBody destination source (encodeAnnouncement announcement)
  | .tree _ destination source payload => treeBody destination source payload
  | .bootstrap destinationKey watermarkKey watermarkSequence payload =>
    be16 payload.encode.length ++ destinationKey.val ++ watermarkKey.val ++
      encodeVaru64 watermarkSequence ++ payload.encode
  | .snek _ destinationKey sourceKey watermarkKey watermarkSequence payload =>
    be16 payload.length ++ destinationKey.val ++ sourceKey.val ++ watermarkKey.val ++
      encodeVaru64 watermarkSequence ++ payload

/-- The header for a frame of `total` bytes. -/
def frameHeader (version code : UInt8) (extra : SizedBytes 2) (total : Nat) : Bytes :=
  frameMagicBytes ++ [version, code] ++ extra.val ++ be16 total

/-- Modelled from the spec: `Frame.MarshalBinary`. -/
def Frame.marshal (frame : Frame) : Bytes :=
  frameHeader frame.version frame.body.code frame.extra (10 + frame.body.encode.length) ++
    frame.body.encode

/-- Every varint a body carries. -/
def FrameBody.varints : FrameBody → List Nat
  | .keepalive => []
  | .treeAnnouncement destination source announcement =>
    destination ++ source ++ announcement.sequence :: announcement.signatures.map (·.hop)
  | .tree _ destination source _ => destination ++ source
  | .bootstrap _ _ watermarkSequence payload =>
    [watermarkSequence, payload.sequence, payload.rootSequence]
  | .snek _ _ _ _ watermarkSequence _ => [watermarkSequence]

/-- A frame whose values fit the dissector's fields: every varint below
`2^32`, and the whole frame's length in the two-byte `frame_len`. -/
def Frame.WellFormed (frame : Frame) : Prop :=
  (∀ value ∈ frame.body.varints, value < 2 ^ 32) ∧ frame.marshal.length < 2 ^ 16

@[simp] theorem length_frameHeader (version code : UInt8) (extra : SizedBytes 2) (total : Nat) :
    (frameHeader version code extra total).length = 10 := by
  simp [frameHeader, frameMagicBytes, extra.property]

theorem length_marshal (frame : Frame) : frame.marshal.length = 10 + frame.body.encode.length := by
  simp [Frame.marshal]

/-- `TestMarshalUnmarshalFrame`: the tree-routed frame the Go test marshals,
byte for byte. -/
example : Frame.marshal ⟨0, ⟨[0, 0], rfl⟩,
    .tree .routed [1, 2, 3, 4, 5000] [4, 3, 2, 1] [65, 66, 67, 68, 69, 70, 71]⟩ =
    [0x70, 0x69, 0x6e, 0x65, 0, 2, 0, 0, 0, 33, 0, 7, 0, 6, 1, 2, 3, 4, 167, 8, 0, 4, 4, 3, 2, 1,
      65, 66, 67, 68, 69, 70, 71] := by
  simp [Frame.marshal, frameHeader, frameMagicBytes, FrameBody.encode, FrameBody.code, TreeType.code,
    treeBody, encodeCoords, encodePorts, encodeVaru64, leadingGroups, be16]

/-- `TestMarshalUnmarshalSNEKFrame`, with fixed keys for its random ones: the
payload length, the destination, source and watermark keys, the one-byte
watermark sequence 100 and the payload, in 115 bytes. -/
example : Frame.marshal ⟨0, ⟨[0, 0], rfl⟩, .snek .routed (SizedBytes.replicate 32 2) (SizedBytes.replicate 32 1)
      (SizedBytes.replicate 32 3) 100 [72, 69, 76, 76, 79, 33]⟩ =
    [0x70, 0x69, 0x6e, 0x65, 0, 4, 0, 0, 0, 115, 0, 6] ++ List.replicate 32 2 ++ List.replicate 32 1 ++
      List.replicate 32 3 ++ [100, 72, 69, 76, 76, 79, 33] := by
  simp [Frame.marshal, frameHeader, frameMagicBytes, FrameBody.encode, FrameBody.code, SnekType.code,
    encodeVaru64, leadingGroups, be16, SizedBytes.replicate]

end Pinecone.Dissector
