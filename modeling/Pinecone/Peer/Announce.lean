import Pinecone.Peer.Tasks
import Pinecone.Dissector.RoundTrip

/-!
# `Peer.generateAnnouncement`: the frame an announcer sends

After its port check, `generateAnnouncement` takes the tree's root
announcement, refuses one whose chain already carries our key, signs it for
the port, marshals it into the payload buffer and wraps it in a tree
announcement frame with no destination. `SwitchAnnouncement.Sign` and the
frame types are not among the sources; signing is modelled from the
specification, which has it append our hop, and `types.TypeSTP` is the
specification's Tree Announcement.

Every announcement sent carries our key exactly once, in its last hop, on the
sending port. Once on the wire, the dissector shows it with the coordinates
the specification gives the announcer: the ports of the root's chain followed
by that port.
-/

namespace Pinecone

open Dissector

/-- Modelled from the spec: `SwitchAnnouncement.Sign(private, port)` appends
`{port, our public key, sig}`, where `sig` is the black box `sign`'s. -/
def SwitchAnnouncement.sign (announcement : SwitchAnnouncement) (public : PublicKey)
    (port : SwitchPortID) (signature : Signature) : SwitchAnnouncement :=
  { announcement with signatures := announcement.signatures ++ [⟨port, public, signature⟩] }

/-- `Peer.generateAnnouncement` after its port check, given the tree's root
announcement, our key, what `Sign` produces (`none` when it fails) and the
size of the payload buffer: `nil` when the chain already carries our key, when
`Sign` fails, or when the signed announcement does not fit the buffer;
otherwise a version 0 tree announcement with no destination. -/
def signedAnnouncement (root : SwitchAnnouncement) (public : PublicKey) (port : SwitchPortID)
    (signature : Option Signature) (maxPayloadSize : Nat) : Option Frame :=
  if root.signatures.any (·.publicKey = public) then none
  else match signature with
    | none => none
    | some signature =>
      let signed := root.sign public port signature
      if maxPayloadSize < (encodeAnnouncement signed).length then none
      else some ⟨0, ⟨[0, 0], rfl⟩, .treeAnnouncement [] [] signed⟩

/-- What a generated announcement is: sent on a port other than 0, the root's
announcement with our hop appended, in a tree announcement with no
destination. -/
theorem generateAnnouncement_eq_some {port : SwitchPortID} {root : SwitchAnnouncement}
    {public : PublicKey} {signature : Option Signature} {maxPayloadSize : Nat} {frame : Frame}
    (generated : generateAnnouncement port (signedAnnouncement root public port signature maxPayloadSize) =
      some frame) :
    port ≠ 0 ∧ (∀ hop ∈ root.signatures, hop.publicKey ≠ public) ∧
      ∃ signed : Signature, frame = ⟨0, ⟨[0, 0], rfl⟩, .treeAnnouncement [] [] (root.sign public port signed)⟩ := by
  unfold generateAnnouncement signedAnnouncement at generated
  split_ifs at generated with onPort0 carries
  cases signature with
  | none => cases generated
  | some signed =>
    dsimp only at generated
    split_ifs at generated
    cases generated
    simp only [List.any_eq_true, decide_eq_true_eq, not_exists, not_and] at carries
    exact ⟨onPort0, carries, signed, rfl⟩

theorem generated_announcement_carries_key_once (port : SwitchPortID) (root : SwitchAnnouncement)
    (public : PublicKey) (signature : Option Signature) (maxPayloadSize : Nat) (frame : Frame)
    (generated : generateAnnouncement port (signedAnnouncement root public port signature maxPayloadSize) =
      some frame) :
    port ≠ 0 ∧ ∃ announcement : SwitchAnnouncement,
      frame.body = .treeAnnouncement [] [] announcement ∧
      announcement.rootPublicKey = root.rootPublicKey ∧ announcement.sequence = root.sequence ∧
      announcement.signatures.map (·.hop) = root.signatures.map (·.hop) ++ [port] ∧
      announcement.signatures.countP (·.publicKey = public) = 1 ∧
      (announcement.signatures.getLast?.map (·.publicKey)) = some public := by
  obtain ⟨onPort, fresh, signed, rfl⟩ := generateAnnouncement_eq_some generated
  refine ⟨onPort, root.sign public port signed, rfl, rfl, rfl, by simp [SwitchAnnouncement.sign], ?_, ?_⟩
  · simp only [SwitchAnnouncement.sign, List.countP_append, List.countP_singleton, decide_True, if_true]
    rw [List.countP_eq_zero.2 fun hop mem same => fresh hop mem (by simpa using same)]
  · simp [SwitchAnnouncement.sign]

/-- A root's own announcement, before any hop. -/
def rootOnlyAnnouncement : SwitchAnnouncement := ⟨SizedBytes.replicate 32 1, 7, []⟩

/-- The announcement a child of that root sends on its port 1. -/
def firstHopFrame : Frame :=
  ⟨0, ⟨[0, 0], rfl⟩, .treeAnnouncement [] []
    (rootOnlyAnnouncement.sign (SizedBytes.replicate 32 2) 1 (SizedBytes.replicate 64 3))⟩

theorem firstHopFrame_generated :
    generateAnnouncement 1 (signedAnnouncement rootOnlyAnnouncement (SizedBytes.replicate 32 2) 1
      (some (SizedBytes.replicate 64 3)) 65535) = some firstHopFrame := by
  simp [generateAnnouncement, signedAnnouncement, rootOnlyAnnouncement, firstHopFrame, SwitchAnnouncement.sign,
    encodeAnnouncement, encodeSignature, encodeVaru64, leadingGroups, SizedBytes.replicate]

theorem first_hop_announcement_carries_key_once :
    generateAnnouncement 1 (signedAnnouncement rootOnlyAnnouncement (SizedBytes.replicate 32 2) 1
        (some (SizedBytes.replicate 64 3)) 65535) = some firstHopFrame ∧
      (1 ≠ 0 ∧ ∃ announcement : SwitchAnnouncement,
        firstHopFrame.body = .treeAnnouncement [] [] announcement ∧
        announcement.rootPublicKey = rootOnlyAnnouncement.rootPublicKey ∧
        announcement.sequence = rootOnlyAnnouncement.sequence ∧
        announcement.signatures.map (·.hop) = rootOnlyAnnouncement.signatures.map (·.hop) ++ [1] ∧
        announcement.signatures.countP (·.publicKey = SizedBytes.replicate 32 2) = 1 ∧
        (announcement.signatures.getLast?.map (·.publicKey)) = some (SizedBytes.replicate 32 2)) :=
  ⟨firstHopFrame_generated, generated_announcement_carries_key_once _ _ _ _ _ _ firstHopFrame_generated⟩

/-- The dissector shows a generated announcement, once on the wire, with the
coordinates of its announcer: the ports of the root's chain followed by the
sending port. -/
theorem dissector_shows_announcer_coordinates (port : SwitchPortID) (root : SwitchAnnouncement)
    (public : PublicKey) (signature : Option Signature) (maxPayloadSize : Nat) (frame : Frame)
    (generated : generateAnnouncement port (signedAnnouncement root public port signature maxPayloadSize) =
      some frame)
    (wellFormed : frame.WellFormed) :
    doPineconeDissect frame.marshal = some frame.view ∧
      ∃ payload, TreeItem.field .roottgt payload (some (.string "None"))
        (some ("Provides coordinates: " ++ renderPorts (root.signatures.map (·.hop) ++ [port]))) ∈ frame.view := by
  refine ⟨doPineconeDissect_marshal frame wellFormed, ?_⟩
  obtain ⟨-, -, signed, rfl⟩ := generateAnnouncement_eq_some generated
  exact ⟨encodeAnnouncement (root.sign public port signed),
    by simp [Frame.view, FrameBody.view, announcementView, SwitchAnnouncement.sign]⟩

theorem dissector_shows_first_hop_coordinates :
    generateAnnouncement 1 (signedAnnouncement rootOnlyAnnouncement (SizedBytes.replicate 32 2) 1
        (some (SizedBytes.replicate 64 3)) 65535) = some firstHopFrame ∧ firstHopFrame.WellFormed ∧
      (doPineconeDissect firstHopFrame.marshal = some firstHopFrame.view ∧
        ∃ payload, TreeItem.field .roottgt payload (some (.string "None"))
          (some ("Provides coordinates: " ++ renderPorts (rootOnlyAnnouncement.signatures.map (·.hop) ++ [1]))) ∈
            firstHopFrame.view) :=
  have wellFormed : firstHopFrame.WellFormed := ⟨by decide, by
    rw [length_marshal]
    simp [firstHopFrame, rootOnlyAnnouncement, FrameBody.encode, treeBody, encodeCoords, encodePorts,
      encodeAnnouncement, SwitchAnnouncement.sign, encodeSignature, encodeVaru64, leadingGroups,
      SizedBytes.replicate]⟩
  ⟨firstHopFrame_generated, wellFormed,
    dissector_shows_announcer_coordinates _ _ _ _ _ _ firstHopFrame_generated wellFormed⟩

end Pinecone
