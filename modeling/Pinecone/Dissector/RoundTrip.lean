import Pinecone.Dissector.Dissect

/-!
# The dissector against the wire layout

For every well-formed frame, `do_pinecone_dissect` shows the frame as
`Frame.view` says: its header fields, its coordinate lists port by port, its
keys, its watermark, its payload, and for an announcement the ports of its
signature chain. One lemma per branch of the dissector reads its layout back,
and the frame lemma picks the branch.

`do_pinecone_length` reads a frame's total length from its header, but
`dissect_tcp_pdus` gives it the whole buffer and never the frame after the
first: behind a frame of the `TestMarshalUnmarshalFrame` test, 33 bytes long,
a keepalive is cut as a PDU of 33 bytes and waits for 23 more.
-/

namespace Pinecone.Dissector

/-! ## What the tree should show -/

/-- The fields of a tree-routed body. -/
def treeView (destination source : SwitchPorts) (payload : Bytes) : List TreeItem :=
  [.field .payloadLen (be16 payload.length) (some (.uint payload.length)) none,
    .field .destinationLen (be16 (encodePorts destination).length)
      (some (.uint (encodePorts destination).length)) none,
    .field .destination (encodePorts destination) (some (.string (renderPorts destination))) none,
    .field .sourceLen (be16 (encodePorts source).length) (some (.uint (encodePorts source).length)) none,
    .field .source (encodePorts source) (some (.string (renderPorts source))) none]

/-- The items of the ancestor signatures, each labelled with the ports of the
signatures before it. -/
def signaturesView (before : List Nat) : List SignatureWithHop → List TreeItem
  | [] => []
  | signature :: rest =>
    [.text (encodeVaru64 signature.hop) ("Ancestor Signature Coords=" ++ renderPorts before),
      .field .sigport (encodeVaru64 signature.hop) (some (.uint signature.hop)) none,
      .field .sigkey signature.publicKey.val none none,
      .field .sigsig signature.signature.val none none] ++
      signaturesView (before ++ [signature.hop]) rest

/-- The root announcement subtree. The sequence number's item highlights the
first bytes of the payload, as `payload(0, offset)` asks. The coordinates it
provides are the ports of the signatures, root first. -/
def announcementView (announcement : SwitchAnnouncement) : List TreeItem :=
  [.text (encodeAnnouncement announcement)
      ("Root Announcement (" ++ toString (announcement.signatures.map (·.hop)).length ++ " signatures)"),
    .field .rootkey announcement.rootPublicKey.val none none,
    .field .rootseq (announcement.rootPublicKey.val.take (encodeVaru64 announcement.sequence).length)
      (some (.uint announcement.sequence)) none,
    .field .roottgt (encodeAnnouncement announcement) (some (.string "None"))
      (if announcement.signatures.map (·.hop) = [] then none
        else some ("Provides coordinates: " ++ renderPorts (announcement.signatures.map (·.hop))))] ++
    signaturesView [] announcement.signatures

/-- What the tree should show after the header, by type. -/
def FrameBody.view : FrameBody → List TreeItem
  | .keepalive => []
  | .treeAnnouncement destination source announcement =>
    treeView destination source (encodeAnnouncement announcement) ++ announcementView announcement
  | .tree kind destination source payload =>
    treeView destination source payload ++
      if 0 < payload.length ∧ kind = .routed then [.quic payload] else []
  | .bootstrap destinationKey watermarkKey watermarkSequence payload =>
    [.field .watermarkKey watermarkKey.val none none,
      .field .watermarkSeq (encodeVaru64 watermarkSequence) (some (.uint watermarkSequence)) none,
      .field .payloadLen (be16 payload.encode.length) (some (.uint payload.encode.length)) none,
      .field .destinationKey destinationKey.val none none,
      .text payload.encode "Payload",
      .field .bootstrapSeq (encodeVaru64 payload.sequence) (some (.uint payload.sequence)) none,
      .field .rootkey payload.rootPublicKey.val none none,
      .field .rootseq (encodeVaru64 payload.rootSequence) (some (.uint payload.rootSequence)) none,
      .field .sigsig payload.signature.val none none]
  | .snek kind destinationKey sourceKey watermarkKey watermarkSequence payload =>
    [.field .payloadLen (be16 payload.length) (some (.uint payload.length)) none,
      .field .destinationKey destinationKey.val none none,
      .field .sourceKey sourceKey.val none none,
      .field .watermarkKey watermarkKey.val none none,
      .field .watermarkSeq (encodeVaru64 watermarkSequence) (some (.uint watermarkSequence)) none,
      .text payload "Payload"] ++
      if 0 < payload.length ∧ kind = .routed then [.quic payload] else []

/-- What the tree should show for a frame: its header fields, then its body.
Of the payload of a Tree Ping or Tree Pong frame it shows the length only: the
dissector reads that range and adds no item for it. -/
def Frame.view (frame : Frame) : List TreeItem :=
  [.text frame.marshal "Pinecone Protocol",
    .field .frameVersion [frame.version] none none,
    .field .frameType [frame.body.code] none none,
    .field .extraBytes frame.extra.val none none,
    .field .frameLen (be16 frame.marshal.length) (some (.uint frame.marshal.length)) none] ++
    frame.body.view

/-! ## Reading a layout back -/

/-- A range read where a field was written. -/
theorem sub_eq_some {bytes front middle back : Bytes} (whole : bytes = front ++ (middle ++ back))
    (offset length : Nat) (atFront : offset = front.length) (sized : length = middle.length) :
    sub bytes offset length = some middle := by
  subst whole atFront sized
  simpa using sub_middle front middle back

/-- The rest of a buffer from where a field was written. -/
theorem suffix_eq_some {bytes front back : Bytes} (whole : bytes = front ++ back) (offset : Nat)
    (atFront : offset = front.length) : suffix bytes offset = some back := by
  subst whole atFront
  exact suffix_middle front back

/-- A buffer laid out as a list of segments, split around segment `index`. -/
theorem flatten_split (segments : List Bytes) (index : Nat) (inRange : index < segments.length) :
    segments.flatten = (segments.take index).flatten ++
      (segments.get ⟨index, inRange⟩ ++ (segments.drop (index + 1)).flatten) := by
  conv_lhs => rw [← List.take_append_drop index segments, List.drop_eq_getElem_cons inRange]
  simp only [List.flatten_append, List.flatten_cons, List.get_eq_getElem]

/-- A range read over a segment of a buffer laid out as segments. -/
theorem sub_flatten (segments : List Bytes) (index : Nat) (inRange : index < segments.length)
    (middle : Bytes) (isSegment : segments.get ⟨index, inRange⟩ = middle)
    (offset length : Nat) (atSegment : offset = (segments.take index).flatten.length)
    (sized : length = middle.length) : sub segments.flatten offset length = some middle := by
  subst isSegment
  exact sub_eq_some (flatten_split segments index inRange) offset length atSegment sized

/-- The first bytes of a buffer, within its first segment. -/
theorem sub_zero_take {front back : Bytes} {length : Nat} (within : length ≤ front.length) :
    sub (front ++ back) 0 length = some (front.take length) := by
  simp [sub, List.take_append_of_le_length within]
  omega

/-- A one-byte range reads as its byte. -/
@[simp] theorem uint_single (byte : UInt8) : uint [byte] = some byte.toNat := by
  simp [uint]

/-- A varint read where it was written. -/
theorem varu64_split {n : Nat} (rest : Bytes) (fits : n < 2 ^ 32) :
    varu64 (encodeVaru64 n ++ rest) = some (n, (encodeVaru64 n).length) := by
  rw [varu64_encodeVaru64 n rest (by omega), Nat.mod_eq_of_lt fits]

/-- The signature loop reads every signature entry back, and collects their ports. -/
theorem signatureItems_layout (signatures : List SignatureWithHop)
    (fits : ∀ signature ∈ signatures, signature.hop < 2 ^ 32) :
    ∀ (front : Bytes) (offset : Nat) (ports : List Nat), offset = front.length →
      signatureItems (front ++ signatures.flatMap encodeSignature) offset ports =
        some (signaturesView ports signatures, ports ++ signatures.map (·.hop)) := by
  induction signatures with
  | nil =>
    intro front offset ports atEnd
    rw [signatureItems, dif_neg (by simp [atEnd])]
    simp [signaturesView]
  | cons signature rest inductionHypothesis =>
    intro front offset ports atFront
    have small := fits signature (by simp)
    have keyLength := signature.publicKey.property
    have signatureLength := signature.signature.property
    set hop := encodeVaru64 signature.hop
    set key := signature.publicKey.val
    set sig := signature.signature.val
    have later := inductionHypothesis (fun other mem => fits other (by simp [mem]))
      (front ++ encodeSignature signature) (offset + 32 + 64 + hop.length) (ports ++ [signature.hop])
      (by simp [atFront, encodeSignature, hop, keyLength, signatureLength]; omega)
    simp only [encodeSignature, List.append_assoc] at later
    rw [signatureItems, dif_pos (by simp [atFront, encodeSignature, List.flatMap_cons, keyLength])]
    simp only [List.flatMap_cons, encodeSignature, List.append_assoc]
    simp only [suffix_eq_some rfl offset atFront, varu64_split _ small,
      sub_eq_some rfl offset hop.length atFront rfl,
      sub_eq_some (List.append_assoc front hop _).symm (offset + hop.length) 32 (by simp [atFront]) keyLength.symm,
      sub_eq_some (by simp : front ++ (hop ++ (key ++ (sig ++ rest.flatMap encodeSignature))) =
        front ++ hop ++ key ++ (sig ++ rest.flatMap encodeSignature)) (offset + hop.length + 32) 64
        (by simp only [atFront, List.length_append, keyLength]) signatureLength.symm, later]
    simp [signaturesView]

/-- The announcement branch reads an announcement back: its root key and
sequence, and the ports of its signatures as the coordinates it provides. -/
theorem announcementItems_layout (announcement : SwitchAnnouncement)
    (sequenceFits : announcement.sequence < 2 ^ 32)
    (hopsFit : ∀ signature ∈ announcement.signatures, signature.hop < 2 ^ 32) :
    announcementItems (encodeAnnouncement announcement) = some (announcementView announcement) := by
  have keyLength := announcement.rootPublicKey.property
  have sequenceLength := length_encodeVaru64_le (show announcement.sequence < 2 ^ 63 by omega)
  have signatures := signatureItems_layout announcement.signatures hopsFit
    (announcement.rootPublicKey.val ++ encodeVaru64 announcement.sequence)
    ((encodeVaru64 announcement.sequence).length + 32) [] (by simp [keyLength]; omega)
  simp only [List.append_assoc] at signatures
  simp only [announcementItems, encodeAnnouncement, List.append_assoc,
    sub_eq_some (List.nil_append _).symm 0 32 rfl keyLength.symm,
    suffix_eq_some rfl 32 keyLength.symm, varu64_split _ sequenceFits,
    sub_zero_take (show (encodeVaru64 announcement.sequence).length ≤ announcement.rootPublicKey.val.length
      by omega), signatures, List.nil_append]
  simp [announcementView, encodeAnnouncement]

/-- The last branch reads a tree-routed body back, whatever its payload. -/
theorem treeItems_layout (header : Bytes) (headerLength : header.length = 10)
    (destination source : SwitchPorts) (payload : Bytes)
    (portsFit : ∀ port ∈ destination ++ source, port < 2 ^ 32)
    (destinationFits : (encodePorts destination).length < 2 ^ 16)
    (sourceFits : (encodePorts source).length < 2 ^ 16) (payloadFits : payload.length < 2 ^ 16)
    (ftype : Nat) :
    treeItems (header ++ treeBody destination source payload) ftype =
      if ftype = 1 then (announcementItems payload).map (treeView destination source payload ++ ·)
      else if ftype = 2 ∨ ftype = 7 ∨ ftype = 8 then
        some (treeView destination source payload ++
          if 0 < payload.length ∧ ftype = 2 then [.quic payload] else [])
      else some (treeView destination source payload) := by
  obtain ⟨segments, segmentsEq⟩ : ∃ segments : List Bytes, segments =
      [header, be16 payload.length, be16 (encodePorts destination).length, encodePorts destination,
        be16 (encodePorts source).length, encodePorts source, payload] := ⟨_, rfl⟩
  have layout : header ++ treeBody destination source payload = segments.flatten := by
    simp [segmentsEq, treeBody, encodeCoords]
  have destinationText := coords_encodePorts destination (fun port mem => portsFit port (by simp [mem]))
  have sourceText := coords_encodePorts source (fun port mem => portsFit port (by simp [mem]))
  rw [layout]
  simp only [treeItems, fPayloadIdx, headerSize,
    sub_flatten segments 1 (by simp [segmentsEq]) (be16 payload.length) (by simp [segmentsEq]) 10 2
      (by simp [segmentsEq, headerLength]) (by simp),
    uint_be16 payloadFits,
    sub_flatten segments 2 (by simp [segmentsEq]) (be16 (encodePorts destination).length)
      (by simp [segmentsEq]) (10 + 2) 2
      (by simp [segmentsEq, headerLength]) (by simp),
    uint_be16 destinationFits,
    sub_flatten segments 4 (by simp [segmentsEq]) (be16 (encodePorts source).length) (by simp [segmentsEq])
      (10 + 4 + (encodePorts destination).length) 2 (by simp [segmentsEq, headerLength]; omega) (by simp),
    uint_be16 sourceFits,
    sub_flatten segments 3 (by simp [segmentsEq]) (encodePorts destination) (by simp [segmentsEq])
      (10 + 2 + 2)
      (encodePorts destination).length (by simp [segmentsEq, headerLength]) rfl,
    destinationText,
    sub_flatten segments 5 (by simp [segmentsEq]) (encodePorts source) (by simp [segmentsEq])
      (10 + 4 + (encodePorts destination).length + 2) (encodePorts source).length
      (by simp [segmentsEq, headerLength]; omega) rfl,
    sourceText,
    sub_flatten segments 6 (by simp [segmentsEq]) payload (by simp [segmentsEq])
      (10 + 6 + (encodePorts destination).length + (encodePorts source).length) payload.length
      (by simp [segmentsEq, headerLength]; omega) rfl]
  rfl

/-- The bootstrap branch reads a bootstrap body back: its keys, its
watermark, and each field of its payload. -/
theorem bootstrapItems_layout (header : Bytes) (headerLength : header.length = 10)
    (destinationKey watermarkKey : PublicKey) (watermarkSequence : Nat) (payload : BootstrapPayload)
    (watermarkFits : watermarkSequence < 2 ^ 32) (sequenceFits : payload.sequence < 2 ^ 32)
    (rootSequenceFits : payload.rootSequence < 2 ^ 32) (payloadFits : payload.encode.length < 2 ^ 16) :
    bootstrapItems
        (header ++ (FrameBody.bootstrap destinationKey watermarkKey watermarkSequence payload).encode) =
      some (FrameBody.bootstrap destinationKey watermarkKey watermarkSequence payload).view := by
  have destinationKeyLength := destinationKey.property
  have watermarkKeyLength := watermarkKey.property
  have rootKeyLength := payload.rootPublicKey.property
  have signatureLength := payload.signature.property
  obtain ⟨segments, segmentsEq⟩ : ∃ segments : List Bytes, segments =
      [header, be16 payload.encode.length, destinationKey.val, watermarkKey.val,
        encodeVaru64 watermarkSequence, payload.encode] := ⟨_, rfl⟩
  have layout : header ++ (FrameBody.bootstrap destinationKey watermarkKey watermarkSequence payload).encode =
      segments.flatten := by
    simp [segmentsEq, FrameBody.encode]
  obtain ⟨fields, fieldsEq⟩ : ∃ fields : List Bytes, fields =
      [encodeVaru64 payload.sequence, payload.rootPublicKey.val, encodeVaru64 payload.rootSequence,
        payload.signature.val] := ⟨_, rfl⟩
  have payloadLayout : payload.encode = fields.flatten := by
    simp [fieldsEq, BootstrapPayload.encode]
  have sequenceRead : sub payload.encode 0 (encodeVaru64 payload.sequence).length =
      some (encodeVaru64 payload.sequence) := by
    rw [payloadLayout]
    exact sub_flatten fields 0 (by simp [fieldsEq]) _ (by simp [fieldsEq]) 0 _ (by simp) rfl
  have rootKeyRead : sub payload.encode (encodeVaru64 payload.sequence).length 32 =
      some payload.rootPublicKey.val := by
    rw [payloadLayout]
    exact sub_flatten fields 1 (by simp [fieldsEq]) _ (by simp [fieldsEq]) _ 32 (by simp [fieldsEq])
      rootKeyLength.symm
  have rootSequenceRead : sub payload.encode ((encodeVaru64 payload.sequence).length + 32)
      (encodeVaru64 payload.rootSequence).length = some (encodeVaru64 payload.rootSequence) := by
    rw [payloadLayout]
    exact sub_flatten fields 2 (by simp [fieldsEq]) _ (by simp [fieldsEq]) _ _
      (by simp [fieldsEq, rootKeyLength]) rfl
  have signatureRead : sub payload.encode
      ((encodeVaru64 payload.sequence).length + 32 + (encodeVaru64 payload.rootSequence).length) 64 =
      some payload.signature.val := by
    rw [payloadLayout]
    exact sub_flatten fields 3 (by simp [fieldsEq]) _ (by simp [fieldsEq]) _ 64
      (by simp [fieldsEq, rootKeyLength]; omega) signatureLength.symm
  have afterRootKey : suffix payload.encode ((encodeVaru64 payload.sequence).length + 32) =
      some (encodeVaru64 payload.rootSequence ++ payload.signature.val) :=
    suffix_eq_some (show payload.encode = (encodeVaru64 payload.sequence ++ payload.rootPublicKey.val) ++
      (encodeVaru64 payload.rootSequence ++ payload.signature.val) by simp [BootstrapPayload.encode]) _
      (by simp [rootKeyLength])
  have sequenceValue : varu64 payload.encode =
      some (payload.sequence, (encodeVaru64 payload.sequence).length) := by
    rw [BootstrapPayload.encode, List.append_assoc, List.append_assoc, varu64_split _ sequenceFits]
  rw [layout]
  simp only [bootstrapItems, fPayloadIdx, headerSize,
    sub_flatten segments 1 (by simp [segmentsEq]) (be16 payload.encode.length) (by simp [segmentsEq]) 10 2
      (by simp [segmentsEq, headerLength]) (by simp),
    uint_be16 payloadFits,
    sub_flatten segments 2 (by simp [segmentsEq]) destinationKey.val (by simp [segmentsEq]) (10 + 2) 32
      (by simp [segmentsEq, headerLength]) destinationKeyLength.symm,
    sub_flatten segments 3 (by simp [segmentsEq]) watermarkKey.val (by simp [segmentsEq]) (10 + 2 + 32) 32
      (by simp [segmentsEq, headerLength, destinationKeyLength]) watermarkKeyLength.symm,
    suffix_eq_some (show segments.flatten = (header ++ be16 payload.encode.length ++ destinationKey.val ++
        watermarkKey.val) ++ (encodeVaru64 watermarkSequence ++ payload.encode) by simp [segmentsEq])
      (10 + 2 + 64) (by simp [headerLength, destinationKeyLength, watermarkKeyLength]),
    varu64_split _ watermarkFits,
    sub_flatten segments 4 (by simp [segmentsEq]) (encodeVaru64 watermarkSequence) (by simp [segmentsEq])
      (10 + 2 + 64) _ (by simp [segmentsEq, headerLength, destinationKeyLength, watermarkKeyLength]) rfl,
    sub_flatten segments 5 (by simp [segmentsEq]) payload.encode (by simp [segmentsEq])
      (10 + 2 + 32 + 32 + (encodeVaru64 watermarkSequence).length) payload.encode.length
      (by simp [segmentsEq, headerLength, destinationKeyLength, watermarkKeyLength]; omega) rfl,
    suffix_eq_some (List.nil_append payload.encode).symm 0 rfl, sequenceValue, sequenceRead, rootKeyRead,
    afterRootKey, varu64_split _ rootSequenceFits, rootSequenceRead, signatureRead]
  rfl

/-- The SNEK branch reads a SNEK-routed body back: its three keys, its
watermark and its payload. -/
theorem snekItems_layout (header : Bytes) (headerLength : header.length = 10)
    (destinationKey sourceKey watermarkKey : PublicKey) (watermarkSequence : Nat) (payload : Bytes)
    (watermarkFits : watermarkSequence < 2 ^ 32) (payloadFits : payload.length < 2 ^ 16) (ftype : Nat) :
    snekItems (header ++ be16 payload.length ++ destinationKey.val ++ sourceKey.val ++ watermarkKey.val ++
        encodeVaru64 watermarkSequence ++ payload) ftype =
      some ([.field .payloadLen (be16 payload.length) (some (.uint payload.length)) none,
        .field .destinationKey destinationKey.val none none,
        .field .sourceKey sourceKey.val none none,
        .field .watermarkKey watermarkKey.val none none,
        .field .watermarkSeq (encodeVaru64 watermarkSequence) (some (.uint watermarkSequence)) none,
        .text payload "Payload"] ++
        if 0 < payload.length ∧ ftype = 4 then [.quic payload] else []) := by
  have destinationKeyLength := destinationKey.property
  have sourceKeyLength := sourceKey.property
  have watermarkKeyLength := watermarkKey.property
  obtain ⟨segments, segmentsEq⟩ : ∃ segments : List Bytes, segments =
      [header, be16 payload.length, destinationKey.val, sourceKey.val, watermarkKey.val,
        encodeVaru64 watermarkSequence, payload] := ⟨_, rfl⟩
  have layout : header ++ be16 payload.length ++ destinationKey.val ++ sourceKey.val ++ watermarkKey.val ++
      encodeVaru64 watermarkSequence ++ payload = segments.flatten := by
    simp [segmentsEq]
  rw [layout]
  simp only [snekItems, fPayloadIdx, headerSize,
    sub_flatten segments 1 (by simp [segmentsEq]) (be16 payload.length) (by simp [segmentsEq]) 10 2
      (by simp [segmentsEq, headerLength]) (by simp),
    uint_be16 payloadFits,
    sub_flatten segments 2 (by simp [segmentsEq]) destinationKey.val (by simp [segmentsEq]) (10 + 2) 32
      (by simp [segmentsEq, headerLength]) destinationKeyLength.symm,
    sub_flatten segments 3 (by simp [segmentsEq]) sourceKey.val (by simp [segmentsEq]) (10 + 2 + 32) 32
      (by simp [segmentsEq, headerLength, destinationKeyLength]) sourceKeyLength.symm,
    sub_flatten segments 4 (by simp [segmentsEq]) watermarkKey.val (by simp [segmentsEq]) (10 + 2 + 32 + 32)
      32 (by simp [segmentsEq, headerLength, destinationKeyLength, sourceKeyLength]) watermarkKeyLength.symm,
    suffix_eq_some (show segments.flatten = (header ++ be16 payload.length ++ destinationKey.val ++
        sourceKey.val ++ watermarkKey.val) ++ (encodeVaru64 watermarkSequence ++ payload) by simp [segmentsEq])
      (10 + 2 + 64 + 32) (by simp [headerLength, destinationKeyLength, sourceKeyLength, watermarkKeyLength]),
    varu64_split _ watermarkFits,
    sub_flatten segments 5 (by simp [segmentsEq]) (encodeVaru64 watermarkSequence) (by simp [segmentsEq])
      (10 + 2 + 64 + 32) _
      (by simp [segmentsEq, headerLength, destinationKeyLength, sourceKeyLength, watermarkKeyLength]) rfl,
    sub_flatten segments 6 (by simp [segmentsEq]) payload (by simp [segmentsEq])
      (10 + 2 + 64 + 32 + (encodeVaru64 watermarkSequence).length) payload.length
      (by simp [segmentsEq, headerLength, destinationKeyLength, sourceKeyLength, watermarkKeyLength]; omega)
      rfl]

/-! ## Frames and streams -/

/-- `do_pinecone_dissect` reads a header back and picks its branch by the
type byte. -/
theorem doPineconeDissect_header (version code : UInt8) (extra : SizedBytes 2) (total : Nat)
    (body : Bytes) (totalFits : total < 2 ^ 16) :
    doPineconeDissect (frameHeader version code extra total ++ body) =
      let buffer := frameHeader version code extra total ++ body
      let header := [.text buffer "Pinecone Protocol",
        .field .frameVersion [version] none none,
        .field .frameType [code] none none,
        .field .extraBytes extra.val none none,
        .field .frameLen (be16 total) (some (.uint total)) none]
      if code.toNat = 0 then some header
      else if code.toNat = 3 then (bootstrapItems buffer).map (header ++ ·)
      else if code.toNat = 4 ∨ code.toNat = 5 ∨ code.toNat = 6 then
        (snekItems buffer code.toNat).map (header ++ ·)
      else (treeItems buffer code.toNat).map (header ++ ·) := by
  have extraLength := extra.property
  obtain ⟨segments, segmentsEq⟩ : ∃ segments : List Bytes, segments =
      [frameMagicBytes, [version], [code], extra.val, be16 total, body] := ⟨_, rfl⟩
  have layout : frameHeader version code extra total ++ body = segments.flatten := by
    simp [segmentsEq, frameHeader]
  rw [layout]
  simp only [doPineconeDissect,
    sub_flatten segments 1 (by simp [segmentsEq]) [version] (by simp [segmentsEq]) 4 1
      (by simp [segmentsEq, frameMagicBytes]) rfl,
    sub_flatten segments 2 (by simp [segmentsEq]) [code] (by simp [segmentsEq]) 5 1
      (by simp [segmentsEq, frameMagicBytes]) rfl,
    sub_flatten segments 3 (by simp [segmentsEq]) extra.val (by simp [segmentsEq]) 6 2
      (by simp [segmentsEq, frameMagicBytes]) extraLength.symm,
    sub_flatten segments 4 (by simp [segmentsEq]) (be16 total) (by simp [segmentsEq]) 8 2
      (by simp [segmentsEq, frameMagicBytes, extraLength]) (by simp),
    uint_be16 totalFits, uint_single]

/-- `do_pinecone_dissect` shows every well-formed frame as `Frame.view` says. -/
theorem doPineconeDissect_marshal (frame : Frame) (wellFormed : frame.WellFormed) :
    doPineconeDissect frame.marshal = some frame.view := by
  obtain ⟨varintsFit, lengthFits⟩ := wellFormed
  obtain ⟨version, extra, body⟩ := frame
  rw [length_marshal] at lengthFits
  simp only [Frame.view, length_marshal]
  simp only [Frame.marshal]
  rw [doPineconeDissect_header _ _ _ _ _ lengthFits]
  dsimp only
  cases body with
  | keepalive => simp [FrameBody.code, FrameBody.view, Frame.marshal]
  | treeAnnouncement destination source announcement =>
    simp only [FrameBody.encode, treeBody, encodeCoords, List.length_append, length_be16] at lengthFits
    simp only [FrameBody.varints, List.mem_append, List.mem_cons, List.mem_map] at varintsFit
    rw [FrameBody.encode, treeItems_layout _ (by simp) destination source _
      (fun port mem => varintsFit port (by simp_all)) (by omega) (by omega) (by omega),
      announcementItems_layout announcement (varintsFit _ (by simp))
        (fun signature mem => varintsFit _ (.inr (.inr ⟨signature, mem, rfl⟩)))]
    simp [FrameBody.code, FrameBody.view, Frame.marshal, FrameBody.encode]
  | tree kind destination source payload =>
    simp only [FrameBody.encode, treeBody, encodeCoords, List.length_append, length_be16] at lengthFits
    simp only [FrameBody.varints] at varintsFit
    rw [FrameBody.encode, treeItems_layout _ (by simp) destination source _ varintsFit
      (by omega) (by omega) (by omega)]
    cases kind <;> simp [FrameBody.code, TreeType.code, UInt8.size, FrameBody.view, Frame.marshal, FrameBody.encode]
  | bootstrap destinationKey watermarkKey watermarkSequence payload =>
    simp only [FrameBody.encode, List.length_append, length_be16] at lengthFits
    simp only [FrameBody.varints, List.mem_cons, List.mem_singleton] at varintsFit
    rw [bootstrapItems_layout _ (by simp) destinationKey watermarkKey watermarkSequence payload
      (varintsFit _ (by simp)) (varintsFit _ (by simp)) (varintsFit _ (by simp)) (by omega)]
    simp [FrameBody.code, FrameBody.view, Frame.marshal]
  | snek kind destinationKey sourceKey watermarkKey watermarkSequence payload =>
    simp only [FrameBody.encode, List.length_append, length_be16] at lengthFits
    simp only [FrameBody.varints, List.mem_singleton] at varintsFit
    simp only [FrameBody.encode, ← List.append_assoc]
    rw [snekItems_layout _ (by simp) destinationKey sourceKey watermarkKey watermarkSequence payload
      (varintsFit _ rfl) (by omega)]
    cases kind <;> simp [FrameBody.code, SnekType.code, UInt8.size, FrameBody.view, Frame.marshal, FrameBody.encode]

/-- `do_pinecone_length` reads a frame's total length from its header,
whatever follows the frame and whatever offset it is given. -/
theorem doPineconeLength_marshal (frame : Frame) (lengthFits : frame.marshal.length < 2 ^ 16)
    (rest : Bytes) (offset : Nat) : doPineconeLength (frame.marshal ++ rest) offset = some frame.marshal.length := by
  have extraLength := frame.extra.property
  rw [length_marshal] at lengthFits ⊢
  rw [doPineconeLength, sub_eq_some (show frame.marshal ++ rest =
      (frameMagicBytes ++ [frame.version, frame.body.code] ++ frame.extra.val) ++
        (be16 (10 + frame.body.encode.length) ++ (frame.body.encode ++ rest)) by
      simp [Frame.marshal, frameHeader]) 8 2 (by simp [frameMagicBytes, extraLength]) (by simp)]
  exact uint_be16 lengthFits

/-! ## `dissect_tcp_pdus` step by step -/

section Pdus

variable {minHeaderSize plen : Nat} {getLen : Bytes → Nat → Option Nat}
  {dissect : Bytes → Option (List TreeItem)} {tvb : Bytes} {offset : Nat}

/-- A PDU at least a header long that fits in what remains is dissected, and
the loop goes on after it. -/
theorem dissectTcpPdus_cut {items : List TreeItem} (length : getLen tvb offset = some plen)
    (header : minHeaderSize ≤ plen) (positive : 0 < plen) (fits : plen ≤ tvb.length - offset)
    (dissected : dissect ((tvb.drop offset).take plen) = some items) :
    dissectTcpPdus minHeaderSize getLen dissect tvb offset =
      (dissectTcpPdus minHeaderSize getLen dissect tvb (offset + plen)).map fun result =>
        (((tvb.drop offset).take plen, items) :: result.1, result.2) := by
  rw [dissectTcpPdus, if_neg (by omega)]
  simp only [length]
  rw [dif_neg (by omega)]
  simp only [dissected]
  cases dissectTcpPdus minHeaderSize getLen dissect tvb (offset + plen) <;> rfl

/-- A PDU longer than what remains waits for more data, with the bytes from
its start left. -/
theorem dissectTcpPdus_waits (length : getLen tvb offset = some plen) (header : minHeaderSize ≤ tvb.length - offset)
    (positive : 0 < tvb.length - offset) (over : tvb.length - offset < plen) :
    dissectTcpPdus minHeaderSize getLen dissect tvb offset = some ([], tvb.drop offset) := by
  rw [dissectTcpPdus, if_neg (by omega)]
  simp only [length]
  rw [dif_pos (.inr (.inr over))]

end Pdus

/-- A frame starts with the magic bytes, whatever follows it. -/
theorem take_marshal_append (frame : Frame) (rest : Bytes) :
    (frame.marshal ++ rest).take 4 = frameMagicBytes := by
  simp [Frame.marshal, frameHeader, frameMagicBytes]

/-! ## Two frames in one buffer -/

/-- The frame `TestMarshalUnmarshalFrame` marshals. -/
def testVectorFrame : Frame :=
  ⟨0, ⟨[0, 0], rfl⟩, .tree .routed [1, 2, 3, 4, 5000] [4, 3, 2, 1] [65, 66, 67, 68, 69, 70, 71]⟩

/-- A keepalive, a header and nothing else. -/
def keepaliveFrame : Frame := ⟨0, ⟨[0, 0], rfl⟩, .keepalive⟩

theorem length_testVectorFrame : testVectorFrame.marshal.length = 33 := by
  rw [length_marshal]
  simp [testVectorFrame, FrameBody.encode, treeBody, encodeCoords, encodePorts, encodeVaru64, leadingGroups]

theorem testVectorFrame_wellFormed : testVectorFrame.WellFormed :=
  ⟨by decide, by rw [length_testVectorFrame]; decide⟩

/-- The test's frame followed by a keepalive, as one TCP segment holds them. -/
def testVectorThenKeepalive : Bytes := testVectorFrame.marshal ++ keepaliveFrame.marshal

/-- At the keepalive, 33 bytes into the buffer, `do_pinecone_length` reads the
first frame's length again, 33, where the keepalive's header says 10: the
dissector shows the first frame and leaves the keepalive waiting for 23 more
bytes. -/
theorem keepalive_after_test_vector_left_waiting :
    doPineconeLength testVectorThenKeepalive testVectorFrame.marshal.length = some 33 ∧
      keepaliveFrame.marshal.length = 10 ∧
      pineconeProtocolDissector testVectorThenKeepalive =
        some (some ([(testVectorFrame.marshal, testVectorFrame.view)], keepaliveFrame.marshal)) := by
  have length : ∀ offset, doPineconeLength testVectorThenKeepalive offset = some 33 := fun offset => by
    rw [testVectorThenKeepalive, doPineconeLength_marshal _ testVectorFrame_wellFormed.2, length_testVectorFrame]
  have keepaliveLength : keepaliveFrame.marshal.length = 10 := rfl
  have total : testVectorThenKeepalive.length = 43 := by
    rw [testVectorThenKeepalive, List.length_append, length_testVectorFrame, keepaliveLength]
  have first : (testVectorThenKeepalive.drop 0).take 33 = testVectorFrame.marshal := by
    rw [List.drop_zero, testVectorThenKeepalive, ← length_testVectorFrame, List.take_left]
  have rest : testVectorThenKeepalive.drop (0 + 33) = keepaliveFrame.marshal := by
    rw [Nat.zero_add, testVectorThenKeepalive, ← length_testVectorFrame, List.drop_left]
  refine ⟨length _, keepaliveLength, ?_⟩
  rw [pineconeProtocolDissector, if_neg (by rw [total]; decide),
    if_neg (by rw [testVectorThenKeepalive, take_marshal_append]; exact not_not.mpr rfl),
    dissectTcpPdus_cut (length 0) (by decide) (by decide) (by rw [total]; decide)
      (by rw [first]; exact doPineconeDissect_marshal _ testVectorFrame_wellFormed),
    dissectTcpPdus_waits (length _) (by rw [total]; decide) (by rw [total]; decide) (by rw [total]; decide), rest,
    first]
  rfl

end Pinecone.Dissector
