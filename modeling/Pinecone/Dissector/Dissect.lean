import Pinecone.Dissector.Layout

/-!
# `do_pinecone_length`, `do_pinecone_dissect` and the heuristic dissector

The dissector registers as a heuristic on TCP. It turns down a buffer that
is shorter than a header or does not start with `"pine"`, and otherwise
hands it to Wireshark's `dissect_tcp_pdus`, which cuts it into PDUs of the
lengths `do_pinecone_length` reads and dissects each with
`do_pinecone_dissect`. That builds the protocol tree: a line per field it
adds, with the bytes it highlights and the value it shows.

`dissect_tcp_pdus` calls the length function with the whole buffer and the
offset where the next PDU starts. `do_pinecone_length` names that argument
`tree` and reads bytes 8 and 9 of the buffer, so every PDU after the first is
given the length of the first.

A Lua error (a range past the end of the buffer, a varint running off it)
aborts the dissection; it is `none` here. The Info and Protocol columns are
not modelled.
-/

namespace Pinecone.Dissector

/-- `header_size`. -/
def headerSize : Nat := 10

/-- `f_payload_idx`, where the body starts. -/
def fPayloadIdx : Nat := headerSize

/-- The `ProtoField`s the dissector adds to the tree. -/
inductive Field where
  | frameVersion
  | frameType
  | extraBytes
  | frameLen
  | destinationLen
  | sourceLen
  | payloadLen
  | destination
  | source
  | destinationKey
  | sourceKey
  | rootkey
  | rootseq
  | roottgt
  | sigport
  | sigkey
  | sigsig
  | bootstrapSeq
  | watermarkKey
  | watermarkSeq
  deriving DecidableEq, Repr

/-- A value passed to `add` besides the range. -/
inductive FieldValue where
  | uint (value : Nat)
  | string (value : String)
  deriving DecidableEq, Repr

/-- A line of the protocol tree, in the order the dissector adds them. -/
inductive TreeItem where
  /-- `tree:add(field, range[, value])`: without a value the field shows the
  range; `text` is what a later `set_text` replaced its text with. -/
  | field (field : Field) (covers : Bytes) (value : Option FieldValue) (text : Option String)
  /-- A text item over a range, with its last label. -/
  | text (covers : Bytes) (label : String)
  /-- `Dissector.get("quic"):call(range:tvb(), pinfo, tree)`. -/
  | quic (data : Bytes)
  deriving DecidableEq, Repr

/-- `do_pinecone_length(buffer, pinfo, tree)`: bytes 8 and 9 of the buffer it
is given, whatever its third argument, the offset of the PDU. -/
def doPineconeLength (buffer : Bytes) (_tree : Nat) : Option Nat := (sub buffer 8 2).bind uint

/-- The `Bootstrap` branch. -/
def bootstrapItems (buffer : Bytes) : Option (List TreeItem) := do
  let some plenRange := sub buffer fPayloadIdx 2 | none
  let some plen := uint plenRange | none
  let some dstkey := sub buffer (fPayloadIdx + 2) 32 | none
  let some wmarkkey := sub buffer (fPayloadIdx + 2 + 32) 32 | none
  let some afterKeys := suffix buffer (fPayloadIdx + 2 + 64) | none
  let some (wmarkseq, offset) := varu64 afterKeys | none
  let some wmarkseqRange := sub buffer (fPayloadIdx + 2 + 64) offset | none
  let some pload := sub buffer (fPayloadIdx + 2 + 32 + 32 + offset) plen | none
  let some fromStart := suffix pload 0 | none
  let some (seq, seqLength) := varu64 fromStart | none
  let some seqRange := sub pload 0 seqLength | none
  let some rootKey := sub pload seqLength 32 | none
  let some afterRootKey := suffix pload (seqLength + 32) | none
  let some (rootSeq, rootOffset) := varu64 afterRootKey | none
  let some rootSeqRange := sub pload (seqLength + 32) rootOffset | none
  let some signature := sub pload (seqLength + 32 + rootOffset) 64 | none
  some [.field .watermarkKey wmarkkey none none,
    .field .watermarkSeq wmarkseqRange (some (.uint wmarkseq)) none,
    .field .payloadLen plenRange (some (.uint plen)) none,
    .field .destinationKey dstkey none none,
    .text pload "Payload",
    .field .bootstrapSeq seqRange (some (.uint seq)) none,
    .field .rootkey rootKey none none,
    .field .rootseq rootSeqRange (some (.uint rootSeq)) none,
    .field .sigsig signature none none]

/-- The `SNEK Routed`, `SNEK Ping` and `SNEK Pong` branch. -/
def snekItems (buffer : Bytes) (ftype : Nat) : Option (List TreeItem) := do
  let some plenRange := sub buffer fPayloadIdx 2 | none
  let some plen := uint plenRange | none
  let some dstkey := sub buffer (fPayloadIdx + 2) 32 | none
  let some srckey := sub buffer (fPayloadIdx + 2 + 32) 32 | none
  let some wmarkkey := sub buffer (fPayloadIdx + 2 + 32 + 32) 32 | none
  let some afterKeys := suffix buffer (fPayloadIdx + 2 + 64 + 32) | none
  let some (wmarkseq, offset) := varu64 afterKeys | none
  let some wmarkseqRange := sub buffer (fPayloadIdx + 2 + 64 + 32) offset | none
  let some pload := sub buffer (fPayloadIdx + 2 + 64 + 32 + offset) plen | none
  some ([.field .payloadLen plenRange (some (.uint plen)) none,
    .field .destinationKey dstkey none none,
    .field .sourceKey srckey none none,
    .field .watermarkKey wmarkkey none none,
    .field .watermarkSeq wmarkseqRange (some (.uint wmarkseq)) none,
    .text pload "Payload"] ++
    if 0 < plen ∧ ftype = 4 then [.quic pload] else [])

/-- The `while offset < payload:len()` loop over an announcement's ancestor
signatures, from `offset` with the ports read so far: the items it adds and
all the ports. -/
def signatureItems (payload : Bytes) (offset : Nat) (ports : List Nat) :
    Option (List TreeItem × List Nat) :=
  if _within : offset < payload.length then do
    let some rest := suffix payload offset | none
    let some (seq, o) := varu64 rest | none
    let some portRange := sub payload offset o | none
    let some key := sub payload (offset + o) 32 | none
    let some signature := sub payload (offset + o + 32) 64 | none
    let some (later, allPorts) := signatureItems payload (offset + 32 + 64 + o) (ports ++ [seq]) | none
    some ([.text portRange ("Ancestor Signature Coords=" ++ renderPorts ports),
      .field .sigport portRange (some (.uint seq)) none,
      .field .sigkey key none none,
      .field .sigsig signature none none] ++ later, allPorts)
  else some ([], ports)
termination_by payload.length - offset

/-- The `Tree Announcement` branch, on the frame's payload. -/
def announcementItems (payload : Bytes) : Option (List TreeItem) := do
  let some rootKey := sub payload 0 32 | none
  let some afterRootKey := suffix payload 32 | none
  let some (seq, offset) := varu64 afterRootKey | none
  let some seqRange := sub payload 0 offset | none
  let some (signatures, ports) := signatureItems payload (offset + 32) [] | none
  some ([.text payload ("Root Announcement (" ++ toString ports.length ++ " signatures)"),
    .field .rootkey rootKey none none,
    .field .rootseq seqRange (some (.uint seq)) none,
    .field .roottgt payload (some (.string "None"))
      (if ports = [] then none else some ("Provides coordinates: " ++ renderPorts ports))] ++
    signatures)

/-- The last branch: every other type is read as a tree-routed frame, and the
announcement and QUIC parts depend on the type. -/
def treeItems (buffer : Bytes) (ftype : Nat) : Option (List TreeItem) := do
  let some plenRange := sub buffer fPayloadIdx 2 | none
  let some plen := uint plenRange | none
  let some dlenRange := sub buffer (fPayloadIdx + 2) 2 | none
  let some dlen := uint dlenRange | none
  let some slenRange := sub buffer (fPayloadIdx + 4 + dlen) 2 | none
  let some slen := uint slenRange | none
  let some dstRange := sub buffer (fPayloadIdx + 2 + 2) dlen | none
  let some dstcoords := coords dstRange | none
  let some srcRange := sub buffer (fPayloadIdx + 4 + dlen + 2) slen | none
  let some srccoords := coords srcRange | none
  let some payload := sub buffer (fPayloadIdx + 6 + dlen + slen) plen | none
  let common := [.field .payloadLen plenRange (some (.uint plen)) none,
    .field .destinationLen dlenRange (some (.uint dlen)) none,
    .field .destination dstRange (some (.string dstcoords)) none,
    .field .sourceLen slenRange (some (.uint slen)) none,
    .field .source srcRange (some (.string srccoords)) none]
  if ftype = 1 then (announcementItems payload).map (common ++ ·)
  else if ftype = 2 ∨ ftype = 7 ∨ ftype = 8 then
    some (common ++ if 0 < plen ∧ ftype = 2 then [.quic payload] else [])
  else some common

/-- `do_pinecone_dissect` on one PDU. -/
def doPineconeDissect (buffer : Bytes) : Option (List TreeItem) := do
  let some version := sub buffer 4 1 | none
  let some type := sub buffer 5 1 | none
  let some extra := sub buffer 6 2 | none
  let some lenRange := sub buffer 8 2 | none
  let some len := uint lenRange | none
  let header := [.text buffer "Pinecone Protocol",
    .field .frameVersion version none none,
    .field .frameType type none none,
    .field .extraBytes extra none none,
    .field .frameLen lenRange (some (.uint len)) none]
  let some ftype := uint type | none
  if ftype = 0 then some header
  else if ftype = 3 then (bootstrapItems buffer).map (header ++ ·)
  else if ftype = 4 ∨ ftype = 5 ∨ ftype = 6 then (snekItems buffer ftype).map (header ++ ·)
  else (treeItems buffer ftype).map (header ++ ·)

/-- Wireshark's `dissect_tcp_pdus(tvb, tree, min_header_size, get_len_func,
dissect_func)`, which is not among the sources, as it works on one buffer
`tvb` from the offset of the next PDU: while bytes remain and at least
`min_header_size` of them, call `get_len_func` with the whole buffer and that
offset; stop at a length of zero or below `min_header_size`, or longer than
what remains (that PDU waits for more data); otherwise hand that many bytes to
`dissect_func` and go on after them. The PDUs dissected come with the bytes
left. -/
def dissectTcpPdus (minHeaderSize : Nat) (getLen : Bytes → Nat → Option Nat)
    (dissect : Bytes → Option (List TreeItem)) (tvb : Bytes) (offset : Nat) :
    Option (List (Bytes × List TreeItem) × Bytes) :=
  if tvb.length - offset = 0 ∨ tvb.length - offset < minHeaderSize then some ([], tvb.drop offset)
  else do
    let some plen := getLen tvb offset | none
    if _short : plen = 0 ∨ plen < minHeaderSize ∨ tvb.length - offset < plen then some ([], tvb.drop offset)
    else do
      let some items := dissect ((tvb.drop offset).take plen) | none
      let some (later, left) := dissectTcpPdus minHeaderSize getLen dissect tvb (offset + plen) | none
      some (((tvb.drop offset).take plen, items) :: later, left)
termination_by tvb.length - offset
decreasing_by omega

/-- `pinecone_protocol.dissector`: `none` when it turns the buffer down,
otherwise what `dissect_tcp_pdus` does with it from its start. -/
def pineconeProtocolDissector (buffer : Bytes) : Option (Option (List (Bytes × List TreeItem) × Bytes)) :=
  if buffer.length < headerSize then none
  else if buffer.take 4 ≠ frameMagicBytes then none
  else some (dissectTcpPdus headerSize doPineconeLength doPineconeDissect buffer 0)

end Pinecone.Dissector
