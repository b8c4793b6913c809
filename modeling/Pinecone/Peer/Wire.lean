import Pinecone.Peer.Reader
import Pinecone.Peer.Handoff

/-!
# One connection: `send` at one end, `Peer.reader` at the other

`Peer.writer`'s `send` marshals a frame, checks its magic bytes and calls
`p.conn.Write` on what remains until nothing does. A `Write` may take fewer
bytes than it is given; the loop writes the rest on the next call, and a
failed `Write` disconnects the peer. `Frame.MarshalBinary` is not among the
sources and is a parameter.

At the other end the reader peeks twelve bytes, drops one with
`p.conn.Discard(1)` when they do not start with the magic, and otherwise reads
as many bytes as its header switch asks for. Here the connection is the list of
bytes the far end has written and this end has not read yet, once the far end
has closed it: a `Peek` past the end fails with `io.EOF`, as `bufio` does, and
`io.ReadFull` past the end with `io.EOF` or `io.ErrUnexpectedEOF`. Each pass of
`Peer.reader` is the pass of `Pinecone.Peer.Reader` on the round this stream
resolves, so every result there holds of the reader on a stream.

Frames cross the connection whole, in order and once each: a `send` that
returns `nil` has written exactly the frame's bytes, whatever the partial
writes, and a reader at a frame boundary forwards the frames in the order they
were sent, given that the codec sizes and decodes each frame as the reader's
header switch expects. A reader that starts anywhere else drops the bytes
before the first magic one by one. Put together with the writer's `select`
loop of `Pinecone.Peer.Handoff`, the frames queued for a peer reach the reader
at the far end in the order the writer drains them.
-/

namespace Pinecone

/-! ## `send` -/

/-- What one `p.conn.Write(remaining)` returns: how many bytes it wrote, and its
error. -/
structure WriteResult where
  count : Nat
  err : Option IOError
  deriving DecidableEq, Repr

/-- How `send` ends. -/
inductive SendOutcome where
  /-- `return nil`, after `p.conn.Flush()`. -/
  | sent
  /-- `frame.MarshalBinary` failed: the error is logged and returned. -/
  | marshalFailed (err : String)
  /-- `panic("expected magic bytes")`. -/
  | panicked
  /-- `p.r.Disconnect(p.port, fmt.Errorf(call + ": %w", err))`, after which the
  error is returned. -/
  | disconnected (call : String) (err : IOError)
  /-- Still in the write loop when the `Write` results given run out. -/
  | writing
  deriving DecidableEq, Repr

/-- The loop `for len(remaining) > 0`, with the results of its `Write`s in
turn: the bytes it writes, and how it ends. A failed `Write` has still written
the bytes it counts. -/
def writeRemaining : List WriteResult → List UInt8 → List UInt8 × SendOutcome
  | _, [] => ([], .sent)
  | [], _ :: _ => ([], .writing)
  | result :: later, remaining@(_ :: _) =>
    match result.err with
    | some err => (remaining.take result.count, .disconnected "p.conn.Write" err)
    | none =>
      let rest := writeRemaining later (remaining.drop result.count)
      (remaining.take result.count ++ rest.1, rest.2)

/-- `send(frame)` in `Peer.writer`: a nil frame writes nothing; otherwise the
frame is marshalled, its first four bytes are checked against the magic, and
its bytes are written. -/
def send {F : Type} (marshalBinary : F → Except String (List UInt8)) (frame : Option F)
    (results : List WriteResult) : List UInt8 × SendOutcome :=
  match frame with
  | none => ([], .sent)
  | some frame =>
    match marshalBinary frame with
    | .error err => ([], .marshalFailed err)
    | .ok bytes =>
      if bytes.take 4 ≠ frameMagicBytes then ([], .panicked)
      else writeRemaining results bytes

/-- The write loop only ever writes a prefix of its bytes. -/
theorem writeRemaining_isPrefix (results : List WriteResult) :
    ∀ bytes : List UInt8, (writeRemaining results bytes).1.IsPrefix bytes := by
  induction results with
  | nil => rintro (_ | ⟨_, _⟩) <;> exact List.nil_prefix
  | cons result later ih =>
    rintro (_ | ⟨byte, bytes⟩)
    · exact List.nil_prefix
    · simp only [writeRemaining]
      split
      · exact List.take_prefix _ _
      · conv => rhs; rw [← List.take_append_drop result.count (byte :: bytes)]
        exact (List.prefix_append_right_inj _).mpr (ih _)

/-- When the write loop ends with `nil`, it has written all its bytes. -/
theorem writeRemaining_sent (results : List WriteResult) :
    ∀ bytes : List UInt8, (writeRemaining results bytes).2 = .sent → (writeRemaining results bytes).1 = bytes := by
  induction results with
  | nil => rintro (_ | ⟨_, _⟩) <;> simp [writeRemaining]
  | cons result later ih =>
    rintro (_ | ⟨byte, bytes⟩) ended
    · rfl
    · simp only [writeRemaining] at ended ⊢
      split at ended
      · simp_all
      · simp_all only [List.take_append_drop]

/-- `Write`s that each take at least one byte without error end the loop with
`nil` within as many calls as there are bytes. -/
theorem writeRemaining_of_progress (results : List WriteResult)
    (progress : ∀ result ∈ results, result.err = none ∧ 0 < result.count) :
    ∀ bytes : List UInt8, bytes.length ≤ results.length → writeRemaining results bytes = (bytes, .sent) := by
  induction results with
  | nil => rintro (_ | ⟨_, _⟩) short <;> simp_all [writeRemaining]
  | cons result later ih =>
    rintro (_ | ⟨byte, bytes⟩) short
    · rfl
    · obtain ⟨clean, taken⟩ := progress result (List.mem_cons_self _ _)
      have rest := ih (fun r mem => progress r (List.mem_cons_of_mem _ mem)) ((byte :: bytes).drop result.count)
        (by simp only [List.length_drop, List.length_cons] at short ⊢; omega)
      simp only [writeRemaining, clean, rest, List.take_append_drop]

/-- What `send` does with a frame whose marshalled bytes carry the magic: it
writes a prefix of them, and all of them when it returns `nil`; `Write`s that
each take at least one byte without error make it return `nil` within as many
calls as the frame has bytes. -/
theorem send_writes_frame_bytes {F : Type} (marshalBinary : F → Except String (List UInt8)) (frame : F)
    (bytes : List UInt8) (marshalled : marshalBinary frame = .ok bytes) (magic : bytes.take 4 = frameMagicBytes)
    (results : List WriteResult) :
    let sending := send marshalBinary (some frame) results
    sending.1.IsPrefix bytes ∧ (sending.2 = .sent → sending.1 = bytes) ∧
      ((∀ result ∈ results, result.err = none ∧ 0 < result.count) → bytes.length ≤ results.length →
        sending = (bytes, .sent)) := by
  simp only [send, marshalled, magic, ne_eq, not_true_eq_false, if_false]
  exact ⟨writeRemaining_isPrefix results bytes, writeRemaining_sent results bytes,
    fun progress short => writeRemaining_of_progress results progress bytes short⟩

/-- A frame that is only a header: the magic and eight zero bytes. -/
def keepaliveBytes : List UInt8 := frameMagicBytes ++ List.replicate 8 0

/-- A marshaller for one frame, the header-only one. -/
def keepaliveMarshal : Unit → Except String (List UInt8) := fun _ => .ok keepaliveBytes

/-- A `Write` that takes five bytes, then one that takes seven. -/
def twoPartWrites : List WriteResult := [⟨5, none⟩, ⟨7, none⟩]

theorem keepalive_written_in_two_parts :
    keepaliveMarshal () = .ok keepaliveBytes ∧ keepaliveBytes.take 4 = frameMagicBytes ∧
      let sending := send keepaliveMarshal (some ()) twoPartWrites
      sending.1.IsPrefix keepaliveBytes ∧ (sending.2 = .sent → sending.1 = keepaliveBytes) ∧
        ((∀ result ∈ twoPartWrites, result.err = none ∧ 0 < result.count) →
          keepaliveBytes.length ≤ twoPartWrites.length → sending = (keepaliveBytes, .sent)) :=
  ⟨rfl, by decide, send_writes_frame_bytes keepaliveMarshal () keepaliveBytes rfl (by decide) twoPartWrites⟩

/-- A send that returns `nil` has written the bytes the frame marshals to. -/
theorem send_sent {F : Type} {marshalBinary : F → Except String (List UInt8)} {frame : F}
    {results : List WriteResult} (ended : (send marshalBinary (some frame) results).2 = .sent) :
    marshalBinary frame = .ok (send marshalBinary (some frame) results).1 := by
  simp only [send] at ended ⊢
  split at ended
  · cases ended
  · rename_i bytes marshalled
    rw [marshalled]
    by_cases magic : bytes.take 4 = frameMagicBytes
    · simp only [magic, ne_eq, not_true_eq_false, if_false] at ended ⊢
      rw [writeRemaining_sent results bytes ended]
    · simp [magic] at ended

/-! ## The reader on a stream -/

/-- `p.conn.Peek(12)` on the bytes left: twelve of them, or `io.EOF` when fewer
are left. -/
def peekStream (stream : List UInt8) : Except IOError (SizedBytes 12) :=
  if fits : 12 ≤ stream.length then .ok ⟨stream.take 12, by simp [fits]⟩ else .error .eof

/-- `io.ReadFull(p.conn, buf[:want])` on the bytes left: `want` of them, or all
that is left with `io.EOF` when nothing is and `io.ErrUnexpectedEOF` otherwise. -/
def readFullStream (stream : List UInt8) (want : Nat) : List UInt8 × Option IOError :=
  if want ≤ stream.length then (stream.take want, none)
  else (stream, some (if stream = [] then .eof else .unexpectedEOF))

/-- The round a pass reads from the stream, given whether it finds the context
done and the outcomes of its forwarding step. -/
def ReaderRound.onStream (cancelled : Bool) (forwarding : ForwardEnvironment) (stream : List UInt8) :
    ReaderRound :=
  ⟨cancelled, peekStream stream, readFullStream stream, forwarding⟩

/-- How many bytes a pass takes off the stream: none when it finds the context
done or its `Peek` fails, the one `Discard(1)` drops when the peeked bytes do
not start with the magic, and otherwise what `io.ReadFull` reads. -/
def streamTakes (codec : ReaderCodec) (cancelled : Bool) (stream : List UInt8) : Nat :=
  if cancelled ∨ stream.length < 12 then 0
  else if stream.take 4 ≠ frameMagicBytes then 1
  else min (expecting codec ((stream.take 12).drop 4)) stream.length

/-- The rounds of the reader's passes on `stream`, given for each pass whether
it finds the context done and its forwarding outcomes: each reads what the
passes before it left. -/
def streamRounds (codec : ReaderCodec) : List (Bool × ForwardEnvironment) → List UInt8 → List ReaderRound
  | [], _ => []
  | (cancelled, forwarding) :: later, stream =>
    .onStream cancelled forwarding stream ::
      streamRounds codec later (stream.drop (streamTakes codec cancelled stream))

/-- Whatever the header, the switch asks for at least the twelve bytes peeked. -/
theorem twelve_le_expecting (codec : ReaderCodec) (header : List UInt8) : 12 ≤ expecting codec header := by
  unfold expecting
  split <;> omega

/-- Bytes the reader hands on as `frame`: they start with the magic, the header
switch asks for exactly as many, they fit the reader's buffer, and they decode
to `frame`, a `Version0` frame. -/
structure ReaderCodec.Reads (codec : ReaderCodec) (bytes : List UInt8) (frame : DecodedFrame) : Prop where
  magic : bytes.take 4 = frameMagicBytes
  sized : expecting codec ((bytes.take 12).drop 4) = bytes.length
  fits : bytes.length ≤ codec.maxFrameSize
  decodes : codec.unmarshalBinary bytes = .ok frame
  version : frame.version = 0

theorem ReaderCodec.Reads.twelve_le {codec : ReaderCodec} {bytes : List UInt8} {frame : DecodedFrame}
    (reads : codec.Reads bytes frame) : 12 ≤ bytes.length :=
  reads.sized ▸ twelve_le_expecting codec _

theorem peekStream_of_le {stream : List UInt8} (fits : 12 ≤ stream.length) :
    ∃ peeked : SizedBytes 12, peekStream stream = .ok peeked ∧ peeked.val = stream.take 12 :=
  ⟨_, dif_pos fits, rfl⟩

/-- A live pass at the start of a frame's bytes reads exactly them and forwards
the frame they decode to. -/
theorem readerPass_reads {codec : ReaderCodec} {bytes : List UInt8} {frame : DecodedFrame}
    (reads : codec.Reads bytes frame) (rest : List UInt8) (forwarding : ForwardEnvironment)
    (ingress : SwitchPortID) (ports : SwitchPortID → Peer) :
    readerPass codec ingress ports (.onStream false forwarding (bytes ++ rest)) =
        .next [.forwarded frame]
          (forward forwarding ingress frame.frameType (codec.getNextHops frame (ports ingress).port) ports).ports ∧
      streamTakes codec false (bytes ++ rest) = bytes.length := by
  have twelve := reads.twelve_le
  have header : (bytes ++ rest).take 12 = bytes.take 12 := List.take_append_of_le_length twelve
  have magic : (bytes ++ rest).take 4 = frameMagicBytes := by
    rw [List.take_append_of_le_length (by omega), reads.magic]
  obtain ⟨peeked, peekOk, peekedVal⟩ := peekStream_of_le (by simp; omega : 12 ≤ (bytes ++ rest).length)
  refine ⟨?_, ?_⟩
  · unfold readerPass
    simp only [ReaderRound.onStream, Bool.false_eq_true, if_false, peekOk, peekedVal, List.take_take,
      header, Nat.min_def, show 4 ≤ 12 by omega, if_true, reads.magic, ne_eq, not_true_eq_false, reads.sized,
      if_neg (Nat.not_lt.mpr reads.fits), readFullStream, List.length_append, Nat.le_add_right, List.take_left',
      Nat.lt_irrefl, reads.decodes, reads.version]
  · simp only [streamTakes, Bool.false_eq_true, false_or, magic, ne_eq, not_true_eq_false, if_false, header,
      reads.sized, List.length_append]
    rw [if_neg (by omega), Nat.min_eq_left (Nat.le_add_right _ _)]

/-- A live pass where the twelve bytes peeked do not start with the magic drops
one byte and does nothing else. -/
theorem readerPass_noMagic (codec : ReaderCodec) {stream : List UInt8} (fits : 12 ≤ stream.length)
    (noMagic : stream.take 4 ≠ frameMagicBytes) (forwarding : ForwardEnvironment) (ingress : SwitchPortID)
    (ports : SwitchPortID → Peer) :
    readerPass codec ingress ports (.onStream false forwarding stream) = .next [.discard] ports ∧
      streamTakes codec false stream = 1 := by
  obtain ⟨peeked, peekOk, peekedVal⟩ := peekStream_of_le fits
  have prefixFour : (stream.take 12).take 4 = stream.take 4 := by simp [List.take_take]
  refine ⟨?_, ?_⟩
  · unfold readerPass
    simp only [ReaderRound.onStream, Bool.false_eq_true, if_false, peekOk, peekedVal, prefixFour]
    rw [if_pos noMagic]
  · simp only [streamTakes, Bool.false_eq_true, false_or, if_neg (Nat.not_lt.mpr fits), if_pos noMagic]

/-- A live pass on a stream with fewer than twelve bytes left disconnects with
`io.EOF` from `Peek`. -/
theorem readerPass_short (codec : ReaderCodec) {stream : List UInt8} (short : stream.length < 12)
    (forwarding : ForwardEnvironment) (ingress : SwitchPortID) (ports : SwitchPortID → Peer) :
    readerPass codec ingress ports (.onStream false forwarding stream) =
      .exit [.disconnect "p.conn.Peek" .eof] (Router.disconnect ports (ports ingress).port) := by
  simp [readerPass, ReaderRound.onStream, peekStream, Nat.not_le.mpr short]

/-- The run lemma: on a stream that starts with the bytes of some frames, one
live pass per frame forwards those frames in order and leaves the reader, still
reading, at the bytes after them. -/
theorem readerRun_reads (codec : ReaderCodec) (ingress : SwitchPortID) (frames : List (List UInt8 × DecodedFrame))
    (reads : ∀ frame ∈ frames, codec.Reads frame.1 frame.2) :
    ∀ (live : List (Bool × ForwardEnvironment)), (∀ pass ∈ live, pass.1 = false) → live.length = frames.length →
      ∀ (later : List (Bool × ForwardEnvironment)) (rest : List UInt8) (ports : SwitchPortID → Peer)
        (effects : List ReaderEffect), ∃ after,
        readerRun codec ingress (streamRounds codec (live ++ later) ((frames.map Prod.fst).flatten ++ rest))
            ⟨ports, effects, false, false⟩ =
          readerRun codec ingress (streamRounds codec later rest)
            ⟨after, effects ++ frames.map (.forwarded ·.2), false, false⟩ := by
  induction frames with
  | nil =>
    rintro (_ | ⟨_, _⟩) _ same later rest ports effects
    · exact ⟨ports, by simp⟩
    · simp at same
  | cons first frames ih =>
    obtain ⟨bytes, frame⟩ := first
    rintro (_ | ⟨⟨cancelled, forwarding⟩, live⟩) awake same later rest ports effects
    · simp at same
    · obtain rfl : cancelled = false := awake _ (List.mem_cons_self _ _)
      have stream : (((bytes, frame) :: frames).map Prod.fst).flatten =
          bytes ++ (frames.map Prod.fst).flatten := rfl
      obtain ⟨pass, takes⟩ := readerPass_reads (reads _ (List.mem_cons_self _ _))
        ((frames.map Prod.fst).flatten ++ rest) forwarding ingress ports
      obtain ⟨after, run⟩ := ih (fun frame mem => reads frame (List.mem_cons_of_mem _ mem)) live
        (fun pass mem => awake pass (List.mem_cons_of_mem _ mem)) (by simpa using same) later rest
        (forward forwarding ingress frame.frameType (codec.getNextHops frame (ports ingress).port) ports).ports
        (effects ++ [.forwarded frame])
      refine ⟨after, ?_⟩
      rw [stream, List.append_assoc, List.cons_append, streamRounds, takes, List.drop_left]
      simp only [readerRun, Bool.or_self, Bool.false_eq_true, if_false, pass, run, List.map_cons, List.append_assoc,
        List.singleton_append]

/-- On a stream that starts with the bytes of some frames, as many live passes
as there are frames forward them, each once and in the order they come, with
nothing dropped and no `Disconnect`; the reader is then still reading, at the
first byte after them, whatever follows. -/
theorem reader_forwards_frames_in_order (codec : ReaderCodec) (ingress : SwitchPortID)
    (frames : List (List UInt8 × DecodedFrame)) (reads : ∀ frame ∈ frames, codec.Reads frame.1 frame.2)
    (live : List (Bool × ForwardEnvironment)) (awake : ∀ pass ∈ live, pass.1 = false)
    (enough : live.length = frames.length) (later : List (Bool × ForwardEnvironment)) (rest : List UInt8)
    (ports : SwitchPortID → Peer) :
    ∃ after, readerRun codec ingress (streamRounds codec (live ++ later) ((frames.map Prod.fst).flatten ++ rest))
        ⟨ports, [], false, false⟩ =
      readerRun codec ingress (streamRounds codec later rest) ⟨after, frames.map (.forwarded ·.2), false, false⟩ := by
  simpa using readerRun_reads codec ingress frames reads live awake enough later rest ports []

/-- A codec in which no frame type has an arm of its own in the header switch,
and twelve bytes decode to a `Version0` keepalive, with a 65535-byte buffer. -/
def headerOnlyCodec : ReaderCodec :=
  ⟨fun _ => none, fun bytes => if bytes.length = 12 then .ok ⟨0, .keepalive⟩ else .error "short frame",
    fun _ _ => [], 65535⟩

theorem keepalive_reads : headerOnlyCodec.Reads keepaliveBytes ⟨0, .keepalive⟩ :=
  ⟨by decide, by decide, by decide, rfl, rfl⟩

/-- Passes that never find the context done, each with a forwarding step in
which nothing succeeds. -/
def livePasses (count : Nat) : List (Bool × ForwardEnvironment) :=
  List.replicate count (false, ⟨fun _ => .failed, fun _ => false⟩)

theorem livePasses_awake (count : Nat) : ∀ pass ∈ livePasses count, pass.1 = false := by
  simp [livePasses]

/-- Two header-only frames back to back. -/
def twoKeepalives : List (List UInt8 × DecodedFrame) :=
  [(keepaliveBytes, ⟨0, .keepalive⟩), (keepaliveBytes, ⟨0, .keepalive⟩)]

theorem reader_forwards_two_keepalives :
    (∀ frame ∈ twoKeepalives, headerOnlyCodec.Reads frame.1 frame.2) ∧ (∀ pass ∈ livePasses 2, pass.1 = false) ∧
      (livePasses 2).length = twoKeepalives.length ∧
      ∃ after, readerRun headerOnlyCodec 1
          (streamRounds headerOnlyCodec (livePasses 2 ++ []) ((twoKeepalives.map Prod.fst).flatten ++ []))
          ⟨remotePorts, [], false, false⟩ =
        readerRun headerOnlyCodec 1 (streamRounds headerOnlyCodec [] [])
          ⟨after, twoKeepalives.map (.forwarded ·.2), false, false⟩ :=
  have reads : ∀ frame ∈ twoKeepalives, headerOnlyCodec.Reads frame.1 frame.2 := by
    intro frame mem
    simp only [twoKeepalives, List.mem_cons, List.mem_singleton, List.not_mem_nil, or_false, or_self] at mem
    exact mem ▸ keepalive_reads
  ⟨reads, livePasses_awake 2, rfl,
    reader_forwards_frames_in_order headerOnlyCodec 1 twoKeepalives reads (livePasses 2) (livePasses_awake 2) rfl
      [] [] remotePorts⟩

/-- On a stream where the magic starts at none of the first bytes `junk`,
one live pass per such byte drops it; the reader then stands at the byte after
them with nothing else done. -/
theorem reader_discards_up_to_magic (codec : ReaderCodec) (ingress : SwitchPortID) (junk rest : List UInt8)
    (noMagic : ∀ i < junk.length, ((junk ++ rest).drop i).take 4 ≠ frameMagicBytes)
    (room : 11 ≤ rest.length) (live : List (Bool × ForwardEnvironment)) (awake : ∀ pass ∈ live, pass.1 = false)
    (enough : live.length = junk.length) (later : List (Bool × ForwardEnvironment))
    (ports : SwitchPortID → Peer) (effects : List ReaderEffect) :
    readerRun codec ingress (streamRounds codec (live ++ later) (junk ++ rest)) ⟨ports, effects, false, false⟩ =
      readerRun codec ingress (streamRounds codec later rest)
        ⟨ports, effects ++ List.replicate junk.length .discard, false, false⟩ := by
  induction junk generalizing live effects with
  | nil =>
    obtain rfl : live = [] := List.eq_nil_of_length_eq_zero enough
    simp
  | cons byte junk ih =>
    obtain _ | ⟨⟨cancelled, forwarding⟩, live⟩ := live
    · simp at enough
    · obtain rfl : cancelled = false := awake _ (List.mem_cons_self _ _)
      obtain ⟨pass, takes⟩ := readerPass_noMagic codec
        (by simp; omega : 12 ≤ (byte :: (junk ++ rest)).length) (by simpa using noMagic 0 (by simp)) forwarding
        ingress ports
      have later' := ih (fun i short => by simpa using noMagic (i + 1) (by simp; omega)) live
        (fun pass mem => awake pass (List.mem_cons_of_mem _ mem)) (by simpa using enough) (effects ++ [.discard])
      rw [List.cons_append, List.cons_append, streamRounds, takes, List.drop_one, List.tail_cons]
      simp only [readerRun, Bool.or_self, Bool.false_eq_true, if_false, pass, later', List.length_cons,
        List.replicate_succ, List.append_assoc, List.singleton_append]

/-- The first three bytes of a magic whose frame was cut off. -/
def cutMagic : List UInt8 := [0x70, 0x69, 0x6e]

theorem reader_skips_cut_magic :
    (∀ i < cutMagic.length, ((cutMagic ++ keepaliveBytes).drop i).take 4 ≠ frameMagicBytes) ∧
      11 ≤ keepaliveBytes.length ∧ (∀ pass ∈ livePasses 3, pass.1 = false) ∧
      (livePasses 3).length = cutMagic.length ∧
      readerRun headerOnlyCodec 1
          (streamRounds headerOnlyCodec (livePasses 3 ++ livePasses 1) (cutMagic ++ keepaliveBytes))
          ⟨remotePorts, [], false, false⟩ =
        readerRun headerOnlyCodec 1 (streamRounds headerOnlyCodec (livePasses 1) keepaliveBytes)
          ⟨remotePorts, [] ++ List.replicate cutMagic.length .discard, false, false⟩ :=
  have noMagic : ∀ i < cutMagic.length, ((cutMagic ++ keepaliveBytes).drop i).take 4 ≠ frameMagicBytes := by
    decide
  ⟨noMagic, by decide, livePasses_awake 3, rfl,
    reader_discards_up_to_magic headerOnlyCodec 1 cutMagic keepaliveBytes noMagic (by decide) (livePasses 3)
      (livePasses_awake 3) rfl (livePasses 1) remotePorts []⟩

/-! ## What the reader makes of any stream -/

/-- A live pass at the magic with twelve bytes to peek: the header asks for more
than the buffer holds and the pass panics; or the frame is cut short by the end
of the stream, or read whole and then rejected, or read whole and forwarded. -/
theorem readerPass_magic (codec : ReaderCodec) {stream : List UInt8} (fits : 12 ≤ stream.length)
    (magic : stream.take 4 = frameMagicBytes) (forwarding : ForwardEnvironment) (ingress : SwitchPortID)
    (ports : SwitchPortID → Peer) :
    let want := expecting codec ((stream.take 12).drop 4)
    (codec.maxFrameSize < want ∧ readerPass codec ingress ports (.onStream false forwarding stream) = .panic) ∨
      want ≤ codec.maxFrameSize ∧
        ((stream.length < want ∧ readerPass codec ingress ports (.onStream false forwarding stream) =
            .exit [.disconnect "io.ReadFull" .unexpectedEOF] (Router.disconnect ports (ports ingress).port)) ∨
          (want ≤ stream.length ∧
            (∀ frame, codec.unmarshalBinary (stream.take want) = .ok frame → frame.version ≠ 0) ∧
            readerPass codec ingress ports (.onStream false forwarding stream) = .exit [.release] ports) ∨
          ∃ frame, codec.Reads (stream.take want) frame ∧
            readerPass codec ingress ports (.onStream false forwarding stream) =
              .next [.forwarded frame]
                (forward forwarding ingress frame.frameType (codec.getNextHops frame (ports ingress).port) ports).ports ∧
            streamTakes codec false stream = want) := by
  intro want
  obtain ⟨peeked, peekOk, peekedVal⟩ := peekStream_of_le fits
  have prefixFour : (stream.take 12).take 4 = stream.take 4 := by simp [List.take_take]
  have atLeast := twelve_le_expecting codec ((stream.take 12).drop 4)
  by_cases tooLong : codec.maxFrameSize < want
  · refine .inl ⟨tooLong, ?_⟩
    unfold readerPass
    simp only [ReaderRound.onStream, Bool.false_eq_true, if_false, peekOk, peekedVal, prefixFour, magic, ne_eq,
      not_true_eq_false]
    rw [if_pos tooLong]
  have buffered : want ≤ codec.maxFrameSize := Nat.le_of_not_lt tooLong
  refine .inr ⟨buffered, ?_⟩
  by_cases short : stream.length < want
  · have notEmpty : stream ≠ [] := List.ne_nil_of_length_pos (by omega)
    refine .inl ⟨short, ?_⟩
    unfold readerPass
    simp [ReaderRound.onStream, peekOk, peekedVal, prefixFour, magic, readFullStream, want, Nat.not_le.mpr short,
      notEmpty, Nat.not_lt.mpr buffered]
  · have within : want ≤ stream.length := Nat.le_of_not_lt short
    have taken : (stream.take want).length = want := List.length_take_of_le within
    have rejected : (∀ frame, codec.unmarshalBinary (stream.take want) = .ok frame → frame.version ≠ 0) →
        readerPass codec ingress ports (.onStream false forwarding stream) = .exit [.release] ports := by
      intro notVersion0
      unfold readerPass
      simp only [ReaderRound.onStream, Bool.false_eq_true, if_false, peekOk, peekedVal, prefixFour, magic, ne_eq,
        not_true_eq_false, if_neg tooLong, readFullStream, if_pos within, taken, Nat.lt_irrefl]
      split
      · rfl
      · rename_i frame decoded
        simp [notVersion0 frame decoded]
    by_cases accepted : ∃ frame, codec.unmarshalBinary (stream.take want) = .ok frame ∧ frame.version = 0
    · obtain ⟨frame, decoded, version⟩ := accepted
      have reads : codec.Reads (stream.take want) frame :=
        ⟨by rw [List.take_take, Nat.min_eq_left (by omega), magic],
          by rw [List.take_take, Nat.min_eq_left (by omega), taken], by rw [taken]; exact buffered, decoded, version⟩
      obtain ⟨forwards, takes⟩ := readerPass_reads reads (stream.drop want) forwarding ingress ports
      rw [List.take_append_drop] at forwards takes
      exact .inr (.inr ⟨frame, reads, forwards, takes.trans taken⟩)
    · have notVersion0 : ∀ frame, codec.unmarshalBinary (stream.take want) = .ok frame → frame.version ≠ 0 :=
        fun frame decoded version => accepted ⟨frame, decoded, version⟩
      exact .inr (.inl ⟨within, notVersion0, rejected notVersion0⟩)

/-- What a live pass that goes on takes off the stream: a byte it drops, or the
bytes of a frame it forwards. -/
inductive StreamPiece where
  | dropped (byte : UInt8)
  | forwarded (bytes : List UInt8) (frame : DecodedFrame)

/-- The effect of the pass that took a piece. -/
def StreamPiece.effect : StreamPiece → ReaderEffect
  | .dropped _ => .discard
  | .forwarded _ frame => .forwarded frame

/-- `ReadsPieces codec stream pieces left`: the stream is the pieces followed by
`left`; each dropped byte stands where twelve bytes can be peeked and no magic
starts, and each frame's bytes are read whole. -/
inductive ReadsPieces (codec : ReaderCodec) : List UInt8 → List StreamPiece → List UInt8 → Prop
  | done (left : List UInt8) : ReadsPieces codec left [] left
  | drop {byte : UInt8} {rest left : List UInt8} {pieces : List StreamPiece} :
      11 ≤ rest.length → (byte :: rest).take 4 ≠ frameMagicBytes → ReadsPieces codec rest pieces left →
      ReadsPieces codec (byte :: rest) (.dropped byte :: pieces) left
  | read {bytes rest left : List UInt8} {frame : DecodedFrame} {pieces : List StreamPiece} :
      codec.Reads bytes frame → ReadsPieces codec rest pieces left →
      ReadsPieces codec (bytes ++ rest) (.forwarded bytes frame :: pieces) left

/-- How the pass that returns can end the reader with `left` unread, given
whether it found the context done: at a cancelled pass, with nothing done;
otherwise with fewer than twelve bytes to peek, or at the magic, with a header
that asks for no more than the buffer holds, at a frame cut short by the end of
the stream or at a frame read whole that does not decode to a `Version0`
frame. -/
def ReaderStops (codec : ReaderCodec) (cancelled : Bool) (left : List UInt8) (last : List ReaderEffect) : Prop :=
  (cancelled = true ∧ last = []) ∨
    cancelled = false ∧
      ((last = [.disconnect "p.conn.Peek" .eof] ∧ left.length < 12) ∨
        (12 ≤ left.length ∧ left.take 4 = frameMagicBytes ∧
          expecting codec ((left.take 12).drop 4) ≤ codec.maxFrameSize ∧
          ((last = [.disconnect "io.ReadFull" .unexpectedEOF] ∧
              left.length < expecting codec ((left.take 12).drop 4)) ∨
            (last = [.release] ∧ expecting codec ((left.take 12).drop 4) ≤ left.length ∧
              ∀ frame, codec.unmarshalBinary (left.take (expecting codec ((left.take 12).drop 4))) = .ok frame →
                frame.version ≠ 0))))

/-- Where the reader panics: at the magic, with twelve bytes to peek and a
header that asks for more than the buffer holds. -/
def ReaderPanics (codec : ReaderCodec) (left : List UInt8) : Prop :=
  12 ≤ left.length ∧ left.take 4 = frameMagicBytes ∧ codec.maxFrameSize < expecting codec ((left.take 12).drop 4)

/-- The step lemma: a pass on a stream returns as `ReaderStops` says, panics as
`ReaderPanics` says, or takes one piece off the stream, a dropped byte or a
frame read whole, with the effect of that piece. -/
theorem readerPass_onStream (codec : ReaderCodec) (ingress : SwitchPortID) (cancelled : Bool)
    (forwarding : ForwardEnvironment) (stream : List UInt8) (ports : SwitchPortID → Peer) :
    (∃ last ports', readerPass codec ingress ports (.onStream cancelled forwarding stream) = .exit last ports' ∧
        ReaderStops codec cancelled stream last) ∨
      (cancelled = false ∧ readerPass codec ingress ports (.onStream cancelled forwarding stream) = .panic ∧
        ReaderPanics codec stream) ∨
      ∃ piece ports', readerPass codec ingress ports (.onStream cancelled forwarding stream) = .next [piece.effect] ports' ∧
        ∀ pieces left, ReadsPieces codec (stream.drop (streamTakes codec cancelled stream)) pieces left →
          ReadsPieces codec stream (piece :: pieces) left := by
  cases cancelled
  case true => exact .inl ⟨[], ports, by simp [readerPass, ReaderRound.onStream], .inl ⟨rfl, rfl⟩⟩
  case false =>
    by_cases short : stream.length < 12
    · exact .inl ⟨_, _, readerPass_short codec short forwarding ingress ports, .inr ⟨rfl, .inl ⟨rfl, short⟩⟩⟩
    have fits : 12 ≤ stream.length := Nat.le_of_not_lt short
    by_cases magic : stream.take 4 = frameMagicBytes
    · rcases readerPass_magic codec fits magic forwarding ingress ports with
        ⟨tooLong, pass⟩ | ⟨buffered, ⟨cut, pass⟩ | ⟨within, rejected, pass⟩ | ⟨frame, reads, pass, takes⟩⟩
      · exact .inr (.inl ⟨rfl, pass, fits, magic, tooLong⟩)
      · exact .inl ⟨_, _, pass, .inr ⟨rfl, .inr ⟨fits, magic, buffered, .inl ⟨rfl, cut⟩⟩⟩⟩
      · exact .inl ⟨_, _, pass, .inr ⟨rfl, .inr ⟨fits, magic, buffered, .inr ⟨rfl, within, rejected⟩⟩⟩⟩
      · refine .inr (.inr ⟨.forwarded (stream.take (expecting codec ((stream.take 12).drop 4))) frame, _, pass,
          fun pieces left split => ?_⟩)
        have whole := ReadsPieces.read reads (takes ▸ split)
        rwa [List.take_append_drop] at whole
    · obtain ⟨pass, takes⟩ := readerPass_noMagic codec fits magic forwarding ingress ports
      obtain ⟨byte, rest, rfl⟩ := List.exists_cons_of_length_pos (by omega : 0 < stream.length)
      exact .inr (.inr ⟨.dropped byte, ports, pass, fun _ _ split =>
        .drop (by simp at fits; omega) magic (by simpa [takes] using split)⟩)

/-- The run lemma: whatever the stream and the passes, what the reader has done
is one effect per piece of a split of the stream, one pass per piece; if it has
returned or panicked, the pass after them ended it as `ReaderStops` or
`ReaderPanics` says. -/
theorem readerRun_pieces (codec : ReaderCodec) (ingress : SwitchPortID) :
    ∀ (schedule : List (Bool × ForwardEnvironment)) (stream : List UInt8) (ports : SwitchPortID → Peer)
      (effects : List ReaderEffect),
      let s := readerRun codec ingress (streamRounds codec schedule stream) ⟨ports, effects, false, false⟩
      ∃ pieces left, ReadsPieces codec stream pieces left ∧
        ((s.returned = false ∧ s.panicked = false ∧ s.effects = effects ++ pieces.map StreamPiece.effect) ∨
          ∃ cancelled forwarding, schedule[pieces.length]? = some (cancelled, forwarding) ∧
            ((s.returned = true ∧ ∃ last, s.effects = effects ++ pieces.map StreamPiece.effect ++ last ∧
                ReaderStops codec cancelled left last) ∨
              (s.panicked = true ∧ s.effects = effects ++ pieces.map StreamPiece.effect ∧ cancelled = false ∧
                ReaderPanics codec left)))
  | [], stream, _, effects => ⟨[], stream, .done stream, .inl ⟨rfl, rfl, by simp [readerRun]⟩⟩
  | (cancelled, forwarding) :: later, stream, ports, effects => by
    simp only [streamRounds, readerRun, Bool.or_self, Bool.false_eq_true, if_false]
    rcases readerPass_onStream codec ingress cancelled forwarding stream ports with
      ⟨last, ports', pass, stopping⟩ | ⟨live, pass, panics⟩ | ⟨piece, ports', pass, extend⟩
    · rw [pass]
      exact ⟨[], stream, .done stream, .inr ⟨cancelled, forwarding, by simp, .inl ⟨rfl, last, by simp, stopping⟩⟩⟩
    · rw [pass]
      exact ⟨[], stream, .done stream, .inr ⟨cancelled, forwarding, by simp, .inr ⟨rfl, by simp, live, panics⟩⟩⟩
    · rw [pass]
      obtain ⟨pieces, left, split, ended⟩ := readerRun_pieces codec ingress later
        (stream.drop (streamTakes codec cancelled stream)) ports' (effects ++ [piece.effect])
      exact ⟨piece :: pieces, left, extend pieces left split, by simpa using ended⟩

/-- Whatever the bytes on the connection and whatever the passes, the reader
takes the stream apart into bytes it drops one by one, each where twelve bytes
can be peeked and no magic starts, and frames it forwards, each read whole:
starting with the magic, exactly as long as the header switch asks, no longer
than its buffer, and decoding to a `Version0` frame; one pass per piece. A
reader still reading has done just that. One that has returned did so at the
next pass: a pass that found the context done, with nothing more done, or a
live pass with fewer than twelve bytes left to peek, at a frame cut short by the
end of the stream, or at a frame read whole that does not decode to a
`Version0` frame. One that has panicked did so at the next pass, a live one, at
a header asking for more than its buffer holds. -/
theorem reader_splits_any_stream_into_drops_and_frames (codec : ReaderCodec) (ingress : SwitchPortID)
    (schedule : List (Bool × ForwardEnvironment)) (stream : List UInt8) (ports : SwitchPortID → Peer) :
    let s := readerRun codec ingress (streamRounds codec schedule stream) ⟨ports, [], false, false⟩
    ∃ pieces left, ReadsPieces codec stream pieces left ∧
      ((s.returned = false ∧ s.panicked = false ∧ s.effects = pieces.map StreamPiece.effect) ∨
        ∃ cancelled forwarding, schedule[pieces.length]? = some (cancelled, forwarding) ∧
          ((s.returned = true ∧ ∃ last, s.effects = pieces.map StreamPiece.effect ++ last ∧
              ReaderStops codec cancelled left last) ∨
            (s.panicked = true ∧ s.effects = pieces.map StreamPiece.effect ∧ cancelled = false ∧
              ReaderPanics codec left))) := by
  simpa only [List.nil_append] using readerRun_pieces codec ingress schedule stream ports []

/-! ## Both ends -/

/-- A reader at a frame boundary, on a connection the far end closed after
whole frames, forwards them in order and then finds it closed. -/
theorem readerRun_reads_to_close (codec : ReaderCodec) (ingress : SwitchPortID)
    (frames : List (List UInt8 × DecodedFrame)) (reads : ∀ frame ∈ frames, codec.Reads frame.1 frame.2)
    (live : List (Bool × ForwardEnvironment)) (awake : ∀ pass ∈ live, pass.1 = false)
    (enough : live.length = frames.length + 1) (ports : SwitchPortID → Peer) :
    ∃ after, readerRun codec ingress (streamRounds codec live (frames.map Prod.fst).flatten) ⟨ports, [], false, false⟩ =
      ⟨after, frames.map (fun frame => .forwarded frame.2) ++ [.disconnect "p.conn.Peek" .eof], true, false⟩ := by
  obtain ⟨earlier, final, rfl⟩ : ∃ earlier final, live = earlier ++ [final] := by
    rcases List.eq_nil_or_concat live with empty | ⟨earlier, final, split⟩
    · simp [empty] at enough
    · exact ⟨earlier, final, split.trans (List.concat_eq_append _ _)⟩
  obtain ⟨cancelled, forwarding⟩ := final
  obtain rfl : cancelled = false := awake (cancelled, forwarding) (by simp)
  obtain ⟨after, run⟩ := readerRun_reads codec ingress frames reads earlier
    (fun pass mem => awake pass (List.mem_append_left _ mem)) (by simpa using enough) [(false, forwarding)] [] ports []
  refine ⟨Router.disconnect after (after ingress).port, ?_⟩
  rw [← List.append_nil (frames.map Prod.fst).flatten, run]
  simp [streamRounds, readerRun, readerPass_short codec (by simp : ([] : List UInt8).length < 12)]

/-- The whole conversation on one connection: the far end's writer sends some
frames, each `send` returning `nil` after any partial writes, and closes it.
Given a codec that frames and decodes every marshalled frame as the reader's
header switch expects, the reader forwards exactly the frames sent, in the
order sent, and on the pass after the last one disconnects with `io.EOF` from
`Peek`. -/
theorem connection_delivers_frames_in_order {F : Type} (marshalBinary : F → Except String (List UInt8))
    (codec : ReaderCodec) (decoded : F → DecodedFrame)
    (agree : ∀ frame bytes, marshalBinary frame = .ok bytes → codec.Reads bytes (decoded frame))
    (sends : List (F × List WriteResult))
    (allSent : ∀ sending ∈ sends, (send marshalBinary (some sending.1) sending.2).2 = .sent)
    (ingress : SwitchPortID) (live : List (Bool × ForwardEnvironment)) (awake : ∀ pass ∈ live, pass.1 = false)
    (enough : live.length = sends.length + 1) (ports : SwitchPortID → Peer) :
    ∃ after, readerRun codec ingress
        (streamRounds codec live (sends.flatMap fun sending => (send marshalBinary (some sending.1) sending.2).1))
        ⟨ports, [], false, false⟩ =
      ⟨after, sends.map (fun sending => .forwarded (decoded sending.1)) ++ [.disconnect "p.conn.Peek" .eof], true,
        false⟩ := by
  have delivered := readerRun_reads_to_close codec ingress
    (sends.map fun sending => ((send marshalBinary (some sending.1) sending.2).1, decoded sending.1))
    (List.forall_mem_map.mpr fun sending mem => agree _ _ (send_sent (allSent sending mem)))
    live awake (by simpa using enough) ports
  simpa [List.flatMap_def, Function.comp_def] using delivered

/-- Two header-only frames, the first written in two parts. -/
def keepaliveSends : List (Unit × List WriteResult) := [((), twoPartWrites), ((), [⟨12, none⟩])]

/-- What the header-only codec decodes the header-only frame to. -/
def keepaliveDecoded : Unit → DecodedFrame := fun _ => ⟨0, .keepalive⟩

/-- The header-only codec reads the header-only frame as `keepaliveMarshal` writes it. -/
theorem keepalive_agrees :
    ∀ frame bytes, keepaliveMarshal frame = .ok bytes → headerOnlyCodec.Reads bytes (keepaliveDecoded frame) := by
  intro _ bytes marshalled
  simp only [keepaliveMarshal, Except.ok.injEq] at marshalled
  exact marshalled ▸ keepalive_reads

theorem connection_delivers_two_keepalives :
    (∀ frame bytes, keepaliveMarshal frame = .ok bytes → headerOnlyCodec.Reads bytes (keepaliveDecoded frame)) ∧
      (∀ sending ∈ keepaliveSends, (send keepaliveMarshal (some sending.1) sending.2).2 = .sent) ∧
      (∀ pass ∈ livePasses 3, pass.1 = false) ∧ (livePasses 3).length = keepaliveSends.length + 1 ∧
      ∃ after, readerRun headerOnlyCodec 1
          (streamRounds headerOnlyCodec (livePasses 3)
            (keepaliveSends.flatMap fun sending => (send keepaliveMarshal (some sending.1) sending.2).1))
          ⟨remotePorts, [], false, false⟩ =
        ⟨after, keepaliveSends.map (fun sending => .forwarded (keepaliveDecoded sending.1)) ++
          [.disconnect "p.conn.Peek" .eof], true, false⟩ :=
  have agree := keepalive_agrees
  have allSent : ∀ sending ∈ keepaliveSends, (send keepaliveMarshal (some sending.1) sending.2).2 = .sent := by
    decide
  ⟨agree, allSent, livePasses_awake 3, rfl,
    connection_delivers_frames_in_order keepaliveMarshal headerOnlyCodec keepaliveDecoded agree keepaliveSends
      allSent 1 (livePasses 3) (livePasses_awake 3) rfl remotePorts⟩

end Pinecone
