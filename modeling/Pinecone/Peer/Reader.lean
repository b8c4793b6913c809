import Pinecone.Peer.Forward
import Pinecone.Peer.Lifecycle

/-!
# `Peer.reader`

One pass of the reader's loop checks the context, peeks twelve bytes, checks
the magic, works out from the header how many bytes the frame takes, reads
them into its `MaxFrameSize` buffer, decodes the frame, checks its version and
hands it to the forwarding step. The connection, the Go frame codec,
`MaxFrameSize`, `getNextHops` and `Router.Disconnect` are not among the
sources: what the connection returns is an input of each pass
(`ReaderRound`), the codec, the buffer size and the next-hop lookup are
parameters (`ReaderCodec`), and `Disconnect` stops the peer, as the
specification says.

A pass returns on a cancelled context, and after `Disconnect` when `Peek`
fails or `io.ReadFull` reports `io.EOF` or `io.ErrUnexpectedEOF`. Any other
`io.ReadFull` error, like a short read, is logged and the loop goes on with
the next pass, without disconnecting. A frame that fails to decode, or whose
version is not `Version0`, is released and the reader returns without
`Disconnect`, so the peer stays started with no reader. A header that asks for
more than `MaxFrameSize` bytes makes `buf[:expecting]` panic.
-/

namespace Pinecone

/-- What an I/O call on the connection fails with. -/
inductive IOError where
  | eof
  | unexpectedEOF
  | other (reason : String)
  deriving DecidableEq, Repr

/-- The fields of a decoded `types.Frame` that the reader reads. -/
structure DecodedFrame where
  version : UInt8
  frameType : FrameType
  deriving DecidableEq, Repr

/-- The parts of the repository the reader uses that are not among the
sources: the inverse of the `types.FrameType` constants, `Frame.UnmarshalBinary`,
`Peer.getNextHops`, and `MaxFrameSize`, the length of its buffer `buf`. -/
structure ReaderCodec where
  frameTypeOf : UInt8 → Option FrameType
  unmarshalBinary : List UInt8 → Except String DecodedFrame
  getNextHops : DecodedFrame → SwitchPortID → List SwitchPortID
  maxFrameSize : Nat

/-- One pass of the loop as the environment resolves it: whether the context
is done at the `select`, what `p.conn.Peek(12)` returns, what `io.ReadFull`
returns when asked for a given number of bytes, and the outcomes of the
forwarding step. -/
structure ReaderRound where
  cancelled : Bool
  peek : Except IOError (SizedBytes 12)
  readFull : Nat → List UInt8 × Option IOError
  forwarding : ForwardEnvironment

/-- `binary.BigEndian.Uint16(header[offset:offset+2])`. -/
def bigEndianUint16 (header : List UInt8) (offset : Nat) : Nat :=
  (header.getD offset 0).toNat * 256 + (header.getD (offset + 1) 0).toNat

/-- The `switch types.FrameType(header[1])` that sizes the read, on the eight
header bytes after the magic. -/
def expecting (codec : ReaderCodec) (header : List UInt8) : Nat :=
  match codec.frameTypeOf (header.getD 1 0) with
  | some .virtualSnakeBootstrap =>
    10 + bigEndianUint16 header 4 + bigEndianUint16 header 2 + 32
  | some .virtualSnakeBootstrapACK =>
    12 + bigEndianUint16 header 4 + bigEndianUint16 header 6 + bigEndianUint16 header 2 + 32 * 2
  | some .virtualSnakeSetup =>
    10 + bigEndianUint16 header 4 + 32 * 2 + bigEndianUint16 header 2
  | some .virtualSnakeTeardown => 8 + bigEndianUint16 header 2 + 32
  | some .virtualSnake | some .virtualSnakePathfind => 8 + bigEndianUint16 header 2 + 32 * 2
  | _ => 12 + bigEndianUint16 header 2 + bigEndianUint16 header 4 + bigEndianUint16 header 6

/-- What a pass does besides reading: `p.conn.Discard(1)`,
`p.r.Disconnect(p.port, fmt.Errorf(call + ": %w", err))`, `frame.Done()` on a
rejected frame, and the forwarding step on a decoded one. -/
inductive ReaderEffect where
  | discard
  | disconnect (call : String) (err : IOError)
  | release
  | forwarded (frame : DecodedFrame)
  deriving DecidableEq, Repr

/-- `Router.Disconnect(port, err)` as the specification describes it: stop the
peer in slot `port`. The paths it invalidates and the announcement it
triggers are not modelled. -/
def Router.disconnect (ports : SwitchPortID → Peer) (port : SwitchPortID) : SwitchPortID → Peer :=
  match (ports port).stop with
  | .ok stopped => Function.update ports port stopped
  | .error _ => ports

/-- How a pass ends: `continue` with the next pass, or `return`, both with the
pass's effects and the peer slots after it; or a panic, which ends the
goroutine without returning. -/
inductive ReaderPass where
  | next (effects : List ReaderEffect) (ports : SwitchPortID → Peer)
  | exit (effects : List ReaderEffect) (ports : SwitchPortID → Peer)
  | panic

/-- One pass of `for { select { ... } }` of the reader of slot `ingress`. -/
def readerPass (codec : ReaderCodec) (ingress : SwitchPortID) (ports : SwitchPortID → Peer)
    (round : ReaderRound) : ReaderPass :=
  if round.cancelled then .exit [] ports
  else match round.peek with
    | .error err => .exit [.disconnect "p.conn.Peek" err] (Router.disconnect ports (ports ingress).port)
    | .ok peeked =>
      if peeked.val.take 4 ≠ frameMagicBytes then .next [.discard] ports
      else
        let want := expecting codec (peeked.val.drop 4)
        if codec.maxFrameSize < want then .panic
        else match round.readFull want with
        | (_, some .eof) => .exit [.disconnect "io.ReadFull" .eof] (Router.disconnect ports (ports ingress).port)
        | (_, some .unexpectedEOF) =>
          .exit [.disconnect "io.ReadFull" .unexpectedEOF] (Router.disconnect ports (ports ingress).port)
        | (_, some (.other _)) => .next [] ports
        | (bytes, none) =>
          if bytes.length < want then .next [] ports
          else match codec.unmarshalBinary bytes with
            | .error _ => .exit [.release] ports
            | .ok frame =>
              if frame.version ≠ 0 then .exit [.release] ports
              else
                let hops := codec.getNextHops frame (ports ingress).port
                .next [.forwarded frame] (forward round.forwarding ingress frame.frameType hops ports).ports

/-- The reader's record: the peer slots, the effects so far, whether it has
returned, and whether it has panicked. -/
structure ReaderState where
  ports : SwitchPortID → Peer
  effects : List ReaderEffect
  returned : Bool
  panicked : Bool

/-- The reader running through the passes the environment resolves, until it
returns or panics. -/
def readerRun (codec : ReaderCodec) (ingress : SwitchPortID) :
    List ReaderRound → ReaderState → ReaderState
  | [], s => s
  | round :: rest, s =>
    if s.returned || s.panicked then s
    else match readerPass codec ingress s.ports round with
      | .next effects ports => readerRun codec ingress rest ⟨ports, s.effects ++ effects, false, false⟩
      | .exit effects ports => ⟨ports, s.effects ++ effects, true, false⟩
      | .panic => { s with panicked := true }

/-! ## How the reader stops -/

/-- No `Disconnect` among the effects. -/
def NoDisconnect (effects : List ReaderEffect) : Prop := ∀ call err, .disconnect call err ∉ effects

theorem noDisconnect_append {earlier later : List ReaderEffect} (first : NoDisconnect earlier)
    (second : NoDisconnect later) : NoDisconnect (earlier ++ later) := by
  intro call err mem
  rcases List.mem_append.mp mem with inEarlier | inLater
  · exact first call err inEarlier
  · exact second call err inLater

/-- The two reasons the reader disconnects: `Peek` failed on one of the
passes, or `io.ReadFull` hit the end of the stream. -/
def DisconnectCause (rounds : List ReaderRound) (call : String) (err : IOError) : Prop :=
  (call = "p.conn.Peek" ∧ ∃ round ∈ rounds, round.peek = .error err) ∨
  (call = "io.ReadFull" ∧ (err = .eof ∨ err = .unexpectedEOF))

theorem DisconnectCause.of_subset {rounds more : List ReaderRound} {call : String} {err : IOError}
    (sub : rounds ⊆ more) : DisconnectCause rounds call err → DisconnectCause more call err
  | .inl ⟨peek, round, mem, failed⟩ => .inl ⟨peek, round, sub mem, failed⟩
  | .inr eof => .inr eof

/-- Every way one pass can end. -/
theorem readerPass_cases (codec : ReaderCodec) (ingress : SwitchPortID) (ports : SwitchPortID → Peer)
    (round : ReaderRound) :
    (∃ effects after, readerPass codec ingress ports round = .next effects after ∧
      NoDisconnect effects) ∨
    (round.cancelled = true ∧ readerPass codec ingress ports round = .exit [] ports) ∨
    (∃ call err, DisconnectCause [round] call err ∧
      readerPass codec ingress ports round =
        .exit [.disconnect call err] (Router.disconnect ports (ports ingress).port)) ∨
    readerPass codec ingress ports round = .exit [.release] ports ∨
    readerPass codec ingress ports round = .panic := by
  generalize passed : readerPass codec ingress ports round = result
  unfold readerPass at passed
  split at passed
  · exact .inr (.inl ⟨by assumption, passed.symm⟩)
  split at passed
  · rename_i err failed
    exact .inr (.inr (.inl ⟨_, err, .inl ⟨rfl, round, by simp, failed⟩, passed.symm⟩))
  split at passed
  · exact .inl ⟨_, _, passed.symm, by simp [NoDisconnect]⟩
  dsimp only at passed
  split at passed
  · exact .inr (.inr (.inr (.inr passed.symm)))
  split at passed
  · exact .inr (.inr (.inl ⟨_, _, .inr ⟨rfl, .inl rfl⟩, passed.symm⟩))
  · exact .inr (.inr (.inl ⟨_, _, .inr ⟨rfl, .inr rfl⟩, passed.symm⟩))
  · exact .inl ⟨_, _, passed.symm, by simp [NoDisconnect]⟩
  split at passed
  · exact .inl ⟨_, _, passed.symm, by simp [NoDisconnect]⟩
  split at passed
  · exact .inr (.inr (.inr (.inl passed.symm)))
  split at passed
  · exact .inr (.inr (.inr (.inl passed.symm)))
  · exact .inl ⟨_, _, passed.symm, by simp [NoDisconnect]⟩

/-- How a reader that has returned got there: at a cancelled pass with no
`Disconnect` made, right after its one `Disconnect`, or right after releasing a
rejected frame with no `Disconnect` made. -/
def ReturnedBy (rounds : List ReaderRound) (effects : List ReaderEffect) : Prop :=
  ((∃ round ∈ rounds, round.cancelled = true) ∧ NoDisconnect effects) ∨
  (∃ earlier call err, effects = earlier ++ [.disconnect call err] ∧ NoDisconnect earlier ∧
    DisconnectCause rounds call err) ∨
  (∃ earlier, effects = earlier ++ [.release] ∧ NoDisconnect earlier)

theorem ReturnedBy.of_subset {rounds more : List ReaderRound} {effects : List ReaderEffect}
    (sub : rounds ⊆ more) : ReturnedBy rounds effects → ReturnedBy more effects
  | .inl ⟨⟨round, mem, cancelled⟩, quiet⟩ => .inl ⟨⟨round, sub mem, cancelled⟩, quiet⟩
  | .inr (.inl ⟨earlier, call, err, shape, quiet, cause⟩) =>
    .inr (.inl ⟨earlier, call, err, shape, quiet, cause.of_subset sub⟩)
  | .inr (.inr released) => .inr (.inr released)

/-- The run lemma: a reader that has not returned, still reading or panicked,
has disconnected nothing, and one that has returned got there by `ReturnedBy`. -/
theorem readerRun_stops (codec : ReaderCodec) (ingress : SwitchPortID) (rounds : List ReaderRound) :
    ∀ s : ReaderState, s.returned = false → s.panicked = false → NoDisconnect s.effects →
      ((readerRun codec ingress rounds s).returned = false →
        NoDisconnect (readerRun codec ingress rounds s).effects) ∧
      ((readerRun codec ingress rounds s).returned = true →
        ReturnedBy rounds (readerRun codec ingress rounds s).effects) := by
  induction rounds with
  | nil => intro s reading calm clean; simp [readerRun, reading, clean]
  | cons round rest inductionHypothesis =>
    intro s reading calm clean
    simp only [readerRun, reading, calm, Bool.or_self, Bool.false_eq_true, if_false]
    rcases readerPass_cases codec ingress s.ports round with
      ⟨effects, after, goesOn, quiet⟩ | ⟨cancelled, stops⟩ | ⟨call, err, cause, stops⟩ | stops | panics
    · rw [goesOn]
      have later := inductionHypothesis ⟨after, s.effects ++ effects, false, false⟩ rfl rfl
        (noDisconnect_append clean quiet)
      exact ⟨later.1, fun returned => (later.2 returned).of_subset (List.subset_cons_self _ _)⟩
    · rw [stops]
      exact ⟨by simp, fun _ => .inl ⟨⟨round, by simp, cancelled⟩, by simpa using clean⟩⟩
    · rw [stops]
      exact ⟨by simp, fun _ => .inr (.inl ⟨s.effects, call, err, rfl, clean, cause.of_subset (by simp)⟩)⟩
    · rw [stops]
      exact ⟨by simp, fun _ => .inr (.inr ⟨s.effects, rfl, clean⟩)⟩
    · rw [panics]
      exact ⟨fun _ => clean, by simp [reading]⟩

/-- A pass whose `io.ReadFull` fails with an error other than EOF, or returns
fewer bytes than the header asks for with no error. -/
def ReaderRound.ReadsIncomplete (codec : ReaderCodec) (round : ReaderRound) : Prop :=
  round.cancelled = false ∧ ∃ peeked : SizedBytes 12, round.peek = .ok peeked ∧
    peeked.val.take 4 = frameMagicBytes ∧ expecting codec (peeked.val.drop 4) ≤ codec.maxFrameSize ∧
    ((∃ reason, (round.readFull (expecting codec (peeked.val.drop 4))).2 = some (.other reason)) ∨
      ((round.readFull (expecting codec (peeked.val.drop 4))).2 = none ∧
        (round.readFull (expecting codec (peeked.val.drop 4))).1.length <
          expecting codec (peeked.val.drop 4)))

/-- An incomplete read is logged and the loop goes on, with no effect. -/
theorem readerPass_readsIncomplete {codec : ReaderCodec} {round : ReaderRound}
    (incomplete : round.ReadsIncomplete codec) (ingress : SwitchPortID) (ports : SwitchPortID → Peer) :
    readerPass codec ingress ports round = .next [] ports := by
  obtain ⟨live, peeked, peekOk, magic, fits, failure⟩ := incomplete
  unfold readerPass
  rw [if_neg (by simp [live]), peekOk]
  simp only [magic, ne_eq, not_true_eq_false, if_false, if_neg (Nat.not_lt.mpr fits)]
  generalize round.readFull (expecting codec (peeked.val.drop 4)) = result at failure ⊢
  obtain ⟨bytes, err⟩ := result
  rcases failure with ⟨reason, rfl⟩ | ⟨rfl, short⟩
  · rfl
  · simp [short]

/-- Started with nothing done, the reader has made no `Disconnect` as long as
it has not returned; it returns only at a cancelled pass, right after its one
`Disconnect` for a failed `Peek` or an EOF from `io.ReadFull`, or right after
releasing a frame that failed to decode or was not `Version0`. Every pass whose
read fails otherwise, or comes up short, goes on without a `Disconnect`. -/
theorem reader_returns_only_by_cancel_disconnect_or_release (codec : ReaderCodec)
    (ingress : SwitchPortID) (rounds : List ReaderRound) (ports : SwitchPortID → Peer) :
    let s := readerRun codec ingress rounds ⟨ports, [], false, false⟩
    (s.returned = false → NoDisconnect s.effects) ∧
    (s.returned = true → ReturnedBy rounds s.effects) ∧
    (∀ round, round.ReadsIncomplete codec → ∀ before, readerPass codec ingress before round = .next [] before) :=
  ⟨(readerRun_stops codec ingress rounds _ rfl rfl (by simp [NoDisconnect])).1,
    (readerRun_stops codec ingress rounds _ rfl rfl (by simp [NoDisconnect])).2,
    fun _ incomplete => readerPass_readsIncomplete incomplete ingress⟩

/-- A codec that knows no frame type, decodes nothing and routes nowhere, with
a 65535-byte buffer. -/
def inertCodec : ReaderCodec := ⟨fun _ => none, fun _ => .error "unexpected EOF", fun _ _ => [], 65535⟩

/-- A pass on a live connection where a well-formed header is waiting but the
read of the frame times out. -/
def timedOutRound : ReaderRound where
  cancelled := false
  peek := .ok ⟨frameMagicBytes ++ List.replicate 8 0, by simp [frameMagicBytes]⟩
  readFull := fun _ => ([], some (.other "i/o timeout"))
  forwarding := ⟨fun _ => .failed, fun _ => false⟩

/-- Remote peers on every port, all with key `0x00…`. -/
def remotePorts : SwitchPortID → Peer := fun port => Peer.fresh port "" peerTypeRemote (SizedBytes.replicate 32 0)

/-- After a read error other than EOF the reader neither disconnects nor
stops: it goes on to the next pass. -/
theorem read_timeout_keeps_reading :
    (readerRun inertCodec 1 [timedOutRound] ⟨remotePorts, [], false, false⟩).returned = false ∧
      (readerRun inertCodec 1 [timedOutRound] ⟨remotePorts, [], false, false⟩).effects = [] := by
  decide

/-- A pass whose frame is read in full but then fails to decode, or decodes
with a version other than `Version0`. -/
def ReaderRound.Rejects (codec : ReaderCodec) (round : ReaderRound) : Prop :=
  round.cancelled = false ∧ ∃ peeked : SizedBytes 12, round.peek = .ok peeked ∧
    peeked.val.take 4 = frameMagicBytes ∧ expecting codec (peeked.val.drop 4) ≤ codec.maxFrameSize ∧
    ∃ bytes, round.readFull (expecting codec (peeked.val.drop 4)) = (bytes, none) ∧
      expecting codec (peeked.val.drop 4) ≤ bytes.length ∧
      ((∃ err, codec.unmarshalBinary bytes = .error err) ∨
        ∃ frame, codec.unmarshalBinary bytes = .ok frame ∧ frame.version ≠ 0)

/-- A rejected frame is released and the pass returns, with no `Disconnect`
and the peer slots untouched. -/
theorem readerPass_rejects {codec : ReaderCodec} {round : ReaderRound} (rejects : round.Rejects codec)
    (ingress : SwitchPortID) (ports : SwitchPortID → Peer) :
    readerPass codec ingress ports round = .exit [.release] ports := by
  obtain ⟨live, peeked, peekOk, magic, fits, bytes, complete, enough, rejected⟩ := rejects
  unfold readerPass
  rw [if_neg (by simp [live]), peekOk]
  simp only [magic, ne_eq, not_true_eq_false, if_false, if_neg (Nat.not_lt.mpr fits), complete,
    if_neg (Nat.not_lt.mpr enough)]
  rcases rejected with ⟨err, failed⟩ | ⟨frame, decoded, version⟩
  · simp [failed]
  · simp [decoded, version]

/-! ## What the reader changes in the peer slots -/

end Pinecone
