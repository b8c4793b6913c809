import Pinecone.Dissector.Lua

/-!
# `varu64` and `coords`

`varu64` reads one wire varint for the dissector: big-endian 7-bit groups,
the continuation bit `0x80` on every byte but the last. It accumulates with
`bit32`, so the value it returns is the encoded number reduced modulo `2^32`;
it consumes exactly the encoding as long as that fits its ten-byte loop.
`coords` reads a run of such varints, a coordinate list.

The encoder is the Go codec's `Varu64.MarshalBinary`, which is not among the
sources; `encodeVaru64` follows the wire format as the specification states it.
-/

namespace Pinecone.Dissector

/-- The `while l < 10` loop of `varu64` entered with accumulator `n` after `l`
bytes: `rest` is the argument from index `l` on, so its head is
`bytes:get_index(l)`, and reading past the end is a Lua error. -/
def varu64From (n l : Nat) : Bytes → Option (Nat × Nat)
  | [] => if l < 10 then none else some (n, l)
  | b :: rest =>
    if l < 10 then
      let n := bor (lshift n 7) (band b.toNat 0x7f)
      if band b.toNat 0x80 = 0 then some (n, l + 1) else varu64From n (l + 1) rest
    else some (n, l)

/-- `varu64(bytes)`: the value of the varint at the start of `bytes` and the
number of bytes it took. -/
def varu64 (bytes : Bytes) : Option (Nat × Nat) := varu64From 0 0 bytes

/-- Modelled from the spec: the groups of a varint ahead of its last one, as
the Go codec's `Varu64.MarshalBinary` writes them: the 7-bit groups of `n`,
most significant first, each with the continuation bit `0x80` set. -/
def leadingGroups (n : Nat) : Bytes :=
  if n = 0 then [] else leadingGroups (n / 128) ++ [UInt8.ofNat (n % 128 + 0x80)]
termination_by n
decreasing_by omega

/-- Modelled from the spec: the wire varint of `n`, "big-endian 7-bit groups
with continuation bit in the MSB, most-significant group first". -/
def encodeVaru64 (n : Nat) : Bytes := leadingGroups (n / 128) ++ [UInt8.ofNat (n % 128)]

/-- The encoding of a run of ports, as a coordinate list is laid out. -/
def encodePorts (ports : List Nat) : Bytes := ports.flatMap encodeVaru64

example : encodeVaru64 5000 = [167, 8] := by
  simp [encodeVaru64, leadingGroups]

/-! ## Lengths -/

theorem length_leadingGroups_le (n : Nat) : ∀ {groups : Nat}, n < 128 ^ groups →
    (leadingGroups n).length ≤ groups := by
  induction n using leadingGroups.induct with
  | case1 => simp [leadingGroups]
  | case2 n nonzero inductionHypothesis =>
    intro groups bounded
    rw [leadingGroups, if_neg nonzero, List.length_append, List.length_singleton]
    cases groups with
    | zero => simp at bounded; omega
    | succ groups =>
      have below : n / 128 < 128 ^ groups := by
        rw [pow_succ] at bounded
        omega
      have := inductionHypothesis below
      omega

theorem length_encodeVaru64 (n : Nat) :
    (encodeVaru64 n).length = (leadingGroups (n / 128)).length + 1 := by
  simp [encodeVaru64]

/-- Every number below `2^63` takes at most nine bytes. -/
theorem length_encodeVaru64_le {n : Nat} (bounded : n < 2 ^ 63) : (encodeVaru64 n).length ≤ 9 := by
  have leading := @length_leadingGroups_le (n / 128) 8 (by norm_num; omega)
  rw [length_encodeVaru64]
  omega

/-! ## Reading back -/

/-- The last byte of a varint ends the loop with one more group. -/
theorem varu64From_last {acc l group : Nat} (tail : Bytes) (fits : acc < 2 ^ 32)
    (inLoop : l < 10) (small : group < 128) :
    varu64From acc l (UInt8.ofNat group :: tail) = some ((acc * 128 + group) % 2 ^ 32, l + 1) := by
  have byte : (UInt8.ofNat group).toNat < 128 := by simp; omega
  simp only [varu64From, inLoop, if_true, (band_high_bit_eq_zero (by omega)).mpr byte,
    bor_lshift_band fits (by omega : (UInt8.ofNat group).toNat < 256)]
  simp only [toNat_ofNat_byte, Option.some.injEq, Prod.mk.injEq, and_true]
  omega

/-- The leading groups of a varint each feed one base-128 step into the
accumulator and keep the loop going. -/
theorem varu64From_leadingGroups (n : Nat) : ∀ {acc l : Nat} (tail : Bytes), acc < 2 ^ 32 →
    l + (leadingGroups n).length < 10 →
    varu64From acc l (leadingGroups n ++ tail) =
      varu64From ((acc * 128 ^ (leadingGroups n).length + n) % 2 ^ 32)
        (l + (leadingGroups n).length) tail := by
  induction n using leadingGroups.induct with
  | case1 =>
    intro acc l tail fits _
    rw [leadingGroups, if_pos rfl]
    simp only [List.nil_append, List.length_nil, pow_zero, mul_one, add_zero, Nat.mod_eq_of_lt fits]
  | case2 n nonzero inductionHypothesis =>
    intro acc l tail fits inLoop
    have unfolded : leadingGroups n = leadingGroups (n / 128) ++ [UInt8.ofNat (n % 128 + 0x80)] := by
      rw [leadingGroups, if_neg nonzero]
    rw [unfolded, List.length_append, List.length_singleton] at inLoop ⊢
    rw [List.append_assoc, List.singleton_append,
      inductionHypothesis _ fits (by omega)]
    set groups := (leadingGroups (n / 128)).length
    have byte : (UInt8.ofNat (n % 128 + 0x80)).toNat = n % 128 + 128 := by simp; omega
    have continued : ¬ band (UInt8.ofNat (n % 128 + 0x80)).toNat 0x80 = 0 := by
      rw [band_high_bit_eq_zero (by omega)]
      omega
    conv_lhs => rw [varu64From]
    simp only [if_pos (show l + groups < 10 by omega), if_neg continued,
      bor_lshift_band (Nat.mod_lt _ (by norm_num)) (by omega : (UInt8.ofNat (n % 128 + 0x80)).toNat < 256)]
    rw [byte]
    have power : acc * 128 ^ (groups + 1) = acc * 128 ^ groups * 128 := by ring
    rw [power, show l + (groups + 1) = l + groups + 1 by omega]
    congr 1
    generalize acc * 128 ^ groups = shifted
    omega

/-- `varu64` rebuilds any encoding that fits its ten-byte loop, modulo `2^32`,
and consumes exactly that encoding whatever follows it. -/
theorem varu64_encodeVaru64_mod (n : Nat) (rest : Bytes) (fitsLoop : (encodeVaru64 n).length ≤ 10) :
    varu64 (encodeVaru64 n ++ rest) = some (n % 2 ^ 32, (encodeVaru64 n).length) := by
  rw [length_encodeVaru64] at fitsLoop ⊢
  rw [varu64, encodeVaru64, List.append_assoc, List.singleton_append,
    varu64From_leadingGroups _ _ (by norm_num) (by omega),
    varu64From_last _ (Nat.mod_lt _ (by norm_num)) (by omega) (Nat.mod_lt _ (by norm_num))]
  congr 2 <;> omega

/-- For every number below `2^63` and every suffix, `varu64` consumes exactly
the number's encoding and returns the number reduced modulo `2^32`. -/
theorem varu64_encodeVaru64 (n : Nat) (rest : Bytes) (bounded : n < 2 ^ 63) :
    varu64 (encodeVaru64 n ++ rest) = some (n % 2 ^ 32, (encodeVaru64 n).length) :=
  varu64_encodeVaru64_mod n rest (by have := length_encodeVaru64_le bounded; omega)

/-- The bound is met at `2^32`, the first value the 32-bit accumulator loses. -/
theorem varu64_encodeVaru64_two_pow_32 :
    2 ^ 32 < 2 ^ 63 ∧ varu64 (encodeVaru64 (2 ^ 32) ++ [1, 2]) =
      some (2 ^ 32 % 2 ^ 32, (encodeVaru64 (2 ^ 32)).length) :=
  ⟨by omega, varu64_encodeVaru64 (2 ^ 32) [1, 2] (by omega)⟩

theorem length_encodeVaru64_two_pow_32 : (encodeVaru64 (2 ^ 32)).length = 5 := by
  simp [encodeVaru64, leadingGroups]

/-- The five-byte encoding of `2^32` reads back as 0, not as `2^32`. -/
theorem varu64_drops_high_bits :
    varu64 (encodeVaru64 (2 ^ 32) ++ []) = some (0, 5) ∧
      (0, 5) ≠ (2 ^ 32, (encodeVaru64 (2 ^ 32)).length) := by
  have read := varu64_encodeVaru64_mod (2 ^ 32) []
    (by rw [length_encodeVaru64_two_pow_32]; omega)
  rw [length_encodeVaru64_two_pow_32] at read ⊢
  exact ⟨read, by norm_num⟩

/-- Every run of the loop from `l < 10` that returns has read at least one more byte. -/
theorem lt_of_varu64From {n l value read : Nat} {bytes : Bytes} (inLoop : l < 10)
    (returned : varu64From n l bytes = some (value, read)) : l < read := by
  induction bytes generalizing n l with
  | nil => simp [varu64From, inLoop] at returned
  | cons byte rest inductionHypothesis =>
    simp only [varu64From, inLoop, if_true] at returned
    split at returned
    · simp only [Option.some.injEq, Prod.mk.injEq] at returned
      omega
    · by_cases stillInLoop : l + 1 < 10
      · have := inductionHypothesis stillInLoop returned
        omega
      · cases rest with
        | nil => simp [varu64From, stillInLoop] at returned; omega
        | cons _ _ => simp [varu64From, stillInLoop] at returned; omega

/-! ## Any input -/

/-- One base-128 digit: the low seven bits of a byte. -/
def base128Step (acc : Nat) (byte : UInt8) : Nat := acc * 128 + byte.toNat % 128

/-- The number whose big-endian base-128 digits are the low seven bits of
`bytes`. -/
def base128 (bytes : Bytes) : Nat := bytes.foldl base128Step 0

/-- Digits read into accumulators equal modulo `2^32` give values equal
modulo `2^32`. -/
theorem foldl_base128Step_mod (bytes : Bytes) :
    ∀ {acc acc' : Nat}, acc % 2 ^ 32 = acc' % 2 ^ 32 →
      bytes.foldl base128Step acc % 2 ^ 32 = bytes.foldl base128Step acc' % 2 ^ 32 := by
  induction bytes with
  | nil => exact id
  | cons byte rest ih =>
    intro acc acc' same
    apply ih
    simp only [base128Step]
    omega

/-- The run lemma of the loop: from an accumulator within 32 bits and inside
the loop, what it returns is the base-128 value of the bytes it read, reduced
modulo `2^32`; it reads at least one byte and stops at ten; every byte it read
but the last carries the continuation bit, and the last does not unless the
loop stopped at ten. -/
theorem varu64From_reads (bytes : Bytes) :
    ∀ {n l value read : Nat}, n < 2 ^ 32 → l < 10 → varu64From n l bytes = some (value, read) →
      l < read ∧ read ≤ 10 ∧ read - l ≤ bytes.length ∧
        value = (bytes.take (read - l)).foldl base128Step n % 2 ^ 32 ∧
        (∀ byte ∈ (bytes.take (read - l)).dropLast, 128 ≤ byte.toNat) ∧
        (read < 10 → ∀ byte ∈ (bytes.take (read - l)).getLast?, byte.toNat < 128) := by
  induction bytes with
  | nil => intro n l value read _ inLoop returned; simp [varu64From, inLoop] at returned
  | cons byte rest ih =>
    intro n l value read fits inLoop returned
    have small : byte.toNat < 256 := byte.val.isLt
    have oneByte : (l + 1 < 10 → byte.toNat < 128) →
        l < l + 1 ∧ l + 1 ≤ 10 ∧ l + 1 - l ≤ (byte :: rest).length ∧
          (n * 128 + byte.toNat % 128) % 2 ^ 32 = ((byte :: rest).take (l + 1 - l)).foldl base128Step n % 2 ^ 32 ∧
          (∀ other ∈ ((byte :: rest).take (l + 1 - l)).dropLast, 128 ≤ other.toNat) ∧
          (l + 1 < 10 → ∀ other ∈ ((byte :: rest).take (l + 1 - l)).getLast?, other.toNat < 128) := by
      intro ends
      rw [Nat.add_sub_cancel_left, List.take_succ_cons, List.take_zero]
      refine ⟨by omega, by omega, by simp, rfl, by simp, fun early other read => ?_⟩
      obtain rfl : byte = other := by simpa using read
      exact ends early
    simp only [varu64From, inLoop, if_true, bor_lshift_band fits small] at returned
    split at returned
    · rename_i last
      rw [band_high_bit_eq_zero small] at last
      simp only [Option.some.injEq, Prod.mk.injEq] at returned
      obtain ⟨rfl, rfl⟩ := returned
      exact oneByte fun _ => last
    · rename_i continued
      rw [band_high_bit_eq_zero small] at continued
      have next : (n * 128 + byte.toNat % 128) % 2 ^ 32 < 2 ^ 32 := Nat.mod_lt _ (by norm_num)
      by_cases stillInLoop : l + 1 < 10
      · obtain ⟨later, atMost, within, valued, carried, ends⟩ := ih next stillInLoop returned
        obtain ⟨more, taken⟩ : ∃ more, read - l = more + 1 + 1 := ⟨read - l - 2, by omega⟩
        have takenRest : read - (l + 1) = more + 1 := by omega
        rw [takenRest] at within valued carried ends
        obtain ⟨first, others, split⟩ := List.exists_cons_of_ne_nil
          (List.ne_nil_of_length_pos (by rw [List.length_take]; omega : 0 < (rest.take (more + 1)).length))
        refine ⟨by omega, atMost, by rw [List.length_cons]; omega, ?_, ?_, ?_⟩
        · rw [taken, List.take_succ_cons, List.foldl_cons, valued]
          exact foldl_base128Step_mod _ (Nat.mod_mod _ _)
        · rw [taken, List.take_succ_cons, split, List.dropLast_cons₂, List.forall_mem_cons]
          exact ⟨by omega, split ▸ carried⟩
        · intro early
          rw [taken, List.take_succ_cons, split, List.getLast?_cons_cons, ← split]
          exact ends early
      · have stop : varu64From ((n * 128 + byte.toNat % 128) % 2 ^ 32) (l + 1) rest =
            some ((n * 128 + byte.toNat % 128) % 2 ^ 32, l + 1) := by
          cases rest <;> simp only [varu64From, stillInLoop, if_false]
        rw [stop, Option.some.injEq, Prod.mk.injEq] at returned
        obtain ⟨rfl, rfl⟩ := returned
        exact oneByte fun early => absurd early stillInLoop

/-- Whatever the bytes, when `varu64` returns a value it has read one to ten
bytes, no more than there are; the value is the base-128 number of the low
seven bits of those bytes, most significant first, reduced modulo `2^32`;
every byte read but the last carries the continuation bit `0x80`, and the last
does not, unless the ten-byte loop ran out first. -/
theorem varu64_reads_a_varint (bytes : Bytes) (value read : Nat) (returned : varu64 bytes = some (value, read)) :
    1 ≤ read ∧ read ≤ 10 ∧ read ≤ bytes.length ∧ value = base128 (bytes.take read) % 2 ^ 32 ∧
      (∀ byte ∈ (bytes.take read).dropLast, 128 ≤ byte.toNat) ∧
      (read < 10 → ∀ byte ∈ (bytes.take read).getLast?, byte.toNat < 128) := by
  simpa [base128] using varu64From_reads bytes (by norm_num) (by norm_num) returned

theorem varu64_reads_two_byte_varint :
    varu64 (encodeVaru64 5000 ++ [1]) = some (5000 % 2 ^ 32, (encodeVaru64 5000).length) ∧
      1 ≤ (encodeVaru64 5000).length ∧ (encodeVaru64 5000).length ≤ 10 ∧
      (encodeVaru64 5000).length ≤ (encodeVaru64 5000 ++ [1]).length ∧
      5000 % 2 ^ 32 = base128 ((encodeVaru64 5000 ++ [1]).take (encodeVaru64 5000).length) % 2 ^ 32 ∧
      (∀ byte ∈ ((encodeVaru64 5000 ++ [1]).take (encodeVaru64 5000).length).dropLast, 128 ≤ byte.toNat) ∧
      ((encodeVaru64 5000).length < 10 →
        ∀ byte ∈ ((encodeVaru64 5000 ++ [1]).take (encodeVaru64 5000).length).getLast?, byte.toNat < 128) :=
  have read := varu64_encodeVaru64_mod 5000 [1] (by simp [encodeVaru64, leadingGroups])
  ⟨read, varu64_reads_a_varint _ _ _ read⟩

/-- The `while o < b:len()` loop of `coords` from offset `o`: the ports read
from there on, in order. `b:subset(o, b:len() - o)` is `b` from `o` on. -/
def coordsFrom (b : Bytes) (o : Nat) : Option (List Nat) :=
  if inRange : o < b.length then
    match read : varu64 (b.drop o) with
    | none => none
    | some (n, l) =>
      have : b.length - (o + l) < b.length - o := by
        have := lt_of_varu64From (by norm_num) read
        omega
      (coordsFrom b (o + l)).map (n :: ·)
  else some []
termination_by b.length - o

/-- `"[" .. table.concat(c, " ") .. "]"`: Lua writes each port, an integer
below `2^32`, in decimal. -/
def renderPorts (ports : List Nat) : String :=
  "[" ++ " ".intercalate (ports.map toString) ++ "]"

/-- `coords(range)`: the coordinate list held by `range`, as the dissector
displays it. -/
def coords (range : Bytes) : Option String := (coordsFrom range 0).map renderPorts

/-- A run of encoded ports after any prefix reads back as those ports when each
fits the 32-bit field. -/
theorem coordsFrom_encodePorts (ports : List Nat) (fits : ∀ port ∈ ports, port < 2 ^ 32) :
    ∀ front : Bytes, coordsFrom (front ++ encodePorts ports) front.length = some ports := by
  induction ports with
  | nil => intro front; simp [encodePorts, coordsFrom]
  | cons port ports inductionHypothesis =>
    intro front
    have small := fits port (by simp)
    have nonempty : 0 < (encodeVaru64 port).length := by
      rw [length_encodeVaru64]
      omega
    have inRange : front.length < (front ++ encodePorts (port :: ports)).length := by
      simp [encodePorts]
      omega
    have read : varu64 ((front ++ encodePorts (port :: ports)).drop front.length) =
        some (port, (encodeVaru64 port).length) := by
      simp only [List.drop_left, encodePorts, List.flatMap_cons]
      rw [varu64_encodeVaru64 _ _ (by omega), Nat.mod_eq_of_lt small]
    rw [coordsFrom, dif_pos inRange]
    split
    · rename_i failed
      rw [read] at failed
      cases failed
    · rename_i value length found
      rw [read] at found
      simp only [Option.some.injEq, Prod.mk.injEq] at found
      obtain ⟨rfl, rfl⟩ := found
      have rest := inductionHypothesis (fun other mem => fits other (by simp [mem]))
        (front ++ encodeVaru64 port)
      simp only [encodePorts, List.flatMap_cons, List.length_append, List.append_assoc] at rest ⊢
      rw [rest]
      rfl

/-- `coords` displays exactly the encoded coordinate list. -/
theorem coords_encodePorts (ports : List Nat) (fits : ∀ port ∈ ports, port < 2 ^ 32) :
    coords (encodePorts ports) = some (renderPorts ports) := by
  have := coordsFrom_encodePorts ports fits []
  simp only [List.nil_append, List.length_nil] at this
  simp [coords, this]

/-! ## What `coords` accepts -/

/-- The bytes of one varint as `varu64` reads them: one to ten bytes, each but
the last with the continuation bit, the last without it unless there are ten. -/
def VarintBytes (piece : Bytes) : Prop :=
  1 ≤ piece.length ∧ piece.length ≤ 10 ∧ (∀ byte ∈ piece.dropLast, 128 ≤ byte.toNat) ∧
    (piece.length < 10 → ∀ byte ∈ piece.getLast?, byte.toNat < 128)

/-- The run lemma of the loop of `coords`: from offset `o`, the bytes left
split into varints whose values, reduced modulo `2^32`, are the ports read. -/
theorem coordsFrom_splits (b : Bytes) (size : Nat) :
    ∀ o, b.length - o = size → ∀ ports, coordsFrom b o = some ports →
      ∃ pieces : List Bytes, b.drop o = pieces.flatten ∧ ports = pieces.map (fun piece => base128 piece % 2 ^ 32) ∧
        ∀ piece ∈ pieces, VarintBytes piece := by
  induction size using Nat.strong_induction_on with
  | _ size ih =>
    intro o left ports read
    rw [coordsFrom] at read
    split at read
    · rename_i inRange
      split at read
      · cases read
      · rename_i value length found
        obtain ⟨rest, restRead, rfl⟩ := Option.map_eq_some'.mp read
        obtain ⟨atLeast, atMost, within, valued, carried, ends⟩ :=
          varu64From_reads (b.drop o) (by norm_num) (by norm_num) found
        simp only [Nat.sub_zero] at within valued carried ends
        have shorter : b.length - (o + length) < size := by simp at within; omega
        obtain ⟨pieces, split, rfl, varints⟩ := ih _ shorter (o + length) rfl rest restRead
        have pieceLength : ((b.drop o).take length).length = length := List.length_take_of_le within
        refine ⟨(b.drop o).take length :: pieces, ?_, ?_, ?_⟩
        · rw [List.flatten_cons, ← split, ← List.drop_drop, List.take_append_drop]
        · simp [valued, base128]
        · simp only [List.mem_cons, forall_eq_or_imp]
          exact ⟨⟨by omega, by omega, carried, fun early => ends (pieceLength ▸ early)⟩, varints⟩
    · cases read
      exact ⟨[], List.drop_eq_nil_of_le (by omega), rfl, by simp⟩

/-- Whatever the range, when `coords` returns its text (without a Lua error
from a varint running past the end), the range splits exactly into varints,
each of one to ten bytes with the continuation bit on all but its last, and
the text lists their base-128 values reduced modulo `2^32`, in order. -/
theorem coords_splits_range_into_varints (range : Bytes) (text : String) (shown : coords range = some text) :
    ∃ pieces : List Bytes, range = pieces.flatten ∧
      text = renderPorts (pieces.map fun piece => base128 piece % 2 ^ 32) ∧ ∀ piece ∈ pieces, VarintBytes piece := by
  obtain ⟨ports, read, rfl⟩ := Option.map_eq_some'.mp shown
  obtain ⟨pieces, split, rfl, varints⟩ := coordsFrom_splits range _ 0 rfl ports read
  exact ⟨pieces, by simpa using split, rfl, varints⟩

theorem two_ports_split_into_varints :
    coords (encodePorts [1, 5000]) = some (renderPorts [1, 5000]) ∧
      ∃ pieces : List Bytes, encodePorts [1, 5000] = pieces.flatten ∧
        renderPorts [1, 5000] = renderPorts (pieces.map fun piece => base128 piece % 2 ^ 32) ∧
        ∀ piece ∈ pieces, VarintBytes piece :=
  have shown := coords_encodePorts [1, 5000] (by decide)
  ⟨shown, coords_splits_range_into_varints _ _ shown⟩

end Pinecone.Dissector
