import PoisonedOS.Library.Incremental

/-!
# Delimited frames

The dashboard writes each message after its length, in groups of seven bits, and reads
messages from a transport that hands over chunks of any size. Each read looks at the whole
receive buffer again, and asks for another chunk as long as no frame is complete in it.

The length is put together with JavaScript's 32-bit operators, so a fifth byte loses its
upper bits and can make the number negative.
-/

namespace PoisonedOS.Delimited

open Incremental

/-- `MAX_PROTOBUF_FRAME`. -/
def maxProtobufFrame : Nat := 4096

/-- The loop over the groups of a length, of which 32 bits have at most five. -/
def lengthPrefix : Nat → UInt32 → List UInt8
  | 0, _ => []
  | rounds + 1, remaining =>
    let octet := (remaining &&& 0x7F).toUInt8
    let rest := remaining >>> 7
    if rest != 0 then (octet ||| 0x80) :: lengthPrefix rounds rest else [octet]

/-- `encodeDelimited`. -/
def encodeDelimited (payload : List UInt8) : List UInt8 :=
  lengthPrefix 5 (UInt32.ofNat payload.length) ++ payload

/-- What the loop over the first bytes of the buffer ends with. -/
inductive LengthScan where
  | complete (length : UInt32) (prefixLength : Nat)
  | unfinished (prefixLength : Nat)
deriving DecidableEq

/-- The loop over the first bytes of the buffer, for so many more bytes. -/
def scanLength : Nat → List UInt8 → UInt32 → Nat → LengthScan
  | rounds + 1, octet :: rest, length, prefixLength =>
    let grown := length ||| ((octet &&& 0x7F).toUInt32 <<< UInt32.ofNat (7 * prefixLength))
    if octet &&& 0x80 == 0 then .complete grown (prefixLength + 1)
    else scanLength rounds rest grown (prefixLength + 1)
  | _, _, _, prefixLength => .unfinished prefixLength

/-- What `SessionClient.readDelimited` finds in the receive buffer. -/
def front (buffer : List UInt8) : Front UInt8 (List UInt8) String :=
  match scanLength 5 buffer 0 0 with
  | .complete length prefixLength =>
    if decide (length.toBitVec.toInt ≤ 0) || decide (length.toBitVec.toInt > maxProtobufFrame) then
      .bad "device returned an invalid protobuf frame length"
    else if buffer.length ≥ prefixLength + length.toNat then
      .frame ((buffer.drop prefixLength).take length.toNat)
        (buffer.drop (prefixLength + length.toNat))
    else .more
  | .unfinished prefixLength =>
    if prefixLength == 5 then .bad "device returned an invalid protobuf length prefix" else .more

/-- The receive buffer, and the chunks that the transport still has before it closes. -/
structure Input where
  buffer : List UInt8
  chunks : List (List UInt8)

/-- All bytes that are still to be read. -/
def Input.stream (input : Input) : List UInt8 := input.buffer ++ input.chunks.flatten

/-- `SessionClient.readDelimited` over the chunks that are left. -/
def readDelimitedFrom (buffer : List UInt8) :
    List (List UInt8) → Except String (List UInt8) × Input
  | [] =>
    match front buffer with
    | .frame payload rest => (.ok payload, ⟨rest, []⟩)
    | .bad error => (.error error, ⟨buffer, []⟩)
    | .more => (.error "device closed during protobuf frame", ⟨buffer, []⟩)
  | chunk :: chunks =>
    match front buffer with
    | .frame payload rest => (.ok payload, ⟨rest, chunk :: chunks⟩)
    | .bad error => (.error error, ⟨buffer, chunk :: chunks⟩)
    | .more => readDelimitedFrom (buffer ++ chunk) chunks

/-- `SessionClient.readDelimited`. -/
def readDelimited (input : Input) : Except String (List UInt8) × Input :=
  readDelimitedFrom input.buffer input.chunks

/-- So many calls one after the other, up to the first error: the frames, the error and the
input that is left. -/
def readCalls : Nat → Input → List (List UInt8) × Option String × Input
  | 0, input => ([], none, input)
  | calls + 1, input =>
    match readDelimited input with
    | (.ok payload, rest) =>
      let later := readCalls calls rest
      (payload :: later.1, later.2)
    | (.error error, rest) => ([], some error, rest)

/-! ## The length -/

theorem scanLength_complete {rounds : Nat} {buffer : List UInt8} {length found : UInt32}
    {read prefixLength : Nat}
    (complete : scanLength rounds buffer length read = .complete found prefixLength)
    (later : List UInt8) :
    scanLength rounds (buffer ++ later) length read = .complete found prefixLength ∧
      read < prefixLength := by
  induction rounds generalizing buffer length read with
  | zero => cases complete
  | succ rounds ih =>
    cases buffer with
    | nil => cases complete
    | cons octet rest =>
      rw [List.cons_append]
      rw [scanLength] at complete ⊢
      split at complete
      · rename_i last
        rw [if_pos last, complete]
        cases complete
        exact ⟨rfl, Nat.lt_succ_self read⟩
      · rename_i continued
        obtain ⟨same, further⟩ := ih complete
        rw [if_neg continued]
        exact ⟨same, Nat.lt_of_succ_lt further⟩

theorem scanLength_unfinished {rounds : Nat} {buffer : List UInt8} {length : UInt32} {read : Nat}
    (unfinished : scanLength rounds buffer length read = .unfinished (read + rounds))
    (later : List UInt8) :
    scanLength rounds (buffer ++ later) length read = .unfinished (read + rounds) := by
  induction rounds generalizing buffer length read with
  | zero => rfl
  | succ rounds ih =>
    cases buffer with
    | nil =>
      have none : read = read + (rounds + 1) := LengthScan.unfinished.inj unfinished
      omega
    | cons octet rest =>
      rw [List.cons_append]
      rw [scanLength] at unfinished ⊢
      split at unfinished
      · cases unfinished
      · rename_i continued
        rw [if_neg continued]
        have moved : read + (rounds + 1) = read + 1 + rounds := by omega
        rw [moved] at unfinished ⊢
        exact ih unfinished

/-- The reader is stable: the length, a frame and an error do not change with more input. -/
theorem front_stable : Stable front where
  empty := rfl
  bad input error isBad later := by
    rw [front] at isBad ⊢
    cases scanned : scanLength 5 input 0 0 with
    | complete length prefixLength =>
      rw [scanned] at isBad
      rw [(scanLength_complete scanned later).1]
      dsimp only at isBad ⊢
      split at isBad
      · rename_i invalid
        rw [if_pos invalid]
        exact isBad
      · split at isBad
        · cases isBad
        · cases isBad
    | unfinished prefixLength =>
      rw [scanned] at isBad
      dsimp only at isBad
      split at isBad
      · rename_i five
        obtain rfl := beq_iff_eq.mp five
        rw [scanLength_unfinished scanned later]
        exact isBad
      · cases isBad
  frame input payload rest isFrame later := by
    rw [front] at isFrame ⊢
    cases scanned : scanLength 5 input 0 0 with
    | complete length prefixLength =>
      rw [scanned] at isFrame
      rw [(scanLength_complete scanned later).1]
      dsimp only at isFrame ⊢
      split at isFrame
      · cases isFrame
      rename_i valid
      split at isFrame
      · rename_i whole
        cases isFrame
        rw [if_neg valid, if_pos (by rw [List.length_append]; omega),
          List.drop_append_of_le_length (by omega), List.drop_append_of_le_length whole,
          List.take_append_of_le_length (by rw [List.length_drop]; omega)]
      · cases isFrame
    | unfinished prefixLength =>
      rw [scanned] at isFrame
      dsimp only at isFrame
      split at isFrame
      · cases isFrame
      · cases isFrame
  shorter input payload rest isFrame := by
    rw [front] at isFrame
    cases scanned : scanLength 5 input 0 0 with
    | complete length prefixLength =>
      rw [scanned] at isFrame
      have further := (scanLength_complete scanned []).2
      dsimp only at isFrame
      split at isFrame
      · cases isFrame
      split at isFrame
      · cases isFrame
        rw [List.length_drop]
        omega
      · cases isFrame
    | unfinished prefixLength =>
      rw [scanned] at isFrame
      dsimp only at isFrame
      split at isFrame
      · cases isFrame
      · cases isFrame

/-- What is scanned of a group of seven bits, with and without a continuation. -/
theorem scanned_group : ∀ value : Fin 128,
    ((UInt8.ofNat value.val ||| 0x80) &&& 0x80 == 0) = false ∧
      ((UInt8.ofNat value.val ||| 0x80) &&& 0x7F).toUInt32 = UInt32.ofNat value.val ∧
      (UInt8.ofNat value.val &&& 0x80 == 0) = true ∧
      (UInt8.ofNat value.val &&& 0x7F).toUInt32 = UInt32.ofNat value.val := by
  decide

variable {size : Nat}

theorem toNat_size (bounded : size ≤ maxProtobufFrame) :
    (UInt32.ofNat size).toNat = size :=
  UInt32.toNat_ofNat_of_lt' (Nat.lt_of_le_of_lt bounded (by decide))

/-- The lowest group of a length, and what is left of it. -/
theorem group_eq (bounded : size ≤ maxProtobufFrame) :
    (UInt32.ofNat size &&& 0x7F).toUInt8 = UInt8.ofNat (size % 128) ∧
      UInt32.ofNat size >>> 7 = UInt32.ofNat (size / 128) := by
  have mask : (0x7F : UInt32).toNat = 2 ^ 7 - 1 := rfl
  have seven : (7 : UInt32).toNat % 32 = 7 := rfl
  constructor
  · apply UInt8.toNat.inj
    rw [UInt32.toNat_toUInt8, UInt32.toNat_and, toNat_size bounded, mask,
      Nat.and_two_pow_sub_one_eq_mod, UInt8.toNat_ofNat']
  · apply UInt32.toNat.inj
    rw [UInt32.toNat_shiftRight, toNat_size bounded, seven, Nat.shiftRight_eq_div_pow,
      toNat_size (Nat.le_trans (Nat.div_le_self _ _) bounded)]

/-- The length that is written is read.

Proof: a length has one group of seven bits, or a second one above it. -/
theorem scanLength_lengthPrefix (bounded : size ≤ maxProtobufFrame) :
    scanLength 5 (lengthPrefix 5 (UInt32.ofNat size)) 0 0 =
      .complete (UInt32.ofNat size) (lengthPrefix 5 (UInt32.ofNat size)).length := by
  have limit : maxProtobufFrame = 4096 := rfl
  obtain ⟨low, high⟩ := group_eq bounded
  obtain ⟨lowContinues, lowContinued, lowEnds, lowEnded⟩ :=
    scanned_group ⟨size % 128, Nat.mod_lt _ (by decide)⟩
  dsimp only at lowContinues lowContinued lowEnds lowEnded
  have unshifted : UInt32.ofNat (7 * 0) = 0 := rfl
  by_cases small : size < 128
  · have none : UInt32.ofNat (size / 128) = 0 := by
      rw [Nat.div_eq_of_lt small]
      rfl
    have written : lengthPrefix 5 (UInt32.ofNat size) = [UInt8.ofNat (size % 128)] := by
      rw [lengthPrefix, low, high, none]
      rfl
    rw [written, scanLength, lowEnds, lowEnded, unshifted, UInt32.shiftLeft_zero, UInt32.zero_or,
      Nat.mod_eq_of_lt small]
    rfl
  · have highBounded : size / 128 ≤ maxProtobufFrame := by omega
    have some : UInt32.ofNat (size / 128) ≠ 0 := by
      intro zero
      have number := congrArg UInt32.toNat zero
      rw [toNat_size highBounded] at number
      change size / 128 = 0 at number
      omega
    obtain ⟨second, top⟩ := group_eq highBounded
    have topNone : UInt32.ofNat (size / 128 / 128) = 0 := by
      rw [Nat.div_eq_of_lt (by omega)]
      rfl
    rw [Nat.mod_eq_of_lt (by omega)] at second
    have written : lengthPrefix 5 (UInt32.ofNat size) =
        [UInt8.ofNat (size % 128) ||| 0x80, UInt8.ofNat (size / 128)] := by
      rw [lengthPrefix, low, high, if_pos (bne_iff_ne.mpr some), lengthPrefix, second, top, topNone]
      rfl
    obtain ⟨-, -, highEnds, highEnded⟩ := scanned_group ⟨size / 128, by omega⟩
    dsimp only at highEnds highEnded
    have joined : UInt32.ofNat (size % 128) ||| UInt32.ofNat (size / 128) <<< UInt32.ofNat (7 * 1) =
        UInt32.ofNat size := by
      apply UInt32.toNat.inj
      have shift : (UInt32.ofNat (7 * 1)).toNat % 32 = 7 := rfl
      have together := Nat.two_pow_add_eq_or_of_lt
        (show size % 128 < 2 ^ 7 from Nat.mod_lt _ (by decide)) (size / 128)
      have fits : 2 ^ 7 * (size / 128) < 2 ^ 32 := by omega
      rw [UInt32.toNat_or, UInt32.toNat_shiftLeft, shift, toNat_size highBounded,
        toNat_size (Nat.le_trans (Nat.mod_le _ _) bounded), toNat_size bounded, Nat.shiftLeft_eq,
        Nat.mul_comm, Nat.mod_eq_of_lt fits, Nat.or_comm, ← together]
      exact Nat.div_add_mod size 128
    rw [written, scanLength, lowContinues, lowContinued, unshifted, UInt32.shiftLeft_zero,
      UInt32.zero_or, if_neg Bool.false_ne_true, scanLength, highEnds, highEnded, if_pos rfl]
    exact congrArg (LengthScan.complete · 2) joined

/-- A frame is found in front of whatever follows it. -/
theorem front_encodeDelimited {payload : List UInt8} (positive : 1 ≤ payload.length)
    (bounded : payload.length ≤ maxProtobufFrame) (later : List UInt8) :
    front (encodeDelimited payload ++ later) = .frame payload later := by
  have limit : maxProtobufFrame = 4096 := rfl
  have exact := toNat_size bounded
  have signed : (UInt32.ofNat payload.length).toBitVec.toInt = payload.length := by
    rw [BitVec.toInt_eq_toNat_of_lt (by rw [UInt32.toNat_toBitVec, exact]; omega),
      UInt32.toNat_toBitVec, exact]
  have whole : encodeDelimited payload ++ later =
      lengthPrefix 5 (UInt32.ofNat payload.length) ++ (payload ++ later) :=
    List.append_assoc ..
  rw [front, whole, (scanLength_complete (scanLength_lengthPrefix bounded) _).1]
  dsimp only
  rw [signed, exact, if_neg, if_pos, List.drop_left, List.take_left', ← List.drop_drop,
    List.drop_left, List.drop_left]
  · rfl
  · simp only [List.length_append]
    omega
  · simp only [Bool.or_eq_true, decide_eq_true_eq, not_or]
    omega

/-! ## The calls -/

/-- What a call does is decided by the stream, however it is cut. -/
structure CallOf (input : Input) : Prop where
  frame : ∀ payload rest, front input.stream = .frame payload rest →
    ∃ after, readDelimited input = (.ok payload, after) ∧ after.stream = rest
  bad : ∀ error, front input.stream = .bad error → (readDelimited input).1 = .error error
  more : front input.stream = .more →
    (readDelimited input).1 = .error "device closed during protobuf frame"

/-- Proof: by induction on the chunks. What is found in the buffer is found in the whole
stream; otherwise another chunk is taken from one end to the other. -/
theorem callOf (input : Input) : CallOf input := by
  obtain ⟨buffer, chunks⟩ := input
  induction chunks generalizing buffer with
  | nil =>
    have whole : Input.stream ⟨buffer, []⟩ = buffer := List.append_nil buffer
    constructor
    · intro payload rest found
      rw [whole] at found
      exact ⟨⟨rest, []⟩, by rw [readDelimited, readDelimitedFrom, found], List.append_nil rest⟩
    · intro error found
      rw [whole] at found
      rw [readDelimited, readDelimitedFrom, found]
    · intro found
      rw [whole] at found
      rw [readDelimited, readDelimitedFrom, found]
  | cons chunk chunks ih =>
    cases inBuffer : front buffer with
    | frame payload rest =>
      have found := front_stable.frame buffer payload rest inBuffer (chunk :: chunks).flatten
      have call : readDelimited ⟨buffer, chunk :: chunks⟩ =
          (.ok payload, ⟨rest, chunk :: chunks⟩) := by
        rw [readDelimited, readDelimitedFrom, inBuffer]
      constructor
      · intro other left same
        rw [Input.stream, found] at same
        cases same
        exact ⟨_, call, rfl⟩
      · intro error same
        rw [Input.stream, found] at same
        cases same
      · intro same
        rw [Input.stream, found] at same
        cases same
    | bad error =>
      have found := front_stable.bad buffer error inBuffer (chunk :: chunks).flatten
      constructor
      · intro other left same
        rw [Input.stream, found] at same
        cases same
      · intro other same
        rw [Input.stream, found] at same
        cases same
        rw [readDelimited, readDelimitedFrom, inBuffer]
      · intro same
        rw [Input.stream, found] at same
        cases same
    | more =>
      have moved : readDelimited ⟨buffer, chunk :: chunks⟩ =
          readDelimited ⟨buffer ++ chunk, chunks⟩ := by
        rw [readDelimited, readDelimitedFrom, inBuffer]
        rfl
      have whole : Input.stream ⟨buffer, chunk :: chunks⟩ =
          Input.stream ⟨buffer ++ chunk, chunks⟩ := by
        rw [Input.stream, Input.stream, List.flatten_cons, List.append_assoc]
      obtain ⟨frame, bad, more⟩ := ih (buffer ++ chunk)
      constructor
      · rw [moved, whole]
        exact frame
      · rw [moved, whole]
        exact bad
      · rw [moved, whole]
        exact more

/-- Enough calls read all frames of a stream and end with the error it stops at, or with the
end of the stream. -/
theorem readCalls_eq {calls : Nat} {input : Input} (enough : input.stream.length < calls) :
    (readCalls calls input).1 = (read front input.stream).frames ∧
      (readCalls calls input).2.1 =
        some ((read front input.stream).error.getD "device closed during protobuf frame") := by
  induction calls generalizing input with
  | zero => exact absurd enough (Nat.not_lt_zero _)
  | succ calls ih =>
    obtain ⟨frame, bad, more⟩ := callOf input
    cases found : front input.stream with
    | frame payload rest =>
      obtain ⟨after, call, left⟩ := frame payload rest found
      have shorter := front_stable.shorter _ _ _ found
      obtain ⟨frames, error⟩ := @ih after (by rw [left]; omega)
      rw [readCalls, call, read_frame front_stable found, ← left]
      exact ⟨congrArg (payload :: ·) frames, error⟩
    | bad error =>
      have call : readDelimited input = (.error error, (readDelimited input).2) :=
        Prod.ext (bad error found) rfl
      rw [readCalls, read_bad front_stable found, call]
      exact ⟨rfl, rfl⟩
    | more =>
      have call : readDelimited input =
          (.error "device closed during protobuf frame", (readDelimited input).2) :=
        Prod.ext (more found) rfl
      rw [readCalls, read_more found, call]
      exact ⟨rfl, rfl⟩

/-- As many calls as frames read these frames and leave nothing. -/
theorem readCalls_frames {frames : List (List UInt8)}
    (valid : ∀ frame ∈ frames, 1 ≤ frame.length ∧ frame.length ≤ maxProtobufFrame)
    {input : Input} (stream : input.stream = frames.flatMap encodeDelimited) :
    ∃ after, readCalls frames.length input = (frames, none, after) ∧ after.stream = [] := by
  induction frames generalizing input with
  | nil => exact ⟨input, rfl, stream⟩
  | cons frame frames ih =>
    obtain ⟨positive, bounded⟩ := valid frame List.mem_cons_self
    rw [List.flatMap_cons] at stream
    obtain ⟨after, call, left⟩ := (callOf input).frame frame _
      (stream ▸ front_encodeDelimited positive bounded _)
    obtain ⟨last, later, nothing⟩ := ih
      (fun other inside => valid other (List.mem_cons_of_mem _ inside)) left
    refine ⟨last, ?_, nothing⟩
    rw [List.length_cons, readCalls, call]
    dsimp only
    rw [later]

/-- Frames of one to `MAX_PROTOBUF_FRAME` bytes are read in order, with nothing left, however
their delimited forms are cut. Every stream is read to some frames and then an error, and how
it is cut makes no difference to either.

Proof: the reader of the buffer is stable, so a call finds in its buffer what is at the front
of the whole stream, or has to take the next chunk. -/
theorem delimited_frames :
    (∀ (frames : List (List UInt8)) (chunks : List (List UInt8)),
      (∀ frame ∈ frames, 1 ≤ frame.length ∧ frame.length ≤ maxProtobufFrame) →
      chunks.flatten = frames.flatMap encodeDelimited →
        ∃ after, readCalls frames.length ⟨[], chunks⟩ = (frames, none, after) ∧
          after.buffer = [] ∧ after.chunks.flatten = []) ∧
    ∀ stream : List UInt8, ∃ frames error, ∀ chunks : List (List UInt8),
      chunks.flatten = stream → ∀ calls, stream.length < calls →
        (readCalls calls ⟨[], chunks⟩).1 = frames ∧
          (readCalls calls ⟨[], chunks⟩).2.1 = some error := by
  constructor
  · intro frames chunks valid cut
    obtain ⟨after, called, nothing⟩ := @readCalls_frames frames valid ⟨[], chunks⟩ cut
    exact ⟨after, called, List.append_eq_nil_iff.mp nothing⟩
  · intro stream
    refine ⟨(read front stream).frames,
      (read front stream).error.getD "device closed during protobuf frame",
      fun chunks cut calls enough => ?_⟩
    have whole : Input.stream ⟨[], chunks⟩ = stream := cut
    have called := @readCalls_eq calls ⟨[], chunks⟩ (whole.symm ▸ enough)
    rw [whole] at called
    exact called

end PoisonedOS.Delimited
