import PoisonedOS.Expansion.Codec

/-!
# The two decoders agree

The decoder of the device reads what is at the front of the stream, as the dashboard's does.
What the device is given and what the dashboard is given, in any chunks, are the same frames,
but for those that the dashboard's decoder had when it threw.
-/

namespace PoisonedOS.Expansion

open Incremental

namespace Device

/-! ## One frame -/

/-- What is received comes before what is left, and nothing is received only at the end. -/
theorem receive_spec {size : Nat} (positive : 0 < size) (chunks : List (List UInt8)) :
    (receive size chunks).1.length ≤ size ∧
      (receive size chunks).1 ++ (receive size chunks).2.flatten = chunks.flatten ∧
      ((receive size chunks).1 = [] → chunks.flatten = []) := by
  induction chunks with
  | nil => exact ⟨Nat.zero_le _, rfl, fun _ => rfl⟩
  | cons chunk chunks ih =>
    cases chunk with
    | nil => exact ih
    | cons byte chunk =>
      refine ⟨?_, ?_, ?_⟩
      · rw [receive, List.length_take]
        · exact Nat.min_le_left _ _
        · exact List.cons_ne_nil byte chunk
      · rw [receive]
        · simp only [List.flatten_cons]
          rw [← List.append_assoc, List.take_append_drop]
        · exact List.cons_ne_nil byte chunk
      · intro nothing
        obtain ⟨size, rfl⟩ := Nat.exists_eq_succ_of_ne_zero (Nat.ne_of_gt positive)
        cases nothing

def statusOf : Dashboard.DecodeError → Status
  | .unknownType _ => .errorFormat
  | .dataSize => .errorFormat
  | .checksum _ _ => .errorChecksum

variable {type : UInt8} {rest : List UInt8}

/-- The length of a frame is never a matter of its checksum. -/
theorem bodyLength_statusOf {error : Dashboard.DecodeError}
    (failed : Dashboard.bodyLength type rest = .error error) : statusOf error = .errorFormat := by
  unfold Dashboard.bodyLength at failed
  split at failed
  · cases failed
    rfl
  split at failed
  · cases failed
  split at failed
  · cases failed
  split at failed
  · cases failed
  cases rest with
  | nil => cases failed
  | cons size rest =>
    simp only at failed
    split at failed
    · cases failed
      rfl
    · cases failed

/-- The length of a frame is not known only where its type is all there is of data. -/
theorem bodyLength_none (unknown : Dashboard.bodyLength type rest = .ok none) : rest = [] := by
  cases rest with
  | nil => rfl
  | cons size rest =>
    unfold Dashboard.bodyLength at unknown
    split at unknown
    · cases unknown
    split at unknown
    · cases unknown
    split at unknown
    · cases unknown
    split at unknown
    · cases unknown
    simp only at unknown
    split at unknown <;> cases unknown

/-- Where the type does not tell the length, the next byte does. -/
theorem bodyLength_two {size : UInt8} {length : Nat}
    (unknown : Dashboard.bodyLength type [] = .ok none)
    (known : Dashboard.bodyLength type [size] = .ok (some length)) : 2 ≤ length := by
  unfold Dashboard.bodyLength at unknown known
  split at unknown
  · cases unknown
  rename_i typed
  rw [if_neg typed] at known
  split at unknown
  · cases unknown
  rename_i heartbeat
  rw [if_neg heartbeat] at known
  split at unknown
  · cases unknown
  rename_i short
  rw [if_neg short] at known
  split at unknown
  · cases unknown
  rename_i baud
  rw [if_neg baud] at known
  simp only at known
  split at known
  · cases known
  · cases known
    omega

/-- A type that is neither of the others is that of data. -/
theorem type_data (typed : ¬ (type < 1 || 5 < type) = true) (heartbeat : ¬ type = 1)
    (short : ¬ (type = 2 || type = 4) = true) (baud : ¬ type = 3) :
    type = 5 := by
  rw [Bool.or_eq_true, decide_eq_true_iff, decide_eq_true_iff] at typed short
  rw [UInt8.lt_iff_toNat_lt, UInt8.lt_iff_toNat_lt] at typed
  simp only [← UInt8.toNat_inj] at heartbeat short baud ⊢
  simp only [UInt8.reduceToNat] at typed heartbeat short baud ⊢
  omega

/-- The device and the dashboard know the same length of a frame. -/
theorem remainingSize_cons (type : UInt8) (received : List UInt8) :
    remainingSize (type :: received) =
      match Dashboard.bodyLength type received with
      | .error _ => none
      | .ok none => some 1
      | .ok (some length) => some (length - 1 - received.length) := by
  unfold remainingSize Dashboard.bodyLength
  by_cases heartbeat : type = 1
  · subst heartbeat
    rfl
  by_cases status : type = 2
  · subst status
    rfl
  by_cases baud : type = 3
  · subst baud
    rfl
  by_cases control : type = 4
  · subst control
    rfl
  by_cases data : type = 5
  · subst data
    cases received with
    | nil => rfl
    | cons size received =>
      simp only [if_neg heartbeat, if_neg status, if_neg baud, if_neg control]
      by_cases large : maxDataSize < size.toNat
      · simp [large]
      · simp [large, Nat.add_comm]
  · have unknown : (type < 1 || 5 < type) = true := by
      have outside : type.toNat < 1 ∨ 5 < type.toNat := by
        have first : type.toNat ≠ 1 := fun same => heartbeat (UInt8.toNat_inj.mp same)
        have second : type.toNat ≠ 2 := fun same => status (UInt8.toNat_inj.mp same)
        have third : type.toNat ≠ 3 := fun same => baud (UInt8.toNat_inj.mp same)
        have fourth : type.toNat ≠ 4 := fun same => control (UInt8.toNat_inj.mp same)
        have fifth : type.toNat ≠ 5 := fun same => data (UInt8.toNat_inj.mp same)
        omega
      rw [Bool.or_eq_true, decide_eq_true_iff, decide_eq_true_iff]
      exact outside
    rw [if_pos unknown]
    simp only [if_neg heartbeat, if_neg status, if_neg baud, if_neg control, if_neg data]
    rfl

/-- No more was received of a frame than it has. -/
def Partial : List UInt8 → Prop
  | [] => True
  | type :: received =>
    ∀ length, Dashboard.bodyLength type received = .ok (some length) →
      (type :: received).length ≤ length

variable {received : List UInt8} {remaining : Nat}

/-- What was received is in its bounds after the next bytes too. -/
theorem Partial.append {bytes : List UInt8} (bound : Partial received)
    (asked : remainingSize received = some remaining) (given : bytes.length ≤ remaining)
    (nonempty : bytes ≠ []) :
    Partial (received ++ bytes) := by
  cases received with
  | nil =>
    cases asked
    obtain ⟨type, rfl⟩ := List.length_eq_one_iff.mp
      (Nat.le_antisymm given (List.length_pos_iff.mpr nonempty))
    intro length known
    exact (Dashboard.bodyLength_bounds known).1
  | cons type received =>
    rw [remainingSize_cons] at asked
    rw [List.cons_append]
    intro length known
    rw [List.length_cons, List.length_append]
    cases before : Dashboard.bodyLength type received with
    | error error =>
      rw [before] at asked
      cases asked
    | ok shorter =>
      rw [before] at asked
      cases shorter with
      | none =>
        cases asked
        cases bodyLength_none before
        obtain ⟨size, rfl⟩ := List.length_eq_one_iff.mp
          (Nat.le_antisymm given (List.length_pos_iff.mpr nonempty))
        exact bodyLength_two (by rw [before]) known
      | some shorter =>
        cases asked
        have short := bound shorter before
        rw [Dashboard.bodyLength_append (by rw [before]; simp), before] at known
        cases known
        rw [List.length_cons] at short
        omega

/-- What is received of a frame and what is asked for are at most the largest frame. -/
theorem Partial.room (bound : Partial received) (asked : remainingSize received = some remaining) :
    received.length + remaining ≤ maxDataSize + 2 := by
  cases received with
  | nil =>
    cases asked
    decide
  | cons type received =>
    rw [remainingSize_cons] at asked
    cases known : Dashboard.bodyLength type received with
    | error error =>
      rw [known] at asked
      cases asked
    | ok length =>
      rw [known] at asked
      cases length with
      | none =>
        cases asked
        rw [bodyLength_none known, List.length_singleton]
        decide
      | some length =>
        cases asked
        have short := bound length known
        have largest := (Dashboard.bodyLength_bounds known).2
        rw [List.length_cons] at short ⊢
        omega

/-- Where bytes are asked for, the dashboard waits. -/
theorem front_asked (asked : remainingSize received = some (remaining + 1)) :
    Dashboard.front received = .more := by
  cases received with
  | nil => rfl
  | cons type received =>
    rw [remainingSize_cons] at asked
    rw [Dashboard.front_cons]
    cases known : Dashboard.bodyLength type received with
    | error error =>
      rw [known] at asked
      cases asked
    | ok length =>
      rw [known] at asked
      cases length with
      | none => rfl
      | some length =>
        have missing := Option.some.inj asked
        have short : (type :: received).length < length + 1 := by
          rw [List.length_cons]
          omega
        simp only [if_pos short]

/-- Where no byte is asked for, the type is there and the frame is complete. -/
theorem Partial.complete (bound : Partial received) (asked : remainingSize received = some 0) :
    ∃ type rest, received = type :: rest ∧
      Dashboard.bodyLength type rest = .ok (some (type :: rest).length) := by
  cases received with
  | nil => cases asked
  | cons type rest =>
    refine ⟨type, rest, rfl, ?_⟩
    rw [remainingSize_cons] at asked
    cases known : Dashboard.bodyLength type rest with
    | error error =>
      rw [known] at asked
      cases asked
    | ok length =>
      rw [known] at asked
      cases length with
      | none => cases asked
      | some length =>
        have missing := Option.some.inj asked
        have short := bound length known
        have positive := (Dashboard.bodyLength_bounds known).1
        rw [List.length_cons] at short ⊢
        congr 2
        omega

/-- What the dashboard finds where all of a frame is there but its checksum. -/
theorem front_complete (known : Dashboard.bodyLength type rest = .ok (some (type :: rest).length))
    (later : List UInt8) :
    Dashboard.front (type :: rest ++ later) =
      match later with
      | [] => .more
      | check :: later =>
        if check != checksum (type :: rest) then .bad (.checksum check (checksum (type :: rest)))
        else .frame (Dashboard.decodeBody (type :: rest)) later := by
  cases later with
  | nil =>
    rw [List.append_nil, Dashboard.front_cons, known]
    simp only [if_pos (Nat.lt_succ_self _)]
  | cons check later =>
    have same : Dashboard.bodyLength type (rest ++ [check]) =
        .ok (some (type :: rest).length) := by
      rw [Dashboard.bodyLength_append (by rw [known]; simp), known]
    have joined : type :: rest ++ check :: later = type :: (rest ++ [check]) ++ later := by simp
    have taken : (type :: (rest ++ [check])).take (type :: rest).length = type :: rest := by
      rw [← List.cons_append, List.take_left]
    have dropped : (type :: (rest ++ [check])).drop ((type :: rest).length + 1) = [] := by
      rw [List.drop_eq_nil_iff]
      simp
    have stored : (type :: (rest ++ [check]))[(type :: rest).length]? = some check := by
      rw [← List.cons_append, List.getElem?_append_right (Nat.le_refl _), Nat.sub_self]
      rfl
    rw [joined, Dashboard.front_append same (by simp), taken, dropped, stored]
    rfl

def Finds (result : Status × List UInt8 × List (List UInt8)) :
    Front UInt8 Frame Dashboard.DecodeError → Prop
  | .more => result.1 = .errorCommunication
  | .bad error => result.1 = statusOf error
  | .frame frame rest =>
    result.1 = .ok ∧ content result.2.1 = frame ∧ result.2.2.flatten = rest

/-- The bytes of a complete frame hold what the dashboard finds in them. -/
theorem content_decodeBody {length : Nat}
    (known : Dashboard.bodyLength type rest = .ok (some length))
    (complete : length ≤ (type :: rest).length) :
    content ((type :: rest).take length) = Dashboard.decodeBody ((type :: rest).take length) := by
  unfold Dashboard.bodyLength at known
  split at known
  · cases known
  rename_i typed
  split at known
  · rename_i heartbeat
    cases known
    subst heartbeat
    rfl
  rename_i heartbeat
  split at known
  · rename_i short
    cases known
    cases rest with
    | nil => simp at complete
    | cons byte rest =>
      rw [Bool.or_eq_true, decide_eq_true_iff, decide_eq_true_iff] at short
      rcases short with status | control
      · subst status
        rfl
      · subst control
        rfl
  rename_i short
  split at known
  · rename_i baud
    cases known
    subst baud
    rfl
  rename_i baud
  cases type_data typed heartbeat short baud
  cases rest with
  | nil => cases known
  | cons size bytes =>
    simp only at known
    split at known
    · cases known
    · cases known
      simp only [List.take_succ_cons, content, Dashboard.decodeBody, List.take_take, Nat.min_self]

/-- **The device finds what is at the front of the stream**, with no more rounds than the
bytes of the largest frame. -/
theorem decodeLoop_spec (rounds : Nat) (received : List UInt8) (chunks : List (List UInt8))
    (bound : Partial received) (short : received.length ≤ maxDataSize + 2)
    (enough : maxDataSize + 3 ≤ received.length + rounds) :
    Finds (decodeLoop rounds received chunks) (Dashboard.front (received ++ chunks.flatten)) := by
  induction rounds generalizing received chunks with
  | zero => omega
  | succ rounds ih =>
    rw [decodeLoop]
    cases asked : remainingSize received with
    | none =>
      cases received with
      | nil => cases asked
      | cons type received =>
        rw [remainingSize_cons] at asked
        rw [List.cons_append, Dashboard.front_cons]
        cases known : Dashboard.bodyLength type received with
        | ok length =>
          rw [known] at asked
          cases length <;> cases asked
        | error error =>
          rw [Dashboard.bodyLength_append (by rw [known]; simp), known]
          exact (bodyLength_statusOf known).symm
    | some remaining =>
      cases remaining with
      | zero =>
        obtain ⟨type, rest, rfl, known⟩ := bound.complete asked
        obtain ⟨small, joined, nothing⟩ := receive_spec Nat.one_pos chunks
        simp only
        rw [front_complete known]
        generalize receive 1 chunks = given at small joined nothing ⊢
        obtain ⟨bytes, after⟩ := given
        simp only at small joined nothing
        cases bytes with
        | nil =>
          rw [nothing rfl]
          rfl
        | cons check bytes =>
          cases bytes with
          | nil =>
            rw [← joined]
            simp only [List.singleton_append]
            cases wrong : check != checksum (type :: rest) with
            | true => rfl
            | false =>
              refine ⟨rfl, ?_, rfl⟩
              have same := content_decodeBody known (Nat.le_refl _)
              rw [List.take_length] at same
              exact same
          | cons other bytes => simp at small
      | succ remaining =>
        obtain ⟨given, joined, nothing⟩ := receive_spec (Nat.succ_pos remaining) chunks
        simp only
        generalize receive (remaining + 1) chunks = result at given joined nothing ⊢
        obtain ⟨bytes, after⟩ := result
        simp only at given joined nothing
        cases bytes with
        | nil =>
          rw [nothing rfl, List.append_nil, front_asked asked]
          rfl
        | cons byte bytes =>
          have nonempty : byte :: bytes ≠ [] := List.cons_ne_nil byte bytes
          have room := bound.room asked
          have positive : 0 < (byte :: bytes).length := List.length_pos_iff.mpr nonempty
          have later := ih (received ++ byte :: bytes) after
            (bound.append asked given nonempty)
            (by rw [List.length_append]; omega)
            (by rw [List.length_append]; omega)
          rw [← joined, ← List.append_assoc]
          exact later

/-! ## A stream -/

/-- The status with which a stream ends: where no error comes, bytes are missing. -/
def endOf : Option Dashboard.DecodeError → Status
  | none => .errorCommunication
  | some error => statusOf error

theorem decode_spec (chunks : List (List UInt8)) :
    Finds (decode chunks) (Dashboard.front chunks.flatten) :=
  decodeLoop_spec (maxDataSize + 3) [] chunks trivial (Nat.zero_le _) (Nat.le_add_left _ _)

/-- The device reads the frames that the dashboard finds, and stops where it does. -/
theorem decodeFrames_eq (rounds : Nat) (chunks : List (List UInt8))
    (enough : chunks.flatten.length < rounds) :
    decodeFrames rounds chunks =
      ((read Dashboard.front chunks.flatten).frames,
        endOf (read Dashboard.front chunks.flatten).error) := by
  induction rounds generalizing chunks with
  | zero => omega
  | succ rounds ih =>
    have found := decode_spec chunks
    rw [decodeFrames]
    generalize decode chunks = result at found ⊢
    obtain ⟨status, bytes, after⟩ := result
    cases front : Dashboard.front chunks.flatten with
    | more =>
      rw [front] at found
      cases found
      rw [read_more front]
      rfl
    | bad error =>
      rw [front] at found
      cases found
      rw [read_bad Dashboard.front_stable front]
      cases error <;> rfl
    | frame frame rest =>
      rw [front] at found
      obtain ⟨rfl, rfl, rfl⟩ := found
      have shorter := Dashboard.front_stable.shorter _ _ _ front
      simp only at shorter
      rw [read_frame Dashboard.front_stable front]
      simp only [ih after (by omega)]

/-- **The device's decoder gives what can be read of the stream.** -/
theorem decodeAll_eq (chunks : List (List UInt8)) :
    decodeAll chunks =
      ((read Dashboard.front chunks.flatten).frames,
        endOf (read Dashboard.front chunks.flatten).error) :=
  decodeFrames_eq _ chunks (Nat.lt_succ_self _)

/-! ## The encoders -/

variable {frame : Frame}

/-- The length of the image of a frame is the one that its first bytes tell. -/
theorem image_known (valid : frame.Valid) :
    ∃ type rest, image frame = type :: rest ∧
      Dashboard.bodyLength type rest = .ok (some (type :: rest).length) := by
  cases frame with
  | heartbeat => exact ⟨_, _, rfl, rfl⟩
  | status error => exact ⟨_, _, rfl, rfl⟩
  | baudRate baud => exact ⟨_, _, rfl, rfl⟩
  | control command => exact ⟨_, _, rfl, rfl⟩
  | data bytes =>
    refine ⟨_, _, rfl, ?_⟩
    have bound : bytes.length ≤ 64 := valid
    have size : (UInt8.ofNat bytes.length).toNat = bytes.length := by
      rw [UInt8.toNat_ofNat']
      omega
    have fits : ¬ maxDataSize < bytes.length := by
      rw [maxDataSize]
      omega
    have unfolded (size : UInt8) (rest : List UInt8) : Dashboard.bodyLength 5 (size :: rest) =
        if maxDataSize < size.toNat then .error .dataSize else .ok (some (size.toNat + 2)) := rfl
    rw [unfolded, size, if_neg fits]
    rfl

/-- The image of a frame holds the frame. -/
theorem decodeBody_image (frame : Frame) : Dashboard.decodeBody (image frame) = frame := by
  cases frame with
  | heartbeat => rfl
  | status error => rfl
  | control command => rfl
  | data bytes => rfl
  | baudRate baud =>
    have taken : (bytes32 baud).take 4 = bytes32 baud :=
      List.take_of_length_le (by rw [bytes32, length_littleEndian])
    have value : fromLittleEndian (bytes32 baud) = baud.toNat := by
      rw [bytes32, from_littleEndian]
      exact Nat.mod_eq_of_lt baud.toNat_lt
    simp only [image, Dashboard.decodeBody, taken, value, UInt32.ofNat_toNat]

/-- An encoded frame at the front of a stream is found. -/
theorem front_encode (valid : frame.Valid) (later : List UInt8) :
    Dashboard.front (encode frame ++ later) = .frame frame later := by
  obtain ⟨type, rest, image_eq, known⟩ := image_known valid
  have same := decodeBody_image frame
  rw [encode, List.append_assoc]
  rw [image_eq] at same ⊢
  rw [front_complete known]
  simp only [List.singleton_append, bne_self_eq_false, Bool.false_eq_true, if_false, same]

/-- The encoded frames are read. -/
theorem read_encoded {frames : List Frame} (valid : ∀ frame ∈ frames, frame.Valid) :
    read Dashboard.front (frames.map encode).flatten =
      { frames := frames, rest := [], error := none } := by
  induction frames with
  | nil => rfl
  | cons frame frames ih =>
    rw [List.map_cons, List.flatten_cons,
      read_frame Dashboard.front_stable (front_encode (valid frame List.mem_cons_self) _),
      ih (fun later inside => valid later (List.mem_cons_of_mem _ inside))]

end Device

namespace Dashboard

theorem encode_eq {frame : Frame} {bytes : List UInt8} (encoded : encode frame = some bytes) :
    bytes = Device.encode frame ∧ frame.Valid := by
  cases frame with
  | heartbeat =>
    cases encoded
    exact ⟨rfl, trivial⟩
  | status error =>
    cases encoded
    exact ⟨rfl, trivial⟩
  | control command =>
    cases encoded
    exact ⟨rfl, trivial⟩
  | baudRate baud =>
    rw [encode] at encoded
    split at encoded
    · cases encoded
    · cases encoded
      exact ⟨rfl, trivial⟩
  | data data =>
    rw [encode] at encoded
    split at encoded
    · cases encoded
    · rename_i fits
      cases encoded
      exact ⟨rfl, Nat.le_of_not_lt fits⟩

/-- The dashboard encodes a list of frames as the device does. -/
theorem encode_all {frames : List Frame} {encoded : List (List UInt8)}
    (all : frames.map encode = encoded.map some) :
    encoded = frames.map Device.encode ∧ ∀ frame ∈ frames, frame.Valid := by
  induction frames generalizing encoded with
  | nil =>
    cases encoded with
    | nil => exact ⟨rfl, fun _ inside => nomatch inside⟩
    | cons bytes encoded => cases all
  | cons frame frames ih =>
    cases encoded with
    | nil => cases all
    | cons bytes encoded =>
      rw [List.map_cons, List.map_cons, List.cons.injEq] at all
      obtain ⟨same, valid⟩ := encode_eq all.1
      obtain ⟨sameLater, validLater⟩ := ih all.2
      refine ⟨by rw [same, sameLater, List.map_cons], ?_⟩
      intro later inside
      rcases List.mem_cons.mp inside with rfl | inside
      · exact valid
      · exact validLater later inside

end Dashboard

/-! ## Both -/

/-- **The codecs agree**: each side reads the frames that the other has encoded, however the
bytes are cut. Of any bytes, both find the same frames before the same error, and the
dashboard has given all of them exactly when the chunk that brings the error completes no
frame. -/
theorem codecs_agree_iff (frames : List Frame) (encoded : List (List UInt8))
    (bytes : List UInt8) :
    (∀ chunks : List (List UInt8), (∀ frame ∈ frames, frame.Valid) →
      chunks.flatten = (frames.map Device.encode).flatten →
      Dashboard.feed [] chunks = (frames, none)) ∧
    (∀ chunks : List (List UInt8),
      frames.map Dashboard.encode = encoded.map some → chunks.flatten = encoded.flatten →
      Device.decodeAll chunks = (frames, .errorCommunication)) ∧
    ∃ (found : List Frame) (error : Option Dashboard.DecodeError),
      ∀ chunks : List (List UInt8), chunks.flatten = bytes →
        Device.decodeAll chunks = (found, Device.endOf error) ∧
        (Dashboard.feed [] chunks).2 = error ∧
        (Dashboard.feed [] chunks).1 <+: found ∧
        ((Dashboard.feed [] chunks).1 = found ↔ Dashboard.Delivered [] chunks) := by
  refine ⟨?_, ?_, (read Dashboard.front bytes).frames, (read Dashboard.front bytes).error, ?_⟩
  · intro chunks valid same
    obtain ⟨sameError, -, iff⟩ := Dashboard.feed_eq [] chunks rfl
    have reading := Device.read_encoded valid
    rw [List.nil_append, same, reading] at sameError iff
    refine Prod.ext (iff.mpr ?_) sameError
    intro before chunk after split quiet noisy
    refine absurd ?_ noisy
    have whole := read_append Dashboard.front_stable ([] ++ before.flatten ++ chunk) after.flatten
    have joined : [] ++ before.flatten ++ chunk ++ after.flatten =
        (frames.map Device.encode).flatten := by
      rw [← same, split, List.flatten_append, List.flatten_cons, List.nil_append,
        List.append_assoc]
    rw [joined, reading] at whole
    cases failed : (read Dashboard.front ([] ++ before.flatten ++ chunk)).error with
    | none => rfl
    | some error =>
      rw [failed] at whole
      cases congrArg Reading.error whole
  · intro chunks all same
    obtain ⟨rfl, valid⟩ := Dashboard.encode_all all
    rw [Device.decodeAll_eq, same, Device.read_encoded valid]
    rfl
  · intro chunks same
    subst same
    exact ⟨Device.decodeAll_eq chunks, Dashboard.feed_eq [] chunks rfl⟩

/-- The frame before a byte that is no type is lost, where both come in one chunk. -/
theorem frame_before_error_lost :
    Device.decodeAll [[1, 1, 255]] = ([.heartbeat], .errorFormat) ∧
      Dashboard.feed [] [[1, 1, 255]] = ([], some (.unknownType 255)) ∧
      Dashboard.feed [] [[1, 1], [255]] = ([.heartbeat], some (.unknownType 255)) := by
  decide

end PoisonedOS.Expansion
