import PoisonedOS.Library.Bytes
import PoisonedOS.Library.Incremental

/-!
# The two codecs of the expansion protocol

A frame is a type, its content and a checksum of both. The device asks its receive callback
for the bytes that are still missing of one frame, and the callback may give fewer. The
dashboard keeps the bytes of a frame that is not complete, and gives the frames that a chunk
completes, or throws.

A frame of the device is a packed structure, so its bytes are its image in memory.
-/

namespace PoisonedOS.Expansion

open Incremental

/-- `EXPANSION_PROTOCOL_MAX_DATA_SIZE` and `EXPANSION_MAX_DATA_SIZE`. -/
def maxDataSize : Nat := 64

/-- An expansion frame. -/
inductive Frame where
  | heartbeat
  | status (error : UInt8)
  | baudRate (baud : UInt32)
  | control (command : UInt8)
  | data (bytes : List UInt8)
deriving DecidableEq

/-- The data of a frame is within its bound. -/
def Frame.Valid : Frame → Prop
  | .data bytes => bytes.length ≤ maxDataSize
  | _ => True

/-- The exclusive or of all bytes: `expansion_protocol_get_checksum` and `checksum`. -/
def checksum (bytes : List UInt8) : UInt8 := bytes.foldl (fun result byte => result ^^^ byte) 0

/-! ## The device -/

namespace Device

/-- The bytes of an `ExpansionFrame` that are in use. -/
def image : Frame → List UInt8
  | .heartbeat => [1]
  | .status error => [2, error]
  | .baudRate baud => 3 :: bytes32 baud
  | .control command => [4, command]
  | .data bytes => 5 :: UInt8.ofNat bytes.length :: bytes

/-- `expansion_protocol_encode`: what is sent. -/
def encode (frame : Frame) : List UInt8 := image frame ++ [checksum (image frame)]

/-- What a complete `ExpansionFrame` holds. -/
def content : List UInt8 → Frame
  | 2 :: error :: _ => .status error
  | 3 :: baud => .baudRate (UInt32.ofNat (fromLittleEndian (baud.take 4)))
  | 4 :: command :: _ => .control command
  | 5 :: size :: bytes => .data (bytes.take size.toNat)
  | _ => .heartbeat

/-- `expansion_frame_get_remaining_size` of the bytes received so far: `none` is an error. -/
def remainingSize : List UInt8 → Option Nat
  | [] => some 1
  | type :: received =>
    let contentSize : Option Nat :=
      if type = 1 then some 0
      else if type = 2 then some 1
      else if type = 3 then some 4
      else if type = 4 then some 1
      else if type = 5 then
        match received with
        | [] => some 1
        | size :: _ => if maxDataSize < size.toNat then none else some (1 + size.toNat)
      else none
    contentSize.map fun size => size - received.length

/-- `ExpansionProtocolStatus`. -/
inductive Status where
  | ok
  | errorFormat
  | errorChecksum
  | errorCommunication
deriving DecidableEq

/-- The receive callback: it gives what it can of the chunk that is there, and nothing where
no more bytes come. -/
def receive (size : Nat) : List (List UInt8) → List UInt8 × List (List UInt8)
  | [] => ([], [])
  | [] :: chunks => receive size chunks
  | chunk :: chunks => (chunk.take size, chunk.drop size :: chunks)

/-- The loop of `expansion_protocol_decode`, with the number of rounds left: the status, what
was received of the frame, and the input after it. -/
def decodeLoop : Nat → List UInt8 → List (List UInt8) →
    Status × List UInt8 × List (List UInt8)
  | 0, received, chunks => (.errorCommunication, received, chunks)
  | rounds + 1, received, chunks =>
    match remainingSize received with
    | none => (.errorFormat, received, chunks)
    | some 0 =>
      match receive 1 chunks with
      | ([check], rest) =>
        if check != checksum received then (.errorChecksum, received, rest)
        else (.ok, received, rest)
      | (_, rest) => (.errorCommunication, received, rest)
    | some remaining =>
      match receive remaining chunks with
      | ([], rest) => (.errorCommunication, received, rest)
      | (bytes, rest) => decodeLoop rounds (received ++ bytes) rest

/-- `expansion_protocol_decode`: a frame takes two bytes and the largest data at most. -/
def decode (chunks : List (List UInt8)) : Status × List UInt8 × List (List UInt8) :=
  decodeLoop (maxDataSize + 3) [] chunks

def decodeFrames : Nat → List (List UInt8) → List Frame × Status
  | 0, _ => ([], .errorCommunication)
  | rounds + 1, chunks =>
    match decode chunks with
    | (.ok, frame, rest) =>
      let later := decodeFrames rounds rest
      (content frame :: later.1, later.2)
    | (status, _, _) => ([], status)

/-- All frames of the input. -/
def decodeAll (chunks : List (List UInt8)) : List Frame × Status :=
  decodeFrames (chunks.flatten.length + 1) chunks

end Device

/-! ## The dashboard -/

namespace Dashboard

/-- `encode`. -/
def encodeBody (body : List UInt8) : List UInt8 := body ++ [checksum body]

/-- The encoders `encodeHeartbeat`, `encodeStatus`, `encodeBaudRate`, `encodeControl` and
`encodeData`; bytes and words are in range by their types. -/
def encode : Frame → Option (List UInt8)
  | .heartbeat => some (encodeBody [1])
  | .status error => some (encodeBody [2, error])
  | .baudRate baud => if baud = 0 then none else some (encodeBody (3 :: littleEndian 4 baud.toNat))
  | .control command => some (encodeBody [4, command])
  | .data bytes =>
    if maxDataSize < bytes.length then none
    else some (encodeBody (5 :: UInt8.ofNat bytes.length :: bytes))

/-- What the decoder throws. -/
inductive DecodeError where
  | unknownType (type : UInt8)
  | dataSize
  | checksum (received expected : UInt8)
deriving DecidableEq

/-- `bodyLength` of a buffer that is not empty: `none` where it is not known yet. -/
def bodyLength (type : UInt8) (rest : List UInt8) : Except DecodeError (Option Nat) :=
  if type < 1 || 5 < type then .error (.unknownType type)
  else if type = 1 then .ok (some 1)
  else if type = 2 || type = 4 then .ok (some 2)
  else if type = 3 then .ok (some 5)
  else
    match rest with
    | [] => .ok none
    | size :: _ =>
      if maxDataSize < size.toNat then .error .dataSize else .ok (some (size.toNat + 2))

/-- `decodeBody`. -/
def decodeBody : List UInt8 → Frame
  | 2 :: error :: _ => .status error
  | 3 :: baud => .baudRate (UInt32.ofNat (fromLittleEndian (baud.take 4)))
  | 4 :: command :: _ => .control command
  | 5 :: _ :: bytes => .data bytes
  | _ => .heartbeat

/-- One round of the loop in `ExpansionDecoder.push`: the frame at the front of the buffer and
the buffer after it. -/
def front : List UInt8 → Front UInt8 Frame DecodeError
  | [] => .more
  | type :: rest =>
    match bodyLength type rest with
    | .error error => .bad error
    | .ok none => .more
    | .ok (some length) =>
      if (type :: rest).length < length + 1 then .more
      else
        let body := (type :: rest).take length
        let received := ((type :: rest)[length]?).getD 0
        if received != checksum body then .bad (.checksum received (checksum body))
        else .frame (decodeBody body) ((type :: rest).drop (length + 1))

/-- The loop of `ExpansionDecoder.push`, with the number of rounds left: the frames or the
error, and the buffer that stays. -/
def pushLoop : Nat → List UInt8 → List Frame →
    Except DecodeError (List Frame) × List UInt8
  | 0, buffer, frames => (.ok frames, buffer)
  | rounds + 1, buffer, frames =>
    match front buffer with
    | .more => (.ok frames, buffer)
    | .bad error => (.error error, buffer)
    | .frame frame rest => pushLoop rounds rest (frames ++ [frame])

/-- `ExpansionDecoder.push` with the buffer of the decoder. -/
def push (buffer chunk : List UInt8) : Except DecodeError (List Frame) × List UInt8 :=
  pushLoop (buffer ++ chunk).length (buffer ++ chunk) []

def feed (buffer : List UInt8) : List (List UInt8) → List Frame × Option DecodeError
  | [] => ([], none)
  | chunk :: chunks =>
    match push buffer chunk with
    | (.error error, _) => ([], some error)
    | (.ok frames, rest) =>
      let later := feed rest chunks
      (frames ++ later.1, later.2)

end Dashboard

end PoisonedOS.Expansion
