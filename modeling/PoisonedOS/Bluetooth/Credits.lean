import Mathlib.Algebra.BigOperators.Group.List.Basic

/-!
# Credits of the Bluetooth link

The device counts how many bytes it is ready to receive and notifies the browser when its
buffer is empty again. The browser takes each notification as its credits, and a frame is
written in chunks that its credits allow.

Chunks and notifications are on their way in order. A chunk that is written is on its way at
once; its write is awaited and may complete before or after the chunk arrives.
-/

namespace PoisonedOS.Bluetooth

/-- `RPC_BUFFER_SIZE`, the buffer size given to `ble_svc_serial_set_callbacks`. -/
def rpcBufferSize : Nat := 1024

/-- The `mtu` of the transport. -/
def mtu : Nat := 1024

/-- `BLE_CHARACTERISTIC_CHUNK`. -/
def characteristicChunk : Nat := 243

/-- The rest of a frame that is written, and whether its signal is aborted. -/
structure Frame where
  remaining : Nat
  aborted : Bool
deriving DecidableEq

/-- Where the queue of writes is: it takes one frame at a time through `writeFrame`. -/
inductive Writer where
  | idle
  | looping (frame : Frame)
  | waiting (frame : Frame)
  | woken (frame : Frame)
  | ready (frame : Frame)
  | sending (frame : Frame) (length : Nat)
deriving DecidableEq

/-- Both ends of the link and what is on its way between them. -/
structure Link where
  credits : Int
  writeQueue : List Frame
  writer : Writer
  chunks : List Nat
  notifications : List Nat
  bytesReadyToReceive : Nat
deriving DecidableEq

/-- The link is connected: the browser has read the value of the flow control characteristic. -/
def Link.connected : Link :=
  { credits := rpcBufferSize
    writeQueue := []
    writer := .idle
    chunks := []
    notifications := []
    bytesReadyToReceive := rpcBufferSize }

/-- What happens on the link. -/
inductive Event where
  | write (byteLength : Nat)
  | abort
  | abortQueued (index : Nat)
  | resume
  | completed
  | arrived
  | bufferEmpty
  | notified
deriving DecidableEq

namespace Link

/-! ## The browser -/

/-- `write` of a transport that is connected. -/
def write (link : Link) (byteLength : Nat) : Link :=
  if mtu < byteLength then link
  else
    { link with writeQueue := link.writeQueue ++ [{ remaining := byteLength, aborted := false }] }

/-- The signal of the frame that is written is aborted: a write that waits for credits is
rejected, any other looks at its signal later. -/
def abort (link : Link) : Link :=
  match link.writer with
  | .idle => link
  | .looping frame => { link with writer := .looping { frame with aborted := true } }
  | .waiting _ => { link with writer := .idle }
  | .woken frame => { link with writer := .woken { frame with aborted := true } }
  | .ready frame => { link with writer := .ready { frame with aborted := true } }
  | .sending frame length =>
    { link with writer := .sending { frame with aborted := true } length }

/-- The signal of a queued frame is aborted. -/
def abortQueued (link : Link) (index : Nat) : Link :=
  { link with
    writeQueue := link.writeQueue.modify index fun frame => { frame with aborted := true } }

/-- The writer goes on where nothing holds it up: the head of the loop of `writeFrame`, what
`waitForCredits` does after it was woken, and the write of the next chunk. -/
def resume (link : Link) : Link :=
  match link.writer with
  | .idle =>
    match link.writeQueue with
    | [] => link
    | frame :: frames => { link with writeQueue := frames, writer := .looping frame }
  | .looping frame =>
    if frame.remaining = 0 || frame.aborted then { link with writer := .idle }
    else if 0 < link.credits then { link with writer := .ready frame }
    else { link with writer := .waiting frame }
  | .woken frame =>
    if frame.aborted then { link with writer := .idle } else { link with writer := .ready frame }
  | .ready frame =>
    let length := (min (min (characteristicChunk : Int) link.credits) frame.remaining).toNat
    { link with writer := .sending frame length, chunks := link.chunks ++ [length] }
  | .waiting _ => link
  | .sending _ _ => link

/-- The awaited write completes: the credits are taken for its chunk. -/
def completed (link : Link) : Link :=
  match link.writer with
  | .sending frame length =>
    { link with
      credits := link.credits - length
      writer := .looping { frame with remaining := frame.remaining - length } }
  | _ => link

/-- `setCredits`. -/
def setCredits (link : Link) (credits : Nat) : Link :=
  { link with
    credits := credits
    writer :=
      match link.writer with
      | .waiting frame => if 0 < credits then .woken frame else .waiting frame
      | writer => writer }

/-- `onFlowControlValue` of the next notification. -/
def notified (link : Link) : Link :=
  match link.notifications with
  | [] => link
  | value :: notifications => { link with notifications := notifications }.setCredits value

/-! ## The device -/

/-- `ble_svc_serial_event_handler` of the next chunk. -/
def arrived (link : Link) : Link :=
  match link.chunks with
  | [] => link
  | length :: chunks =>
    { link with
      chunks := chunks
      bytesReadyToReceive := link.bytesReadyToReceive - min link.bytesReadyToReceive length }

/-- `ble_svc_serial_notify_buffer_is_empty`. -/
def bufferEmpty (link : Link) : Link :=
  if link.bytesReadyToReceive = 0 then
    { link with
      bytesReadyToReceive := rpcBufferSize
      notifications := link.notifications ++ [rpcBufferSize] }
  else link

/-- One event. -/
def step : Event → Link → Link
  | .write byteLength, link => link.write byteLength
  | .abort, link => link.abort
  | .abortQueued index, link => link.abortQueued index
  | .resume, link => link.resume
  | .completed, link => link.completed
  | .arrived, link => link.arrived
  | .bufferEmpty, link => link.bufferEmpty
  | .notified, link => link.notified

/-- The bytes of an awaited write: their credits are not taken yet. -/
def pending (link : Link) : Nat :=
  match link.writer with
  | .sending _ length => length
  | _ => 0

/-- A write is awaited. -/
def Awaiting (link : Link) : Prop := ∃ frame length, link.writer = .sending frame length

end Link

end PoisonedOS.Bluetooth
