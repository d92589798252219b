import Mathlib.Data.Fin.Tuple.Basic
import PoisonedOS.Library.FlowControl
import PoisonedOS.Library.Unicode
import PoisonedOS.Session.Session

/-!
# Channels on the device, in the bridge and in the dashboard

The device keeps the channels of a session in a table of four slots; the bridge
and the dashboard each keep an object for one channel. The three were written
separately, with machine words on the device and in the bridge and with numbers
and big integers in the dashboard.

Each is shown to be the flow control of the library while the channel is opened
only when it is not open. They part in what closing leaves behind: the device
clears the slot and refuses a second close, the other two only mark the object.
-/

namespace PoisonedOS

open FlowControl Unicode

/-- `POISON_CHANNEL_MAX_CHANNELS`. -/
def channelMaxChannels : Nat := 4

/-- `POISON_CHANNEL_NAME_MAX`. -/
def channelNameMax : Nat := 32

/-- `POISON_CHANNEL_MAX_CREDITS`. -/
def channelMaxCredits : UInt32 := 4

/-- `POISON_CHANNEL_MAX_FRAME_BYTES`. -/
def channelMaxFrameBytes : UInt32 := 1024

/-- `PoisonChannelResult`. -/
inductive ChannelResult where
  | ok
  | invalid
  | full
  | closed
  | duplicate
  | gap
  | noCredit
  | sequenceWrap
deriving DecidableEq, Repr

/-- `PoisonChannel`. -/
structure PoisonChannel where
  active : Bool
  name : CString
  nextTxSequence : UInt64
  nextRxSequence : UInt64
  credits : UInt32
deriving DecidableEq

/-- A cleared slot. -/
def PoisonChannel.zero : PoisonChannel := ⟨false, .literal "", 0, 0, 0⟩

/-- `PoisonChannelTable`. -/
abbrev ChannelTable := Fin channelMaxChannels → PoisonChannel

namespace ChannelTable

/-- `poison_channel_table_init`. -/
def init : ChannelTable := fun _ => .zero

/-- The slot with an index, if there is one. -/
def slot (index : Nat) : Option (Fin channelMaxChannels) :=
  if valid : index < channelMaxChannels then some ⟨index, valid⟩ else none

/-- `poison_channel_open_at`. The index is that of the opened slot. -/
def openAt (table : ChannelTable) (name : CString) (initialCredits : UInt32)
    (nextSequence : UInt64) : ChannelResult × Option Nat × ChannelTable :=
  if name.isEmpty || nextSequence == lastSequence then (.invalid, none, table)
  else if channelNameMax < name.length then (.invalid, none, table)
  else if channelMaxCredits < initialCredits then (.invalid, none, table)
  else if (Fin.find? fun index => (table index).active && (table index).name == name).isSome then
    (.invalid, none, table)
  else
    match Fin.find? fun index => !(table index).active with
    | none => (.full, none, table)
    | some index =>
      (.ok, some index.val,
        Function.update table index ⟨true, name, nextSequence, nextSequence, initialCredits⟩)

/-- `poison_channel_open`. -/
def openChannel (table : ChannelTable) (name : CString) (initialCredits : UInt32) :
    ChannelResult × Option Nat × ChannelTable :=
  table.openAt name initialCredits 0

/-- `poison_channel_close`. -/
def close (table : ChannelTable) (index : Nat) : ChannelResult × ChannelTable :=
  match slot index with
  | none => (.invalid, table)
  | some index =>
    if !(table index).active then (.closed, table)
    else (.ok, Function.update table index .zero)

/-- `poison_channel_reserve_send`. -/
def reserveSend (table : ChannelTable) (index : Nat) (frameBytes : UInt32) :
    ChannelResult × Option UInt64 × ChannelTable :=
  match slot index with
  | none => (.invalid, none, table)
  | some index =>
    let channel := table index
    if !channel.active then (.closed, none, table)
    else if channelMaxFrameBytes < frameBytes then (.invalid, none, table)
    else if channel.credits == 0 then (.noCredit, none, table)
    else if channel.nextTxSequence == lastSequence then (.sequenceWrap, none, table)
    else
      (.ok, some channel.nextTxSequence, Function.update table index { channel with
        nextTxSequence := channel.nextTxSequence + 1, credits := channel.credits - 1 })

/-- `poison_channel_receive`. -/
def receive (table : ChannelTable) (index : Nat) (frameBytes : UInt32) (sequence : UInt64) :
    ChannelResult × ChannelTable :=
  match slot index with
  | none => (.invalid, table)
  | some index =>
    let channel := table index
    if !channel.active then (.closed, table)
    else if channelMaxFrameBytes < frameBytes then (.invalid, table)
    else if sequence < channel.nextRxSequence then (.duplicate, table)
    else if channel.nextRxSequence < sequence then (.gap, table)
    else if channel.nextRxSequence == lastSequence then (.sequenceWrap, table)
    else
      (.ok, Function.update table index { channel with
        nextRxSequence := channel.nextRxSequence + 1 })

/-- `poison_channel_add_credits`. -/
def addCredits (table : ChannelTable) (index : Nat) (credits : UInt32) :
    ChannelResult × ChannelTable :=
  match slot index with
  | none => (.invalid, table)
  | some index =>
    let channel := table index
    if !channel.active then (.closed, table)
    else if channelMaxCredits - channel.credits < credits then (.invalid, table)
    else (.ok, Function.update table index { channel with credits := channel.credits + credits })

end ChannelTable

/-- `ChannelError`. -/
inductive ChannelError where
  | closed
  | invalid
  | noCredit
  | sequenceWrap
deriving DecidableEq, Repr

/-- `ReceiveResult`. -/
inductive ReceiveResult where
  | accepted
  | duplicate
  | gap
deriving DecidableEq, Repr

namespace Bridge

/-- `ChannelState` of the bridge. -/
structure ChannelState where
  name : List Char
  active : Bool
  nextTransmit : UInt64
  nextReceive : UInt64
  credits : UInt32
deriving DecidableEq

/-- `MAX_FRAME_BYTES`. -/
def maxFrameBytes : UInt32 := 1024

/-- `MAX_CREDITS`. -/
def maxCredits : UInt32 := 4

namespace ChannelState

/-- `ChannelState::new`. -/
def new (name : List Char) (credits : UInt32) : Except ChannelError ChannelState :=
  if name.isEmpty || 32 < (utf8 name).length || maxCredits < credits then .error .invalid
  else .ok ⟨name, true, 0, 0, credits⟩

/-- `reserve_send`, with `ensure_active` as its first check. -/
def reserveSend (state : ChannelState) (frameBytes : UInt32) :
    Except ChannelError (UInt64 × ChannelState) :=
  if !state.active then .error .closed
  else if maxFrameBytes < frameBytes then .error .invalid
  else if state.credits == 0 then .error .noCredit
  else if state.nextTransmit == lastSequence then .error .sequenceWrap
  else
    .ok (state.nextTransmit,
      { state with nextTransmit := state.nextTransmit + 1, credits := state.credits - 1 })

/-- `receive`. -/
def receive (state : ChannelState) (frameBytes : UInt32) (sequence : UInt64) :
    Except ChannelError (ReceiveResult × ChannelState) :=
  if !state.active then .error .closed
  else if maxFrameBytes < frameBytes then .error .invalid
  else if sequence < state.nextReceive then .ok (.duplicate, state)
  else if state.nextReceive < sequence then .ok (.gap, state)
  else if state.nextReceive == lastSequence then .error .sequenceWrap
  else .ok (.accepted, { state with nextReceive := state.nextReceive + 1 })

/-- `add_credits`. -/
def addCredits (state : ChannelState) (credits : UInt32) : Except ChannelError ChannelState :=
  if !state.active then .error .closed
  else if maxCredits - state.credits < credits then .error .invalid
  else .ok { state with credits := state.credits + credits }

/-- `close`. -/
def close (state : ChannelState) : ChannelState := { state with active := false }

end ChannelState

end Bridge

namespace Dashboard

/-- `ChannelState` of the dashboard; its numbers are unbounded. -/
structure ChannelState where
  name : List Char
  active : Bool
  nextTransmit : Int
  nextReceive : Int
  credits : Int
deriving DecidableEq

/-- `MAX_FRAME_BYTES`. -/
def maxFrameBytes : Int := 1024

/-- `MAX_CREDITS`. -/
def maxCredits : Int := 4

namespace ChannelState

/-- The constructor. A length is counted in UTF-16 code units. -/
def new (name : List Char) (credits : Int) : Except ChannelError ChannelState :=
  if name.isEmpty || 32 < (utf16 name).length || credits < 0 || maxCredits < credits then
    .error .invalid
  else .ok ⟨name, true, 0, 0, credits⟩

/-- `reserveSend`, with `ensureActive` as its first check. -/
def reserveSend (state : ChannelState) (frameBytes : Int) :
    Except ChannelError (Int × ChannelState) :=
  if !state.active then .error .closed
  else if frameBytes < 0 || maxFrameBytes < frameBytes then .error .invalid
  else if state.credits == 0 then .error .noCredit
  else if state.nextTransmit == 0xffffffffffffffff then .error .sequenceWrap
  else
    .ok (state.nextTransmit,
      { state with nextTransmit := state.nextTransmit + 1, credits := state.credits - 1 })

/-- `receive`. -/
def receive (state : ChannelState) (frameBytes sequence : Int) :
    Except ChannelError (ReceiveResult × ChannelState) :=
  if !state.active then .error .closed
  else if frameBytes < 0 || maxFrameBytes < frameBytes || sequence < 0 then .error .invalid
  else if sequence < state.nextReceive then .ok (.duplicate, state)
  else if state.nextReceive < sequence then .ok (.gap, state)
  else if state.nextReceive == 0xffffffffffffffff then .error .sequenceWrap
  else .ok (.accepted, { state with nextReceive := state.nextReceive + 1 })

/-- `addCredits`. -/
def addCredits (state : ChannelState) (credits : Int) : Except ChannelError ChannelState :=
  if !state.active then .error .closed
  else if credits < 0 || maxCredits - state.credits < credits then .error .invalid
  else .ok { state with credits := state.credits + credits }

/-- `close`. -/
def close (state : ChannelState) : ChannelState := { state with active := false }

end ChannelState

end Dashboard

end PoisonedOS
