import PoisonedOS.Library.Runs
import PoisonedOS.Session.Channels

/-!
# Agreement of the channel implementations

The three implementations are driven by one sequence of operations, and each is
compared with the flow control of the library, step by step. A channel is opened
only when it is not open; the bridge and the dashboard construct a new object
then, and the device takes the first free slot of its table.
-/

namespace PoisonedOS

open FlowControl Unicode

/-- The bounds all three are written with. -/
def channelLimits : Limits where
  window := 4
  maxFrame := 1024
  lastSequence := lastSequence.toNat

@[simp] theorem channelLimits_last : channelLimits.lastSequence = lastSequence.toNat := rfl

/-- An operation on a channel, with values that all three can be given. -/
inductive ChannelOperation where
  | openChannel (initialCredits : UInt32)
  | reserveSend (frameBytes : UInt32)
  | receive (frameBytes : UInt32) (sequence : UInt64)
  | addCredits (credits : UInt32)
  | close
deriving DecidableEq, Repr

/-- The operation without its widths. -/
def ChannelOperation.flow : ChannelOperation → Operation
  | .openChannel initialCredits => .openChannel initialCredits.toNat
  | .reserveSend frameBytes => .reserveSend frameBytes.toNat
  | .receive frameBytes sequence => .receive frameBytes.toNat sequence.toNat
  | .addCredits credits => .addCredits credits.toNat
  | .close => .close

/-- What a result of the device answers. -/
def ChannelResult.answer : ChannelResult → Answer
  | .ok => .done
  | .invalid => .invalid
  | .full => .full
  | .closed => .closed
  | .duplicate => .duplicate
  | .gap => .gap
  | .noCredit => .noCredit
  | .sequenceWrap => .sequenceWrap

def ChannelError.answer : ChannelError → Answer
  | .closed => .closed
  | .invalid => .invalid
  | .noCredit => .noCredit
  | .sequenceWrap => .sequenceWrap

/-- What a received frame answers. -/
def ReceiveResult.answer : ReceiveResult → Answer
  | .accepted => .done
  | .duplicate => .duplicate
  | .gap => .gap

/-- The device's table with the index a caller holds for its channel. -/
structure DeviceChannel where
  table : ChannelTable
  index : Option Nat

namespace DeviceChannel

/-- The caller's channel, whether open or not. -/
def channel (side : DeviceChannel) : Option PoisonChannel :=
  side.index.bind fun index => (ChannelTable.slot index).map side.table

/-- The counters of the caller's channel while it is open. -/
def counters (side : DeviceChannel) : Option Counters :=
  (side.channel.filter PoisonChannel.active).map fun channel =>
    ⟨channel.credits.toNat, channel.nextTxSequence.toNat, channel.nextRxSequence.toNat⟩

def step (name : CString) (side : DeviceChannel) (operation : ChannelOperation) :
    Answer × DeviceChannel :=
  match operation, side.index with
  | .openChannel initialCredits, _ =>
    let (result, opened, table) := side.table.openChannel name initialCredits
    (result.answer, ⟨table, opened.or side.index⟩)
  | _, none => (.closed, side)
  | .reserveSend frameBytes, some index =>
    let (result, sequence, table) := side.table.reserveSend index frameBytes
    (sequence.elim result.answer fun sequence => .sent sequence.toNat, { side with table })
  | .receive frameBytes sequence, some index =>
    let (result, table) := side.table.receive index frameBytes sequence
    (result.answer, { side with table })
  | .addCredits credits, some index =>
    let (result, table) := side.table.addCredits index credits
    (result.answer, { side with table })
  | .close, some index =>
    let (result, table) := side.table.close index
    (result.answer, { side with table })

end DeviceChannel

namespace Bridge.ChannelState

/-- The counters of an object while it is open. -/
def counters (state : ChannelState) : Option Counters :=
  if state.active then
    some ⟨state.credits.toNat, state.nextTransmit.toNat, state.nextReceive.toNat⟩
  else none

/-- One operation on the bridge's object, if there is one. -/
def step (name : List Char) (side : Option ChannelState) (operation : ChannelOperation) :
    Answer × Option ChannelState :=
  match operation, side with
  | .openChannel initialCredits, _ =>
    match new name initialCredits with
    | .ok state => (.done, some state)
    | .error error => (error.answer, side)
  | _, none => (.closed, none)
  | .reserveSend frameBytes, some state =>
    match state.reserveSend frameBytes with
    | .ok (sequence, next) => (.sent sequence.toNat, some next)
    | .error error => (error.answer, some state)
  | .receive frameBytes sequence, some state =>
    match state.receive frameBytes sequence with
    | .ok (result, next) => (result.answer, some next)
    | .error error => (error.answer, some state)
  | .addCredits credits, some state =>
    match state.addCredits credits with
    | .ok next => (.done, some next)
    | .error error => (error.answer, some state)
  | .close, some state => (.done, some state.close)

end Bridge.ChannelState

namespace Dashboard.ChannelState

/-- The counters of an object while it is open. -/
def counters (state : ChannelState) : Option Counters :=
  if state.active then
    some ⟨state.credits.toNat, state.nextTransmit.toNat, state.nextReceive.toNat⟩
  else none

/-- One operation on the dashboard's object, if there is one. -/
def step (name : List Char) (side : Option ChannelState) (operation : ChannelOperation) :
    Answer × Option ChannelState :=
  match operation, side with
  | .openChannel initialCredits, _ =>
    match new name initialCredits.toNat with
    | .ok state => (.done, some state)
    | .error error => (error.answer, side)
  | _, none => (.closed, none)
  | .reserveSend frameBytes, some state =>
    match state.reserveSend frameBytes.toNat with
    | .ok (sequence, next) => (.sent sequence.toNat, some next)
    | .error error => (error.answer, some state)
  | .receive frameBytes sequence, some state =>
    match state.receive frameBytes.toNat sequence.toNat with
    | .ok (result, next) => (result.answer, some next)
    | .error error => (error.answer, some state)
  | .addCredits credits, some state =>
    match state.addCredits credits.toNat with
    | .ok next => (.done, some next)
    | .error error => (error.answer, some state)
  | .close, some state => (.done, some state.close)

end Dashboard.ChannelState

/-- A channel's name that all three accept: it has characters, none of them NUL,
and at most 32 bytes. -/
structure ChannelName (name : List Char) : Prop where
  nonempty : name ≠ []
  noNul : (0 : UInt8) ∉ utf8 name
  fits : (utf8 name).length ≤ channelNameMax

/-- One operation follows the flow control of the library, seen through a view of
the state; only the close of a channel that is not open may go through. -/
structure Follows {State : Type} (view : State → Option Counters) (before : State)
    (operation : ChannelOperation) (outcome : Answer × State) : Prop where
  state : view outcome.2 = (FlowControl.step channelLimits (view before) operation.flow).2
  answer : outcome.1 = (FlowControl.step channelLimits (view before) operation.flow).1 ∨
    (operation = .close ∧ view before = none ∧ outcome.1 = .done)
  refused : outcome.1.accepted = false → outcome.2 = before
  again : operation = .close → view before = none → outcome.2 = before

open ChannelOperation (flow)

section

variable {State : Type} {view : State → Option Counters} {before : State}
  {operation : ChannelOperation} {outcome : Answer × State}

/-- A refusal the flow control makes too. -/
theorem Follows.refusal (answer : Answer) (outcome_eq : outcome = (answer, before))
    (same : (FlowControl.step channelLimits (view before) operation.flow).1 = answer)
    (refuses : answer.accepted = false) : Follows view before operation outcome := by
  subst outcome_eq
  refine ⟨?_, .inl same.symm, fun _ => rfl, fun _ _ => rfl⟩
  rw [step_refused (same ▸ refuses)]

/-- A change the flow control makes too. -/
theorem Follows.change (answer : Answer) (after : State) (outcome_eq : outcome = (answer, after))
    (same : FlowControl.step channelLimits (view before) operation.flow = (answer, view after))
    (accepts : answer.accepted = true) : Follows view before operation outcome := by
  subst outcome_eq
  refine ⟨by rw [same], .inl (by rw [same]), ?_, ?_⟩
  · intro refused
    rw [accepts] at refused
    cases refused
  · rintro rfl notOpen
    simp only [flow, notOpen, FlowControl.step, Prod.mk.injEq] at same
    rw [← same.1] at accepts
    cases accepts

end

/-- The channel is opened only when it is not open. -/
def OpensClosed (channel : Option Counters) (operation : ChannelOperation) : Prop :=
  ∀ initialCredits, operation = .openChannel initialCredits → channel = none

theorem toNat_sub_one {credits : UInt32} (positive : credits ≠ 0) :
    (credits - 1).toNat = credits.toNat - 1 := by
  have atLeast : 1 ≤ credits := by
    rw [UInt32.le_iff_toNat_le]
    have : credits.toNat ≠ 0 := fun zero => positive (UInt32.toNat.inj zero)
    simp only [UInt32.toNat_one]
    omega
  rw [UInt32.toNat_sub_of_le _ _ atLeast, UInt32.toNat_one]

theorem toNat_sub_window {credits : UInt32} (bounded : credits ≤ 4) :
    ((4 : UInt32) - credits).toNat = channelLimits.window - credits.toNat :=
  UInt32.toNat_sub_of_le _ _ bounded

theorem toNat_add_credits {credits granted : UInt32} (bounded : credits ≤ 4)
    (within : ¬ (4 : UInt32) - credits < granted) :
    (credits + granted).toNat = credits.toNat + granted.toNat ∧ credits + granted ≤ 4 := by
  have window := toNat_sub_window bounded
  rw [UInt32.le_iff_toNat_le] at bounded ⊢
  rw [UInt32.lt_iff_toNat_lt, window] at within
  have four : (4 : UInt32).toNat = 4 := by decide
  simp only [channelLimits] at within
  rw [four] at bounded ⊢
  have sum : (credits + granted).toNat = credits.toNat + granted.toNat := by
    rw [UInt32.toNat_add]
    exact Nat.mod_eq_of_lt (by omega)
  exact ⟨sum, by omega⟩

/-! ## Numbers of a machine -/

section

variable {State : Type} {view : State → Option Counters} {before : State}
  {outcome : Answer × State} {limit frameBytes credits granted : UInt32}
  {transmit receive sequence : UInt64}

/-- A frame that is sent, where the numbers are those of a machine. -/
theorem Follows.sends (bound : limit.toNat = channelLimits.maxFrame)
    (isOpen : view before = some ⟨credits.toNat, transmit.toNat, receive.toNat⟩) (after : State)
    (isAfter : view after = some ⟨(credits - 1).toNat, (transmit + 1).toNat, receive.toNat⟩)
    (outcome_eq : outcome = if limit < frameBytes then (.invalid, before)
      else if credits = 0 then (.noCredit, before)
      else if transmit = lastSequence then (.sequenceWrap, before)
      else (.sent transmit.toNat, after)) :
    Follows view before (.reserveSend frameBytes) outcome := by
  have exceeds : limit < frameBytes ↔ channelLimits.maxFrame < frameBytes.toNat := by
    rw [← bound, UInt32.lt_iff_toNat_lt]
  by_cases large : limit < frameBytes
  · rw [if_pos large] at outcome_eq
    refine .refusal .invalid outcome_eq ?_ rfl
    simp [isOpen, FlowControl.step, Counters.step, flow, exceeds.mp large]
  have within : ¬ channelLimits.maxFrame < frameBytes.toNat := fun above => large (exceeds.mpr above)
  rw [if_neg large] at outcome_eq
  by_cases spent : credits = 0
  · rw [if_pos spent] at outcome_eq
    refine .refusal .noCredit outcome_eq ?_ rfl
    simp [isOpen, FlowControl.step, Counters.step, flow, within, spent]
  have credit : credits.toNat ≠ 0 := fun zero => spent (UInt32.toNat.inj zero)
  rw [if_neg spent] at outcome_eq
  by_cases last : transmit = lastSequence
  · rw [if_pos last] at outcome_eq
    refine .refusal .sequenceWrap outcome_eq ?_ rfl
    simp [isOpen, FlowControl.step, Counters.step, flow, within, credit, last]
  have below := PoisonSession.lt_last_of_ne (beq_eq_false_iff_ne.mpr last)
  rw [if_neg last] at outcome_eq
  refine .change (.sent transmit.toNat) after outcome_eq ?_ rfl
  simp [isOpen, isAfter, FlowControl.step, Counters.step, flow, within, credit,
    below.ne, PoisonSession.toNat_succ below, toNat_sub_one spent]

/-- A frame that is received. -/
theorem Follows.receives (bound : limit.toNat = channelLimits.maxFrame)
    (isOpen : view before = some ⟨credits.toNat, transmit.toNat, receive.toNat⟩) (after : State)
    (isAfter : view after = some ⟨credits.toNat, transmit.toNat, (receive + 1).toNat⟩)
    (outcome_eq : outcome = if limit < frameBytes then (.invalid, before)
      else if sequence < receive then (.duplicate, before)
      else if receive < sequence then (.gap, before)
      else if receive = lastSequence then (.sequenceWrap, before)
      else (.done, after)) :
    Follows view before (.receive frameBytes sequence) outcome := by
  have exceeds : limit < frameBytes ↔ channelLimits.maxFrame < frameBytes.toNat := by
    rw [← bound, UInt32.lt_iff_toNat_lt]
  by_cases large : limit < frameBytes
  · rw [if_pos large] at outcome_eq
    refine .refusal .invalid outcome_eq ?_ rfl
    simp [isOpen, FlowControl.step, Counters.step, flow, exceeds.mp large]
  have within : ¬ channelLimits.maxFrame < frameBytes.toNat := fun above => large (exceeds.mpr above)
  rw [if_neg large] at outcome_eq
  by_cases earlier : sequence < receive
  · rw [if_pos earlier] at outcome_eq
    have below : sequence.toNat < receive.toNat := earlier
    refine .refusal .duplicate outcome_eq ?_ rfl
    simp [isOpen, FlowControl.step, Counters.step, flow, within, below]
  have notBelow : ¬ sequence.toNat < receive.toNat := earlier
  rw [if_neg earlier] at outcome_eq
  by_cases later : receive < sequence
  · rw [if_pos later] at outcome_eq
    have above : receive.toNat < sequence.toNat := later
    refine .refusal .gap outcome_eq ?_ rfl
    simp [isOpen, FlowControl.step, Counters.step, flow, within, notBelow, above]
  have notAbove : ¬ receive.toNat < sequence.toNat := later
  rw [if_neg later] at outcome_eq
  by_cases last : receive = lastSequence
  · rw [if_pos last] at outcome_eq
    rw [last] at notBelow notAbove
    refine .refusal .sequenceWrap outcome_eq ?_ rfl
    simp [isOpen, FlowControl.step, Counters.step, flow, within, notBelow,
      notAbove, last]
  have below := PoisonSession.lt_last_of_ne (beq_eq_false_iff_ne.mpr last)
  rw [if_neg last] at outcome_eq
  refine .change .done after outcome_eq ?_ rfl
  simp [isOpen, isAfter, FlowControl.step, Counters.step, flow, within, notBelow,
    notAbove, below.ne, PoisonSession.toNat_succ below]

/-- Credits that are granted. -/
theorem Follows.grants (window : limit = 4) (bounded : credits ≤ 4)
    (isOpen : view before = some ⟨credits.toNat, transmit.toNat, receive.toNat⟩) (after : State)
    (isAfter : view after = some ⟨(credits + granted).toNat, transmit.toNat, receive.toNat⟩)
    (outcome_eq : outcome =
      if limit - credits < granted then (.invalid, before) else (.done, after)) :
    Follows view before (.addCredits granted) outcome := by
  subst window
  have exceeds : (4 : UInt32) - credits < granted ↔
      channelLimits.window - credits.toNat < granted.toNat := by
    rw [← toNat_sub_window bounded, UInt32.lt_iff_toNat_lt]
  by_cases excess : (4 : UInt32) - credits < granted
  · rw [if_pos excess] at outcome_eq
    refine .refusal .invalid outcome_eq ?_ rfl
    simp [isOpen, FlowControl.step, Counters.step, flow, exceeds.mp excess]
  have within : ¬ channelLimits.window - credits.toNat < granted.toNat :=
    fun above => excess (exceeds.mpr above)
  rw [if_neg excess] at outcome_eq
  refine .change .done after outcome_eq ?_ rfl
  simp [isOpen, isAfter, FlowControl.step, Counters.step, flow, within,
    (toNat_add_credits bounded excess).1]

end

namespace Bridge.ChannelState

variable {name : List Char} {side : Option ChannelState} {operation : ChannelOperation}

/-- Every object, open or not, is within the window. -/
def Bounded (side : Option ChannelState) : Prop := ∀ state ∈ side, state.credits ≤ maxCredits

/-- The object made for an accepted name. -/
theorem new_named (named : ChannelName name) (credits : UInt32) :
    new name credits = if maxCredits < credits then .error .invalid
      else .ok ⟨name, true, 0, 0, credits⟩ := by
  have nonempty : name.isEmpty = false := by simpa using named.nonempty
  have fits : ¬ 32 < (utf8 name).length := Nat.not_lt.mpr named.fits
  simp [new, nonempty, fits]

/-- The bridge follows the flow control. -/
theorem step_follows (named : ChannelName name) (bounded : Bounded side)
    (opens : OpensClosed (side.bind counters) operation) :
    Follows (Option.bind · counters) side operation (step name side operation) := by
  cases operation with
  | openChannel initialCredits =>
    have notOpen := opens initialCredits rfl
    by_cases excess : maxCredits < initialCredits
    · have window : ¬ initialCredits.toNat ≤ channelLimits.window := Nat.not_le.mpr excess
      refine .refusal .invalid ?_ ?_ rfl
      · simp [step, new_named named, excess, ChannelError.answer]
      · simp [notOpen, FlowControl.step, flow, window]
    · have window : initialCredits.toNat ≤ channelLimits.window := Nat.not_lt.mp excess
      refine .change .done (some ⟨name, true, 0, 0, initialCredits⟩) ?_ ?_ rfl
      · simp only [step, new_named named, excess, ↓reduceIte]
      · simp [notOpen, FlowControl.step, flow, window, counters]
  | reserveSend frameBytes =>
    cases side with
    | none => exact .refusal .closed rfl rfl rfl
    | some state =>
      by_cases active : state.active
      · refine .sends (show maxFrameBytes.toNat = _ from rfl) (if_pos active) (some { state with
          nextTransmit := state.nextTransmit + 1, credits := state.credits - 1 })
          (if_pos active) ?_
        simp only [step, reserveSend, active, Bool.not_true, Bool.false_eq_true, ↓reduceIte,
          beq_iff_eq]
        split_ifs <;> rfl
      · refine .refusal .closed ?_ ?_ rfl
        · simp [step, reserveSend, active, ChannelError.answer]
        · simp [counters, active, FlowControl.step, flow]
  | receive frameBytes sequence =>
    cases side with
    | none => exact .refusal .closed rfl rfl rfl
    | some state =>
      by_cases active : state.active
      · refine .receives (show maxFrameBytes.toNat = _ from rfl) (if_pos active)
          (some { state with nextReceive := state.nextReceive + 1 })
          (if_pos active) ?_
        simp only [step, receive, active, Bool.not_true, Bool.false_eq_true, ↓reduceIte,
          beq_iff_eq]
        split_ifs <;> rfl
      · refine .refusal .closed ?_ ?_ rfl
        · simp [step, receive, active, ChannelError.answer]
        · simp [counters, active, FlowControl.step, flow]
  | addCredits credits =>
    cases side with
    | none => exact .refusal .closed rfl rfl rfl
    | some state =>
      by_cases active : state.active
      · refine .grants (show maxCredits = 4 from rfl) (bounded state rfl) (if_pos active)
          (some { state with credits := state.credits + credits })
          (if_pos active) ?_
        simp only [step, addCredits, active, Bool.not_true, Bool.false_eq_true, ↓reduceIte]
        split_ifs <;> rfl
      · refine .refusal .closed ?_ ?_ rfl
        · simp [step, addCredits, active, ChannelError.answer]
        · simp [counters, active, FlowControl.step, flow]
  | close =>
    cases side with
    | none => exact .refusal .closed rfl rfl rfl
    | some state =>
      by_cases active : state.active
      · refine .change .done (some state.close) rfl ?_ rfl
        simp [counters, active, close, FlowControl.step, Counters.step, flow]
      · have unchanged : state.close = state := by
          cases state
          simp_all [close]
        refine ⟨?_, .inr ⟨rfl, ?_, rfl⟩, ?_, ?_⟩
        · simp [step, unchanged, counters, active, FlowControl.step, flow]
        · simp [counters, active]
        · intro refused
          cases refused
        · intro closing notOpen
          simp [step, unchanged]

/-- A reservation spends a credit. -/
theorem reserveSend_credits {state next : ChannelState} {frameBytes : UInt32} {sequence : UInt64}
    (reserved : state.reserveSend frameBytes = .ok (sequence, next)) :
    next.credits ≤ state.credits := by
  simp only [reserveSend] at reserved
  split at reserved
  · cases reserved
  split at reserved
  · cases reserved
  split at reserved
  · cases reserved
  split at reserved
  · cases reserved
  rename_i spent last
  cases reserved
  rw [UInt32.le_iff_toNat_le, toNat_sub_one (by simpa using spent)]
  omega

/-- A received frame leaves the credits alone. -/
theorem receive_credits {state next : ChannelState} {frameBytes : UInt32} {sequence : UInt64}
    {result : ReceiveResult} (received : state.receive frameBytes sequence = .ok (result, next)) :
    next.credits = state.credits := by
  simp only [receive] at received
  split at received
  · cases received
  split at received
  · cases received
  split at received
  · cases received
    rfl
  split at received
  · cases received
    rfl
  split at received
  · cases received
  · cases received
    rfl

/-- Added credits stay within the window. -/
theorem addCredits_credits {state next : ChannelState} {credits : UInt32}
    (bounded : state.credits ≤ maxCredits) (added : state.addCredits credits = .ok next) :
    next.credits ≤ maxCredits := by
  simp only [addCredits] at added
  split at added
  · cases added
  split at added
  · cases added
  · rename_i within
    cases added
    exact (toNat_add_credits bounded within).2

/-- No operation leaves the window. -/
theorem Bounded.step (named : ChannelName name) (bounded : Bounded side)
    (operation : ChannelOperation) : Bounded (ChannelState.step name side operation).2 := by
  cases operation with
  | openChannel initialCredits =>
    simp only [ChannelState.step, new_named named]
    split
    · rename_i created
      split at created
      · cases created
      · rename_i within
        cases created
        rintro state ⟨⟩
        exact UInt32.not_lt.mp within
    · exact bounded
  | reserveSend frameBytes =>
    cases side with
    | none => exact bounded
    | some state =>
      simp only [ChannelState.step]
      split
      · rename_i sequence next reserved
        rintro changed ⟨⟩
        exact UInt32.le_trans (reserveSend_credits reserved) (bounded state rfl)
      · exact bounded
  | receive frameBytes sequence =>
    cases side with
    | none => exact bounded
    | some state =>
      simp only [ChannelState.step]
      split
      · rename_i result next received
        rintro changed ⟨⟩
        rw [receive_credits received]
        exact bounded state rfl
      · exact bounded
  | addCredits credits =>
    cases side with
    | none => exact bounded
    | some state =>
      simp only [ChannelState.step]
      split
      · rename_i next added
        rintro changed ⟨⟩
        exact addCredits_credits (bounded state rfl) added
      · exact bounded
  | close =>
    cases side with
    | none => exact bounded
    | some state =>
      rintro changed ⟨⟩
      exact bounded state rfl

end Bridge.ChannelState

namespace Dashboard.ChannelState

/-- The dashboard's object with the numbers of the bridge's. -/
@[simps]
def ofBridge (state : Bridge.ChannelState) : ChannelState where
  name := state.name
  active := state.active
  nextTransmit := state.nextTransmit.toNat
  nextReceive := state.nextReceive.toNat
  credits := state.credits.toNat

/-- The two objects are open with the same counters. -/
theorem counters_ofBridge (state : Bridge.ChannelState) :
    (ofBridge state).counters = state.counters := by
  simp only [counters, Bridge.ChannelState.counters, ofBridge, Int.toNat_natCast]
  rfl

theorem exceeds_maxFrame (frameBytes : UInt32) :
    (decide ((frameBytes.toNat : Int) < 0) || decide (maxFrameBytes < frameBytes.toNat)) =
      decide (Bridge.maxFrameBytes < frameBytes) := by
  have bridge : Bridge.maxFrameBytes.toNat = 1024 := by decide
  have dashboard : maxFrameBytes = 1024 := rfl
  rw [Bool.eq_iff_iff]
  simp only [Bool.or_eq_true, decide_eq_true_eq, UInt32.lt_iff_toNat_lt, bridge]
  omega

theorem no_credits (credits : UInt32) : ((credits.toNat : Int) == 0) = (credits == 0) := by
  rw [Bool.eq_iff_iff, beq_iff_eq, beq_iff_eq, ← UInt32.toNat_inj, UInt32.toNat_zero]
  omega

theorem at_last (sequence : UInt64) :
    ((sequence.toNat : Int) == 0xffffffffffffffff) = (sequence == lastSequence) := by
  have last : lastSequence.toNat = 0xffffffffffffffff := by decide
  rw [Bool.eq_iff_iff, beq_iff_eq, beq_iff_eq, ← UInt64.toNat_inj, last]
  omega

theorem sequence_lt (left right : UInt64) :
    ((left.toNat : Int) < right.toNat) = (left < right) := by
  rw [Int.ofNat_lt, UInt64.lt_iff_toNat_lt]

theorem exceeds_window {credits : UInt32} (bounded : credits ≤ Bridge.maxCredits)
    (granted : UInt32) :
    (decide ((granted.toNat : Int) < 0) || decide (maxCredits - (credits.toNat : Int) <
      granted.toNat)) = decide (Bridge.maxCredits - credits < granted) := by
  have window : (Bridge.maxCredits - credits).toNat = 4 - credits.toNat := toNat_sub_window bounded
  have four : credits.toNat ≤ 4 := bounded
  have dashboard : maxCredits = 4 := rfl
  rw [Bool.eq_iff_iff]
  simp only [Bool.or_eq_true, decide_eq_true_eq, UInt32.lt_iff_toNat_lt, window]
  omega

variable {name : List Char} {side : Option Bridge.ChannelState}

/-- The object made for an accepted name. -/
theorem new_named (named : ChannelName name) (credits : UInt32) :
    new name credits.toNat = if Bridge.maxCredits < credits then .error .invalid
      else .ok ⟨name, true, 0, 0, credits.toNat⟩ := by
  have nonempty : name.isEmpty = false := by simpa using named.nonempty
  have fits : ¬ 32 < (utf16 name).length :=
    Nat.not_lt.mpr ((length_utf16_le name).trans named.fits)
  have excess : maxCredits < (credits.toNat : Int) ↔ Bridge.maxCredits < credits := by
    have four : Bridge.maxCredits.toNat = 4 := by decide
    rw [UInt32.lt_iff_toNat_lt, four, maxCredits]
    omega
  have positive : ¬ (credits.toNat : Int) < 0 := by omega
  simp [new, nonempty, fits, excess, positive]

/-- The dashboard takes every step of the bridge, with the same answer. -/
theorem step_ofBridge (named : ChannelName name) (bounded : Bridge.ChannelState.Bounded side)
    (operation : ChannelOperation) :
    step name (side.map ofBridge) operation =
      ((Bridge.ChannelState.step name side operation).1,
        (Bridge.ChannelState.step name side operation).2.map ofBridge) := by
  cases operation with
  | openChannel initialCredits =>
    simp only [step, Bridge.ChannelState.step, new_named named,
      Bridge.ChannelState.new_named named]
    by_cases excess : Bridge.maxCredits < initialCredits
    · simp only [excess, ↓reduceIte]
    · simp only [excess, ↓reduceIte]
      rfl
  | reserveSend frameBytes =>
    cases side with
    | none => rfl
    | some state =>
      simp only [Option.map_some, step, Bridge.ChannelState.step, reserveSend,
        Bridge.ChannelState.reserveSend, ofBridge_active, ofBridge_credits,
        ofBridge_nextTransmit, exceeds_maxFrame, no_credits, at_last]
      by_cases active : state.active
      swap
      · simp [active]
      by_cases large : Bridge.maxFrameBytes < frameBytes
      · simp [active, large]
      by_cases spent : state.credits = 0
      · simp [active, large, spent]
      by_cases last : state.nextTransmit = lastSequence
      · simp [active, large, spent, last]
      have below := PoisonSession.lt_last_of_ne (beq_eq_false_iff_ne.mpr last)
      have credit := toNat_sub_one spent
      have positive : state.credits.toNat ≠ 0 := fun zero => spent (UInt32.toNat.inj zero)
      simp [active, large, spent, last, PoisonSession.toNat_succ below, ofBridge, credit]
      omega
  | receive frameBytes sequence =>
    cases side with
    | none => rfl
    | some state =>
      have positive : decide ((sequence.toNat : Int) < 0) = false :=
        decide_eq_false (by omega)
      simp only [Option.map_some, step, Bridge.ChannelState.step, receive,
        Bridge.ChannelState.receive, ofBridge_active, ofBridge_nextReceive, exceeds_maxFrame,
        at_last, sequence_lt, positive, Bool.or_false]
      by_cases active : state.active
      swap
      · simp [active]
      by_cases large : Bridge.maxFrameBytes < frameBytes
      · simp [active, large]
      by_cases earlier : sequence < state.nextReceive
      · simp [active, large, earlier]
      by_cases later : state.nextReceive < sequence
      · simp [active, large, earlier, later]
      by_cases last : state.nextReceive = lastSequence
      · rw [last] at earlier later
        simp [active, large, earlier, later, last]
      have below := PoisonSession.lt_last_of_ne (beq_eq_false_iff_ne.mpr last)
      simp [active, large, earlier, later, last, PoisonSession.toNat_succ below, ofBridge]
  | addCredits credits =>
    cases side with
    | none => rfl
    | some state =>
      have within := bounded state rfl
      simp only [Option.map_some, step, Bridge.ChannelState.step, addCredits,
        Bridge.ChannelState.addCredits, ofBridge_active, ofBridge_credits, exceeds_window within]
      by_cases active : state.active
      swap
      · simp [active]
      by_cases excess : Bridge.maxCredits - state.credits < credits
      · simp [active, excess]
      have sum := (toNat_add_credits within excess).1
      simp [active, excess, sum, ofBridge]
  | close =>
    cases side with
    | none => rfl
    | some state => rfl

end Dashboard.ChannelState

/-- A name as the device sees it. -/
def ChannelName.device (name : List Char) : CString := .ofBytes (utf8 name)

/-- It has all the bytes of the name. -/
theorem ChannelName.device_bytes {name : List Char} (named : ChannelName name) :
    (ChannelName.device name).bytes = utf8 name := CString.ofBytes_bytes named.noNul

/-- The device's name is not empty. -/
theorem ChannelName.device_nonempty {name : List Char} (named : ChannelName name) :
    (ChannelName.device name).isEmpty = false := by
  rw [Bool.eq_false_iff, ne_eq, CString.isEmpty_iff, named.device_bytes]
  intro empty
  have units := length_utf16_le name
  rw [empty, List.length_nil, Nat.le_zero, List.length_eq_zero_iff, utf16_eq_nil] at units
  exact named.nonempty units

/-- The device's name fits. -/
theorem ChannelName.device_fits {name : List Char} (named : ChannelName name) :
    (ChannelName.device name).length ≤ channelNameMax := by
  rw [CString.length, named.device_bytes]
  exact named.fits

/-- A slot of a table that is free, while all slots before it are taken and no
channel in use has the name. -/
structure FreeSlot (table : ChannelTable) (name : CString) (place : Fin channelMaxChannels) :
    Prop where
  free : (table place).active = false
  first : ∀ slot < place, (table slot).active = true
  unused : ∀ slot, (table slot).active = true → (table slot).name ≠ name

namespace DeviceChannel

/-- The caller's channel is at its place, and the other slots are those of the table
at the start. -/
structure Placed (start : ChannelTable) (place : Fin channelMaxChannels) (side : DeviceChannel) :
    Prop where
  others : ∀ slot, slot ≠ place → side.table slot = start slot
  index : side.index = some place.val ∨
    (side.index = none ∧ (side.table place).active = false)
  bounded : side.index = some place.val → (side.table place).credits ≤ channelMaxCredits

@[simp] theorem slot_val (place : Fin channelMaxChannels) :
    ChannelTable.slot place.val = some place := by
  simp only [ChannelTable.slot, place.isLt, ↓reduceDIte]

variable {start : ChannelTable} {name : CString} {place : Fin channelMaxChannels}
  {side : DeviceChannel} {operation : ChannelOperation}

/-- The channel of a caller that holds its index. -/
theorem channel_placed (indexed : side.index = some place.val) :
    side.channel = some (side.table place) := by
  simp [channel, indexed]

theorem openChannel_free (free : FreeSlot start name place) (placed : side.Placed start place)
    (closed : (side.table place).active = false) (nonempty : name.isEmpty = false)
    (fits : name.length ≤ channelNameMax) (credits : UInt32) :
    side.table.openChannel name credits =
      if channelMaxCredits < credits then (.invalid, none, side.table)
      else (.ok, some place.val, Function.update side.table place ⟨true, name, 0, 0, credits⟩) := by
  have sequence : ((0 : UInt64) == lastSequence) = false := by decide
  have unused : (Fin.find? fun slot =>
      (side.table slot).active && (side.table slot).name == name) = none := by
    refine Fin.find?_eq_none_iff.mpr ?_
    intro slot
    by_cases same : slot = place
    · simp [same, closed]
    · rw [placed.others slot same]
      cases active : (start slot).active with
      | false => rfl
      | true => simpa using free.unused slot active
  have found : (Fin.find? fun slot => !(side.table slot).active) = some place := by
    refine Fin.find?_eq_some_iff.mpr ⟨by simp [closed], ?_⟩
    intro slot before
    rw [placed.others slot before.ne, free.first slot before]
    rfl
  simp [ChannelTable.openChannel, ChannelTable.openAt, nonempty, sequence, unused, found,
    Nat.not_lt.mpr fits]

/-- The counters of a channel whose index the caller holds. -/
theorem counters_at (table : ChannelTable) (place : Fin channelMaxChannels) :
    counters ⟨table, some place.val⟩ = if (table place).active then
      some ⟨(table place).credits.toNat, (table place).nextTxSequence.toNat,
        (table place).nextRxSequence.toNat⟩ else none := by
  cases active : (table place).active <;>
    simp [counters, channel, Option.filter, active]

theorem inactive_of_closed (placed : side.Placed start place) (notOpen : side.counters = none) :
    (side.table place).active = false := by
  obtain ⟨table, index⟩ := side
  cases placed.index with
  | inl indexed =>
    rw [show index = some place.val from indexed, counters_at] at notOpen
    simpa using notOpen
  | inr fresh => exact fresh.2

/-- A caller whose channel is not open is refused everything but opening. -/
theorem step_closed (placed : side.Placed start place) (notOpen : side.counters = none)
    (noOpening : ∀ credits, operation ≠ .openChannel credits) :
    step name side operation = (.closed, side) := by
  have closed := inactive_of_closed placed notOpen
  obtain ⟨table, index⟩ := side
  cases placed.index with
  | inr fresh =>
    obtain ⟨rfl, -⟩ : index = none ∧ _ := fresh
    cases operation with
    | openChannel credits => exact absurd rfl (noOpening credits)
    | _ => rfl
  | inl indexed =>
    obtain rfl : index = some place.val := indexed
    cases operation with
    | openChannel credits => exact absurd rfl (noOpening credits)
    | _ =>
      simp only at closed
      simp [step, ChannelTable.reserveSend, ChannelTable.receive, ChannelTable.addCredits,
        ChannelTable.close, closed, ChannelResult.answer]

/-- An open channel is that at the caller's index. -/
theorem open_placed {table : ChannelTable} {index : Option Nat} {now : Counters}
    (placed : Placed start place ⟨table, index⟩) (isOpen : counters ⟨table, index⟩ = some now) :
    index = some place.val ∧ (table place).active = true := by
  cases placed.index with
  | inr fresh =>
    obtain ⟨rfl, -⟩ : index = none ∧ _ := fresh
    cases isOpen
  | inl indexed =>
    obtain rfl : index = some place.val := indexed
    rw [counters_at] at isOpen
    exact ⟨rfl, by_contra fun inactive => by rw [if_neg inactive] at isOpen; cases isOpen⟩

/-- The device follows the flow control. -/
theorem step_follows (free : FreeSlot start name place) (placed : side.Placed start place)
    (nonempty : name.isEmpty = false) (fits : name.length ≤ channelNameMax)
    (opens : OpensClosed side.counters operation) :
    Follows counters side operation (step name side operation) := by
  by_cases opening : ∃ initialCredits, operation = .openChannel initialCredits
  · obtain ⟨initialCredits, rfl⟩ := opening
    have notOpen := opens initialCredits rfl
    have opened := openChannel_free free placed (inactive_of_closed placed notOpen) nonempty fits
      initialCredits
    by_cases excess : channelMaxCredits < initialCredits
    · have window : ¬ initialCredits.toNat ≤ channelLimits.window := Nat.not_le.mpr excess
      refine .refusal .invalid ?_ ?_ rfl
      · simp [step, opened, excess, ChannelResult.answer]
      · simp [notOpen, FlowControl.step, flow, window]
    · have window : initialCredits.toNat ≤ channelLimits.window := Nat.not_lt.mp excess
      refine .change .done ⟨Function.update side.table place ⟨true, name, 0, 0, initialCredits⟩,
        some place.val⟩ ?_ ?_ rfl
      · simp [step, opened, excess, ChannelResult.answer]
      · rw [notOpen, counters_at, Function.update_self]
        simp [FlowControl.step, flow, window]
  cases isOpen : side.counters with
  | none =>
    refine .refusal .closed (step_closed placed isOpen fun credits same => opening ⟨credits, same⟩)
      ?_ rfl
    rw [isOpen]
    cases operation with
    | openChannel credits => exact absurd ⟨credits, rfl⟩ opening
    | _ => rfl
  | some now =>
    obtain ⟨table, index⟩ := side
    obtain ⟨rfl, active⟩ := open_placed placed isOpen
    have bounded := placed.bounded rfl
    cases operation with
    | openChannel credits => exact absurd ⟨credits, rfl⟩ opening
    | reserveSend frameBytes =>
      refine .sends (show channelMaxFrameBytes.toNat = _ from rfl)
        ((counters_at ..).trans (if_pos active))
        ⟨Function.update table place { table place with
          nextTxSequence := (table place).nextTxSequence + 1
          credits := (table place).credits - 1 }, some place.val⟩
        (by simp [counters_at, active]) ?_
      simp only [step, ChannelTable.reserveSend, slot_val, active, Bool.not_true,
        Bool.false_eq_true, ↓reduceIte, beq_iff_eq]
      split_ifs <;> rfl
    | receive frameBytes sequence =>
      refine .receives (show channelMaxFrameBytes.toNat = _ from rfl)
        ((counters_at ..).trans (if_pos active))
        ⟨Function.update table place { table place with
          nextRxSequence := (table place).nextRxSequence + 1 }, some place.val⟩
        (by simp [counters_at, active]) ?_
      simp only [step, ChannelTable.receive, slot_val, active, Bool.not_true, Bool.false_eq_true,
        ↓reduceIte, beq_iff_eq]
      split_ifs <;> rfl
    | addCredits credits =>
      refine .grants (show channelMaxCredits = 4 from rfl) bounded
        ((counters_at ..).trans (if_pos active))
        ⟨Function.update table place { table place with
          credits := (table place).credits + credits }, some place.val⟩
        (by simp [counters_at, active]) ?_
      simp only [step, ChannelTable.addCredits, slot_val, active, Bool.not_true,
        Bool.false_eq_true, ↓reduceIte]
      split_ifs <;> rfl
    | close =>
      refine .change .done ⟨Function.update table place .zero, some place.val⟩ ?_ ?_ rfl
      · simp [step, ChannelTable.close, active, ChannelResult.answer]
      · simp [counters_at, active, FlowControl.step, Counters.step, flow,
          PoisonChannel.zero]

/-- An operation leaves the caller's channel alone or writes its slot, within the
window. -/
theorem step_cases (free : FreeSlot start name place) (placed : side.Placed start place)
    (nonempty : name.isEmpty = false) (fits : name.length ≤ channelNameMax)
    (opens : OpensClosed side.counters operation) :
    (step name side operation).2 = side ∨
      ∃ channel, (step name side operation).2 =
        ⟨Function.update side.table place channel, some place.val⟩ ∧
        channel.credits ≤ channelMaxCredits := by
  by_cases opening : ∃ initialCredits, operation = .openChannel initialCredits
  · obtain ⟨initialCredits, rfl⟩ := opening
    have opened := openChannel_free free placed
      (inactive_of_closed placed (opens initialCredits rfl)) nonempty fits initialCredits
    by_cases excess : channelMaxCredits < initialCredits
    · exact .inl (by simp [step, opened, excess])
    · exact .inr ⟨⟨true, name, 0, 0, initialCredits⟩, by simp [step, opened, excess],
        UInt32.not_lt.mp excess⟩
  cases isOpen : side.counters with
  | none =>
    rw [step_closed placed isOpen fun credits same => opening ⟨credits, same⟩]
    exact .inl rfl
  | some now =>
    obtain ⟨table, index⟩ := side
    obtain ⟨rfl, -⟩ := open_placed placed isOpen
    have bounded := placed.bounded rfl
    cases operation with
    | openChannel initialCredits => exact absurd ⟨initialCredits, rfl⟩ opening
    | reserveSend frameBytes =>
      simp only [step, ChannelTable.reserveSend, slot_val]
      split
      · exact .inl rfl
      split
      · exact .inl rfl
      split
      · exact .inl rfl
      split
      · exact .inl rfl
      rename_i spent last
      refine .inr ⟨_, rfl, UInt32.le_trans (UInt32.le_iff_toNat_le.mpr ?_) bounded⟩
      have positive : (table place).credits ≠ 0 := by simpa using spent
      simp only [toNat_sub_one positive]
      omega
    | receive frameBytes sequence =>
      simp only [step, ChannelTable.receive, slot_val]
      split
      · exact .inl rfl
      split
      · exact .inl rfl
      split
      · exact .inl rfl
      split
      · exact .inl rfl
      split
      · exact .inl rfl
      exact .inr ⟨_, rfl, bounded⟩
    | addCredits credits =>
      simp only [step, ChannelTable.addCredits, slot_val]
      split
      · exact .inl rfl
      split
      · exact .inl rfl
      rename_i within
      exact .inr ⟨_, rfl, (toNat_add_credits bounded within).2⟩
    | close =>
      simp only [step, ChannelTable.close, slot_val]
      split
      · exact .inl rfl
      · exact .inr ⟨_, rfl, by decide⟩

/-- The channel stays at its place. -/
theorem Placed.step (free : FreeSlot start name place) (placed : side.Placed start place)
    (nonempty : name.isEmpty = false) (fits : name.length ≤ channelNameMax)
    (opens : OpensClosed side.counters operation) :
    (DeviceChannel.step name side operation).2.Placed start place := by
  cases step_cases free placed nonempty fits opens with
  | inl unchanged =>
    rw [unchanged]
    exact placed
  | inr written =>
    obtain ⟨channel, written, bounded⟩ := written
    rw [written]
    refine ⟨?_, .inl rfl, ?_⟩
    · intro slot other
      simp only [Function.update_of_ne other]
      exact placed.others slot other
    · intro indexed
      simp only [Function.update_self]
      exact bounded

/-- The device refuses to close a channel that is not open. -/
theorem close_refused (placed : side.Placed start place) (notOpen : side.counters = none) :
    (step name side .close).1 = .closed :=
  congrArg Prod.fst (step_closed placed notOpen (by simp))

/-- The device answers as the flow control does. -/
theorem step_answer (free : FreeSlot start name place) (placed : side.Placed start place)
    (nonempty : name.isEmpty = false) (fits : name.length ≤ channelNameMax)
    (opens : OpensClosed side.counters operation) :
    (step name side operation).1 =
      (FlowControl.step channelLimits side.counters operation.flow).1 := by
  cases (step_follows free placed nonempty fits opens).answer with
  | inl same => exact same
  | inr again =>
    obtain ⟨rfl, notOpen, -⟩ := again
    rw [close_refused placed notOpen, notOpen]
    rfl

end DeviceChannel

/-- The three implementations with the same channel, each with its log. -/
structure Channels where
  device : DeviceChannel
  bridge : Option Bridge.ChannelState
  dashboard : Option Dashboard.ChannelState
  deviceLog : Log
  bridgeLog : Log
  dashboardLog : Log

namespace Channels

/-- No party has opened the channel yet. -/
def start (table : ChannelTable) : Channels :=
  ⟨⟨table, none⟩, none, none, .empty, .empty, .empty⟩

def step (name : List Char) (operation : ChannelOperation) (channels : Channels) : Channels :=
  let device := channels.device.step (ChannelName.device name) operation
  let bridge := Bridge.ChannelState.step name channels.bridge operation
  let dashboard := Dashboard.ChannelState.step name channels.dashboard operation
  { device := device.2
    bridge := bridge.2
    dashboard := dashboard.2
    deviceLog := channels.deviceLog.record operation.flow device.1
    bridgeLog := channels.bridgeLog.record operation.flow bridge.1
    dashboardLog := channels.dashboardLog.record operation.flow dashboard.1 }

/-- The channel is at its place, the objects of the bridge and the dashboard have the
same numbers, and all logs are the one that the counters stand for. -/
structure Agreed (table : ChannelTable) (place : Fin channelMaxChannels) (channels : Channels) :
    Prop where
  placed : channels.device.Placed table place
  bounded : Bridge.ChannelState.Bounded channels.bridge
  dashboard : channels.dashboard = channels.bridge.map Dashboard.ChannelState.ofBridge
  counters : channels.bridge.bind Bridge.ChannelState.counters = channels.device.counters
  sound : Sound channelLimits channels.device.counters channels.deviceLog
  bridgeLog : channels.bridgeLog = channels.deviceLog
  dashboardLog : channels.dashboardLog = channels.deviceLog

variable {table : ChannelTable} {name : List Char} {place : Fin channelMaxChannels}
  {channels : Channels} {operation : ChannelOperation}

/-- Nothing is open at the start. -/
theorem Agreed.start (free : FreeSlot table (ChannelName.device name) place) :
    (Channels.start table).Agreed table place where
  placed := ⟨fun _ _ => rfl, .inr ⟨rfl, free.free⟩, by simp [Channels.start]⟩
  bounded := by simp [Bridge.ChannelState.Bounded, Channels.start]
  dashboard := rfl
  counters := rfl
  sound := .closed (.empty channelLimits)
  bridgeLog := rfl
  dashboardLog := rfl

/-- Two answers to one operation are the same, or a channel that is not open was
closed again. -/
def SameAnswer (operation : ChannelOperation) (channel : Option Counters)
    (device other : Answer) : Prop :=
  device = other ∨
    (operation = .close ∧ channel = none ∧ device = .closed ∧ other = .done)

/-- What is logged of two such answers is the same. -/
theorem SameAnswer.record {channel : Option Counters} {device other : Answer}
    (same : SameAnswer operation channel device other) (log : Log) :
    log.record operation.flow other = log.record operation.flow device := by
  cases same with
  | inl same => rw [same]
  | inr again =>
    obtain ⟨rfl, -, rfl, rfl⟩ := again
    rfl

theorem Agreed.step (agreed : channels.Agreed table place) (named : ChannelName name)
    (free : FreeSlot table (ChannelName.device name) place)
    (opens : OpensClosed channels.device.counters operation) :
    (Channels.step name operation channels).Agreed table place ∧
      SameAnswer operation channels.device.counters
        (channels.device.step (ChannelName.device name) operation).1
        (Bridge.ChannelState.step name channels.bridge operation).1 := by
  have nonempty := named.device_nonempty
  have fits := named.device_fits
  have device := DeviceChannel.step_follows free agreed.placed nonempty fits opens
  have answer := DeviceChannel.step_answer free agreed.placed nonempty fits opens
  have bridgeOpens : OpensClosed (channels.bridge.bind Bridge.ChannelState.counters) operation := by
    rw [agreed.counters]
    exact opens
  have bridge := Bridge.ChannelState.step_follows named agreed.bounded bridgeOpens
  have dashboard := Dashboard.ChannelState.step_ofBridge named agreed.bounded operation
  have same : SameAnswer operation channels.device.counters
      (channels.device.step (ChannelName.device name) operation).1
      (Bridge.ChannelState.step name channels.bridge operation).1 := by
    cases bridge.answer with
    | inl flow =>
      simp only [agreed.counters] at flow
      exact .inl (answer.trans flow.symm)
    | inr again =>
      obtain ⟨rfl, notOpen, done⟩ := again
      simp only [agreed.counters] at notOpen
      exact .inr ⟨rfl, notOpen, DeviceChannel.close_refused agreed.placed notOpen, done⟩
  refine ⟨⟨agreed.placed.step free nonempty fits opens, agreed.bounded.step named operation, ?_,
    ?_, ?_, ?_, ?_⟩, same⟩
  · simp only [Channels.step, agreed.dashboard, dashboard]
  · have state := bridge.state
    simp only [agreed.counters] at state
    exact state.trans device.state.symm
  · have sound := agreed.sound.step operation.flow
    rw [← answer, ← device.state] at sound
    exact sound
  · simp only [Channels.step, agreed.bridgeLog]
    exact same.record _
  · simp only [Channels.step, agreed.dashboardLog, agreed.dashboard, dashboard]
    exact same.record _

/-- What the three keep along a run: the same counters while the channel is open,
credits within the window, and logs that count up without a gap, a repetition or a
wrap. The device's other slots stay as they were. -/
structure Kept (table : ChannelTable) (place : Fin channelMaxChannels) (channels : Channels) :
    Prop where
  bridge : channels.bridge.bind Bridge.ChannelState.counters = channels.device.counters
  dashboard : channels.dashboard.bind Dashboard.ChannelState.counters = channels.device.counters
  deviceCredits : ∀ channel ∈ channels.device.channel, channel.credits.toNat ≤ 4
  bridgeCredits : ∀ state ∈ channels.bridge, state.credits.toNat ≤ 4
  dashboardCredits : ∀ state ∈ channels.dashboard, 0 ≤ state.credits ∧ state.credits ≤ 4
  deviceLog : channels.deviceLog.Consecutive channelLimits
  bridgeLog : channels.bridgeLog.Consecutive channelLimits
  dashboardLog : channels.dashboardLog.Consecutive channelLimits
  others : ∀ slot, slot ≠ place → channels.device.table slot = table slot

/-- An agreed channel keeps all of it. -/
theorem Agreed.kept (agreed : channels.Agreed table place) : channels.Kept table place where
  bridge := agreed.counters
  dashboard := by
    rw [agreed.dashboard, ← agreed.counters]
    cases channels.bridge with
    | none => rfl
    | some state => exact Dashboard.ChannelState.counters_ofBridge state
  deviceCredits := by
    intro channel held
    cases agreed.placed.index with
    | inl indexed =>
      rw [DeviceChannel.channel_placed indexed] at held
      cases held
      exact agreed.placed.bounded indexed
    | inr fresh =>
      rw [DeviceChannel.channel, fresh.1] at held
      cases held
  bridgeCredits := agreed.bounded
  dashboardCredits := by
    rw [agreed.dashboard]
    intro state held
    obtain ⟨object, stored, rfl⟩ := Option.mem_map.mp held
    have within : object.credits.toNat ≤ 4 := agreed.bounded object stored
    rw [Dashboard.ChannelState.ofBridge_credits]
    omega
  deviceLog := agreed.sound.consecutive
  bridgeLog := agreed.bridgeLog ▸ agreed.sound.consecutive
  dashboardLog := agreed.dashboardLog ▸ agreed.sound.consecutive
  others := agreed.placed.others

/-- What an operation does to the three: they answer alike, except that only the
device refuses to close a channel that is not open; a refused operation and a repeated
close change nothing. -/
structure Alike (name : List Char) (operation : ChannelOperation) (channels : Channels) : Prop where
  device : SameAnswer operation channels.device.counters
    (channels.device.step (ChannelName.device name) operation).1
    (Bridge.ChannelState.step name channels.bridge operation).1
  dashboard : (Dashboard.ChannelState.step name channels.dashboard operation).1 =
    (Bridge.ChannelState.step name channels.bridge operation).1
  deviceRefused : (channels.device.step (ChannelName.device name) operation).1.accepted = false →
    (channels.device.step (ChannelName.device name) operation).2 = channels.device
  bridgeRefused : (Bridge.ChannelState.step name channels.bridge operation).1.accepted = false →
    (Bridge.ChannelState.step name channels.bridge operation).2 = channels.bridge
  dashboardRefused :
    (Dashboard.ChannelState.step name channels.dashboard operation).1.accepted = false →
      (Dashboard.ChannelState.step name channels.dashboard operation).2 = channels.dashboard
  closedAgain : operation = .close → channels.device.counters = none →
    (Bridge.ChannelState.step name channels.bridge operation).2 = channels.bridge ∧
      (Dashboard.ChannelState.step name channels.dashboard operation).2 = channels.dashboard

/-- Agreed channels are alike. -/
theorem Agreed.alike (agreed : channels.Agreed table place) (named : ChannelName name)
    (free : FreeSlot table (ChannelName.device name) place)
    (opens : OpensClosed channels.device.counters operation) : channels.Alike name operation := by
  have device := DeviceChannel.step_follows free agreed.placed named.device_nonempty
    named.device_fits opens
  have bridgeOpens : OpensClosed (channels.bridge.bind Bridge.ChannelState.counters) operation := by
    rw [agreed.counters]
    exact opens
  have bridge := Bridge.ChannelState.step_follows named agreed.bounded bridgeOpens
  have dashboard := Dashboard.ChannelState.step_ofBridge named agreed.bounded operation
  refine ⟨(agreed.step named free opens).2, ?_, device.refused, bridge.refused, ?_, ?_⟩
  · rw [agreed.dashboard, dashboard]
  · rw [agreed.dashboard, dashboard]
    intro refused
    simp only [bridge.refused refused]
  · intro closing notOpen
    have unchanged := bridge.again closing (by simp only [agreed.counters, notOpen])
    refine ⟨unchanged, ?_⟩
    rw [agreed.dashboard, dashboard]
    simp only [unchanged]

end Channels

end PoisonedOS
