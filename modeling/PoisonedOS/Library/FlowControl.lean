import Mathlib.Data.List.Range

/-!
# Credit-based flow control

One end of a channel: a number of credits it may still spend, the next sequence
it will send and the next one it expects. A channel is open with such counters
or not open. Opening sets the credits, sending spends one, granting adds some up
to a window, and both sequences stop before a last value that is never used.

The machine is the common meaning of several implementations. What it has sent
and accepted since it was opened is kept beside it, as a log that the counters
determine.
-/

namespace PoisonedOS.FlowControl

/-- The bounds of a channel. -/
structure Limits where
  window : Nat
  maxFrame : Nat
  lastSequence : Nat

/-- The counters of an open channel. -/
@[ext]
structure Counters where
  credits : Nat
  transmit : Nat
  receive : Nat
deriving DecidableEq

/-- What can be asked of a channel. -/
inductive Operation where
  | openChannel (initialCredits : Nat)
  | reserveSend (frameBytes : Nat)
  | receive (frameBytes sequence : Nat)
  | addCredits (credits : Nat)
  | close
deriving DecidableEq

/-- What a channel answers. -/
inductive Answer where
  | done
  | sent (sequence : Nat)
  | invalid
  | closed
  | full
  | noCredit
  | sequenceWrap
  | duplicate
  | gap
deriving DecidableEq

/-- The operation was carried out. -/
def Answer.accepted : Answer → Bool
  | .done | .sent _ => true
  | _ => false

variable (limits : Limits)

/-- An operation on an open channel. -/
def Counters.step (counters : Counters) : Operation → Answer × Option Counters
  | .openChannel _ => (.invalid, some counters)
  | .reserveSend frameBytes =>
    if limits.maxFrame < frameBytes then (.invalid, some counters)
    else if counters.credits = 0 then (.noCredit, some counters)
    else if counters.transmit = limits.lastSequence then (.sequenceWrap, some counters)
    else (.sent counters.transmit, some { counters with
      credits := counters.credits - 1, transmit := counters.transmit + 1 })
  | .receive frameBytes sequence =>
    if limits.maxFrame < frameBytes then (.invalid, some counters)
    else if sequence < counters.receive then (.duplicate, some counters)
    else if counters.receive < sequence then (.gap, some counters)
    else if counters.receive = limits.lastSequence then (.sequenceWrap, some counters)
    else (.done, some { counters with receive := counters.receive + 1 })
  | .addCredits credits =>
    if limits.window - counters.credits < credits then (.invalid, some counters)
    else (.done, some { counters with credits := counters.credits + credits })
  | .close => (.done, none)

/-- An operation on a channel, open or not. -/
def step : Option Counters → Operation → Answer × Option Counters
  | some counters, operation => counters.step limits operation
  | none, .openChannel initialCredits =>
    if initialCredits ≤ limits.window then (.done, some ⟨initialCredits, 0, 0⟩)
    else (.invalid, none)
  | none, _ => (.closed, none)

variable {limits}

/-- A refused operation changes nothing. -/
theorem step_refused {channel : Option Counters} {operation : Operation}
    (refused : (step limits channel operation).1.accepted = false) :
    (step limits channel operation).2 = channel := by
  revert refused
  cases channel with
  | none =>
    cases operation with
    | openChannel initialCredits =>
      simp only [step]
      split <;> simp [Answer.accepted]
    | _ => simp [step]
  | some counters =>
    cases operation with
    | openChannel initialCredits => simp [step, Counters.step]
    | close => simp [step, Counters.step, Answer.accepted]
    | reserveSend frameBytes =>
      simp only [step, Counters.step]
      split
      · simp
      split
      · simp
      split <;> simp [Answer.accepted]
    | receive frameBytes sequence =>
      simp only [step, Counters.step]
      split
      · simp
      split
      · simp
      split
      · simp
      split <;> simp [Answer.accepted]
    | addCredits credits =>
      simp only [step, Counters.step]
      split <;> simp [Answer.accepted]

/-- What was sent and what was accepted since the channel was last opened. -/
@[ext]
structure Log where
  sent : List Nat
  received : List Nat
deriving DecidableEq

namespace Log

/-- Nothing has happened. -/
def empty : Log := ⟨[], []⟩

/-- The log after an operation and its answer. -/
def record (log : Log) : Operation → Answer → Log
  | .openChannel _, .done => empty
  | .reserveSend _, .sent sequence => { log with sent := log.sent ++ [sequence] }
  | .receive _ sequence, .done => { log with received := log.received ++ [sequence] }
  | _, _ => log

/-- Both sequences count up from zero and end at the last value at the latest. -/
structure Consecutive (limits : Limits) (log : Log) : Prop where
  sent : log.sent = List.range log.sent.length
  received : log.received = List.range log.received.length
  sentBound : log.sent.length ≤ limits.lastSequence
  receivedBound : log.received.length ≤ limits.lastSequence

/-- The log fits the counters of an open channel. -/
structure Matches (log : Log) (counters : Counters) : Prop where
  transmit : log.sent.length = counters.transmit
  receive : log.received.length = counters.receive

/-- Nothing has been sent or accepted. -/
theorem Consecutive.empty (limits : Limits) : Consecutive limits Log.empty :=
  ⟨rfl, rfl, Nat.zero_le _, Nat.zero_le _⟩

end Log

/-- The counters stay in their bounds and the log is the one they stand for. -/
structure Sound (limits : Limits) (channel : Option Counters) (log : Log) : Prop where
  consecutive : log.Consecutive limits
  credits : ∀ counters ∈ channel, counters.credits ≤ limits.window
  fits : ∀ counters ∈ channel, log.Matches counters

/-- A channel that is not open is sound. -/
theorem Sound.closed {log : Log} (consecutive : log.Consecutive limits) : Sound limits none log :=
  ⟨consecutive, by simp, by simp⟩

/-- An open channel is sound when its own counters are. -/
theorem Sound.ofCounters {counters : Counters} {log : Log} (consecutive : log.Consecutive limits)
    (credits : counters.credits ≤ limits.window) (fits : log.Matches counters) :
    Sound limits (some counters) log where
  consecutive
  credits := by
    intro other same
    cases same
    exact credits
  fits := by
    intro other same
    cases same
    exact fits

/-- A sequence of counted entries goes on with the next number. -/
theorem range_concat {entries : List Nat} {next : Nat}
    (counted : entries = List.range entries.length) (length : entries.length = next) :
    entries ++ [next] = List.range (entries ++ [next]).length := by
  rw [List.length_append, List.length_singleton, List.range_succ, ← counted, length]

/-- Every operation keeps the bounds and the log. -/
theorem Sound.step {channel : Option Counters} {log : Log} (sound : Sound limits channel log)
    (operation : Operation) :
    Sound limits (FlowControl.step limits channel operation).2
      (log.record operation (FlowControl.step limits channel operation).1) := by
  cases channel with
  | none =>
    cases operation with
    | openChannel initialCredits =>
      simp only [FlowControl.step]
      split
      · rename_i bounded
        exact .ofCounters (.empty limits) bounded ⟨rfl, rfl⟩
      · exact sound
    | _ => exact sound
  | some counters =>
    have fits := sound.fits counters rfl
    have credits := sound.credits counters rfl
    obtain ⟨sent, received, sentBound, receivedBound⟩ := sound.consecutive
    cases operation with
    | openChannel initialCredits => exact sound
    | close => exact .closed sound.consecutive
    | reserveSend frameBytes =>
      simp only [FlowControl.step, Counters.step]
      split
      · exact sound
      split
      · exact sound
      split
      · exact sound
      rename_i notLast
      have length := fits.transmit
      refine .ofCounters ⟨range_concat sent length, received, ?_, receivedBound⟩ ?_
        ⟨?_, fits.receive⟩
      · simp only [Log.record, List.length_append, List.length_singleton]
        omega
      · simp only
        omega
      · simp only [Log.record, List.length_append, List.length_singleton, length]
    | receive frameBytes sequence =>
      simp only [FlowControl.step, Counters.step]
      split
      · exact sound
      split
      · exact sound
      split
      · exact sound
      split
      · exact sound
      rename_i notBelow notAbove notLast
      have length := fits.receive
      have exact : log.received.length = sequence := by omega
      refine .ofCounters ⟨sent, range_concat received exact, sentBound, ?_⟩ credits
        ⟨fits.transmit, ?_⟩
      · simp only [Log.record, List.length_append, List.length_singleton]
        omega
      · simp only [Log.record, List.length_append, List.length_singleton, length]
    | addCredits granted =>
      simp only [FlowControl.step, Counters.step]
      split
      · exact sound
      · rename_i within
        refine .ofCounters sound.consecutive ?_ ⟨fits.transmit, fits.receive⟩
        simp only
        omega

end PoisonedOS.FlowControl
