import PoisonedOS.Bluetooth.Credits
import PoisonedOS.Library.Runs
import Mathlib.Tactic.Linarith

/-!
# Keeping both counts level

As long as a notification finds no write awaited, what the browser may still send and what is
on its way make up what the device is ready to receive. A write that completes after a
notification has replaced the credits takes its credits from the new ones, and the device then
waits for bytes that the browser has no credits for.
-/

namespace PoisonedOS.Bluetooth

namespace Link

/-! ## Sound links -/

/-- Nothing is on its way, and no write is awaited. -/
structure Quiet (link : Link) : Prop where
  chunks : link.chunks = []
  notifications : link.notifications = []
  completed : ¬ link.Awaiting

/-- The credits of the browser and the bytes that the device is ready to receive. -/
structure Sound (link : Link) : Prop where
  /-- What may still be sent and what is on its way fits, while no notification is. -/
  bounded : link.notifications = [] →
    link.credits - link.pending + link.chunks.sum ≤ link.bytesReadyToReceive
  /-- Where nothing is on its way both counts are the same. -/
  level : link.Quiet → link.credits = link.bytesReadyToReceive
  /-- A write that waits there is woken by the next notification. -/
  fed : link.Quiet → ∀ frame, link.writer = .waiting frame →
    link.bufferEmpty.notified.writer = .woken frame

/-! ## The two phases -/

/-- What the writer's place says of the credits. -/
def Placed (credits : Int) : Writer → Prop
  | .idle => True
  | .looping _ => True
  | .waiting frame => credits = 0 ∧ 0 < frame.remaining
  | .woken frame => 0 < credits ∧ 0 < frame.remaining
  | .ready frame => 0 < credits ∧ 0 < frame.remaining
  | .sending _ length => 0 < length

/-- Both counts are level but for what is on its way. -/
structure Balanced (link : Link) : Prop where
  placed : Placed link.credits link.writer
  positive : 0 ≤ link.credits - link.pending
  chunks : ∀ length ∈ link.chunks, 0 < length
  level : link.notifications = [] →
    link.credits - link.pending + link.chunks.sum = link.bytesReadyToReceive
  refilled : link.notifications = [] ∨
    link.notifications = [rpcBufferSize] ∧ link.chunks = [] ∧
      link.bytesReadyToReceive = rpcBufferSize ∧ link.credits = link.pending

/-- A notification has replaced the credits while a write was awaited. -/
structure Overtaken (link : Link) : Prop where
  credits : link.credits = rpcBufferSize
  chunks : link.chunks = []
  notifications : link.notifications = []
  ready : link.bytesReadyToReceive = rpcBufferSize
  awaited : ∃ frame length, link.writer = .sending frame length ∧ 0 < length

theorem connected_balanced : connected.Balanced where
  placed := trivial
  positive := by decide
  chunks := by intro length inside; cases inside
  level := by intro; decide
  refilled := .inl rfl

variable {link : Link}

/-- A level link is sound. -/
theorem Balanced.sound (balanced : link.Balanced) : link.Sound where
  bounded quiet := le_of_eq (balanced.level quiet)
  level quiet := by
    have same := balanced.level quiet.notifications
    have free : link.pending = 0 := by
      cases place : link.writer with
      | sending frame length => exact absurd ⟨frame, length, place⟩ quiet.completed
      | _ => simp only [pending, place]
    rw [quiet.chunks, free] at same
    simpa using same
  fed quiet frame waiting := by
    have same := balanced.level quiet.notifications
    have placed := balanced.placed
    rw [waiting] at placed
    have free : link.pending = 0 := by simp only [pending, waiting]
    rw [quiet.chunks, free, placed.1] at same
    have empty : link.bytesReadyToReceive = 0 := by simpa using same.symm
    simp only [bufferEmpty, if_pos empty, quiet.notifications, List.nil_append, notified,
      setCredits, waiting]
    rfl

/-- A link whose credits were replaced is sound until the write completes. -/
theorem Overtaken.sound (overtaken : link.Overtaken) : link.Sound := by
  obtain ⟨frame, length, sending, positive⟩ := overtaken.awaited
  have awaiting : link.Awaiting := ⟨frame, length, sending⟩
  refine ⟨?_, fun quiet => absurd awaiting quiet.completed,
    fun quiet => absurd awaiting quiet.completed⟩
  intro _
  rw [overtaken.credits, overtaken.chunks, overtaken.ready, List.sum_nil]
  omega

/-- **Then both counts are not the same any more.** -/
theorem Overtaken.completed (overtaken : link.Overtaken) :
    ¬ link.completed.Sound := by
  obtain ⟨frame, length, sending, positive⟩ := overtaken.awaited
  intro sound
  have quiet : link.completed.Quiet := by
    refine ⟨?_, ?_, ?_⟩
    · simp only [Link.completed, sending, overtaken.chunks]
    · simp only [Link.completed, sending, overtaken.notifications]
    · rintro ⟨frame, length, still⟩
      simp only [Link.completed, sending] at still
      cases still
  have same := sound.level quiet
  simp only [Link.completed, sending, overtaken.credits, overtaken.ready] at same
  omega

/-! ## One event -/

theorem Balanced.write (balanced : link.Balanced) (byteLength : Nat) :
    (link.write byteLength).Balanced := by
  rw [Link.write]
  split
  · exact balanced
  · exact ⟨balanced.placed, balanced.positive, balanced.chunks, balanced.level, balanced.refilled⟩

theorem Balanced.abortQueued (balanced : link.Balanced) (index : Nat) :
    (link.abortQueued index).Balanced :=
  ⟨balanced.placed, balanced.positive, balanced.chunks, balanced.level, balanced.refilled⟩

/-- A writer that moves without a chunk keeps both counts. -/
theorem Balanced.moved {link : Link} (balanced : link.Balanced) (writer : Writer)
    (frames : List Frame) (placed : Placed link.credits writer)
    (same : ({ link with writer := writer, writeQueue := frames } : Link).pending = link.pending) :
    ({ link with writer := writer, writeQueue := frames } : Link).Balanced where
  placed := placed
  positive := by rw [same]; exact balanced.positive
  chunks := balanced.chunks
  level := by rw [same]; exact balanced.level
  refilled := by rw [same]; exact balanced.refilled

theorem Balanced.abort (balanced : link.Balanced) : link.abort.Balanced := by
  have placed := balanced.placed
  rw [Link.abort]
  cases place : link.writer with
  | idle => exact balanced
  | looping frame =>
    exact balanced.moved _ _ trivial (by simp only [pending, place])
  | waiting frame =>
    exact balanced.moved _ _ trivial (by simp only [pending, place])
  | woken frame =>
    rw [place] at placed
    exact balanced.moved _ _ placed (by simp only [pending, place])
  | ready frame =>
    rw [place] at placed
    exact balanced.moved _ _ placed (by simp only [pending, place])
  | sending frame length =>
    rw [place] at placed
    exact balanced.moved _ _ placed (by simp only [pending, place])

/-- A chunk is written within the credits. -/
theorem Balanced.send (balanced : link.Balanced) {frame : Frame}
    (place : link.writer = .ready frame) : link.resume.Balanced := by
  have placed := balanced.placed
  rw [place] at placed
  obtain ⟨credit, remaining⟩ := placed
  have free : link.pending = 0 := by simp only [pending, place]
  have quiet : link.notifications = [] := by
    rcases balanced.refilled with quiet | ⟨-, -, -, spent⟩
    · exact quiet
    · rw [spent, free] at credit
      exact absurd credit (lt_irrefl _)
  have level := balanced.level quiet
  rw [free] at level
  have chosen : ∃ length : Nat, 0 < length ∧ (length : Int) ≤ link.credits ∧
      (min (min (characteristicChunk : Int) link.credits) frame.remaining).toNat = length := by
    refine ⟨_, ?_, ?_, rfl⟩
    · rw [characteristicChunk]
      omega
    · rw [characteristicChunk]
      omega
  obtain ⟨length, positive, within, same⟩ := chosen
  simp only [Link.resume, place, same]
  refine ⟨positive, ?_, ?_, ?_, .inl quiet⟩
  · simp only [pending]
    omega
  · intro other inside
    rcases List.mem_append.mp inside with inside | inside
    · exact balanced.chunks other inside
    · rw [List.mem_singleton.mp inside]
      exact positive
  · intro _
    simp only [pending, List.sum_append, List.sum_singleton]
    generalize link.chunks.sum = total at level ⊢
    omega

theorem Balanced.resume (balanced : link.Balanced) : link.resume.Balanced := by
  have placed := balanced.placed
  cases place : link.writer with
  | idle =>
    rw [Link.resume, place]
    cases queue : link.writeQueue with
    | nil => exact balanced
    | cons frame frames =>
      exact balanced.moved _ _ trivial (by simp only [pending, place])
  | looping frame =>
    rw [Link.resume, place]
    simp only
    split
    · exact balanced.moved _ _ trivial (by simp only [pending, place])
    rename_i going
    have remaining : 0 < frame.remaining := by
      rw [Bool.or_eq_true, not_or, decide_eq_true_iff] at going
      exact Nat.pos_of_ne_zero going.1
    split
    · rename_i credit
      exact balanced.moved _ _ ⟨credit, remaining⟩ (by simp only [pending, place])
    · rename_i spent
      have positive := balanced.positive
      have free : link.pending = 0 := by simp only [pending, place]
      rw [free] at positive
      exact balanced.moved _ _ ⟨by omega, remaining⟩ (by simp only [pending, place])
  | waiting frame =>
    rw [Link.resume, place]
    exact balanced
  | woken frame =>
    rw [place] at placed
    rw [Link.resume, place]
    simp only
    split
    · exact balanced.moved _ _ trivial (by simp only [pending, place])
    · exact balanced.moved _ _ placed (by simp only [pending, place])
  | ready frame => exact balanced.send place
  | sending frame length =>
    rw [Link.resume, place]
    exact balanced

theorem Balanced.completed (balanced : link.Balanced) :
    link.completed.Balanced := by
  rw [Link.completed]
  split
  · rename_i frame length place
    have placed := balanced.placed
    have positive := balanced.positive
    have level := balanced.level
    have refilled := balanced.refilled
    have held : link.pending = length := by simp only [pending, place]
    rw [held] at positive level refilled
    refine ⟨trivial, ?_, balanced.chunks, ?_, ?_⟩
    · simp only [pending]
      omega
    · intro quiet
      have same := level quiet
      simp only [pending]
      omega
    · rcases refilled with quiet | ⟨quiet, chunks, ready, spent⟩
      · exact .inl quiet
      · refine .inr ⟨quiet, chunks, ready, ?_⟩
        simp only [pending]
        omega
  · exact balanced

theorem Balanced.arrived (balanced : link.Balanced) : link.arrived.Balanced := by
  rw [Link.arrived]
  split
  · exact balanced
  · rename_i length chunks way
    have quiet : link.notifications = [] := by
      rcases balanced.refilled with quiet | ⟨-, none, -, -⟩
      · exact quiet
      · rw [way] at none
        cases none
    have level := balanced.level quiet
    have positive := balanced.positive
    rw [way, List.sum_cons] at level
    refine ⟨balanced.placed, balanced.positive, ?_, ?_, .inl quiet⟩
    · intro other inside
      exact balanced.chunks other (by rw [way]; exact List.mem_cons_of_mem _ inside)
    · intro _
      have same : ({ link with
          chunks := chunks
          bytesReadyToReceive :=
            link.bytesReadyToReceive - min link.bytesReadyToReceive length } : Link).pending =
          link.pending := rfl
      rw [same]
      dsimp only
      generalize chunks.sum = total at level ⊢
      omega

theorem Balanced.bufferEmpty (balanced : link.Balanced) :
    link.bufferEmpty.Balanced := by
  rw [Link.bufferEmpty]
  split
  · rename_i empty
    have quiet : link.notifications = [] := by
      rcases balanced.refilled with quiet | ⟨-, -, full, -⟩
      · exact quiet
      · rw [empty] at full
        cases full
    have level := balanced.level quiet
    have positive := balanced.positive
    have same : ({ link with
        bytesReadyToReceive := rpcBufferSize
        notifications := link.notifications ++ [rpcBufferSize] } : Link).pending =
        link.pending := rfl
    rw [empty] at level
    have none : link.chunks = [] := by
      cases way : link.chunks with
      | nil => rfl
      | cons length chunks =>
        have some := balanced.chunks length (by rw [way]; exact List.mem_cons_self)
        rw [way, List.sum_cons] at level
        omega
    rw [none, List.sum_nil] at level
    refine ⟨balanced.placed, balanced.positive, balanced.chunks, ?_, .inr ⟨?_, none, rfl, ?_⟩⟩
    · intro full
      rw [quiet] at full
      cases full
    · rw [quiet]
      rfl
    · rw [same]
      simp only
      omega
  · exact balanced

/-- The writer's place after the credits are replaced. -/
theorem Placed.filled (placed : Placed link.credits link.writer) (calm : ¬ link.Awaiting) :
    Placed rpcBufferSize (link.setCredits rpcBufferSize).writer ∧
      (link.setCredits rpcBufferSize).pending = 0 := by
  cases place : link.writer with
  | sending frame length => exact absurd ⟨frame, length, place⟩ calm
  | idle => simp only [setCredits, pending, place, Placed, and_self]
  | looping frame => simp only [setCredits, pending, place, Placed, and_self]
  | waiting frame =>
    rw [place] at placed
    have positive : 0 < rpcBufferSize := by decide
    simp only [setCredits, pending, place, if_pos positive]
    exact ⟨⟨by decide, placed.2⟩, trivial⟩
  | woken frame =>
    rw [place] at placed
    simp only [setCredits, pending, place]
    exact ⟨⟨by decide, placed.2⟩, trivial⟩
  | ready frame =>
    rw [place] at placed
    simp only [setCredits, pending, place]
    exact ⟨⟨by decide, placed.2⟩, trivial⟩

/-- A notification finds no write awaited and fills the credits, or it overtakes the write. -/
theorem Balanced.notified (balanced : link.Balanced) :
    (¬ (link.notifications ≠ [] ∧ link.Awaiting) → link.notified.Balanced) ∧
      (link.notifications ≠ [] ∧ link.Awaiting → link.notified.Overtaken) := by
  rw [Link.notified]
  rcases balanced.refilled with quiet | ⟨quiet, chunks, ready, spent⟩
  · rw [quiet]
    exact ⟨fun _ => balanced, fun overtaken => absurd rfl overtaken.1⟩
  · rw [quiet]
    constructor
    · intro calm
      have calm : ¬ link.Awaiting := fun awaiting => calm ⟨List.cons_ne_nil _ _, awaiting⟩
      obtain ⟨placed, free⟩ := Placed.filled balanced.placed calm
      have same : ({ link with notifications := [] } : Link).setCredits rpcBufferSize =
          { link.setCredits rpcBufferSize with notifications := [] } := rfl
      simp only [same]
      refine ⟨placed, ?_, balanced.chunks, ?_, .inl rfl⟩
      · simp only [pending] at free ⊢
        rw [free]
        exact (by decide : (0 : Int) ≤ (rpcBufferSize : Int) - ((0 : Nat) : Int))
      · intro _
        simp only [pending] at free ⊢
        rw [free]
        simp only [setCredits, chunks, ready]
        rfl
    · rintro ⟨-, frame, length, sending⟩
      have placed := balanced.placed
      rw [sending] at placed
      refine ⟨rfl, chunks, rfl, ready, frame, length, ?_, placed⟩
      simp only [setCredits, sending]

/-- A notification that is on its way reaches the browser while a write is awaited. -/
def Overtakes (event : Event) (link : Link) : Prop :=
  event = .notified ∧ link.notifications ≠ [] ∧ link.Awaiting

/-- **One event keeps both counts level**, unless a notification overtakes a write. -/
theorem Balanced.step (balanced : link.Balanced) (event : Event) :
    (¬ Overtakes event link → (Link.step event link).Balanced) ∧
      (Overtakes event link → (Link.step event link).Overtaken) := by
  cases event with
  | write byteLength => exact ⟨fun _ => balanced.write byteLength, fun other => nomatch other.1⟩
  | abort => exact ⟨fun _ => balanced.abort, fun other => nomatch other.1⟩
  | abortQueued index => exact ⟨fun _ => balanced.abortQueued index, fun other => nomatch other.1⟩
  | resume => exact ⟨fun _ => balanced.resume, fun other => nomatch other.1⟩
  | completed => exact ⟨fun _ => balanced.completed, fun other => nomatch other.1⟩
  | arrived => exact ⟨fun _ => balanced.arrived, fun other => nomatch other.1⟩
  | bufferEmpty => exact ⟨fun _ => balanced.bufferEmpty, fun other => nomatch other.1⟩
  | notified =>
    obtain ⟨calm, overtaken⟩ := balanced.notified
    exact ⟨fun other => calm fun both => other ⟨rfl, both⟩, fun other => overtaken other.2⟩

/-- An overtaken write stays so until it completes. -/
theorem Overtaken.step (overtaken : link.Overtaken) {event : Event} (other : event ≠ .completed) :
    (Link.step event link).Overtaken := by
  obtain ⟨credits, chunks, notifications, ready, frame, length, sending, positive⟩ := overtaken
  cases event with
  | write byteLength =>
    rw [Link.step, Link.write]
    split
    · exact ⟨credits, chunks, notifications, ready, frame, length, sending, positive⟩
    · exact ⟨credits, chunks, notifications, ready, frame, length, sending, positive⟩
  | abort =>
    rw [Link.step, Link.abort, sending]
    exact ⟨credits, chunks, notifications, ready, _, length, rfl, positive⟩
  | abortQueued index =>
    exact ⟨credits, chunks, notifications, ready, frame, length, sending, positive⟩
  | resume =>
    rw [Link.step, Link.resume, sending]
    exact ⟨credits, chunks, notifications, ready, frame, length, sending, positive⟩
  | completed => exact absurd rfl other
  | arrived =>
    rw [Link.step, Link.arrived, chunks]
    exact ⟨credits, chunks, notifications, ready, frame, length, sending, positive⟩
  | bufferEmpty =>
    have full : ¬ link.bytesReadyToReceive = 0 := by
      rw [ready]
      decide
    rw [Link.step, Link.bufferEmpty, if_neg full]
    exact ⟨credits, chunks, notifications, ready, frame, length, sending, positive⟩
  | notified =>
    rw [Link.step, Link.notified, notifications]
    exact ⟨credits, chunks, notifications, ready, frame, length, sending, positive⟩

/-! ## A run -/

def Undisturbed : Link → List Event → Prop
  | _, [] => True
  | link, event :: events =>
    (Overtakes event link → .completed ∉ events) ∧ Undisturbed (link.step event) events

theorem Overtaken.run_iff (overtaken : link.Overtaken) (events : List Event) :
    (∀ index, (Runs.reached Link.step link events index).Sound) ↔ .completed ∉ events := by
  induction events generalizing link with
  | nil =>
    refine iff_of_true (fun index => ?_) List.not_mem_nil
    rw [Runs.reached, List.take_nil]
    exact overtaken.sound
  | cons event events ih =>
    by_cases completes : event = .completed
    · subst completes
      refine iff_of_false (fun sound => overtaken.completed (sound 1)) ?_
      exact fun none => none List.mem_cons_self
    · have later := ih (overtaken.step completes)
      rw [List.mem_cons, not_or, ← later]
      constructor
      · intro sound
        exact ⟨fun same => completes same.symm, fun index => sound (index + 1)⟩
      · rintro ⟨-, sound⟩ index
        cases index with
        | zero => exact overtaken.sound
        | succ index => exact sound index

theorem Overtaken.undisturbed (overtaken : link.Overtaken) (events : List Event)
    (none : .completed ∉ events) : link.Undisturbed events := by
  induction events generalizing link with
  | nil => trivial
  | cons event events ih =>
    rw [List.mem_cons, not_or] at none
    have still := overtaken.step fun same => none.1 same.symm
    exact ⟨fun _ => none.2, ih still none.2⟩

theorem Balanced.run_iff (balanced : link.Balanced) (events : List Event) :
    (∀ index, (Runs.reached Link.step link events index).Sound) ↔ link.Undisturbed events := by
  induction events generalizing link with
  | nil =>
    refine iff_of_true (fun index => ?_) trivial
    rw [Runs.reached, List.take_nil]
    exact balanced.sound
  | cons event events ih =>
    obtain ⟨calm, overtaken⟩ := balanced.step event
    have split : (∀ index, (Runs.reached Link.step link (event :: events) index).Sound) ↔
        ∀ index, (Runs.reached Link.step (Link.step event link) events index).Sound := by
      constructor
      · exact fun sound index => sound (index + 1)
      · intro sound index
        cases index with
        | zero => exact balanced.sound
        | succ index => exact sound index
    rw [split, Undisturbed]
    by_cases overtakes : Overtakes event link
    · rw [(overtaken overtakes).run_iff events]
      constructor
      · exact fun none => ⟨fun _ => none, (overtaken overtakes).undisturbed events none⟩
      · exact fun both => both.1 overtakes
    · rw [ih (calm overtakes)]
      exact ⟨fun later => ⟨fun other => absurd other overtakes, later⟩, fun both => both.2⟩

/-- **The credits of a link stay sound in every order of its events, exactly when no write
completes that a notification has overtaken.** -/
theorem credits_sound_iff (events : List Event) :
    (∀ index, (Runs.reached step connected events index).Sound) ↔
      connected.Undisturbed events :=
  connected_balanced.run_iff events

/-- The writes and arrivals of a chunk, and what the writer does between them. -/
def chunkEvents : List Event := [.resume, .resume, .arrived, .completed]

/-- A frame of the largest size, whose last chunk arrives and is answered with a notification
before its write completes. -/
def overtakenWrite : List Event :=
  [.write 1024, .resume] ++ chunkEvents ++ chunkEvents ++ chunkEvents ++ chunkEvents ++
    [.resume, .resume, .arrived, .bufferEmpty, .notified, .completed]

/-- The same, and another frame as far as it can be written. -/
def stalledWrite : List Event :=
  overtakenWrite ++ [.resume, .write 1024, .resume] ++
    chunkEvents ++ chunkEvents ++ chunkEvents ++ chunkEvents ++ [.resume]

/-- After an overtaken write the counts are not the same, and a later frame waits for ever: the
device is ready for 52 bytes more and has nothing to notify. -/
theorem overtaken_write_stalls :
    ¬ (Runs.reached step connected overtakenWrite 24).Sound ∧
      Runs.reached step connected stalledWrite 44 =
        { credits := 0
          writeQueue := []
          writer := .waiting { remaining := 52, aborted := false }
          chunks := []
          notifications := []
          bytesReadyToReceive := 52 } ∧
      (Runs.reached step connected stalledWrite 44).bufferEmpty =
        Runs.reached step connected stalledWrite 44 := by
  have reached : Runs.reached step connected overtakenWrite 24 =
      { credits := 972
        writeQueue := []
        writer := .looping { remaining := 0, aborted := false }
        chunks := []
        notifications := []
        bytesReadyToReceive := 1024 } := by decide
  refine ⟨?_, by decide, by decide⟩
  rw [reached]
  intro sound
  have same := sound.level ⟨rfl, rfl, fun ⟨_, _, sending⟩ => nomatch sending⟩
  exact absurd same (by decide)

end Link

end PoisonedOS.Bluetooth
