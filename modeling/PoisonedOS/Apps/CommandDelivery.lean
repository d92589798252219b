import PoisonedOS.Apps.Commands

/-!
# Delivery of commands

A command with payload is delivered whatever earlier commands left in the collector, since
its first chunk starts the collector anew. A command without payload has no first chunk, and
is refused while the collector still waits for the rest of an earlier command.
-/

namespace PoisonedOS.Apps

open CString (isEmpty ofBytes ofBytes_bytes)

namespace RpcPoisonApp

/-- The bytes of a text survive the decoding where none of them is zero. -/
theorem ofBytes_bytes_iff {buffer : List UInt8} :
    (ofBytes buffer).bytes = buffer ↔ (0 : UInt8) ∉ buffer := by
  refine ⟨?_, ofBytes_bytes⟩
  intro same inside
  rw [← same] at inside
  exact (ofBytes buffer).noNul inside

/-- What the client checks before it sends a command. -/
structure Sendable (runId appId commandId payload : List UInt8) : Prop where
  appId : appId ≠ [] ∧ appId.length ≤ 64
  runId : runId ≠ [] ∧ runId.length ≤ 64
  commandId : commandId ≠ [] ∧ commandId.length ≤ 64
  payload : payload.length ≤ 4096 ∧ (0 : UInt8) ∉ payload

theorem idLength_iff (bytes : List UInt8) :
    idLength bytes = true ↔ bytes ≠ [] ∧ bytes.length ≤ 64 := by
  simp [idLength]

variable {runId appId commandId payload : List UInt8} {cancel accepts : Bool}
  {messages : List AppCommandMessage}

/-- The number of messages of a command. -/
def sends (payload : List UInt8) : Nat :=
  max 1 (if payload.length = 0 then 0 else Slices.count appChunkBytes payload.length)

/-- The client sends exactly the commands that pass its checks. -/
theorem command_eq_some :
    command runId appId commandId payload cancel = some messages ↔
      Sendable runId appId commandId payload ∧
        messages = (List.range (sends payload)).map
          (commandMessage runId appId commandId payload cancel) := by
  unfold command
  split
  · rename_i refused
    refine ⟨nofun, ?_⟩
    rintro ⟨sendable, _⟩
    have app := (idLength_iff appId).mpr sendable.appId
    have run := (idLength_iff runId).mpr sendable.runId
    have com := (idLength_iff commandId).mpr sendable.commandId
    have short := sendable.payload.1
    have free := sendable.payload.2
    simp only [app, run, com, Bool.not_true, Bool.false_or, Bool.or_eq_true, decide_eq_true_eq,
      List.contains_iff_mem] at refused
    cases refused with
    | inl long => omega
    | inr zero => exact absurd zero free
  · rename_i allowed
    simp only [Bool.or_eq_true, Bool.not_eq_true', decide_eq_true_eq, List.contains_iff_mem,
      not_or, Bool.not_eq_false, idLength_iff, Nat.not_lt] at allowed
    obtain ⟨⟨⟨⟨app, run⟩, com⟩, short⟩, free⟩ := allowed
    have sendable : Sendable runId appId commandId payload := ⟨app, run, com, short, free⟩
    constructor
    · intro sent
      exact ⟨sendable, (Option.some.inj sent).symm⟩
    · rintro ⟨_, rfl⟩
      rfl

/-- A message of a command, as the device decodes it. -/
def received (runId appId commandId payload : List UInt8) (cancel : Bool) (chunkIndex : Nat) :
    AppCommand :=
  let message := commandMessage runId appId commandId payload cancel chunkIndex
  { appId := CString.ofBytes appId
    runId := CString.ofBytes runId
    commandId := CString.ofBytes commandId
    payloadJson := CString.ofBytes message.payloadJson
    cancel := cancel
    protocolVersion := appProtocolVersion
    chunkIndex := chunkIndex
    chunkCount := message.chunkCount
    payloadChunk := message.payloadChunk }

/-- The payload field holds nothing or the payload. -/
theorem length_payloadJson_le (chunkIndex : Nat) :
    (commandMessage runId appId commandId payload cancel chunkIndex).payloadJson.length ≤
      payload.length := by
  simp only [commandMessage]
  generalize (if payload.length = 0 then 0
    else Slices.count appChunkBytes payload.length) = chunkCount
  split
  · exact Nat.le_refl _
  · exact Nat.zero_le _

theorem length_payloadChunk_le (chunkIndex : Nat) :
    (commandMessage runId appId commandId payload cancel chunkIndex).payloadChunk.length ≤
      appChunkBytes := by
  simp only [commandMessage]
  generalize (if payload.length = 0 then 0
    else Slices.count appChunkBytes payload.length) = chunkCount
  split
  · exact Nat.zero_le _
  · exact Slices.length_slice_le _ _ _

/-- Every message fits the fields of the device. -/
theorem decode_commandMessage (sendable : Sendable runId appId commandId payload)
    (chunkIndex : Nat) :
    (commandMessage runId appId commandId payload cancel chunkIndex).decode =
      some (received runId appId commandId payload cancel chunkIndex) :=
  if_pos ⟨sendable.appId.2, sendable.runId.2, sendable.commandId.2,
    Nat.le_trans (length_payloadJson_le chunkIndex) sendable.payload.1,
    length_payloadChunk_le chunkIndex⟩

/-! ## A command with payload -/

/-- The collector between two chunks of a command. -/
structure Collecting (rpcApp : RpcPoisonApp) (runId appId commandId payload : List UInt8)
    (chunks : Nat) : Prop where
  subscribed : rpcApp.subscribed = true
  receiving : rpcApp.receivingCommand = true
  expected : rpcApp.expectedChunks = Slices.count appChunkBytes payload.length
  next : rpcApp.nextChunk = chunks
  app : rpcApp.appId = CString.ofBytes appId
  run : rpcApp.runId = CString.ofBytes runId
  com : rpcApp.commandId = CString.ofBytes commandId
  collected : rpcApp.payloadJson = payload.take (chunks * appChunkBytes)

theorem appChunkBytes_pos : 0 < appChunkBytes := by decide

/-- A payload has at most as many chunks as the collector takes. -/
theorem count_le_maxChunks (short : payload.length ≤ 4096) :
    Slices.count appChunkBytes payload.length ≤ rpcPoisonAppMaxChunks :=
  Slices.count_le_count short

/-- What the device decodes of a message with a chunk. -/
theorem received_chunk (nonempty : payload ≠ []) (chunkIndex : Nat) :
    received runId appId commandId payload cancel chunkIndex =
      { appId := ofBytes appId
        runId := ofBytes runId
        commandId := ofBytes commandId
        payloadJson := ofBytes []
        cancel := cancel
        protocolVersion := appProtocolVersion
        chunkIndex := chunkIndex
        chunkCount := Slices.count appChunkBytes payload.length
        payloadChunk := Slices.slice appChunkBytes payload chunkIndex } := by
  have positive := List.length_pos_of_ne_nil nonempty
  have counted := Slices.count_pos appChunkBytes_pos positive
  simp [received, commandMessage, Nat.ne_of_gt positive, Nat.ne_of_gt counted]

variable {rpcApp : RpcPoisonApp} {chunkIndex : Nat}

/-- After the first chunk was seen, or between two chunks, the collector waits for this one. -/
theorem begin_collecting (cancel : Bool) (nonempty : payload ≠ [])
    (subscribed : rpcApp.subscribed = true)
    (ready : chunkIndex = 0 ∨ Collecting rpcApp runId appId commandId payload chunkIndex) :
    Collecting (rpcApp.begin (received runId appId commandId payload cancel chunkIndex))
      runId appId commandId payload chunkIndex := by
  rw [received_chunk nonempty]
  by_cases first : chunkIndex = 0
  · subst first
    simp only [begin, ↓reduceIte]
    exact ⟨subscribed, rfl, rfl, rfl, rfl, rfl, rfl, by simp [resetCommand]⟩
  · simp only [begin, first, ↓reduceIte]
    exact ready.resolve_left first

theorem Collecting.expected_chunk
    (collecting : Collecting rpcApp runId appId commandId payload chunkIndex)
    (sendable : Sendable runId appId commandId payload) (cancel : Bool) (nonempty : payload ≠ [])
    (within : chunkIndex < Slices.count appChunkBytes payload.length) :
    rpcApp.unexpected (received runId appId commandId payload cancel chunkIndex) = false := by
  have filled : Slices.slice appChunkBytes payload chunkIndex ≠ [] :=
    Slices.slice_ne_nil appChunkBytes_pos within
  have bounded : rpcApp.payloadJson.length +
      (Slices.slice appChunkBytes payload chunkIndex).length ≤ 4096 := by
    rw [collecting.collected, ← List.length_append, Slices.slice_succ, List.length_take]
    exact Nat.le_trans (Nat.min_le_right _ _) sendable.payload.1
  have free : (0 : UInt8) ∉ Slices.slice appChunkBytes payload chunkIndex :=
    fun inside => sendable.payload.2 (Slices.mem_of_mem_slice inside)
  rw [received_chunk nonempty]
  simp [unexpected, collecting.receiving, collecting.expected, collecting.next, collecting.app,
    collecting.run, collecting.com, filled, free, bounded]

/-- An expected chunk extends what was collected. -/
theorem Collecting.append (collecting : Collecting rpcApp runId appId commandId payload chunkIndex)
    (cancel : Bool) (nonempty : payload ≠ []) :
    Collecting (rpcApp.append (received runId appId commandId payload cancel chunkIndex))
      runId appId commandId payload (chunkIndex + 1) := by
  rw [received_chunk nonempty]
  refine ⟨collecting.subscribed, collecting.receiving, collecting.expected, ?_, collecting.app,
    collecting.run, collecting.com, ?_⟩
  · simp only [RpcPoisonApp.append, collecting.next]
  · simp only [RpcPoisonApp.append, collecting.collected]
    exact Slices.slice_succ _ _ _

/-- The collector accepts each chunk of a command in its turn, and has the whole payload after
the last. -/
theorem collect_chunk (cancel : Bool) (sendable : Sendable runId appId commandId payload)
    (nonempty : payload ≠ []) (within : chunkIndex < Slices.count appChunkBytes payload.length)
    (subscribed : rpcApp.subscribed = true)
    (ready : chunkIndex = 0 ∨ Collecting rpcApp runId appId commandId payload chunkIndex) :
    ∃ collected : RpcPoisonApp,
      Collecting collected runId appId commandId payload (chunkIndex + 1) ∧
        rpcApp.collectCommand (received runId appId commandId payload cancel chunkIndex) =
          if chunkIndex + 1 = Slices.count appChunkBytes payload.length then
            (.complete, { collected with receivingCommand := false })
          else (.stored, collected) := by
  have collecting := begin_collecting cancel nonempty subscribed ready
  have appended := collecting.append cancel nonempty
  refine ⟨_, appended, ?_⟩
  have few := count_le_maxChunks sendable.payload.1
  have expected := collecting.expected_chunk sendable cancel nonempty within
  rw [collectCommand, if_neg, if_neg]
  · simp only [expected, Bool.false_eq_true, ↓reduceIte, appended.next, appended.expected]
  · rw [received_chunk nonempty]
    simp only [isEmpty, ofBytes, List.takeWhile_nil, List.isEmpty_nil,
      Bool.not_true, Bool.false_eq_true, or_false]
    omega
  · rw [received_chunk nonempty]
    exact Nat.ne_of_gt (Nat.zero_lt_of_lt within)

def sent (runId appId commandId payload : List UInt8) (cancel : Bool) : PoisonAppCommand where
  protocolVersion := appProtocolVersion
  appId := CString.ofBytes appId
  runId := CString.ofBytes runId
  commandId := CString.ofBytes commandId
  payloadJson := CString.ofBytes payload
  cancel := cancel

/-- What becomes of a complete command: identifiers that start with a zero byte are out of
bounds. -/
def finished (runId appId commandId payload : List UInt8) (cancel : Bool) : Outcome :=
  if (CString.ofBytes appId).isEmpty || (CString.ofBytes commandId).isEmpty then .unbounded
  else .dispatched (sent runId appId commandId payload cancel)

/-- The identifiers and the payload field of a message pass the bounds but for empty texts. -/
theorem isBounded_received (sendable : Sendable runId appId commandId payload)
    (cancel : Bool) (chunkIndex : Nat) :
    commandIsBounded (received runId appId commandId payload cancel chunkIndex).appId
        (received runId appId commandId payload cancel chunkIndex).commandId
        (received runId appId commandId payload cancel chunkIndex).payloadJson =
      !((ofBytes appId).isEmpty || (ofBytes commandId).isEmpty) := by
  have cut (buffer : List UInt8) : (ofBytes buffer).length ≤ buffer.length :=
    (List.takeWhile_prefix _).length_le
  have app : (ofBytes appId).length < 65 :=
    Nat.lt_of_le_of_lt (cut appId) (Nat.lt_succ_of_le sendable.appId.2)
  have com : (ofBytes commandId).length < 65 :=
    Nat.lt_of_le_of_lt (cut commandId) (Nat.lt_succ_of_le sendable.commandId.2)
  have json : (received runId appId commandId payload cancel chunkIndex).payloadJson.length <
      4097 := by
    refine Nat.lt_succ_of_le (Nat.le_trans (cut _) ?_)
    exact Nat.le_trans (length_payloadJson_le chunkIndex) sendable.payload.1
  simp only [commandIsBounded, json, decide_true, Bool.and_true]
  simp [received, app, com]

/-- What the device does with a chunk in its turn. -/
theorem process_chunk (cancel : Bool) (sendable : Sendable runId appId commandId payload)
    (nonempty : payload ≠ []) (within : chunkIndex < Slices.count appChunkBytes payload.length)
    (subscribed : rpcApp.subscribed = true)
    (ready : chunkIndex = 0 ∨ Collecting rpcApp runId appId commandId payload chunkIndex) :
    ∃ collected : RpcPoisonApp,
      (chunkIndex + 1 = Slices.count appChunkBytes payload.length ∨
        Collecting collected runId appId commandId payload (chunkIndex + 1)) ∧
      rpcApp.commandProcess
          ⟨false, true, received runId appId commandId payload cancel chunkIndex⟩ =
        (if chunkIndex + 1 = Slices.count appChunkBytes payload.length then
          finished runId appId commandId payload cancel else .stored, collected) := by
  obtain ⟨collected, collecting, stored⟩ :=
    collect_chunk cancel sendable nonempty within subscribed ready
  by_cases last : chunkIndex + 1 = Slices.count appChunkBytes payload.length
  · rw [if_pos last] at stored
    refine ⟨collected.resetCommand, .inl last, ?_⟩
    have whole : collected.payloadJson = payload := by
      rw [collecting.collected, last]
      exact Slices.take_count appChunkBytes_pos payload
    have bounded := isBounded_received sendable cancel chunkIndex
    rw [received_chunk nonempty] at stored bounded ⊢
    have counted := Nat.ne_of_gt (Nat.zero_lt_of_lt within)
    simp only [commandProcess, subscribed, Bool.not_true, Bool.or_self, Bool.false_eq_true,
      ↓reduceIte, stored, bounded, counted, last, finished, whole, sent]
    cases (ofBytes appId).isEmpty || (ofBytes commandId).isEmpty <;> rfl
  · rw [if_neg last] at stored
    refine ⟨collected, .inr collecting, ?_⟩
    simp [commandProcess, subscribed, stored, last]

/-- From any chunk on, the rest of the exchange stores every chunk and ends with the last. -/
theorem exchange_chunks (sendable : Sendable runId appId commandId payload) (cancel : Bool)
    (nonempty : payload ≠ []) (accepts : Bool) {rest : Nat} (chunkIndex : Nat)
    (total : chunkIndex + (rest + 1) = Slices.count appChunkBytes payload.length)
    (subscribed : rpcApp.subscribed = true)
    (ready : chunkIndex = 0 ∨ Collecting rpcApp runId appId commandId payload chunkIndex) :
    exchange accepts ((List.range' chunkIndex (rest + 1)).map
        (commandMessage runId appId commandId payload cancel)) rpcApp =
      List.replicate rest .stored ++ [finished runId appId commandId payload cancel] := by
  induction rest generalizing chunkIndex rpcApp with
  | zero =>
    obtain ⟨collected, _, processed⟩ :=
      process_chunk cancel sendable nonempty (by omega) subscribed ready
    rw [if_pos (by omega)] at processed
    simp only [List.range'_succ, List.range'_zero, List.map_cons, List.map_nil, exchange,
      decode_commandMessage sendable, processed]
    unfold finished
    cases (ofBytes appId).isEmpty || (ofBytes commandId).isEmpty <;> simp
  | succ rest ih =>
    obtain ⟨collected, next, processed⟩ :=
      process_chunk cancel sendable nonempty (by omega) subscribed ready
    rw [if_neg (by omega)] at processed
    have collecting := next.resolve_left (by omega)
    have later := ih (chunkIndex + 1) (by omega)
      collecting.subscribed (.inr collecting)
    rw [List.range'_succ, List.map_cons]
    simp only [exchange, decode_commandMessage sendable, processed, later]
    rfl

/-! ## A command without payload -/

/-- What the device does with the one message of a command without payload. -/
theorem exchange_empty (sendable : Sendable runId appId commandId [])
    (subscribed : rpcApp.subscribed = true) :
    exchange accepts [commandMessage runId appId commandId [] cancel 0] rpcApp =
      [if rpcApp.receivingCommand then .rejected
        else finished runId appId commandId [] cancel] := by
  have bounded := isBounded_received sendable cancel 0
  simp only [exchange, decode_commandMessage sendable]
  cases waiting : rpcApp.receivingCommand with
  | true => simp [commandProcess, subscribed, collectCommand, received, commandMessage, waiting]
  | false =>
    simp only [received, commandMessage, List.length_nil, ↓reduceIte] at bounded
    simp only [commandProcess, subscribed, collectCommand, received, commandMessage, waiting,
      bounded, finished, sent, List.length_nil, ↓reduceIte, Bool.not_true, Bool.or_self,
      Bool.false_eq_true, ne_eq, not_true_eq_false, or_self]
    cases (ofBytes appId).isEmpty || (ofBytes commandId).isEmpty <;> simp

/-! ## The delivery -/

theorem begin_subscribed (rpcApp : RpcPoisonApp) (input : AppCommand) :
    (rpcApp.begin input).subscribed = rpcApp.subscribed := by
  simp only [begin]
  split <;> rfl

theorem collectCommand_subscribed (rpcApp : RpcPoisonApp) (input : AppCommand) :
    (rpcApp.collectCommand input).2.subscribed = rpcApp.subscribed := by
  simp only [collectCommand]
  split
  · split <;> rfl
  split
  · rfl
  split
  · exact begin_subscribed rpcApp input
  split
  · exact begin_subscribed rpcApp input
  · exact begin_subscribed rpcApp input

/-- The subscription is settled when the session starts. -/
theorem commandProcess_subscribed (rpcApp : RpcPoisonApp) (request : Request) :
    (rpcApp.commandProcess request).2.subscribed = rpcApp.subscribed := by
  have collected := collectCommand_subscribed rpcApp request.input
  simp only [commandProcess]
  split
  · rfl
  · generalize rpcApp.collectCommand request.input = result at collected
    obtain ⟨answer, after⟩ := result
    cases answer with
    | rejected => exact collected
    | stored => exact collected
    | complete =>
      simp only
      split
      · exact collected
      · exact collected

theorem after_subscribed (rpcApp : RpcPoisonApp) (history : List Request) :
    (rpcApp.after history).subscribed = rpcApp.subscribed := by
  induction history generalizing rpcApp with
  | nil => rfl
  | cons request history ih =>
    exact (ih _).trans (commandProcess_subscribed rpcApp request)

/-- Without a subscription every message is refused. -/
theorem exchange_unsubscribed (subscribed : rpcApp.subscribed = false)
    (sendable : Sendable runId appId commandId payload) {rest : List AppCommandMessage} :
    exchange accepts (commandMessage runId appId commandId payload cancel chunkIndex :: rest)
      rpcApp = [.rejected] := by
  simp [exchange, decode_commandMessage sendable, commandProcess, subscribed]

/-- A complete command is the one that was sent where its identifiers hold no zero byte. -/
theorem finished_delivered_iff (sendable : Sendable runId appId commandId payload)
    (cancel : Bool) (messages : Nat) :
    Delivered runId appId commandId payload cancel messages
        (List.replicate (messages - 1) .stored ++
          [finished runId appId commandId payload cancel]) ↔
      (0 : UInt8) ∉ appId ∧ (0 : UInt8) ∉ runId ∧ (0 : UInt8) ∉ commandId := by
  constructor
  · rintro ⟨command, outcomes, _, app, run, com, _, _⟩
    have last := List.append_cancel_left outcomes
    simp only [List.cons.injEq, and_true] at last
    unfold finished at last
    split at last
    · cases last
    · cases last
      exact ⟨ofBytes_bytes_iff.mp app, ofBytes_bytes_iff.mp run, ofBytes_bytes_iff.mp com⟩
  · rintro ⟨app, run, com⟩
    refine ⟨sent runId appId commandId payload cancel, ?_, rfl, ofBytes_bytes app,
      ofBytes_bytes run, ofBytes_bytes com,
      ofBytes_bytes sendable.payload.2, rfl⟩
    simp [finished, isEmpty, ofBytes_bytes app, ofBytes_bytes com,
      sendable.appId.1, sendable.commandId.1]

/-- **Delivery of commands.** After any history of command messages, a command that the client
sends is accepted message by message and dispatched once as it was sent, if and only if the
session holds the subscription, the identifiers hold no zero byte, and the command has payload
or the collector waits for nothing. -/
theorem command_delivered_iff (subscribed accepts : Bool) (history : List Request)
    (runId appId commandId payload : List UInt8) (cancel : Bool)
    (messages : List AppCommandMessage)
    (sending : command runId appId commandId payload cancel = some messages) :
    Delivered runId appId commandId payload cancel messages.length
        (exchange accepts messages ((alloc subscribed).after history)) ↔
      subscribed = true ∧
        ((0 : UInt8) ∉ appId ∧ (0 : UInt8) ∉ runId ∧ (0 : UInt8) ∉ commandId) ∧
        (payload ≠ [] ∨ ((alloc subscribed).after history).receivingCommand = false) := by
  obtain ⟨sendable, rfl⟩ := command_eq_some.mp sending
  have kept : ((alloc subscribed).after history).subscribed = subscribed :=
    after_subscribed _ history
  generalize (alloc subscribed).after history = rpcApp at kept ⊢
  rw [List.length_map, List.length_range]
  cases subscribed with
  | false =>
    have positive : sends payload = (sends payload - 1) + 1 := by
      have := Nat.le_max_left 1
        (if payload.length = 0 then 0 else Slices.count appChunkBytes payload.length)
      simp only [sends] at *
      omega
    rw [positive, List.range_succ_eq_map, List.map_cons, exchange_unsubscribed kept sendable]
    refine iff_of_false ?_ (by simp)
    rintro ⟨command, outcomes, _⟩
    have last := congrArg List.getLast? outcomes
    simp at last
  | true =>
    by_cases empty : payload = []
    · subst empty
      have one : sends [] = 1 := rfl
      rw [one, List.range_one, List.map_singleton, exchange_empty sendable kept]
      cases waiting : rpcApp.receivingCommand with
      | true =>
        refine iff_of_false ?_ (by simp)
        rintro ⟨command, outcomes, _⟩
        simp at outcomes
      | false =>
        have delivered := finished_delivered_iff sendable cancel 1
        simpa using delivered
    · have positive := List.length_pos_of_ne_nil empty
      have counted := Slices.count_pos appChunkBytes_pos positive
      have number : sends payload = Slices.count appChunkBytes payload.length := by
        rw [sends, if_neg (Nat.ne_of_gt positive)]
        exact Nat.max_eq_right counted
      have total : 0 + (sends payload - 1 + 1) = Slices.count appChunkBytes payload.length := by
        omega
      have exchanged := exchange_chunks sendable cancel empty accepts 0 total kept (.inl rfl)
      rw [Nat.sub_add_cancel (by omega), ← List.range_eq_range'] at exchanged
      rw [exchanged, finished_delivered_iff sendable cancel]
      simp [empty]

/-- The first of two chunks of a command whose second never comes. -/
def abandoned : Request :=
  ⟨false, true, received [114] [97] [49] (List.replicate 385 120) false 0⟩

set_option maxRecDepth 8000 in
theorem command_delivered_abandoned :
    Delivered [114] [97] [50] [123, 125] false 1
      (exchange true [commandMessage [114] [97] [50] [123, 125] false 0]
        ((alloc true).after [abandoned])) := by
  have sending : command [114] [97] [50] [123, 125] false =
      some [commandMessage [114] [97] [50] [123, 125] false 0] := by decide
  exact (command_delivered_iff true true [abandoned] [114] [97] [50] [123, 125] false _
    sending).mpr (by decide)

set_option maxRecDepth 8000 in
/-- After the abandoned command, one without payload is refused. -/
theorem empty_command_refused :
    command [114] [97] [50] [] true = some [commandMessage [114] [97] [50] [] true 0] ∧
      exchange true [commandMessage [114] [97] [50] [] true 0]
        ((alloc true).after [abandoned]) = [.rejected] ∧
      ¬ Delivered [114] [97] [50] [] true 1
        (exchange true [commandMessage [114] [97] [50] [] true 0]
          ((alloc true).after [abandoned])) := by
  have refused : exchange true [commandMessage [114] [97] [50] [] true 0]
      ((alloc true).after [abandoned]) = [.rejected] := by decide
  refine ⟨by decide, refused, ?_⟩
  rintro ⟨command, outcomes, _⟩
  rw [refused] at outcomes
  simp at outcomes

end RpcPoisonApp

end PoisonedOS.Apps
