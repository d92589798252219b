import PoisonedOS.Apps.EventClient

/-!
# Delivery of events

Each published event arrives as a series of messages whose parts, joined, are its texts. The
client decodes it to the event that was published, unless a text starts with a byte order
mark, which its decoder leaves out, or an identifier is longer than its field.
-/

namespace PoisonedOS.Apps

namespace StructuredAppClient

variable {decodeString : List UInt8 → List Char} {now : Nat → Nat}
  {message : Nat → AppEventMessage} {count : Nat}

/-- The messages of one event. -/
structure Series (decodeString : List UInt8 → List Char) (message : Nat → AppEventMessage)
    (count : Nat) : Prop where
  positive : 0 < count
  few : count ≤ maxAppChunks
  index : ∀ index, (message index).chunkIndex = index
  counted : ∀ index, (message index).chunkCount = count
  key : ∀ index, eventKey decodeString (message index) = eventKey decodeString (message 0)
  bounded : ∀ index, (message index).messageChunk.length ≤ appChunkBytes ∧
    (message index).schemaJsonChunk.length ≤ appChunkBytes ∧
    (message index).rowsJsonChunk.length ≤ appChunkBytes
  valid : ∀ index < count, chunkFieldsValid (message index) = true

/-- What the client keeps of a series after its first messages. -/
structure Joined (decodeString : List UInt8 → List Char) (message : Nat → AppEventMessage)
    (count : Nat) (pending : PendingEvent) (index : Nat) : Prop where
  key : pending.key = eventKey decodeString (message 0)
  counted : pending.count = count
  next : pending.next = index
  event : pending.event = message 0
  texts : pending.message.flatten =
    (List.range index).flatMap fun index => (message index).messageChunk
  schema : pending.schema.flatten =
    (List.range index).flatMap fun index => (message index).schemaJsonChunk
  rows : pending.rows.flatten =
    (List.range index).flatMap fun index => (message index).rowsJsonChunk

/-- Empty parts make no difference to the whole. -/
theorem flatten_addPart (parts : List (List UInt8)) (part : List UInt8) :
    (addPart parts part).flatten = parts.flatten ++ part := by
  rw [addPart]
  split
  · rename_i empty
    rw [List.eq_nil_of_length_eq_zero empty, List.append_nil]
  · rw [List.flatten_append, List.flatten_singleton]

variable {index : Nat}

theorem Joined.add {pending : PendingEvent}
    (joined : Joined decodeString message count pending index) :
    Joined decodeString message count (PendingEvent.add pending (message index))
      (index + 1) := by
  refine ⟨joined.key, joined.counted, ?_, joined.event, ?_, ?_, ?_⟩
  · simp only [PendingEvent.add, joined.next]
  · simp only [PendingEvent.add, flatten_addPart, joined.texts, List.range_succ,
      List.flatMap_append, List.flatMap_singleton]
  · simp only [PendingEvent.add, flatten_addPart, joined.schema, List.range_succ,
      List.flatMap_append, List.flatMap_singleton]
  · simp only [PendingEvent.add, flatten_addPart, joined.rows, List.range_succ,
      List.flatMap_append, List.flatMap_singleton]

def complete (decodeString : List UInt8 → List Char) (now : Nat → Nat)
    (message : Nat → AppEventMessage) (count : Nat) (client : StructuredAppClient) :
    Option StructuredAppClient := do
  let texts ← decodeText ((List.range count).flatMap fun index => (message index).messageChunk)
  let schema ← decodeText
    ((List.range count).flatMap fun index => (message index).schemaJsonChunk)
  let rows ← decodeText ((List.range count).flatMap fun index => (message index).rowsJsonChunk)
  let event ← decodeEvent decodeString (now client.events.length) (message 0)
    (some ⟨texts, schema, rows⟩)
  { client with pendingEvent := none }.event event

/-- A message in its turn is added, and the last completes the event. -/
theorem notification_next (series : Series decodeString message count) (now : Nat → Nat)
    (client : StructuredAppClient) (within : index < count)
    (ready : index = 0 ∨ ∃ pending, client.pendingEvent = some pending ∧
      Joined decodeString message count pending index) :
    ∃ pending, Joined decodeString message count pending (index + 1) ∧
      notification decodeString now client (message index) =
        if index + 1 = count then complete decodeString now message count client
        else some { client with pendingEvent := some pending } := by
  have started : ∃ pending, (if (message index).chunkIndex = 0 then
      some ⟨eventKey decodeString (message index), (message index).chunkCount, 0, message index,
        [], [], []⟩ else client.pendingEvent) = some pending ∧
      Joined decodeString message count pending index := by
    rw [series.index, series.counted, series.key]
    cases ready with
    | inl first =>
      subst first
      exact ⟨_, if_pos rfl, rfl, rfl, rfl, rfl, rfl, rfl, rfl⟩
    | inr later =>
      obtain ⟨pending, stored, joined⟩ := later
      by_cases first : index = 0
      · subst first
        exact ⟨_, if_pos rfl, rfl, rfl, rfl, rfl, rfl, rfl, rfl⟩
      · exact ⟨pending, by rw [if_neg first, stored], joined⟩
  obtain ⟨pending, stored, joined⟩ := started
  have added := joined.add
  refine ⟨_, added, ?_⟩
  have sizes := series.bounded index
  have few := series.few
  rw [notification, if_neg (by rw [series.counted]; omega),
    if_neg (by rw [series.counted, series.index]; omega),
    if_neg (by simp [series.valid index within])]
  simp only [stored]
  rw [if_neg (by
    simp [joined.key, joined.counted, joined.next, series.key index, series.counted,
      series.index])]
  rw [added.next, added.counted]
  by_cases last : index + 1 = count
  · rw [if_pos last, if_pos last, joinParts, joinParts, joinParts, added.texts, added.schema,
      added.rows, added.event, last]
    rfl
  · rw [if_neg last, if_neg last]

theorem foldlM_series (series : Series decodeString message count) (now : Nat → Nat)
    (client : StructuredAppClient) {rest : Nat} (index : Nat)
    {pending : Option PendingEvent} (total : index + (rest + 1) = count)
    (ready : index = 0 ∨ ∃ stored, pending = some stored ∧
      Joined decodeString message count stored index) :
    ((List.range' index (rest + 1)).map message).foldlM (notification decodeString now)
        { client with pendingEvent := pending } =
      complete decodeString now message count client := by
  induction rest generalizing index pending with
  | zero =>
    obtain ⟨_, _, processed⟩ := notification_next series now
      { client with pendingEvent := pending } (by omega) ready
    rw [if_pos (by omega)] at processed
    simp only [List.range'_succ, List.range'_zero, List.map_cons, List.map_nil, List.foldlM_cons,
      List.foldlM_nil, processed]
    exact bind_pure _
  | succ rest ih =>
    obtain ⟨stored, joined, processed⟩ := notification_next series now
      { client with pendingEvent := pending } (by omega) ready
    rw [if_neg (by omega)] at processed
    rw [List.range'_succ, List.map_cons, List.foldlM_cons, processed]
    exact ih (index + 1) (by omega) (.inr ⟨stored, rfl, joined⟩)

/-- A series in full is decoded as one event. -/
theorem foldlM_whole (series : Series decodeString message count) (now : Nat → Nat)
    (client : StructuredAppClient) :
    ((List.range count).map message).foldlM (notification decodeString now) client =
      complete decodeString now message count client := by
  have total : 0 + (count - 1 + 1) = count := by
    have := series.positive
    omega
  have whole := foldlM_series series now client 0 total
    (.inl rfl : 0 = 0 ∨ ∃ stored, client.pendingEvent = some stored ∧
      Joined decodeString message count stored 0)
  rw [Nat.sub_add_cancel series.positive, ← List.range_eq_range'] at whole
  exact whole

/-! ## The messages of an event -/

variable {value : CString}

theorem eventChunkCount_pos (nonempty : value.isEmpty = false) :
    0 < eventChunkCount value.length := by
  refine Slices.count_pos (by decide) (List.length_pos_of_ne_nil ?_)
  intro empty
  rw [(CString.isEmpty_iff value).mpr empty] at nonempty
  cases nonempty

theorem eventChunkCount_le {limit : Nat} (short : value.length < limit + 1) :
    eventChunkCount value.length ≤ eventChunkCount limit :=
  Slices.count_le_count (Nat.le_of_lt_succ short)

theorem copyChunk_ne (within : index < eventChunkCount value.length) :
    (copyChunk value index).length ≠ 0 := by
  intro empty
  exact Slices.slice_ne_nil (by decide) within (List.eq_nil_of_length_eq_zero empty)

theorem length_copyChunk_le (value : CString) (index : Nat) :
    (copyChunk value index).length ≤ appChunkBytes := Slices.length_slice_le _ _ _

/-- The chunks of a text are the text. -/
theorem join_copyChunk (value : CString) :
    (List.range (eventChunkCount value.length)).flatMap (copyChunk value) = value.bytes :=
  Slices.join_count (by decide) value.bytes

theorem boundedText_iff {capacity : Nat} :
    boundedText value capacity = true ↔ value.isEmpty = false ∧ value.length < capacity := by
  simp [boundedText]

/-- The messages of an event share everything but their chunks. -/
theorem eventMessage_key (decodeString : List UInt8 → List Char) (event : PoisonAppEvent)
    (index : Nat) : eventKey decodeString (eventMessage event index) =
      eventKey decodeString (eventMessage event 0) := by
  obtain ⟨appId, runId, eventId, sequence, kind⟩ := event
  cases kind with
  | table schemaJson rowsJson =>
    simp only [eventMessage]
    split <;> split <;> rfl
  | log => rfl
  | progress => rfl
  | form => rfl
  | artifact => rfl
  | result => rfl

theorem eventMessage_index (event : PoisonAppEvent) (index : Nat) :
    (eventMessage event index).chunkIndex = index := by
  obtain ⟨appId, runId, eventId, sequence, kind⟩ := event
  cases kind with
  | table schemaJson rowsJson =>
    simp only [eventMessage]
    split <;> rfl
  | log => rfl
  | progress => rfl
  | form => rfl
  | artifact => rfl
  | result => rfl

theorem eventMessage_count (event : PoisonAppEvent) (index : Nat) :
    (eventMessage event index).chunkCount = eventMessages event.kind := by
  obtain ⟨appId, runId, eventId, sequence, kind⟩ := event
  cases kind with
  | table schemaJson rowsJson =>
    simp only [eventMessage]
    split <;> rfl
  | log => rfl
  | progress => rfl
  | form => rfl
  | artifact => rfl
  | result => rfl

theorem eventMessage_bounded (event : PoisonAppEvent) (index : Nat) :
    (eventMessage event index).messageChunk.length ≤ appChunkBytes ∧
      (eventMessage event index).schemaJsonChunk.length ≤ appChunkBytes ∧
      (eventMessage event index).rowsJsonChunk.length ≤ appChunkBytes := by
  have chunked := fun value => length_copyChunk_le value index
  obtain ⟨appId, runId, eventId, sequence, kind⟩ := event
  cases kind with
  | log level message => exact ⟨chunked message, Nat.zero_le _, Nat.zero_le _⟩
  | progress => exact ⟨Nat.zero_le _, Nat.zero_le _, Nat.zero_le _⟩
  | form schemaJson => exact ⟨Nat.zero_le _, chunked schemaJson, Nat.zero_le _⟩
  | table schemaJson rowsJson =>
    simp only [eventMessage]
    split
    · exact ⟨Nat.zero_le _, chunked schemaJson, Nat.zero_le _⟩
    · exact ⟨Nat.zero_le _, Nat.zero_le _, length_copyChunk_le _ _⟩
  | artifact => exact ⟨Nat.zero_le _, Nat.zero_le _, Nat.zero_le _⟩
  | result success message => exact ⟨chunked message, Nat.zero_le _, Nat.zero_le _⟩

variable {event : PoisonAppEvent}

/-- An event has some messages, no more than the client takes. -/
theorem eventMessages_bounds (typed : eventIsTyped event = true) :
    0 < eventMessages event.kind ∧ eventMessages event.kind ≤ maxAppChunks := by
  obtain ⟨appId, runId, eventId, sequence, kind⟩ := event
  cases kind with
  | log level message =>
    simp only [eventIsTyped, Bool.and_eq_true, boundedText_iff] at typed
    have counted : eventChunkCount message.length ≤ eventChunkCount 1024 :=
      eventChunkCount_le typed.2.2.2
    exact ⟨eventChunkCount_pos typed.2.2.1, Nat.le_trans counted (by decide)⟩
  | progress percent label => exact ⟨Nat.one_pos, by change 1 ≤ 33; omega⟩
  | form schemaJson =>
    simp only [eventIsTyped, Bool.and_eq_true, boundedText_iff] at typed
    have counted := eventChunkCount_le typed.2.2
    exact ⟨eventChunkCount_pos typed.2.1, Nat.le_trans counted (by decide)⟩
  | table schemaJson rowsJson =>
    simp only [eventIsTyped, Bool.and_eq_true, boundedText_iff] at typed
    have schema := eventChunkCount_pos typed.2.1.1
    have first := eventChunkCount_le typed.2.1.2
    have second := eventChunkCount_le typed.2.2.2
    have total : eventChunkCount 4096 + eventChunkCount 8192 = maxAppChunks := by decide
    simp only [eventMessages]
    omega
  | artifact name path sha256 size => exact ⟨Nat.one_pos, by change 1 ≤ 33; omega⟩
  | result success message =>
    simp only [eventIsTyped, Bool.and_eq_true, boundedText_iff] at typed
    have counted : eventChunkCount message.length ≤ eventChunkCount 1024 :=
      eventChunkCount_le typed.2.2
    exact ⟨eventChunkCount_pos typed.2.1, Nat.le_trans counted (by decide)⟩

theorem eventMessage_valid (within : index < eventMessages event.kind) :
    chunkFieldsValid (eventMessage event index) = true := by
  obtain ⟨appId, runId, eventId, sequence, kind⟩ := event
  cases kind with
  | log level message => simp [chunkFieldsValid, eventMessage, eventBase, copyChunk_ne within]
  | progress =>
    have first : index = 0 := Nat.lt_one_iff.mp within
    simp [chunkFieldsValid, eventMessage, eventBase, eventMessages, first]
  | form schemaJson => simp [chunkFieldsValid, eventMessage, eventBase, copyChunk_ne within]
  | table schemaJson rowsJson =>
    simp only [eventMessages] at within
    simp only [eventMessage]
    split
    · rename_i front
      simp [chunkFieldsValid, eventBase, copyChunk_ne front]
    · rename_i back
      have rest : index - eventChunkCount schemaJson.length <
          eventChunkCount rowsJson.length := by omega
      simp [chunkFieldsValid, eventBase, copyChunk_ne rest]
  | artifact =>
    have first : index = 0 := Nat.lt_one_iff.mp within
    simp [chunkFieldsValid, eventMessage, eventBase, eventMessages, first]
  | result success message =>
    simp [chunkFieldsValid, eventMessage, eventBase, copyChunk_ne within]

/-- A typed event is sent as a series. -/
theorem event_series (decodeString : List UInt8 → List Char) (typed : eventIsTyped event = true) :
    Series decodeString (eventMessage event) (eventMessages event.kind) where
  positive := (eventMessages_bounds typed).1
  few := (eventMessages_bounds typed).2
  index := eventMessage_index event
  counted := eventMessage_count event
  key := eventMessage_key decodeString event
  bounded := eventMessage_bounded event
  valid := fun _ within => eventMessage_valid within

/-! ## Its texts -/

/-- A text in UTF-8. -/
def Encoded (value : CString) : Prop := ∃ text, value.bytes = Unicode.utf8 text

theorem Encoded.bytes (encoded : Encoded value) :
    value.bytes = Unicode.utf8 (textOf value) := by
  obtain ⟨text, same⟩ := encoded
  rw [textOf, same, Unicode.decodeUtf8_utf8, Option.getD_some]

/-- The client's decoder takes a byte order mark off a text. -/
theorem Encoded.decodeText (encoded : Encoded value) :
    decodeText value.bytes = some (Unicode.dropMark (textOf value)) := by
  rw [Apps.decodeText, encoded.bytes, Unicode.decodeUtf8_utf8, Option.map_some]

theorem decodeText_nil : decodeText [] = some [] :=
  congrArg (Option.map Unicode.dropMark) (Unicode.decodeUtf8_utf8 [])

theorem Encoded.byteLength (encoded : Encoded value) :
    byteLength (textOf value) = value.length := by
  rw [Apps.byteLength, ← encoded.bytes, CString.length]

theorem Encoded.ne_nil (encoded : Encoded value) (nonempty : value.isEmpty = false) :
    textOf value ≠ [] := by
  intro empty
  have bytes := encoded.bytes
  rw [empty] at bytes
  rw [(CString.isEmpty_iff value).mpr bytes] at nonempty
  cases nonempty

theorem byteLength_dropMark_le (text : List Char) :
    byteLength (Unicode.dropMark text) ≤ byteLength text := by
  cases text with
  | nil => exact Nat.le_refl _
  | cons character text =>
    simp only [Unicode.dropMark]
    split
    · simp only [byteLength, Unicode.utf8_cons, List.length_append]
      exact Nat.le_add_left _ _
    · exact Nat.le_refl _

/-- An identifier of the device is one for the client where it fits its field. -/
theorem Encoded.identityLength (encoded : Encoded value) (nonempty : value.isEmpty = false)
    (short : value.length ≤ 64) :
    identityLength (textOf value) = true := by
  simp only [Apps.identityLength, encoded.byteLength, short, decide_true, Bool.and_true]
  simpa using encoded.ne_nil nonempty

/-! ## Digests -/

/-- An ASCII byte as a code point. -/
def asciiChar (byte : UInt8) : Char := Char.ofNat byte.toNat

theorem utf8EncodeChar_ascii (byte : UInt8) (ascii : byte.toNat < 128) :
    String.utf8EncodeChar (asciiChar byte) = [byte] := by
  have all : ∀ value : Fin 128,
      String.utf8EncodeChar (Char.ofNat value) = [UInt8.ofNat value] := by decide
  have encoded := all ⟨byte.toNat, ascii⟩
  simp only [UInt8.ofNat_toNat] at encoded
  exact encoded

theorem utf8_ascii {bytes : List UInt8} (ascii : ∀ byte ∈ bytes, byte.toNat < 128) :
    Unicode.utf8 (bytes.map asciiChar) = bytes := by
  induction bytes with
  | nil => rfl
  | cons byte bytes ih =>
    rw [List.map_cons, Unicode.utf8_cons, utf8EncodeChar_ascii byte (ascii byte (by simp)),
      ih fun later inside => ascii later (List.mem_cons_of_mem _ inside)]
    rfl

theorem isLowerHex_bound {byte : UInt8} (digit : isLowerHex byte = true) :
    byte.toNat < 128 := by
  simp only [isLowerHex, isDigit, Bool.or_eq_true, Bool.and_eq_true, decide_eq_true_eq,
    UInt8.le_iff_toNat_le] at digit
  have nine : (57 : UInt8).toNat = 57 := rfl
  have six : (102 : UInt8).toNat = 102 := rfl
  omega

theorem asciiChar_digit {byte : UInt8} (digit : isLowerHex byte = true) :
    (('0' ≤ asciiChar byte && asciiChar byte ≤ '9') ||
      ('a' ≤ asciiChar byte && asciiChar byte ≤ 'f')) = true := by
  have bound := isLowerHex_bound digit
  have all : ∀ value : Fin 128, isLowerHex (UInt8.ofNat value) = true →
      (('0' ≤ Char.ofNat value && Char.ofNat value ≤ '9') ||
        ('a' ≤ Char.ofNat value && Char.ofNat value ≤ 'f')) = true := by decide
  refine all ⟨byte.toNat, bound⟩ ?_
  simpa only [UInt8.ofNat_toNat] using digit

/-- A digest of the device is one for the client. -/
theorem isDigestId_textOf (valid : digestIsValid value = true) :
    isDigestId ("sha256:".toList ++ textOf value) = true := by
  simp only [digestIsValid, Bool.and_eq_true, beq_iff_eq, List.all_eq_true] at valid
  obtain ⟨size, digits⟩ := valid
  have text : textOf value = value.bytes.map asciiChar := by
    have encoded := utf8_ascii fun byte inside => isLowerHex_bound (digits byte inside)
    rw [textOf]
    conv => lhs; rw [← encoded, Unicode.decodeUtf8_utf8, Option.getD_some]
  have front : ("sha256:".toList ++ textOf value).drop 7 = textOf value := rfl
  simp only [isDigestId, front]
  simp only [text, Bool.and_eq_true, List.length_map, List.all_map, List.all_eq_true,
    Function.comp_apply]
  refine ⟨⟨rfl, beq_iff_eq.mpr size⟩, ?_⟩
  intro byte inside
  exact asciiChar_digit (digits byte inside)

/-! ## One event -/

def fieldTexts (event : PoisonAppEvent) : List CString :=
  [event.appId, event.runId, event.eventId] ++
    match event.kind with
    | .log level _ => [level]
    | .progress _ label => [label]
    | .form _ => []
    | .table _ _ => []
    | .artifact name _ sha256 _ => [name, sha256]
    | .result _ _ => []

/-- The texts of an event that are sent in chunks. -/
def chunkedTexts (event : PoisonAppEvent) : List CString :=
  match event.kind with
  | .log _ message => [message]
  | .progress _ _ => []
  | .form schemaJson => [schemaJson]
  | .table schemaJson rowsJson => [schemaJson, rowsJson]
  | .artifact _ _ _ _ => []
  | .result _ message => [message]

/-- An event in UTF-8 whose fields the protobuf library reads back. -/
structure Legible (decodeString : List UInt8 → List Char) (event : PoisonAppEvent) : Prop where
  encoded : ∀ text ∈ fieldTexts event ++ chunkedTexts event, Encoded text
  read : ∀ text ∈ fieldTexts event, decodeString text.bytes = textOf text

/-- What the client decodes: its decoder leaves out byte order marks. -/
def arrived (timeMs : Nat) (event : PoisonAppEvent) : AppEvent :=
  match event.kind with
  | .log _ message | .result _ message =>
    { shown timeMs event with message := Unicode.dropMark (textOf message) }
  | .form schemaJson =>
    { shown timeMs event with schemaJson := some (Unicode.dropMark (textOf schemaJson)) }
  | .table schemaJson rowsJson =>
    { shown timeMs event with
      schemaJson := some (Unicode.dropMark (textOf schemaJson))
      rowsJson := some (Unicode.dropMark (textOf rowsJson)) }
  | .progress _ _ | .artifact _ _ _ _ => shown timeMs event

/-- No text that is sent in chunks starts with a byte order mark. -/
def Unmarked (event : PoisonAppEvent) : Prop :=
  ∀ text ∈ chunkedTexts event, (textOf text).head? ≠ some Unicode.byteOrderMark

/-- The client decodes what was published where no chunked text starts with a mark. -/
theorem arrived_eq_shown {timeMs : Nat} :
    arrived timeMs event = shown timeMs event ↔ Unmarked event := by
  obtain ⟨appId, runId, eventId, sequence, kind⟩ := event
  cases kind with
  | log level message => simp [arrived, shown, Unmarked, chunkedTexts, Unicode.dropMark_eq_self]
  | progress percent label => simp [arrived, Unmarked, chunkedTexts]
  | form schemaJson => simp [arrived, shown, Unmarked, chunkedTexts, Unicode.dropMark_eq_self]
  | table schemaJson rowsJson =>
    simp [arrived, shown, Unmarked, chunkedTexts, Unicode.dropMark_eq_self]
  | artifact name path sha256 size => simp [arrived, Unmarked, chunkedTexts]
  | result success message =>
    simp [arrived, shown, Unmarked, chunkedTexts, Unicode.dropMark_eq_self]

/-- The identifiers of an event are texts and fit their fields. -/
structure Addressed (event : PoisonAppEvent) : Prop where
  appId : event.appId.isEmpty = false ∧ event.appId.length ≤ 64
  runId : event.runId.isEmpty = false ∧ event.runId.length ≤ 64
  eventId : event.eventId.isEmpty = false ∧ event.eventId.length ≤ 64

/-- A series without parts of one sort joins to nothing there. -/
theorem flatMap_empty (positions : List Nat) {part : Nat → List UInt8}
    (empty : ∀ index ∈ positions, part index = []) : positions.flatMap part = [] :=
  List.flatMap_eq_nil_iff.mpr empty

theorem table_chunks (event : PoisonAppEvent) {schemaJson rowsJson : CString}
    (kind : event.kind = .table schemaJson rowsJson) (index : Nat) :
    (eventMessage event index).messageChunk = [] ∧
      (eventMessage event index).schemaJsonChunk =
        (if index < eventChunkCount schemaJson.length then copyChunk schemaJson index else []) ∧
      (eventMessage event index).rowsJsonChunk =
        (if index < eventChunkCount schemaJson.length then []
          else copyChunk rowsJson (index - eventChunkCount schemaJson.length)) := by
  simp only [eventMessage, kind]
  split
  · exact ⟨rfl, rfl, rfl⟩
  · exact ⟨rfl, rfl, rfl⟩

theorem join_table_schema (event : PoisonAppEvent) {schemaJson rowsJson : CString}
    (kind : event.kind = .table schemaJson rowsJson) :
    ((List.range (eventMessages event.kind)).flatMap
      fun index => (eventMessage event index).schemaJsonChunk) = schemaJson.bytes := by
  simp only [kind, eventMessages, List.range_add, List.flatMap_append, List.flatMap_map,
    (table_chunks event kind _).2.1]
  rw [flatMap_empty (List.range (eventChunkCount rowsJson.length))]
  · rw [List.append_nil, ← join_copyChunk schemaJson]
    refine List.flatMap_congr ?_
    intro index inside
    exact if_pos (List.mem_range.mp inside)
  · intro index _
    exact if_neg (by omega)

theorem join_table_rows (event : PoisonAppEvent) {schemaJson rowsJson : CString}
    (kind : event.kind = .table schemaJson rowsJson) :
    ((List.range (eventMessages event.kind)).flatMap
      fun index => (eventMessage event index).rowsJsonChunk) = rowsJson.bytes := by
  simp only [kind, eventMessages, List.range_add, List.flatMap_append, List.flatMap_map,
    (table_chunks event kind _).2.2]
  rw [flatMap_empty (List.range (eventChunkCount schemaJson.length))]
  · rw [List.nil_append, ← join_copyChunk rowsJson]
    refine List.flatMap_congr ?_
    intro index _
    rw [if_neg (by omega), Nat.add_sub_cancel_left]
  · intro index inside
    exact if_pos (List.mem_range.mp inside)

/-- The identifiers pass the checks of `decodeEvent`. -/
theorem Addressed.identities {decodeString : List UInt8 → List Char} (addressed : Addressed event)
    (legible : Legible decodeString event) :
    (Apps.identityLength (textOf event.appId) && Apps.identityLength (textOf event.runId) &&
      Apps.identityLength (textOf event.eventId)) = true := by
  have encoded := legible.encoded
  rw [(encoded event.appId (by simp [fieldTexts])).identityLength addressed.appId.1
      addressed.appId.2,
    (encoded event.runId (by simp [fieldTexts])).identityLength addressed.runId.1
      addressed.runId.2,
    (encoded event.eventId (by simp [fieldTexts])).identityLength addressed.eventId.1
      addressed.eventId.2]
  rfl

theorem complete_event {decodeString : List UInt8 → List Char} (typed : eventIsTyped event = true)
    (legible : Legible decodeString event) (addressed : Addressed event) (now : Nat → Nat)
    (client : StructuredAppClient) :
    complete decodeString now (eventMessage event) (eventMessages event.kind) client =
      { client with pendingEvent := none }.event (arrived (now client.events.length) event) := by
  have identities := addressed.identities legible
  have readApp := legible.read event.appId (by simp [fieldTexts])
  have readRun := legible.read event.runId (by simp [fieldTexts])
  have readEvent := legible.read event.eventId (by simp [fieldTexts])
  have nothing (positions : List Nat) : (positions.flatMap fun _ => ([] : List UInt8)) = [] :=
    flatMap_empty positions fun _ _ => rfl
  obtain ⟨appId, runId, eventId, sequence, kind⟩ := event
  simp only [Bool.and_eq_true] at identities readApp readRun readEvent
  obtain ⟨⟨appOk, runOk⟩, eventOk⟩ := identities
  cases kind with
  | log level message =>
    have joined := join_copyChunk message
    have decoded := (legible.encoded message (by simp [fieldTexts, chunkedTexts])).decodeText
    have readLevel := legible.read level (by simp [fieldTexts])
    simp only [complete, eventMessage, eventMessages, eventBase, joined, nothing, decoded,
      decodeText_nil, decodeEvent, readApp, readRun, readEvent, appOk, runOk, eventOk, readLevel,
      Option.bind_eq_bind, Option.bind_some, arrived, shown]
    simp only [bne_self_eq_false, Bool.not_true, Bool.or_self, Bool.false_eq_true, ↓reduceIte,
      Option.bind_some]
  | progress percent label =>
    have readLabel := legible.read label (by simp [fieldTexts])
    simp only [complete, eventMessage, eventMessages, eventBase, nothing, decodeText_nil,
      decodeEvent, readApp, readRun, readEvent, appOk, runOk, eventOk, readLabel,
      Option.bind_eq_bind, Option.bind_some, arrived, shown]
    simp only [bne_self_eq_false, Bool.not_true, Bool.or_self, Bool.false_eq_true, ↓reduceIte,
      Option.bind_some]
  | form schemaJson =>
    have joined := join_copyChunk schemaJson
    have decoded := (legible.encoded schemaJson (by simp [fieldTexts, chunkedTexts])).decodeText
    simp only [complete, eventMessage, eventMessages, eventBase, joined, nothing, decoded,
      decodeText_nil, decodeEvent, readApp, readRun, readEvent, appOk, runOk, eventOk,
      Option.bind_eq_bind, Option.bind_some, arrived, shown]
    simp only [bne_self_eq_false, Bool.not_true, Bool.or_self, Bool.false_eq_true, ↓reduceIte,
      Option.bind_some]
  | table schemaJson rowsJson =>
    have joinedSchema := join_table_schema
      ⟨appId, runId, eventId, sequence, .table schemaJson rowsJson⟩ rfl
    have joinedRows := join_table_rows
      ⟨appId, runId, eventId, sequence, .table schemaJson rowsJson⟩ rfl
    have joinedMessage := flatMap_empty
      (List.range (eventMessages (.table schemaJson rowsJson)))
      (fun index _ => (table_chunks
        ⟨appId, runId, eventId, sequence, .table schemaJson rowsJson⟩ rfl index).1)
    have schema := (legible.encoded schemaJson (by simp [fieldTexts, chunkedTexts])).decodeText
    have rows := (legible.encoded rowsJson (by simp [fieldTexts, chunkedTexts])).decodeText
    simp only [complete, joinedSchema, joinedRows, joinedMessage, schema, rows, decodeText_nil,
      Option.bind_eq_bind, Option.bind_some]
    have first : 0 < eventChunkCount schemaJson.length := by
      simp only [eventIsTyped, Bool.and_eq_true, boundedText_iff] at typed
      exact eventChunkCount_pos typed.2.1.1
    simp only [eventMessage, eventBase, first, ↓reduceIte, decodeEvent, readApp, readRun,
      readEvent, appOk, runOk, eventOk, arrived, shown]
    simp only [bne_self_eq_false, Bool.not_true, Bool.or_self, Bool.false_eq_true, ↓reduceIte,
      Option.bind_some]
  | artifact name path sha256 size =>
    have readName := legible.read name (by simp [fieldTexts])
    have readDigest := legible.read sha256 (by simp [fieldTexts])
    simp only [complete, eventMessage, eventMessages, eventBase, nothing, decodeText_nil,
      decodeEvent, readApp, readRun, readEvent, appOk, runOk, eventOk, readName, readDigest,
      Option.bind_eq_bind, Option.bind_some, arrived, shown]
    simp only [bne_self_eq_false, Bool.not_true, Bool.or_self, Bool.false_eq_true, ↓reduceIte,
      Option.bind_some]
  | result success message =>
    have joined := join_copyChunk message
    have decoded := (legible.encoded message (by simp [fieldTexts, chunkedTexts])).decodeText
    simp only [complete, eventMessage, eventMessages, eventBase, joined, nothing, decoded,
      decodeText_nil, decodeEvent, readApp, readRun, readEvent, appOk, runOk, eventOk,
      Option.bind_eq_bind, Option.bind_some, arrived, shown]
    simp only [bne_self_eq_false, Bool.not_true, Bool.or_self, Bool.false_eq_true, ↓reduceIte,
      Option.bind_some]

/-! ## The run -/

/-- The identifiers of an event fit their fields. -/
def Short (event : PoisonAppEvent) : Prop :=
  event.appId.length ≤ 64 ∧ event.runId.length ≤ 64 ∧ event.eventId.length ≤ 64

instance (event : PoisonAppEvent) : Decidable (Short event) := inferInstanceAs (Decidable (_ ∧ _))

/-- A message carries the identifiers of its event. -/
theorem eventMessage_ids (event : PoisonAppEvent) (index : Nat) :
    (eventMessage event index).appId = event.appId ∧
      (eventMessage event index).runId = event.runId ∧
      (eventMessage event index).eventId = event.eventId := by
  obtain ⟨appId, runId, eventId, sequence, kind⟩ := event
  cases kind with
  | table schemaJson rowsJson =>
    simp only [eventMessage]
    split
    · exact ⟨rfl, rfl, rfl⟩
    · exact ⟨rfl, rfl, rfl⟩
  | log => exact ⟨rfl, rfl, rfl⟩
  | progress => exact ⟨rfl, rfl, rfl⟩
  | form => exact ⟨rfl, rfl, rfl⟩
  | artifact => exact ⟨rfl, rfl, rfl⟩
  | result => exact ⟨rfl, rfl, rfl⟩

/-- The limits of the service are within those of the fields. -/
theorem kindFits_eventMessage (typed : eventIsTyped event = true) (index : Nat) :
    kindFits (eventMessage event index).kind = true := by
  have cut : (CString.ofBytes []).length = 0 := rfl
  obtain ⟨appId, runId, eventId, sequence, kind⟩ := event
  cases kind with
  | log level message =>
    simp only [eventIsTyped, Bool.and_eq_true, boundedText_iff] at typed
    have short := Nat.le_of_lt_succ typed.2.1.2
    simp [eventMessage, eventBase, kindFits, cut, short]
  | progress percent label =>
    simp only [eventIsTyped, Bool.and_eq_true, boundedText_iff] at typed
    have short := Nat.le_of_lt_succ typed.2.2.2
    simp [eventMessage, eventBase, kindFits, short]
  | form schemaJson => simp [eventMessage, eventBase, kindFits, cut]
  | table schemaJson rowsJson =>
    simp only [eventMessage]
    split
    · simp [eventBase, kindFits, cut]
    · simp [eventBase, kindFits, cut]
  | artifact name path sha256 size =>
    simp only [eventIsTyped, artifactPathIsValid, digestIsValid, Bool.and_eq_true,
      boundedText_iff, beq_iff_eq] at typed
    have name := Nat.le_of_lt_succ typed.2.1.1.2
    have path := Nat.le_of_lt_succ typed.2.1.2.1.1.1.1.2
    have digest := Nat.le_of_eq typed.2.2.1
    simp [eventMessage, eventBase, kindFits, name, path, digest]
  | result success message => simp [eventMessage, eventBase, kindFits, cut]

theorem fits_eventMessage (typed : eventIsTyped event = true) (index : Nat) :
    (eventMessage event index).fits = true ↔ Short event := by
  obtain ⟨app, run, own⟩ := eventMessage_ids event index
  obtain ⟨texts, schema, rows⟩ := eventMessage_bounded event index
  simp only [AppEventMessage.fits, kindFits_eventMessage typed, texts, schema, rows, app, run,
    own, Bool.and_eq_true, decide_eq_true_eq, and_true, and_assoc, Short]

theorem fits_sendEvent (typed : eventIsTyped event = true) :
    (sendEvent event).all AppEventMessage.fits = true ↔ Short event := by
  have positive := (eventMessages_bounds typed).1
  simp only [sendEvent, List.all_map, List.all_eq_true, List.mem_range, Function.comp_apply,
    fits_eventMessage typed]
  exact ⟨fun all => all 0 positive, fun short _ _ => short⟩

/-- The client after the first events of a run. -/
structure Following (client : StructuredAppClient) (runId : CString) (received : Nat) :
    Prop where
  run : client.runId = textOf runId
  active : client.cancelled = false
  count : client.events.length = received
  last : ∀ previous, client.events.getLast? = some previous →
    previous.runId = textOf runId ∧ previous.sequence + 1 = received
  within : received ≤ sequenceValues

def continues (events : List AppEvent) (runId : List Char) (sequence : Nat) : Bool :=
  match events.getLast? with
  | none => sequence == 0
  | some previous => previous.runId == runId && sequence == previous.sequence + 1

/-- An event within every limit of `appendAppEvent`. -/
structure Admissible (event : AppEvent) : Prop where
  runId : identityLength event.runId = true
  eventId : identityLength event.eventId = true
  timeMs : event.timeMs ≤ maxSafeInteger
  message : byteLength event.message ≤ 1024
  percent : ∀ percent, event.progressPercent = some percent → percent ≤ 100
  schema : optionalWithin event.schemaJson 4096 = true
  rows : optionalWithin event.rowsJson 8192 = true
  artifacts : ∀ id ∈ event.artifactIds, isDigestId id = true

theorem Admissible.append {event : AppEvent} (admissible : Admissible event)
    (events : List AppEvent) :
    appendAppEvent events event =
      if continues events event.runId event.sequence then some (events ++ [event]) else none := by
  have percent : ¬ (event.progressPercent.any fun percent => decide (100 < percent)) = true := by
    intro beyond
    cases given : event.progressPercent with
    | none => simp [given] at beyond
    | some percent =>
      have most := admissible.percent percent given
      simp only [given, Option.any_some, decide_eq_true_eq] at beyond
      omega
  have artifacts : ¬ (event.artifactIds.any fun id => !isDigestId id) = true := by
    intro wrong
    obtain ⟨id, inside, bad⟩ := List.any_eq_true.mp wrong
    rw [admissible.artifacts id inside] at bad
    cases bad
  rw [appendAppEvent, if_neg (by
      simp [admissible.runId, Nat.not_lt.mpr admissible.timeMs,
        Nat.not_lt.mpr admissible.message]),
    if_neg (by simp [admissible.eventId]), if_neg percent,
    if_neg (by simp [admissible.schema, admissible.rows])]
  simp only [if_neg artifacts]
  change (if (!continues events event.runId event.sequence) = true then none else _) = _
  cases continues events event.runId event.sequence <;> rfl

/-- The event that arrives is within every limit. -/
theorem arrived_admissible {decodeString : List UInt8 → List Char}
    (typed : eventIsTyped event = true) (legible : Legible decodeString event)
    (addressed : Addressed event) {timeMs : Nat} (safe : timeMs ≤ maxSafeInteger) :
    Admissible (arrived timeMs event) := by
  have identities := addressed.identities legible
  simp only [Bool.and_eq_true] at identities
  obtain ⟨⟨_, runOk⟩, eventOk⟩ := identities
  have within (text : CString) (inside : text ∈ fieldTexts event ++ chunkedTexts event)
      (limit : Nat) (short : text.length ≤ limit) :
      byteLength (textOf text) ≤ limit ∧
        byteLength (Unicode.dropMark (textOf text)) ≤ limit := by
    rw [← (legible.encoded text inside).byteLength] at short
    exact ⟨short, Nat.le_trans (byteLength_dropMark_le _) short⟩
  have form : byteLength "Input requested".toList ≤ 1024 := by decide
  have table : byteLength "Table updated".toList ≤ 1024 := by decide
  obtain ⟨appId, runId, eventId, sequence, kind⟩ := event
  cases kind with
  | log level message =>
    simp only [eventIsTyped, Bool.and_eq_true, boundedText_iff] at typed
    have short := within message (by simp [fieldTexts, chunkedTexts]) 1024
      (Nat.le_of_lt_succ typed.2.2.2)
    exact ⟨runOk, eventOk, safe, short.2, nofun, rfl, rfl, nofun⟩
  | progress percent label =>
    simp only [eventIsTyped, Bool.and_eq_true, boundedText_iff, decide_eq_true_eq] at typed
    have short := within label (by simp [fieldTexts]) 1024 (by omega)
    refine ⟨runOk, eventOk, safe, short.1, ?_, rfl, rfl, nofun⟩
    rintro given ⟨⟩
    exact typed.2.1
  | form schemaJson =>
    simp only [eventIsTyped, Bool.and_eq_true, boundedText_iff] at typed
    have short := within schemaJson (by simp [fieldTexts, chunkedTexts]) 4096
      (Nat.le_of_lt_succ typed.2.2)
    exact ⟨runOk, eventOk, safe, form, nofun, decide_eq_true short.2, rfl, nofun⟩
  | table schemaJson rowsJson =>
    simp only [eventIsTyped, Bool.and_eq_true, boundedText_iff] at typed
    have schema := within schemaJson (by simp [fieldTexts, chunkedTexts]) 4096
      (Nat.le_of_lt_succ typed.2.1.2)
    have rows := within rowsJson (by simp [fieldTexts, chunkedTexts]) 8192
      (Nat.le_of_lt_succ typed.2.2.2)
    exact ⟨runOk, eventOk, safe, table, nofun, decide_eq_true schema.2, decide_eq_true rows.2,
      nofun⟩
  | artifact name path sha256 size =>
    simp only [eventIsTyped, Bool.and_eq_true, boundedText_iff] at typed
    have short := within name (by simp [fieldTexts]) 1024 (by omega)
    refine ⟨runOk, eventOk, safe, short.1, nofun, rfl, rfl, ?_⟩
    intro id inside
    rw [List.mem_singleton.mp inside]
    exact isDigestId_textOf typed.2.2
  | result success message =>
    simp only [eventIsTyped, Bool.and_eq_true, boundedText_iff] at typed
    have short := within message (by simp [fieldTexts, chunkedTexts]) 1024
      (Nat.le_of_lt_succ typed.2.2)
    exact ⟨runOk, eventOk, safe, short.2, nofun, rfl, rfl, nofun⟩

theorem arrived_place (timeMs : Nat) (event : PoisonAppEvent) :
    (arrived timeMs event).runId = textOf event.runId ∧
      (arrived timeMs event).sequence = event.sequence := by
  obtain ⟨appId, runId, eventId, sequence, kind⟩ := event
  cases kind with
  | log => exact ⟨rfl, rfl⟩
  | progress => exact ⟨rfl, rfl⟩
  | form => exact ⟨rfl, rfl⟩
  | table => exact ⟨rfl, rfl⟩
  | artifact => exact ⟨rfl, rfl⟩
  | result => exact ⟨rfl, rfl⟩

variable {client : StructuredAppClient} {received : Nat}

theorem Following.continues_iff {runId : CString} (following : Following client runId received)
    {sequence : Nat} (counted : sequence = received % sequenceValues) :
    continues client.events (textOf runId) sequence = true ↔ received < sequenceValues := by
  have within := following.within
  have values : sequenceValues = 18446744073709551616 := rfl
  cases last : client.events.getLast? with
  | none =>
    have empty : received = 0 := by
      rw [← following.count, List.getLast?_eq_none_iff.mp last]
      rfl
    rw [values] at counted within ⊢
    simp only [continues, last, beq_iff_eq]
    omega
  | some previous =>
    obtain ⟨run, place⟩ := following.last previous last
    rw [values] at counted within ⊢
    rw [continues, last]
    simp only [run, BEq.rfl, Bool.true_and, beq_iff_eq, place]
    omega

/-- **One event.** The client appends an event of its run where the identifiers fit their fields
and the sequence has not wrapped. -/
theorem receive_event {decodeString : List UInt8 → List Char} {now : Nat → Nat}
    (following : Following client event.runId received) (typed : eventIsTyped event = true)
    (legible : Legible decodeString event)
    (named : event.appId.isEmpty = false ∧ event.runId.isEmpty = false)
    (counted : event.sequence = received % sequenceValues) (safe : now received ≤ maxSafeInteger) :
    receive decodeString now client event =
      if Short event ∧ received < sequenceValues then
        some { client with
          events := client.events ++ [arrived (now received) event], pendingEvent := none }
      else none := by
  by_cases short : Short event
  · have own : event.eventId.isEmpty = false := by
      simp only [eventIsTyped, Bool.and_eq_true, boundedText_iff] at typed
      exact typed.1.1
    have addressed : Addressed event :=
      ⟨⟨named.1, short.1⟩, ⟨named.2, short.2.1⟩, ⟨own, short.2.2⟩⟩
    have admissible := arrived_admissible typed legible addressed safe
    obtain ⟨run, place⟩ := arrived_place (now received) event
    rw [receive, if_pos ((fits_sendEvent typed).mpr short), sendEvent,
      foldlM_whole (event_series decodeString typed), complete_event typed legible addressed,
      following.count]
    simp only [StructuredAppClient.event, following.active, following.run, run, bne_self_eq_false,
      Bool.or_self, Bool.false_eq_true, ↓reduceIte, admissible.append, place]
    by_cases within : received < sequenceValues
    · rw [if_pos ((following.continues_iff counted).mpr within), if_pos ⟨short, within⟩]
      rfl
    · rw [if_neg fun next => within ((following.continues_iff counted).mp next),
        if_neg fun both => within both.2]
      rfl
  · rw [receive, if_neg fun fits => short ((fits_sendEvent typed).mp fits),
      if_neg fun both => short both.1]

/-- `poison_app_publish_event` accepts a sequence of events. -/
def publishAll (run : PoisonAppRun) (events : List PoisonAppEvent) : Option PoisonAppRun :=
  events.foldlM publishEvent run

def receiveAll (decodeString : List UInt8 → List Char) (now : Nat → Nat)
    (client : StructuredAppClient) (events : List PoisonAppEvent) : Option StructuredAppClient :=
  events.foldlM (receive decodeString now) client

/-- What the service checks of an event it accepts. -/
theorem publishEvent_some {run after : PoisonAppRun}
    (accepted : publishEvent run event = some after) :
    eventIsTyped event = true ∧ event.appId = run.appId ∧ event.runId = run.runId ∧
      event.sequence = run.nextSequence ∧
      after = { run with nextSequence := (run.nextSequence + 1) % sequenceValues } := by
  unfold publishEvent at accepted
  split at accepted
  · rename_i typed
    unfold acceptEvent at accepted
    split at accepted
    · cases accepted
    · rename_i checked
      simp only [Bool.or_eq_true, Bool.not_eq_true', bne_iff_ne, not_or, ne_eq, not_not,
        Bool.not_eq_true, Bool.not_eq_false] at checked
      exact ⟨typed, checked.1.1.2.symm, checked.1.2.symm, checked.2,
        (Option.some.inj accepted).symm⟩
  · cases accepted

theorem Following.next {runId : CString} (following : Following client runId received)
    {event : AppEvent} (run : event.runId = textOf runId) (sequence : event.sequence = received)
    (within : received < sequenceValues) :
    Following { client with events := client.events ++ [event], pendingEvent := none } runId
      (received + 1) := by
  refine ⟨following.run, following.active, ?_, ?_, within⟩
  · rw [List.length_append, following.count, List.length_singleton]
  · intro previous last
    rw [List.getLast?_append, List.getLast?_singleton, Option.some_or] at last
    cases last
    exact ⟨run, congrArg (· + 1) sequence⟩

/-- **The run.** The events arrive one after the other where every identifier fits and the
sequence does not wrap. -/
theorem receiveAll_events {decodeString : List UInt8 → List Char} {now : Nat → Nat}
    {run final : PoisonAppRun} {events : List PoisonAppEvent}
    (following : Following client run.runId received)
    (named : run.appId.isEmpty = false ∧ run.runId.isEmpty = false)
    (counted : run.nextSequence = received % sequenceValues)
    (published : publishAll run events = some final)
    (legible : ∀ event ∈ events, Legible decodeString event)
    (safe : ∀ index, now index ≤ maxSafeInteger) :
    (receiveAll decodeString now client events).map StructuredAppClient.events =
      if (∀ event ∈ events, Short event) ∧ received + events.length ≤ sequenceValues then
        some (client.events ++ events.mapIdx fun index event =>
          arrived (now (received + index)) event)
      else none := by
  induction events generalizing run client received with
  | nil =>
    rw [if_pos ⟨nofun, following.within⟩, List.mapIdx_nil, List.append_nil]
    rfl
  | cons event events ih =>
    rw [publishAll, List.foldlM_cons] at published
    obtain ⟨after, accepted, later⟩ := Option.bind_eq_some_iff.mp published
    obtain ⟨typed, appId, runId, sequence, become⟩ := publishEvent_some accepted
    rw [← runId] at following
    have one := receive_event following typed (legible event (by simp))
      (by rw [appId, runId]; exact named) (sequence.trans counted) (safe received)
    rw [receiveAll, List.foldlM_cons, one]
    by_cases both : Short event ∧ received < sequenceValues
    · rw [if_pos both]
      obtain ⟨ownRun, ownPlace⟩ := arrived_place (now received) event
      have reduced : received % sequenceValues = received := Nat.mod_eq_of_lt both.2
      have place : (arrived (now received) event).sequence = received := by
        rw [ownPlace, sequence, counted, reduced]
      have next := following.next ownRun place both.2
      have sameRun : event.runId = after.runId := by rw [become, runId]
      rw [sameRun] at next
      have rest := ih next (by rw [become]; exact named)
        (by rw [become, counted, reduced]) later
        (fun event inside => legible event (List.mem_cons_of_mem _ inside))
      rw [receiveAll] at rest
      simp only [Option.bind_eq_bind, Option.bind_some, rest, List.mem_cons, forall_eq_or_imp,
        both.1, true_and, List.length_cons, List.mapIdx_cons, List.append_assoc,
        List.singleton_append, Nat.add_zero]
      simp only [Nat.add_assoc, Nat.add_comm 1]
    · rw [if_neg both]
      refine (if_neg ?_).symm
      rintro ⟨short, within⟩
      rw [List.length_cons] at within
      exact both ⟨short event (by simp), by omega⟩

/-- Two readings of the events agree where they agree on each. -/
theorem mapIdx_arrived_iff (now : Nat → Nat) (events : List PoisonAppEvent) :
    (events.mapIdx fun index event => arrived (now index) event) =
        (events.mapIdx fun index event => shown (now index) event) ↔
      ∀ event ∈ events, Unmarked event := by
  induction events generalizing now with
  | nil => simp
  | cons event events ih =>
    have rest := ih fun index => now (index + 1)
    simp only [List.mapIdx_cons, List.cons.injEq, arrived_eq_shown, rest, List.mem_cons,
      forall_eq_or_imp]

/-- **Delivery of events.** For every run and every sequence of events that the service accepts,
the client shows exactly the published events, in their order, if and only if every identifier
has at most 64 bytes, no text that is sent in chunks starts with a byte order mark, and there
are no more events than sequence numbers. -/
theorem events_delivered_iff (decodeString : List UInt8 → List Char) (now : Nat → Nat)
    (appId runId : CString) (run final : PoisonAppRun) (client : StructuredAppClient)
    (events : List PoisonAppEvent)
    (started : runStart appId runId = some run) (opened : start (textOf runId) = some client)
    (published : publishAll run events = some final)
    (legible : ∀ event ∈ events, Legible decodeString event)
    (safe : ∀ index, now index ≤ maxSafeInteger) :
    (receiveAll decodeString now client events).map StructuredAppClient.events =
        some (events.mapIdx fun index event => shown (now index) event) ↔
      (∀ event ∈ events, Short event) ∧ (∀ event ∈ events, Unmarked event) ∧
        events.length ≤ sequenceValues := by
  unfold runStart at started
  split at started
  · cases started
  rename_i bounded
  simp only [Bool.or_eq_true, Bool.not_eq_true', not_or, Bool.not_eq_false, boundedText_iff]
    at bounded
  unfold start at opened
  split at opened
  · cases opened
  cases started
  cases opened
  have following : Following ⟨textOf runId, [], false, none⟩ runId 0 :=
    ⟨rfl, rfl, rfl, nofun, Nat.zero_le _⟩
  have counted : (⟨appId, runId, 0, true, false⟩ : PoisonAppRun).nextSequence =
      0 % sequenceValues := rfl
  have arrives := receiveAll_events following ⟨bounded.1.1, bounded.2.1⟩ counted published
    legible safe
  rw [arrives]
  simp only [Nat.zero_add, List.nil_append]
  by_cases fits : (∀ event ∈ events, Short event) ∧ events.length ≤ sequenceValues
  · rw [if_pos fits, Option.some.injEq, mapIdx_arrived_iff]
    exact ⟨fun unmarked => ⟨fits.1, unmarked, fits.2⟩, fun all => all.2.1⟩
  · rw [if_neg fits]
    refine iff_of_false nofun ?_
    rintro ⟨short, _, within⟩
    exact fits ⟨short, within⟩

/-- A protobuf library that reads every text back. -/
def readString (bytes : List UInt8) : List Char := (Unicode.decodeUtf8 bytes).getD []

/-- A text in ASCII. -/
def Ascii (value : CString) : Prop :=
  (value.bytes.all fun byte => decide (byte.toNat < 128)) = true

instance (value : CString) : Decidable (Ascii value) := inferInstanceAs (Decidable (_ = true))

theorem Ascii.bound (ascii : Ascii value) :
    ∀ byte ∈ value.bytes, byte.toNat < 128 := by
  intro byte inside
  exact of_decide_eq_true (List.all_eq_true.mp ascii byte inside)

theorem Ascii.textOf (ascii : Ascii value) :
    textOf value = value.bytes.map asciiChar := by
  have encoded := utf8_ascii ascii.bound
  rw [Apps.textOf]
  conv => lhs; rw [← encoded, Unicode.decodeUtf8_utf8, Option.getD_some]

theorem ascii_event (ascii : ∀ text ∈ fieldTexts event ++ chunkedTexts event, Ascii text) :
    Legible readString event ∧ Unmarked event := by
  refine ⟨⟨?_, fun _ _ => rfl⟩, ?_⟩
  · intro text inside
    exact ⟨_, (utf8_ascii (ascii text inside).bound).symm⟩
  · intro text inside marked
    have plain := ascii text (List.mem_append_right _ inside)
    rw [plain.textOf, List.head?_map, Option.map_eq_some_iff] at marked
    obtain ⟨byte, first, mark⟩ := marked
    have bound := plain.bound byte (List.mem_of_mem_head? first)
    have all : ∀ value : Fin 128, Char.ofNat value ≠ Unicode.byteOrderMark := by decide
    exact all ⟨byte.toNat, bound⟩ mark

/-- A message and the progress of a run. -/
def progressEvents : List PoisonAppEvent :=
  [⟨.literal "a", .literal "r", .literal "e0", 0, .log (.literal "info") (.literal "ok")⟩,
    ⟨.literal "a", .literal "r", .literal "e1", 1, .progress 50 (.literal "half")⟩]

theorem events_delivered_progress :
    (receiveAll readString (fun _ => 0) ⟨textOf (.literal "r"), [], false, none⟩
        progressEvents).map StructuredAppClient.events =
      some (progressEvents.mapIdx fun _ event => shown 0 event) := by
  have plain : ∀ event ∈ progressEvents, Legible readString event ∧ Unmarked event := by
    intro event inside
    refine ascii_event ?_
    simp only [progressEvents, List.mem_cons, List.not_mem_nil, or_false] at inside
    cases inside with
    | inl first =>
      subst first
      decide
    | inr second =>
      subst second
      decide
  have run : textOf (.literal "r") = ['r'] := Ascii.textOf (by decide)
  refine (events_delivered_iff readString (fun _ => 0) (.literal "a") (.literal "r")
    ⟨.literal "a", .literal "r", 0, true, false⟩
    ⟨.literal "a", .literal "r", 2, true, false⟩ _ progressEvents (by decide)
    (by rw [run]; rfl) (by decide) (fun event inside => (plain event inside).1)
    (fun _ => Nat.zero_le _)).mpr
      ⟨by decide, fun event inside => (plain event inside).2, by decide⟩

/-- A message that starts with a byte order mark. -/
def markedEvent : PoisonAppEvent :=
  ⟨.literal "a", .literal "r", .literal "e0", 0,
    .log (.literal "info") (.ofBytes [0xef, 0xbb, 0xbf, 0x78])⟩

/-- A result of an application whose identifier has 65 bytes. -/
def longEvent : PoisonAppEvent :=
  ⟨.ofBytes (List.replicate 65 97), .literal "r", .literal "e0", 0,
    .result true (.literal "ok")⟩

/-- The service accepts both events; of the first another text arrives, and the second does not
fit its message. -/
theorem marked_and_long_events :
    (publishAll ⟨.literal "a", .literal "r", 0, true, false⟩ [markedEvent] ≠ none ∧
      Legible readString markedEvent ∧
      (receiveAll readString (fun _ => 0) ⟨textOf (.literal "r"), [], false, none⟩
        [markedEvent]).map StructuredAppClient.events ≠ some [shown 0 markedEvent]) ∧
    (runStart (.ofBytes (List.replicate 65 97)) (.literal "r") ≠ none ∧
      publishAll ⟨.ofBytes (List.replicate 65 97), .literal "r", 0, true, false⟩ [longEvent] ≠
        none ∧
      ∃ message ∈ sendEvent longEvent, 64 < message.appId.length) := by
  have following : Following ⟨textOf (.literal "r"), [], false, none⟩ (.literal "r") 0 :=
    ⟨rfl, rfl, rfl, nofun, Nat.zero_le _⟩
  have marked : (CString.ofBytes [0xef, 0xbb, 0xbf, 0x78]).bytes =
      Unicode.utf8 [Unicode.byteOrderMark, 'x'] := by decide
  have legible : Legible readString markedEvent := by
    refine ⟨?_, fun _ _ => rfl⟩
    intro text inside
    simp only [fieldTexts, chunkedTexts, markedEvent, List.cons_append, List.nil_append,
      List.mem_cons, List.not_mem_nil, or_false] at inside
    rcases inside with rfl | rfl | rfl | rfl | rfl
    · exact ⟨['a'], by decide⟩
    · exact ⟨['r'], by decide⟩
    · exact ⟨['e', '0'], by decide⟩
    · exact ⟨"info".toList, by decide⟩
    · exact ⟨_, marked⟩
  refine ⟨⟨by decide, legible, ?_⟩, by decide, by decide, _, List.mem_cons_self, by decide⟩
  intro same
  have published : publishAll ⟨.literal "a", .literal "r", 0, true, false⟩ [markedEvent] =
      some ⟨.literal "a", .literal "r", 1, true, false⟩ := by decide
  have safe : ∀ index, (fun _ => 0 : Nat → Nat) index ≤ maxSafeInteger :=
    fun _ => Nat.zero_le _
  have arrives := receiveAll_events following ⟨rfl, rfl⟩ rfl published (by simpa using legible)
    safe
  rw [same, if_pos (by decide)] at arrives
  have equal := (List.cons.inj (Option.some.inj arrives)).1
  have unmarked := arrived_eq_shown.mp equal.symm
  refine unmarked (CString.ofBytes [0xef, 0xbb, 0xbf, 0x78])
    (by simp [chunkedTexts, markedEvent]) ?_
  rw [textOf, marked, Unicode.decodeUtf8_utf8]
  rfl

end StructuredAppClient

end PoisonedOS.Apps
