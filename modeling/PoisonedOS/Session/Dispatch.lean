import PoisonedOS.Session.Authority
import PoisonedOS.Session.Channels

/-!
# The secure dispatch of an RPC session

A session on the UART takes plain messages until it is paired or resumed, and envelopes from then
on. What an envelope carries is dispatched if the capabilities that its content requires were
granted. Content without an entry in the map of capabilities is refused.

The map leaves out two requests whose handlers ask for a secure dispatch: no client can reach
them. All other requests of this kind are reached, unless they are too long, and no handler but
those of the transport is called outside a dispatch.

The decoder of messages is a parameter. The registry and the resume slots are shared with other
sessions, which may change them between any two messages.
-/

namespace PoisonedOS.SecureDispatch

/-- The content of a message. Answers have no handler, nor has a message without content. -/
inductive Content where
  | empty | answer | stopSession | poisonCancelRequest
  | appStartRequest | appLockStatusRequest | appExitRequest | appLoadFileRequest
  | appButtonPressRequest | appButtonReleaseRequest | appButtonPressReleaseRequest
  | appGetErrorRequest | appDataExchangeRequest
  | desktopIsLockedRequest | desktopUnlockRequest | desktopStatusSubscribeRequest
  | desktopStatusUnsubscribeRequest
  | gpioSetPinMode | gpioWritePin | gpioReadPin | gpioGetPinMode | gpioSetInputPull
  | gpioGetOtgMode | gpioSetOtgMode
  | guiStartScreenStreamRequest | guiStopScreenStreamRequest | guiSendInputEventRequest
  | guiStartVirtualDisplayRequest | guiStopVirtualDisplayRequest | guiScreenFrame
  | poisonAppCommand | poisonAppEvent | poisonAuditSnapshotRequest
  | poisonChannelOpen | poisonCreditUpdate
  | poisonEvidenceRecord | poisonCase | poisonAnnotation | poisonExportManifest
  | poisonFileListRequest | poisonFileTransferBegin | poisonFileTransferChunk
  | poisonFileTransferComplete
  | poisonJsBundleRequest | poisonPackageCatalogRequest | poisonPackageOperationRequest
  | poisonProfile | poisonProfileApply
  | poisonPairingHello | poisonPairingChallenge | poisonPairingConfirm | poisonSessionEnvelope
  | poisonContentUpdateRequest | poisonDiagnosticSnapshotRequest | poisonPolicyRequest
  | poisonResumeRequest | poisonToolRun | poisonWorkloadRequest
  | propertyGetRequest
  | storageInfoRequest | storageTimestampRequest | storageStatRequest | storageListRequest
  | storageReadRequest | storageWriteRequest | storageDeleteRequest | storageMkdirRequest
  | storageMd5sumRequest | storageRenameRequest | storageBackupCreateRequest
  | storageBackupRestoreRequest | storageTarExtractRequest
  | systemPingRequest | systemRebootRequest | systemDeviceInfoRequest | systemFactoryResetRequest
  | systemGetDatetimeRequest | systemSetDatetimeRequest | systemPlayAudiovisualAlertRequest
  | systemProtobufVersionRequest | systemPowerInfoRequest | systemUpdateRequest
deriving DecidableEq

namespace Content

/-- A handler was added for the content. -/
def registered : Content → Bool
  | empty | answer | poisonPairingChallenge => false
  | _ => true

def ofTransport : Content → Bool
  | poisonPairingHello | poisonPairingConfirm | poisonResumeRequest | poisonSessionEnvelope => true
  | _ => false

/-- The handler refuses the content outside a secure dispatch. -/
def demandsSecure : Content → Bool
  | poisonAppCommand | poisonAuditSnapshotRequest | poisonChannelOpen | poisonCreditUpdate
  | poisonEvidenceRecord | poisonCase | poisonAnnotation | poisonExportManifest
  | poisonFileListRequest | poisonFileTransferBegin | poisonFileTransferChunk
  | poisonFileTransferComplete | poisonJsBundleRequest | poisonPackageCatalogRequest
  | poisonPackageOperationRequest | poisonProfile | poisonProfileApply
  | poisonContentUpdateRequest | poisonDiagnosticSnapshotRequest | poisonPolicyRequest
  | poisonToolRun | poisonWorkloadRequest => true
  | _ => false

/-- `rpc_secure_required_capabilities`. -/
def requiredCapabilities : Content → Capabilities
  | stopSession | systemPingRequest | systemDeviceInfoRequest | systemGetDatetimeRequest
  | systemProtobufVersionRequest | systemPowerInfoRequest | propertyGetRequest
  | desktopIsLockedRequest | desktopStatusSubscribeRequest | desktopStatusUnsubscribeRequest
  | gpioGetPinMode | gpioReadPin | gpioGetOtgMode | poisonDiagnosticSnapshotRequest
  | poisonPolicyRequest | poisonChannelOpen | poisonCreditUpdate | poisonCancelRequest
  | poisonResumeRequest | poisonWorkloadRequest => capabilityStatus
  | appButtonPressRequest | appButtonReleaseRequest | appButtonPressReleaseRequest
  | appExitRequest | guiStartScreenStreamRequest | guiStopScreenStreamRequest
  | guiSendInputEventRequest | guiStartVirtualDisplayRequest | guiStopVirtualDisplayRequest
  | desktopUnlockRequest => capabilityControl
  | appStartRequest | appLoadFileRequest | appGetErrorRequest | appDataExchangeRequest =>
    capabilityLaunch
  | storageListRequest | storageReadRequest | storageStatRequest | storageInfoRequest
  | storageMd5sumRequest | storageTimestampRequest => capabilityFiles
  | storageWriteRequest | storageDeleteRequest | storageMkdirRequest | storageRenameRequest
  | storageBackupCreateRequest | storageBackupRestoreRequest | storageTarExtractRequest =>
    capabilityFiles ||| capabilityDestructive
  | gpioSetPinMode | gpioSetInputPull | gpioWritePin | gpioSetOtgMode => capabilityRadio
  | systemRebootRequest | systemFactoryResetRequest | systemSetDatetimeRequest
  | systemUpdateRequest | poisonContentUpdateRequest | poisonPackageOperationRequest =>
    capabilityDestructive
  | poisonFileListRequest | poisonFileTransferBegin | poisonFileTransferChunk
  | poisonFileTransferComplete | poisonJsBundleRequest => capabilityFiles
  | poisonEvidenceRecord | poisonCase | poisonAnnotation | poisonExportManifest =>
    capabilityEvidence
  | poisonToolRun => capabilityStatus
  | poisonAppCommand | poisonAppEvent | poisonProfile | poisonProfileApply => capabilityControl
  | _ => 0

theorem required_within (content : Content) :
    CapabilitiesIn content.requiredCapabilities allCapabilities := by
  cases content <;> decide

theorem registered_of_demanding {content : Content} (demanding : content.demandsSecure = true) :
    content.registered = true := by
  revert demanding
  cases content <;> decide

/-- The map has an entry for each handler that asks for a secure dispatch but two. -/
theorem required_iff {content : Content} (demanding : content.demandsSecure = true) :
    content.requiredCapabilities ≠ 0 ↔
      content ≠ poisonAuditSnapshotRequest ∧ content ≠ poisonPackageCatalogRequest := by
  revert demanding
  cases content <;> decide

end Content

/-- `PB_Poison_SessionEnvelope`. -/
structure Envelope where
  sessionId : UInt64
  sequence : UInt64
  acknowledgement : UInt64
  channel : CString
  payload : List UInt8
  authenticationTag : List UInt8

/-- `PB_Main`, with what the handlers of the session read of its content. -/
structure Message where
  content : Content
  hasNext : Bool
  hello : PairingHello
  confirm : PairingConfirm
  resume : ResumeRequest
  envelope : Envelope
  channel : CString
  credits : UInt32
  resumeSequence : UInt64

/-- What a handler is given besides its message: the time, random values, the user's answer, and
whether the registry is saved. -/
structure Inputs where
  nowMs : UInt64
  entropy : PairingEntropy
  answer : Bool
  saved : Bool
  token : Option ResumeToken

/-- `RpcSession`, as far as its transport goes, with what it shares. `secure_session` points to the
session of the system or is null. -/
structure RpcSession where
  secureDispatchActive : Bool
  secureTransportActive : Bool
  secureSession : Bool
  secureChannels : ChannelTable
  system : PoisonSystem
  device : PairingDevice
  slots : ResumeSlots

/-- What the handlers call: the functions of the sessions and of the pairing store, and the decoder
of messages. -/
structure Firmware where
  crypto : SessionCrypto
  authenticate : PairingDiskBody → Digest
  decode : List UInt8 → Option Message

namespace RpcSession

/-- `rpc_session_open`. -/
def alloc (device : PairingDevice) (slots : ResumeSlots) : RpcSession :=
  ⟨false, false, false, .init, .alloc device, device, slots⟩

/-- The name of the channel that is dispatched. -/
def rpcChannel : CString := .literal "rpc"

/-- `RPC_SECURE_REQUEST_PAYLOAD_MAX`. -/
def requestPayloadMax : Nat := 768

/-- The session of the system. -/
abbrev secure (state : RpcSession) : PoisonSession := state.system.handshake.session

/-- `rpc_session_revoke_secure_transport`. -/
def revokeTransport (state : RpcSession) : RpcSession where
  secureDispatchActive := false
  secureTransportActive := false
  secureSession := false
  secureChannels := .init
  system := if state.secureSession then state.system.revoke else state.system
  device := state.device
  slots :=
    if state.secureSession && state.secure.sessionId != 0 then
      revokeResume state.slots state.secure.sessionId
    else state.slots

/-- `rpc_session_activate_secure_transport`. -/
def activate (state : RpcSession) : RpcSession :=
  { state with secureTransportActive := true, secureSession := true }

/-- The slot of an open channel, as `poison_channel_find` finds it. -/
def findChannel (state : RpcSession) (name : CString) : Option (Fin channelMaxChannels) :=
  Fin.find? fun index =>
    (state.secureChannels index).active && (state.secureChannels index).name == name

section Handlers

variable (firmware : Firmware)

/-- `rpc_poison_pairing_confirm_process`: whether the client is paired. -/
def confirmed (state : RpcSession) (message : Message) (inputs : Inputs) : Bool × RpcSession :=
  if message.hasNext then (false, state)
  else
    let (paired, system, device) := state.system.confirmProcess firmware.crypto
      firmware.authenticate state.device message.confirm inputs.nowMs inputs.answer inputs.saved
    (paired,
      if paired then { state with system, device }.activate else { state with system, device })

/-- `rpc_poison_resume_request_process` outside a dispatch: whether a session is resumed. -/
def resumed (state : RpcSession) (message : Message) (inputs : Inputs) : Bool × RpcSession :=
  if message.hasNext then (false, state)
  else
    let (taken, system, device, slots) := state.system.resumeProcess firmware.crypto
      firmware.authenticate state.device state.slots message.resume inputs.nowMs inputs.token
    (taken, if taken then { state with system, device, slots }.activate
      else { state with system, device, slots })

/-- The handler of the content. Those that are left out work on other data. -/
def handle (message : Message) (inputs : Inputs) (state : RpcSession) : RpcSession :=
  match message.content with
  | .poisonPairingHello =>
    if message.hasNext then state
    else { state with
      system := (state.system.helloProcess firmware.crypto state.device message.hello inputs.nowMs
        inputs.entropy).2 }
  | .poisonPairingConfirm => (state.confirmed firmware message inputs).2
  | .poisonResumeRequest =>
    if message.hasNext then state
    else if state.secureDispatchActive then
      { state with system := (state.system.issueToken state.device message.resume inputs.token).2 }
    else (state.resumed firmware message inputs).2
  | .stopSession => if state.secureDispatchActive then state.revokeTransport else state
  | .poisonChannelOpen =>
    if message.hasNext || !state.secureDispatchActive || message.channel != rpcChannel ||
        message.credits == 0 then state
    else { state with
      secureChannels := (state.secureChannels.openAt message.channel message.credits
        message.resumeSequence).2.2 }
  | .poisonCreditUpdate =>
    match state.findChannel message.channel with
    | some index =>
      if message.hasNext || !state.secureDispatchActive || message.credits == 0 then state
      else { state with
        secureChannels := (state.secureChannels.addCredits index message.credits).2 }
    | none => state
  | _ => state

/-- A handler that is called: the content, and the session before. -/
abbrev HandlerCall := Content × RpcSession

/-- The channel of a content is ready. -/
def ready (state : RpcSession) (content : Content) : Bool :=
  content == .poisonChannelOpen || (state.findChannel rpcChannel).isSome

/-- What is required for a content was granted. -/
def granted (state : RpcSession) (content : Content) : Bool :=
  content.requiredCapabilities != 0 &&
    (state.secure.grantedCapabilities &&& content.requiredCapabilities) ==
      content.requiredCapabilities

/-- `rpc_session_dispatch_secure_payload`. -/
def dispatch (channel : CString) (payload : List UInt8) (payloadLength : Nat) (inputs : Inputs)
    (state : RpcSession) : List HandlerCall × RpcSession :=
  if channel != rpcChannel || payloadLength == 0 || decide (requestPayloadMax < payloadLength) then
    ([], state)
  else
    match firmware.decode payload with
    | none => ([], state)
    | some inner =>
      match inner.content with
      | .empty | .poisonSessionEnvelope | .poisonPairingHello | .poisonPairingChallenge
      | .poisonPairingConfirm => ([], state)
      | content =>
        let state := { state with
          secureTransportActive := true, secureDispatchActive := true, secureSession := true }
        if state.ready content && state.granted content && content.registered then
          ([(content, state)],
            { handle firmware inner inputs state with secureDispatchActive := false })
        else ([], { state with secureDispatchActive := false })

/-- `rpc_poison_session_envelope_process`. -/
def envelopeProcess (message : Message) (inputs : Inputs) (state : RpcSession) :
    List HandlerCall × RpcSession :=
  if message.hasNext || state.secure.state != .active then ([], state)
  else if !state.system.identityAllowed state.device then ([], state.revokeTransport)
  else
    match FixedBytes.ofList? 16 message.envelope.authenticationTag with
    | none => ([], state)
    | some tag =>
      if message.envelope.sessionId != state.secure.sessionId ||
          message.envelope.payload.isEmpty then
        ([], state)
      else
        match state.secure.decryptRx firmware.crypto message.envelope.sequence
            message.envelope.acknowledgement message.envelope.channel message.envelope.payload
            tag with
        | (.error _, _) => ([], state)
        | (.ok plaintext, received) =>
          dispatch firmware message.envelope.channel plaintext
            message.envelope.payload.length inputs
            { state with system := state.system.setSession received }

/-- `rpc_session_plaintext_allowed` of a session on the UART. -/
def plaintextAllowed (state : RpcSession) (content : Content) : Bool :=
  if state.secureTransportActive then content == .poisonSessionEnvelope else content.ofTransport

/-- One message in `rpc_session_worker`. -/
def worker (message : Message) (inputs : Inputs) (state : RpcSession) :
    List HandlerCall × RpcSession :=
  if !state.plaintextAllowed message.content || !message.content.registered then ([], state)
  else if message.content = .poisonSessionEnvelope then
    let (calls, next) := state.envelopeProcess firmware message inputs
    ((.poisonSessionEnvelope, state) :: calls, next)
  else ([(message.content, state)], handle firmware message inputs state)

end Handlers

end RpcSession

open RpcSession

/-- A message to the session, one of the session, or a change of what it shares. -/
inductive Step where
  | receive (message : Message) (inputs : Inputs)
  | send (acknowledgement : UInt64) (channel : CString) (plaintext : List UInt8)
  | share (device : PairingDevice) (slots : ResumeSlots)

section Runs

variable (firmware : Firmware)

def perform : Step → RpcSession → List HandlerCall × RpcSession
  | .receive message inputs, state => state.worker firmware message inputs
  | .send acknowledgement channel plaintext, state =>
    if state.secureTransportActive && state.secureSession && state.secure.state == .active then
      ([], { state with
        system := state.system.setSession
          (state.secure.encryptTx firmware.crypto acknowledgement channel plaintext).2 })
    else ([], state)
  | .share device slots, state => ([], { state with device, slots })

/-- A pairing or a resume succeeds. -/
def restores : Step → RpcSession → Bool
  | .receive message inputs, state =>
    state.plaintextAllowed message.content &&
      match message.content with
      | .poisonPairingConfirm => (state.confirmed firmware message inputs).1
      | .poisonResumeRequest => (state.resumed firmware message inputs).1
      | _ => false
  | _, _ => false

/-- The message is an envelope that the session accepts, and this is in it. -/
structure Accepted (state : RpcSession) (message : Message) (plaintext : List UInt8) : Prop where
  envelope : message.content = .poisonSessionEnvelope
  single : message.hasNext = false
  live : state.secure.state = .active
  allowed : state.system.identityAllowed state.device = true
  addressed : message.envelope.sessionId = state.secure.sessionId
  full : message.envelope.payload ≠ []
  opened : ∃ tag received, FixedBytes.ofList? 16 message.envelope.authenticationTag = some tag ∧
    state.secure.decryptRx firmware.crypto message.envelope.sequence
      message.envelope.acknowledgement message.envelope.channel message.envelope.payload tag =
        (.ok plaintext, received)

/-- A handler is called in the dispatch of an accepted envelope of a known client, with an open
channel and all that is required. -/
structure Dispatched (state : RpcSession) (message : Message) (call : HandlerCall) : Prop where
  accepted : ∃ plaintext inner, Accepted firmware state message plaintext ∧
    firmware.decode plaintext = some inner ∧ inner.content = call.1
  known : (state.device.registryFind state.secure.clientIdentityDigest).isSome = true
  active : call.2.secureDispatchActive = true
  channel : call.1 ≠ .poisonChannelOpen → (call.2.findChannel rpcChannel).isSome = true
  required : call.1.requiredCapabilities ≠ 0
  capable : CapabilitiesIn call.1.requiredCapabilities call.2.secure.grantedCapabilities

/-- A client with all capabilities makes a request whose handler asks for a secure dispatch. -/
structure Requested (state : RpcSession) (message : Message) (plaintext : List UInt8)
    (inner : Message) : Prop where
  accepted : Accepted firmware state message plaintext
  decoded : firmware.decode plaintext = some inner
  demanding : inner.content.demandsSecure = true
  dispatched : message.envelope.channel = rpcChannel
  ready : state.ready inner.content = true
  capable : CapabilitiesIn allCapabilities state.secure.grantedCapabilities

variable (device : PairingDevice) (slots : ResumeSlots) (steps : List Step)

/-- The session after the first steps of a run. -/
def reached (index : Nat) : RpcSession :=
  Runs.reached (fun step state => (perform firmware step state).2)
    (.alloc device slots) steps index

/-- What the gate promises of a run. -/
structure Gate : Prop where
  idle : ∀ index,
    (reached firmware device slots steps index).secureDispatchActive = false
  guarded : ∀ index message inputs, steps[index]? = some (.receive message inputs) →
    ∀ state, state = reached firmware device slots steps index →
    ∀ call ∈ (state.worker firmware message inputs).1,
      (call.1.ofTransport = true ∧ call.2.secureDispatchActive = false) ∨
        Dispatched firmware state message call
  revoked : ∀ index later, index ≤ later →
    (reached firmware device slots steps index).secureTransportActive = false →
    (∀ between step, index ≤ between → between < later → steps[between]? = some step →
      restores firmware step
        (reached firmware device slots steps between) = false) →
    ∀ step, steps[later]? = some step →
    ∀ call ∈ (perform firmware step
        (reached firmware device slots steps later)).1,
      call.2.secureDispatchActive = false
  reaches : ∀ index message inputs, steps[index]? = some (.receive message inputs) →
    ∀ state, state = reached firmware device slots steps index →
    ∀ plaintext inner, Requested firmware state message plaintext inner →
      ∃ call ∈ (state.worker firmware message inputs).1,
        call.1 = inner.content

end Runs

/-! ## Handlers -/

section Systems

variable {crypto : SessionCrypto} {authenticate : PairingDiskBody → Digest}

/-- A session that was revoked is not active. -/
theorem revoke_inactive (system : PoisonSystem) :
    system.revoke.handshake.session.state ≠ .active := by
  simp [PoisonSystem.revoke, PoisonSystem.setSession, PoisonSession.revoke]

theorem countOrRevoke_inactive (system : PoisonSystem) (device : PairingDevice) :
    (system.countOrRevoke authenticate device).1 = true ∨
      (system.countOrRevoke authenticate device).2.1.handshake.session.state ≠ .active := by
  unfold PoisonSystem.countOrRevoke
  split
  · exact .inl rfl
  · exact .inr (revoke_inactive _)

variable (crypto authenticate) in
theorem confirmProcess_inactive {system : PoisonSystem} (device : PairingDevice)
    (confirm : PairingConfirm) (nowMs : UInt64) (answer saved : Bool)
    (inactive : system.handshake.session.state ≠ .active) :
    (system.confirmProcess crypto authenticate device confirm nowMs answer saved).1 = true ∨
      (system.confirmProcess crypto authenticate device confirm nowMs answer
        saved).2.1.handshake.session.state ≠ .active := by
  unfold PoisonSystem.confirmProcess
  split
  · exact .inr inactive
  · dsimp only
    obtain ⟨keys, completed, -⟩ | failed := pairingComplete_cases crypto system.handshake confirm
      nowMs (system.trustedIdentity || answer)
    · rw [completed]
      dsimp only
      split
      · exact countOrRevoke_inactive _ _
      · split
        · exact countOrRevoke_inactive _ _
        · exact .inr (revoke_inactive _)
    · rw [failed]
      exact .inr (by simp [PairingHandshake.failed, PairingHandshake.abandon,
        PoisonSession.revoke])

variable (crypto authenticate) in
theorem resumeProcess_inactive {system : PoisonSystem} (device : PairingDevice)
    (slots : ResumeSlots) (request : ResumeRequest) (nowMs : UInt64) (token : Option ResumeToken)
    (inactive : system.handshake.session.state ≠ .active) :
    (system.resumeProcess crypto authenticate device slots request nowMs token).1 = true ∨
      (system.resumeProcess crypto authenticate device slots request nowMs
        token).2.1.handshake.session.state ≠ .active := by
  unfold PoisonSystem.resumeProcess
  split
  · split
    · exact .inr inactive
    · dsimp only
      split
      · exact .inr (revoke_inactive _)
      · split
        · exact .inr (revoke_inactive _)
        · exact .inl rfl
  · exact .inr inactive

/-- A hello leaves no active session. -/
theorem helloProcess_inactive {system : PoisonSystem} (device : PairingDevice)
    (hello : PairingHello) (nowMs : UInt64) (entropy : PairingEntropy)
    (inactive : system.handshake.session.state ≠ .active) :
    (system.helloProcess crypto device hello nowMs entropy).2.handshake.session.state ≠
      .active := by
  unfold PoisonSystem.helloProcess
  split
  · exact inactive
  · obtain same | ⟨next, failed, -, unset, -⟩ | ⟨challenge, next, begun, begins⟩ :=
      pairingBegin_cases crypto system.handshake hello nowMs entropy
    · rw [same]
      exact inactive
    · rw [failed]
      exact unset
    · rw [begun]
      simp [begins.confirming]

end Systems

/-! ## Steps -/

section Laws

variable (firmware : Firmware)

/-- What holds of a session between two steps. -/
structure Sound (state : RpcSession) : Prop where
  idle : state.secureDispatchActive = false
  transported : state.secure.state = .active →
    state.secureTransportActive = true ∧ state.secureSession = true

/-- A step that does not bring the transport up keeps it down. -/
def StaysDown (restored : Bool) (state next : RpcSession) : Prop :=
  restored = false → state.secureTransportActive = false → next.secureTransportActive = false

variable {state : RpcSession} {message : Message}

/-- A message of the transport that is no envelope is handled outside a dispatch. -/
theorem handle_plain (sound : Sound state) (inputs : Inputs)
    (down : state.secureTransportActive = false) (transport : message.content.ofTransport = true)
    (plain : message.content ≠ .poisonSessionEnvelope) :
    Sound (handle firmware message inputs state) ∧
      StaysDown (restores firmware (.receive message inputs) state) state
        (handle firmware message inputs state) := by
  have inactive : state.secure.state ≠ .active := fun active => by
    rw [(sound.transported active).1] at down
    cases down
  have allowed : state.plaintextAllowed message.content = true := by
    simpa [RpcSession.plaintextAllowed, down] using transport
  rw [StaysDown, restores, allowed, Bool.true_and]
  cases content : message.content
  case poisonPairingHello =>
    rw [handle, content]
    dsimp only
    split
    · exact ⟨sound, fun _ _ => down⟩
    · exact ⟨⟨sound.idle, fun active => absurd active (helloProcess_inactive _ _ _ _ inactive)⟩,
        fun _ _ => down⟩
  case poisonPairingConfirm =>
    rw [handle, content]
    dsimp only [RpcSession.confirmed]
    split
    · exact ⟨sound, fun _ _ => down⟩
    · have paired := confirmProcess_inactive firmware.crypto firmware.authenticate state.device
        message.confirm inputs.nowMs inputs.answer inputs.saved inactive
      cases result : (state.system.confirmProcess firmware.crypto firmware.authenticate state.device
        message.confirm inputs.nowMs inputs.answer inputs.saved).1 with
      | true => exact ⟨⟨sound.idle, fun _ => ⟨rfl, rfl⟩⟩, fun refused => absurd refused (by simp)⟩
      | false =>
        rw [result] at paired
        exact ⟨⟨sound.idle, fun active => absurd active (paired.resolve_left (by simp))⟩,
          fun _ _ => down⟩
  case poisonResumeRequest =>
    rw [handle, content]
    dsimp only [RpcSession.resumed]
    split
    · exact ⟨sound, fun _ _ => down⟩
    · rw [if_neg (by simp [sound.idle])]
      have taken := resumeProcess_inactive firmware.crypto firmware.authenticate state.device
        state.slots message.resume inputs.nowMs inputs.token inactive
      cases result : (state.system.resumeProcess firmware.crypto firmware.authenticate state.device
        state.slots message.resume inputs.nowMs inputs.token).1 with
      | true => exact ⟨⟨sound.idle, fun _ => ⟨rfl, rfl⟩⟩, fun refused => absurd refused (by simp)⟩
      | false =>
        rw [result] at taken
        exact ⟨⟨sound.idle, fun active => absurd active (taken.resolve_left (by simp))⟩,
          fun _ _ => down⟩
  case poisonSessionEnvelope => exact absurd content plain
  all_goals
    rw [content] at transport
    cases transport

/-- A handler that is dispatched leaves no active session where it takes the transport down. -/
theorem handle_dispatched {inner : Message} {inputs : Inputs}
    (active : state.secureDispatchActive = true) (transport : state.secureTransportActive = true)
    (set : state.secureSession = true) (apart : inner.content ≠ .poisonPairingHello)
    (further : inner.content ≠ .poisonPairingConfirm) :
    (handle firmware inner inputs state).secure.state = .active →
      (handle firmware inner inputs state).secureTransportActive = true ∧
        (handle firmware inner inputs state).secureSession = true := by
  unfold handle
  split
  · exact absurd ‹_› apart
  · exact absurd ‹_› further
  · simp only [active, ↓reduceIte]
    split <;> exact fun _ => ⟨transport, set⟩
  · rw [if_pos active, revokeTransport, if_pos set]
    exact fun live => absurd live (revoke_inactive _)
  · split <;> exact fun _ => ⟨transport, set⟩
  · split
    · split <;> exact fun _ => ⟨transport, set⟩
    · exact fun _ => ⟨transport, set⟩
  · exact fun _ => ⟨transport, set⟩

theorem dispatch_spec (sound : Sound state) (channel : CString) (payload : List UInt8)
    (payloadLength : Nat) (inputs : Inputs) :
    Sound (dispatch firmware channel payload payloadLength inputs state).2 ∧
      ∀ call ∈ (dispatch firmware channel payload payloadLength inputs state).1,
        (∃ inner, firmware.decode payload = some inner ∧ inner.content = call.1) ∧
          call.2.secureDispatchActive = true ∧ call.2.system = state.system ∧
          call.2.ready call.1 = true ∧ call.2.granted call.1 = true := by
  unfold dispatch
  split
  · exact ⟨sound, fun _ isCall => absurd isCall List.not_mem_nil⟩
  · split
    · exact ⟨sound, fun _ isCall => absurd isCall List.not_mem_nil⟩
    · rename_i inner isInner
      split
      iterate 5 exact ⟨sound, fun _ isCall => absurd isCall List.not_mem_nil⟩
      rename_i content empty envelope hello challenge confirm
      dsimp only
      split
      · rename_i authorized
        simp only [Bool.and_eq_true] at authorized
        refine ⟨⟨rfl, handle_dispatched firmware rfl rfl rfl hello confirm⟩, ?_⟩
        intro call isCall
        obtain rfl := List.mem_singleton.mp isCall
        exact ⟨⟨inner, isInner, rfl⟩, rfl, rfl, authorized.1.1, authorized.1.2⟩
      · exact ⟨⟨rfl, fun _ => ⟨rfl, rfl⟩⟩, fun _ isCall => absurd isCall List.not_mem_nil⟩

/-- An envelope is accepted, or nothing is called: the session stays, or its client is unknown and
the transport is revoked. -/
theorem envelope_cases (inputs : Inputs) (envelope : message.content = .poisonSessionEnvelope) :
    (∃ plaintext, Accepted firmware state message plaintext) ∨
      state.envelopeProcess firmware message inputs = ([], state) ∨
      (state.secure.state = .active ∧
        state.envelopeProcess firmware message inputs =
          ([], state.revokeTransport)) := by
  unfold envelopeProcess
  split
  · exact .inr (.inl rfl)
  · rename_i begun
    simp only [Bool.or_eq_true, not_or, Bool.not_eq_true, bne_eq_false_iff_eq] at begun
    split
    · exact .inr (.inr ⟨begun.2, rfl⟩)
    · rename_i allowed
      split
      · exact .inr (.inl rfl)
      · rename_i tag isTag
        split
        · exact .inr (.inl rfl)
        · rename_i addressed
          simp only [Bool.or_eq_true, not_or, bne_iff_ne, ne_eq, Decidable.not_not,
            List.isEmpty_iff] at addressed
          split
          · exact .inr (.inl rfl)
          · rename_i plaintext received opened
            exact .inl ⟨plaintext, envelope, begun.1, begun.2, by simpa using allowed,
              addressed.1, addressed.2, tag, received, isTag, opened⟩

/-- What an accepted envelope carries is dispatched. -/
theorem envelope_accepted {plaintext : List UInt8}
    (accepted : Accepted firmware state message plaintext) (inputs : Inputs) :
    ∃ received : PoisonSession,
      received = { state.secure with nextRxSequence := state.secure.nextRxSequence + 1 } ∧
      state.envelopeProcess firmware message inputs =
        dispatch firmware message.envelope.channel plaintext
          message.envelope.payload.length inputs
          { state with system := state.system.setSession received } := by
  obtain ⟨tag, received, isTag, opened⟩ := accepted.opened
  refine ⟨received, ?_, ?_⟩
  · obtain ⟨_, _, same, isOpened⟩ | ⟨_, same⟩ := PoisonSession.decryptRx_cases firmware.crypto
      state.secure message.envelope.sequence message.envelope.acknowledgement
      message.envelope.channel message.envelope.payload tag
    · rw [opened, Prod.mk.injEq] at same
      rw [same.2, isOpened.advanced]
    · rw [opened] at same
      cases same
  · simp [envelopeProcess, accepted.single, accepted.live, accepted.allowed, isTag,
      accepted.addressed, accepted.full, opened]

/-- What an envelope calls and leaves. -/
theorem envelope_spec (sound : Sound state) (inputs : Inputs)
    (envelope : message.content = .poisonSessionEnvelope) :
    Sound (state.envelopeProcess firmware message inputs).2 ∧
      (state.secureTransportActive = false →
        state.envelopeProcess firmware message inputs = ([], state)) ∧
      ∀ call ∈ (state.envelopeProcess firmware message inputs).1,
        Dispatched firmware state message call := by
  obtain ⟨plaintext, accepted⟩ | same | ⟨live, revoked⟩ := envelope_cases firmware inputs envelope
  · obtain ⟨received, advanced, dispatched⟩ := envelope_accepted firmware accepted inputs
    have transported := sound.transported accepted.live
    have kept : Sound { state with system := state.system.setSession received } :=
      ⟨sound.idle, fun _ => transported⟩
    obtain ⟨left, calls⟩ := dispatch_spec firmware kept message.envelope.channel plaintext
      message.envelope.payload.length inputs
    rw [dispatched]
    refine ⟨left, fun down => absurd (down ▸ transported.1) (by simp), ?_⟩
    intro call isCall
    obtain ⟨⟨inner, isInner, isContent⟩, active, system, ready, granted⟩ := calls call isCall
    have known := accepted.allowed
    simp only [PoisonSystem.identityAllowed, Bool.and_eq_true] at known
    simp only [RpcSession.granted, Bool.and_eq_true, bne_iff_ne, beq_iff_eq] at granted
    refine ⟨⟨plaintext, inner, accepted, isInner, isContent⟩, known.2, active, ?_, granted.1, ?_⟩
    · intro other
      simpa [RpcSession.ready, other] using ready
    · rw [CapabilitiesIn, UInt32.and_comm]
      exact granted.2
  · rw [same]
    exact ⟨sound, fun _ => rfl, fun _ isCall => absurd isCall List.not_mem_nil⟩
  · rw [revoked]
    have transported := sound.transported live
    refine ⟨⟨rfl, fun active => ?_⟩, fun down => absurd (down ▸ transported.1) (by simp),
      fun _ isCall => absurd isCall List.not_mem_nil⟩
    rw [revokeTransport, if_pos transported.2] at active
    exact absurd active (revoke_inactive _)

/-- A session stays sound, and a step that does not bring the transport up keeps it down. What it
calls outside an accepted envelope is of the transport. -/
theorem perform_spec (sound : Sound state) (step : Step) :
    Sound (perform firmware step state).2 ∧
      StaysDown (restores firmware step state) state
        (perform firmware step state).2 ∧
      ∀ call ∈ (perform firmware step state).1,
        (call.1.ofTransport = true ∧ call.2 = state) ∨
          (state.secureTransportActive = true ∧
            ∃ message inputs, step = .receive message inputs ∧
              Dispatched firmware state message call) := by
  cases step with
  | receive message inputs =>
    rw [perform, worker]
    split
    · exact ⟨sound, fun _ down => down, fun _ isCall => absurd isCall List.not_mem_nil⟩
    · rename_i allowed
      simp only [Bool.or_eq_true, not_or, Bool.not_eq_true, Bool.not_eq_false'] at allowed
      split
      · rename_i envelope
        obtain ⟨left, idle, calls⟩ := envelope_spec firmware sound inputs envelope
        refine ⟨left, fun _ down => by rw [idle down]; exact down, ?_⟩
        intro call isCall
        obtain rfl | isCall := List.mem_cons.mp isCall
        · exact .inl ⟨rfl, rfl⟩
        · cases transport : state.secureTransportActive with
          | true => exact .inr ⟨rfl, message, inputs, rfl, calls call isCall⟩
          | false =>
            rw [idle transport] at isCall
            exact absurd isCall List.not_mem_nil
      · rename_i plain
        have down : state.secureTransportActive = false := by
          cases transport : state.secureTransportActive with
          | false => rfl
          | true => simp [plaintextAllowed, transport, plain] at allowed
        have transport : message.content.ofTransport = true := by
          simpa [plaintextAllowed, down] using allowed.1
        obtain ⟨left, stays⟩ := handle_plain firmware sound inputs down transport plain
        refine ⟨left, stays, fun call isCall => .inl ?_⟩
        obtain rfl := List.mem_singleton.mp isCall
        exact ⟨transport, rfl⟩
  | send acknowledgement channel plaintext =>
    rw [perform]
    split
    · rename_i live
      simp only [Bool.and_eq_true] at live
      exact ⟨⟨sound.idle, fun _ => live.1⟩, fun _ down => down,
        fun _ isCall => absurd isCall List.not_mem_nil⟩
    · exact ⟨sound, fun _ down => down, fun _ isCall => absurd isCall List.not_mem_nil⟩
  | share device slots =>
    exact ⟨⟨sound.idle, sound.transported⟩, fun _ down => down,
      fun _ isCall => absurd isCall List.not_mem_nil⟩

/-- A request of a client with all capabilities reaches its handler exactly if it is short enough
and in the map. -/
theorem requested_iff {inner : Message} {plaintext : List UInt8} (sound : Sound state)
    (requested : Requested firmware state message plaintext inner) (inputs : Inputs) :
    (∃ call ∈ (state.worker firmware message inputs).1,
        call.1 = inner.content) ↔
      message.envelope.payload.length ≤ requestPayloadMax ∧
        inner.content ≠ .poisonAuditSnapshotRequest ∧
        inner.content ≠ .poisonPackageCatalogRequest := by
  have accepted := requested.accepted
  have apart (content : Content) (plain : content.demandsSecure = false) :
      inner.content ≠ content := fun same => by
    have demanding := requested.demanding
    rw [same, plain] at demanding
    cases demanding
  obtain ⟨received, advanced, dispatched⟩ := envelope_accepted firmware accepted inputs
  have reaches : (state.worker firmware message inputs).1 =
      (.poisonSessionEnvelope, state) ::
        (dispatch firmware message.envelope.channel plaintext
          message.envelope.payload.length inputs
          { state with system := state.system.setSession received }).1 := by
    rw [worker, if_neg, if_pos accepted.envelope, dispatched]
    simp [plaintextAllowed, (sound.transported accepted.live).1, accepted.envelope,
      Content.registered]
  have granted : state.granted inner.content = true ↔ inner.content.requiredCapabilities ≠ 0 := by
    have within := inner.content.required_within.trans requested.capable
    rw [CapabilitiesIn, UInt32.and_comm] at within
    simp [RpcSession.granted, within]
  rw [reaches, ← Content.required_iff requested.demanding, ← granted]
  by_cases short : message.envelope.payload.length ≤ requestPayloadMax
  · rw [dispatch, if_neg (by simp [requested.dispatched, accepted.full, short]), requested.decoded]
    dsimp only
    split
    · exact absurd ‹_› (apart _ rfl)
    · exact absurd ‹_› (apart _ rfl)
    · exact absurd ‹_› (apart _ rfl)
    · exact absurd ‹_› (apart _ rfl)
    · exact absurd ‹_› (apart _ rfl)
    · have same : RpcSession.granted { state with
          secureTransportActive := true, secureDispatchActive := true, secureSession := true,
          system := state.system.setSession received } inner.content =
            state.granted inner.content := by
        rw [advanced]
        rfl
      cases isGranted : state.granted inner.content with
      | true =>
        rw [if_pos (by
          rw [same, isGranted, Content.registered_of_demanding requested.demanding, Bool.and_true,
            Bool.and_true]
          exact requested.ready)]
        exact ⟨fun _ => ⟨short, rfl⟩, fun _ =>
          ⟨_, List.mem_cons_of_mem _ (List.mem_singleton_self _), rfl⟩⟩
      | false =>
        rw [if_neg (by simp [same, isGranted])]
        simp [(apart .poisonSessionEnvelope rfl).symm]
  · rw [dispatch, if_pos (by simp [Nat.lt_of_not_le short])]
    simp [short, (apart .poisonSessionEnvelope rfl).symm]

end Laws

/-! ## Runs -/

section Run

variable (firmware : Firmware) (device : PairingDevice) (slots : ResumeSlots) (steps : List Step)

theorem reached_sound (index : Nat) :
    Sound (reached firmware device slots steps index) :=
  Runs.always (motive := Sound)
    ⟨rfl, fun active => absurd active (by simp [RpcSession.alloc, PoisonSystem.alloc,
      PairingHandshake.zero, PoisonSession.init])⟩
    (fun _ step _ sound => (perform_spec firmware sound step).1) index

/-- The transport stays down until a step brings it up. -/
theorem reached_down {index : Nat} (down : (reached firmware device slots steps
      index).secureTransportActive = false) (later : Nat) (ordered : index ≤ later)
    (unrestored : ∀ between step, index ≤ between → between < later → steps[between]? = some step →
      restores firmware step
        (reached firmware device slots steps between) = false) :
    (reached firmware device slots steps later).secureTransportActive = false := by
  induction later, ordered using Nat.le_induction with
  | base => exact down
  | succ later ordered ih =>
    have before := ih fun between step first last =>
      unrestored between step first (Nat.lt_succ_of_lt last)
    cases taken : steps[later]? with
    | none =>
      rw [reached, Runs.reached_end taken]
      exact before
    | some step =>
      rw [reached, Runs.reached_succ taken]
      exact (perform_spec firmware (reached_sound ..) step).2.1
        (unrestored later step ordered (Nat.lt_succ_self _) taken) before

/-- The gate keeps its promises in a run exactly if each request of a client with all capabilities
is short enough, and none asks for the audit or the package catalog.

Proof: no session is active while the transport is down, so that outside the dispatch of an
accepted envelope only messages of the transport are handled. In a dispatch the handler is called
if the map has an entry whose capabilities were granted. -/
theorem dispatch_gate_iff :
    Gate firmware device slots steps ↔
      ∀ index message inputs, steps[index]? = some (.receive message inputs) →
        ∀ plaintext inner, Requested firmware
            (reached firmware device slots steps index) message plaintext inner →
          message.envelope.payload.length ≤ requestPayloadMax ∧
            inner.content ≠ .poisonAuditSnapshotRequest ∧
            inner.content ≠ .poisonPackageCatalogRequest := by
  constructor
  · intro gate index message inputs taken plaintext inner requested
    exact (requested_iff firmware (reached_sound ..) requested inputs).mp
      (gate.reaches index message inputs taken _ rfl plaintext inner requested)
  · intro admitted
    refine ⟨fun index => (reached_sound ..).idle, ?_, ?_, ?_⟩
    · rintro index message inputs taken state rfl call isCall
      have sound := reached_sound firmware device slots steps index
      obtain ⟨transport, same⟩ | ⟨-, _, _, same, dispatched⟩ :=
        (perform_spec firmware sound (.receive message inputs)).2.2 call isCall
      · exact .inl ⟨transport, same ▸ sound.idle⟩
      · cases same
        exact .inr dispatched
    · intro index later ordered down unrestored step taken call isCall
      have sound := reached_sound firmware device slots steps later
      obtain ⟨-, same⟩ | ⟨transport, -⟩ := (perform_spec firmware sound step).2.2 call isCall
      · exact same ▸ sound.idle
      · rw [reached_down firmware device slots steps down later ordered
          unrestored] at transport
        cases transport
    · rintro index message inputs taken state rfl plaintext inner requested
      exact (requested_iff firmware (reached_sound ..) requested inputs).mpr
        (admitted index message inputs taken plaintext inner requested)

end Run

/-! ## A request that is not reached -/

def sampleMessage (content : Content) : Message where
  content
  hasNext := false
  hello := sampleHello 1 2 0 255
  confirm := sampleConfirm (sampleHandshake (sampleHello 1 2 0 255) 1000 7)
  resume := ⟨0, [], 0⟩
  envelope := ⟨0, 0, 0, rpcChannel, [], []⟩
  channel := rpcChannel
  credits := 1
  resumeSequence := 0

/-- Messages are told by one byte. -/
def sampleFirmware : Firmware where
  crypto := .sample
  authenticate _ := .zero _
  decode
    | [1] => some (sampleMessage .poisonChannelOpen)
    | [2] => some (sampleMessage .poisonPackageCatalogRequest)
    | _ => none

def sampleDevice : PairingDevice := PairingDevice.init.registryInit sampleFirmware.authenticate

def sampleReceive (message : Message) : Step :=
  .receive message ⟨2000, sampleEntropy 7, true, true, none⟩

def samplePairs : List Step :=
  [.receive (sampleMessage .poisonPairingHello) ⟨1000, sampleEntropy 7, true, true, none⟩,
    sampleReceive (sampleMessage .poisonPairingConfirm)]

def sampleEnvelope (sequence : UInt64) (byte : UInt8) : Message :=
  let session := (reached sampleFirmware sampleDevice (fun _ => none) samplePairs 2).secure
  match ({ session with transmitKey := session.receiveKey, nextTxSequence := sequence }.encryptTx
      .sample 0 rpcChannel [byte]).1 with
  | .error _ => sampleMessage .empty
  | .ok sealed =>
    { sampleMessage .poisonSessionEnvelope with
      envelope := ⟨session.sessionId, sequence, 0, rpcChannel, sealed.ciphertext,
        sealed.tag.bytes⟩ }

/-- The owner opens the channel and asks for the package catalog. -/
def sampleRun : List Step :=
  samplePairs ++ [sampleReceive (sampleEnvelope 0 1), sampleReceive (sampleEnvelope 1 2)]

/-- The session that is asked. -/
def sampleState : RpcSession := reached sampleFirmware sampleDevice (fun _ => none) sampleRun 3

/-- The owner, with all capabilities, does not reach the handler of the catalog. -/
theorem catalog_unreached :
    ¬ Gate sampleFirmware sampleDevice (fun _ => none) sampleRun := by
  intro gate
  have requested : Requested sampleFirmware sampleState (sampleEnvelope 1 2) [2]
      (sampleMessage .poisonPackageCatalogRequest) := by
    refine ⟨⟨by decide +kernel, by decide +kernel, by decide +kernel, by decide +kernel,
      by decide +kernel, by decide +kernel, ?_⟩, rfl, rfl, by decide +kernel, by decide +kernel,
      by decide +kernel⟩
    have opens : (FixedBytes.ofList? 16 (sampleEnvelope 1 2).envelope.authenticationTag).map
        (fun tag => (sampleState.secure.decryptRx .sample 1 0 rpcChannel [2] tag).1.toOption) =
          some (some [2]) := by
      decide +kernel
    obtain ⟨tag, isTag, isText⟩ := Option.map_eq_some_iff.mp opens
    cases opened : sampleState.secure.decryptRx .sample 1 0 rpcChannel [2] tag with
    | mk answer received =>
      rw [opened] at isText
      cases answer with
      | error => cases isText
      | ok plaintext =>
        obtain rfl := Option.some.inj isText
        refine ⟨tag, received, isTag, ?_⟩
        have fields : (sampleEnvelope 1 2).envelope.sequence = 1 ∧
            (sampleEnvelope 1 2).envelope.acknowledgement = 0 ∧
            (sampleEnvelope 1 2).envelope.channel = rpcChannel ∧
            (sampleEnvelope 1 2).envelope.payload = [2] := by
          decide +kernel
        rw [fields.1, fields.2.1, fields.2.2.1, fields.2.2.2]
        exact opened
  obtain ⟨call, isCall, isContent⟩ := gate.reaches 3 (sampleEnvelope 1 2) _ rfl sampleState rfl [2]
    _ requested
  have handlers : (sampleState.worker sampleFirmware (sampleEnvelope 1 2)
      ⟨2000, sampleEntropy 7, true, true, none⟩).1.map Prod.fst = [.poisonSessionEnvelope] := by
    decide +kernel
  have isHandler := List.mem_map_of_mem (f := Prod.fst) isCall
  rw [handlers, List.mem_singleton, isContent] at isHandler
  cases isHandler

end PoisonedOS.SecureDispatch
