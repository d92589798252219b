import PoisonedOS.Archive.Verified
import PoisonedOS.Packages.ContentUpdate
import PoisonedOS.Rpc.Confirmation

/-!
# The content-update engine

The engine carries one firmware update at a time from import to its health
report across a reboot. What it must remember over the reboot is saved in one
state file after each request; at boot the file is loaded and an update that was
activating is settled by the completion marker the updater left, by going back
to the last known good firmware, or by quarantine.

What the outside contributes is an argument: archive verification, extraction,
which files exist, whether an update can be prepared, and whether the storage
calls of saving and loading succeed. SHA-256 is a parameter. The three callbacks
are the ones a session installs.
-/

namespace PoisonedOS

/-- `PB_Poison_ContentUpdateOperation`. -/
inductive UpdateOperation where
  | inspect
  | importUpdate
  | stage
  | verify
  | activate
  | health
  | cancel
  | rollback
  | quarantine
deriving DecidableEq, Repr

/-- The operation with a wire number. -/
def UpdateOperation.ofWire (number : UInt32) : Option UpdateOperation :=
  [inspect, importUpdate, stage, verify, activate, health, cancel, rollback,
    quarantine][number.toNat]?

/-- `PB_Poison_ContentUpdateRequest`, the fields that are read. -/
structure UpdateRequest where
  operation : UInt32
  updateId : CString
  manifestPath : CString
  candidateDigest : CString
  receivedBytes : UInt32
  confirmationToken : List UInt8
  healthy : Bool
deriving DecidableEq

/-- `PB_Poison_ContentUpdateStatus`. -/
structure UpdateStatus where
  updateId : CString
  state : ContentUpdateState
  contentType : ContentUpdateType
  candidateDigest : CString
  previousDigest : CString
  releaseSequence : UInt32
  receivedBytes : UInt32
  contentBytes : UInt32
  confirmationRequired : Bool
  result : CString
  confirmationToken : List UInt8
deriving DecidableEq

/-- The part of the engine that `RpcPoisonContentUpdateStateFile` stores. -/
structure PersistedUpdate where
  active : Bool
  update : ContentUpdate
  verifiedArchive : VerifiedArchive
  manifestPath : CString
  activationManifestPath : CString
  lastKnownGoodManifestPath : CString
  previousKnownGoodManifestPath : CString
  acceptedDigest : CString
  highestReleaseSequence : UInt32
deriving DecidableEq

/-- `RpcPoisonContentUpdate`, without the callbacks and their contexts. -/
structure UpdateEngine extends PersistedUpdate where
  confirmation : Confirmation
  hardwareTarget : UInt32
  firmwareApi : UInt32
  availableStorageBytes : UInt64
deriving DecidableEq

/-- What the outside answers while a request is processed. -/
structure UpdateAnswers where
  allocated : Bool
  /-- `poison_package_verify_archive` on a path and an expected digest. -/
  archive : CString → CString → Option VerifiedArchive
  extracted : Bool
  present : CString → Bool
  /-- `update_operation_prepare` succeeds. -/
  prepared : CString → Bool
  armed : Bool
  token : Token

/-- `POISON_CONTENT_UPDATE_MANIFEST_PATH_BYTES`, the buffer size with its
terminator. -/
def updateManifestPathBytes : Nat := 257

/-- `RPC_POISON_CONTENT_UPDATE_CONFIRMATION_TTL_MS`. -/
def updateConfirmationTtlMs : UInt32 := 60000

/-- `POISON_PACKAGE_PAYLOAD_MAX`. -/
def packagePayloadMax : Nat := 32

/-- `POISON_CONTENT_UPDATE_BOOTSTRAP_LKG_PATH`. -/
def bootstrapLastKnownGoodPath : CString := .literal "/ext/update/poison-lkg/update.fuf"

/-- A path below the update directory, without `..`, that fits its buffer and ends
in the suffix. -/
def updatePathValid (suffix path : CString) : Bool :=
  path.startsWith (.literal "/ext/update/") && !path.contains (.literal "..") &&
    decide (path.length < updateManifestPathBytes) && path.endsWith suffix

/-- `rpc_poison_content_update_manifest_path_valid`. -/
def updateManifestPathValid (path : CString) : Bool := updatePathValid (.literal ".poison") path

/-- `rpc_poison_content_update_fuf_path_valid`. -/
def updateFufPathValid (path : CString) : Bool := updatePathValid (.literal "/update.fuf") path

/-- The names of the content types, in the order of the enumeration, after the two
other names of `font-icon`. -/
def updateContentTypes : List (CString × ContentUpdateType) :=
  [(.literal "font", .fontIcon), (.literal "icon", .fontIcon),
    (.literal "application", .application), (.literal "firmware", .firmware),
    (.literal "lesson", .lesson), (.literal "tool-data", .toolData), (.literal "theme", .theme),
    (.literal "font-icon", .fontIcon), (.literal "menu", .menu), (.literal "resource", .resource),
    (.literal "ui-pack", .uiPack)]

/-- `rpc_poison_content_update_type`. -/
def updateContentType (name : CString) : Option ContentUpdateType :=
  (updateContentTypes.find? fun known => known.1 == name).map (·.2)

/-- `rpc_poison_content_update_requires_confirmation`. -/
def updateRequiresConfirmation (contentType : ContentUpdateType) : Bool :=
  contentType == .firmware || contentType == .resource || contentType == .uiPack

/-- The number of a content type. -/
def ContentUpdateType.number : ContentUpdateType → UInt32
  | .application => 0
  | .firmware => 1
  | .lesson => 2
  | .toolData => 3
  | .theme => 4
  | .fontIcon => 5
  | .menu => 6
  | .resource => 7
  | .uiPack => 8

namespace ContentUpdate

/-- The update `memset` leaves. -/
def zero : ContentUpdate where
  updateId := .literal ""
  candidateDigest := .literal ""
  previousDigest := .literal ""
  state := .discovered
  contentType := .application
  sequence := 0
  contentBytes := 0
  receivedBytes := 0
  rollbackAvailable := false
  confirmationRequired := false
  confirmationAuthorized := false
  payloadVerified := false
  healthReported := false

/-- `rpc_poison_content_update_quarantine`. -/
def quarantine (update : ContentUpdate) : Bool × ContentUpdate :=
  match update.state with
  | .healthy | .rolledBack | .quarantined => (false, update)
  | _ => (true, { update with state := .quarantined })

/-- `poison_content_update_health_arm_at`, given whether the marker is written. -/
def healthArm (update : ContentUpdate) (written : Bool) : Bool :=
  update.state == .awaitingConfirmation && update.confirmationAuthorized &&
    boundedId update.updateId && boundedDigest update.candidateDigest && update.sequence != 0 &&
    written

end ContentUpdate

/-- `PoisonContentUpdateHealthMarker`, as read from a valid marker file. -/
structure HealthMarker where
  updateId : CString
  candidateDigest : CString
  sequence : UInt32
deriving DecidableEq

/-- `poison_content_update_health_completed_at`, given the marker read at the
completion path. -/
def ContentUpdate.healthCompleted (update : ContentUpdate) (marker : Option HealthMarker) : Bool :=
  update.state == .activating && marker.any fun marker =>
    marker.updateId == update.updateId && marker.candidateDigest == update.candidateDigest &&
      marker.sequence == update.sequence

namespace UpdateEngine

/-- `rpc_poison_content_update_init`. -/
def init : UpdateEngine where
  active := false
  update := .zero
  verifiedArchive := {
    contentType := .literal ""
    packageId := .literal ""
    version := .literal ""
    firmwareApi := .literal ""
    entrypoint := .literal ""
    contentSha256 := .literal ""
    signingKeyId := .literal ""
    archiveSha256 := .literal ""
    capabilityMask := 0
    archiveBytes := 0
    releaseSequence := 0
    capabilities := []
    payloads := [] }
  manifestPath := .literal ""
  activationManifestPath := .literal ""
  lastKnownGoodManifestPath := .literal ""
  previousKnownGoodManifestPath := .literal ""
  acceptedDigest := .ofBytes (List.replicate 64 48)
  highestReleaseSequence := 0
  confirmation := .zero
  hardwareTarget := 0
  firmwareApi := 0
  availableStorageBytes := 0

/-- `rpc_poison_content_update_set_environment` as a session calls it: with the
engine's own highest release sequence. -/
def setEnvironment (engine : UpdateEngine) (hardwareTarget firmwareApi : UInt32)
    (availableStorageBytes : UInt64) : UpdateEngine :=
  { engine with hardwareTarget, firmwareApi, availableStorageBytes }

/-- `rpc_poison_content_update_set_last_known_good`. -/
def setLastKnownGood (engine : UpdateEngine) (path : CString) (present : CString → Bool) :
    Bool × UpdateEngine :=
  if updateFufPathValid path && present path then
    (true, { engine with lastKnownGoodManifestPath := path })
  else (false, engine)

/-- `rpc_poison_content_update_promote_last_known_good`. -/
def promoteLastKnownGood (engine : UpdateEngine) (path : CString) (present : CString → Bool) :
    Bool × UpdateEngine :=
  match engine.setLastKnownGood path present with
  | (false, engine) => (false, engine)
  | (true, promoted) =>
    (true, { promoted with previousKnownGoodManifestPath := engine.lastKnownGoodManifestPath })

/-- `rpc_poison_content_update_id_matches`. -/
def idMatches (engine : UpdateEngine) (updateId : CString) : Bool :=
  engine.active && engine.update.updateId == updateId

/-- `rpc_poison_content_update_fill_status`. -/
def fillStatus (engine : UpdateEngine) (result : CString) : UpdateStatus where
  updateId := engine.update.updateId
  state := engine.update.state
  contentType := engine.update.contentType
  candidateDigest := engine.update.candidateDigest
  previousDigest := engine.update.previousDigest
  releaseSequence := engine.update.sequence
  receivedBytes := engine.update.receivedBytes
  contentBytes := engine.update.contentBytes
  confirmationRequired := engine.update.confirmationRequired
  result
  confirmationToken :=
    if engine.confirmation.active && !engine.confirmation.consumed then
      engine.confirmation.token.bytes
    else []

/-- The path `rpc_poison_verify_content_update` extracts a verified archive to. -/
def extractionPath (archive : VerifiedArchive) : CString :=
  (CString.literal "/ext/update/.poison-verified/").append
    (archive.packageId.append ((CString.literal "/").append archive.version))

/-- `rpc_poison_verify_content_update`: the archive it fills in, and the engine,
whose activation path it sets while the update is staged. -/
def verifyArchive (engine : UpdateEngine) (path digest : CString) (answers : UpdateAnswers) :
    Option VerifiedArchive × UpdateEngine :=
  match answers.archive path digest with
  | none => (none, engine)
  | some archive =>
    if archive.contentType != .literal "firmware" || archive.entrypoint != .literal "update.fuf" then
      (none, engine)
    else if engine.active && engine.update.state == .staged then
      let destination := extractionPath archive
      let activation := destination.append ((CString.literal "/").append archive.entrypoint)
      if decide (updateManifestPathBytes ≤ destination.length) || !answers.extracted ||
          decide (updateManifestPathBytes ≤ activation.length) then
        (none, { engine with activationManifestPath := .literal "" })
      else (some archive, { engine with activationManifestPath := activation })
    else (some archive, engine)

def admission (engine : UpdateEngine) (archive : VerifiedArchive)
    (contentType : ContentUpdateType) (rollbackAvailable : Bool) :
    ContentUpdateManifest × ContentUpdateEnvironment :=
  ({ contentType
     updateId := archive.packageId
     candidateDigest := archive.archiveSha256
     previousDigest := engine.acceptedDigest
     hardwareTarget := engine.hardwareTarget
     minimumApi := engine.firmwareApi
     maximumApi := engine.firmwareApi
     releaseSequence := archive.releaseSequence
     contentBytes := archive.archiveBytes
     signatureValid := true
     signerRevoked := false
     rollbackAvailable
     protectedTarget := updateRequiresConfirmation contentType },
   { hardwareTarget := engine.hardwareTarget
     firmwareApi := engine.firmwareApi
     highestReleaseSequence := engine.highestReleaseSequence
     availableStorageBytes := engine.availableStorageBytes.toUInt32 })

/-- `rpc_poison_content_update_import`. It does not look at the update the engine
already carries. -/
def importUpdate (engine : UpdateEngine) (request : UpdateRequest) (answers : UpdateAnswers) :
    Bool × UpdateEngine :=
  if !answers.allocated then (false, engine)
  else
    match engine.verifyArchive request.manifestPath request.candidateDigest answers with
    | (none, engine) => (false, engine)
    | (some archive, engine) =>
      match updateContentType archive.contentType with
      | none => (false, engine)
      | some contentType =>
        if archive.archiveSha256 != request.candidateDigest ||
            (contentType == .firmware && archive.entrypoint != .literal "update.fuf") ||
            !updateManifestPathValid request.manifestPath || engine.hardwareTarget == 0 ||
            engine.firmwareApi == 0 || engine.availableStorageBytes == 0 ||
            engine.availableStorageBytes > 0xFFFFFFFF then
          (false, engine)
        else
          let rollbackAvailable := updateFufPathValid engine.lastKnownGoodManifestPath &&
            answers.present engine.lastKnownGoodManifestPath
          let (manifest, environment) := engine.admission archive contentType rollbackAvailable
          match ContentUpdate.admitUpdate manifest environment with
          | (.ok, some admitted) =>
            (true, { engine with
              update := admitted
              manifestPath := request.manifestPath
              verifiedArchive := archive
              activationManifestPath := .literal ""
              active := true
              confirmation := .zero })
          | _ => (false, engine)

/-- `rpc_poison_content_update_stage`. -/
def stage (engine : UpdateEngine) (request : UpdateRequest) : Bool × UpdateEngine :=
  let (opened, update) :=
    if engine.update.state == .discovered then engine.update.transition .receiving
    else (true, engine.update)
  if !opened then (false, { engine with update })
  else
    match update.receive request.receivedBytes with
    | (false, update) => (false, { engine with update })
    | (true, update) =>
      if update.receivedBytes == update.contentBytes then
        let (staged, update) := update.transition .staged
        (staged, { engine with update })
      else (true, { engine with update })

section Confirmation

variable (sha256 : List UInt8 → Digest)

/-- `rpc_poison_content_update_confirmation_digest`. -/
def confirmationDigest (engine : UpdateEngine) (domain : CString) : Digest :=
  sha256 (domain.bytes ++ engine.update.updateId.bytes ++ engine.update.candidateDigest.bytes ++
    engine.update.previousDigest.bytes ++ bytes32 engine.update.sequence ++
    bytes32 engine.update.contentType.number)

/-- `rpc_poison_content_update_confirmation_matches`. The probe is a copy, approved
against its own digests as if the physical confirmation had been given. -/
def confirmationMatches (engine : UpdateEngine) (request : UpdateRequest)
    (context : Option RequestContext) : Bool :=
  match context with
  | none => false
  | some context =>
    engine.active && UpdateOperation.ofWire request.operation == some .activate &&
      engine.update.updateId == request.updateId &&
      request.confirmationToken.length == confirmationTokenBytes &&
      engine.confirmation.token.bytes == request.confirmationToken &&
      (engine.confirmation.approve context.sessionId context.role
        ⟨engine.confirmation.commandDigest, engine.confirmation.targetDigest,
          engine.confirmation.consequenceDigest⟩
        request.confirmationToken context.policyVersion context.nowMs true).1 == .ok

/-- The checks `rpc_poison_content_update_verify` makes of a freshly verified
archive against the imported one. -/
def sameArchive (archive imported : VerifiedArchive) : Bool :=
  archive.contentType == imported.contentType && archive.packageId == imported.packageId &&
    archive.version == imported.version && archive.entrypoint == imported.entrypoint &&
    archive.archiveSha256 == imported.archiveSha256 &&
    archive.releaseSequence == imported.releaseSequence &&
    archive.archiveBytes == imported.archiveBytes

/-- `rpc_poison_content_update_verify`. Where no confirmation can be issued the
update is staged again. -/
def verify (engine : UpdateEngine) (request : UpdateRequest) (context : Option RequestContext)
    (answers : UpdateAnswers) : Bool × UpdateEngine :=
  if !answers.allocated then (false, engine)
  else
    match engine.verifyArchive engine.manifestPath request.candidateDigest answers with
    | (none, engine) => (false, engine)
    | (some archive, engine) =>
      if !sameArchive archive engine.verifiedArchive then (false, engine)
      else
        match engine.update.verifyPayload request.candidateDigest with
        | (false, update) => (false, { engine with update })
        | (true, update) =>
          match update.transition .awaitingConfirmation with
          | (false, update) => (false, { engine with update })
          | (true, update) =>
            let engine := { engine with update }
            if !update.confirmationRequired then (true, engine)
            else
              let issued := context.bind fun context =>
                if context.sessionId == 0 then none
                else Confirmation.issue context.sessionId context.role
                  ⟨engine.confirmationDigest sha256 (.literal "update.activate.command"),
                    engine.confirmationDigest sha256 (.literal "update.activate.target"),
                    engine.confirmationDigest sha256 (.literal "update.activate.consequence")⟩
                  context.policyVersion context.nowMs updateConfirmationTtlMs true answers.token
              match issued with
              | some confirmation => (true, { engine with confirmation })
              | none =>
                (false, { engine with update := { update with
                  state := .staged
                  payloadVerified := false } })

/-- `rpc_poison_prepare_content_update`, the activation callback. -/
def prepareUpdate (engine : UpdateEngine) (path : CString) (answers : UpdateAnswers) : Bool :=
  answers.prepared path && engine.update.healthArm answers.armed

/-- `rpc_poison_content_update_activate`. -/
def activate (engine : UpdateEngine) (request : UpdateRequest) (context : Option RequestContext)
    (answers : UpdateAnswers) : Bool × UpdateEngine :=
  let (authorized, confirmation) :=
    if !engine.update.confirmationRequired then (true, engine.confirmation)
    else if !engine.confirmationMatches request context then (false, engine.confirmation)
    else
      match context with
      | none => (false, engine.confirmation)
      | some context =>
        let (result, confirmation) := engine.confirmation.approve context.sessionId context.role
          ⟨engine.confirmation.commandDigest, engine.confirmation.targetDigest,
            engine.confirmation.consequenceDigest⟩
          request.confirmationToken context.policyVersion context.nowMs context.physicalConfirmed
        (result == .ok, confirmation)
  let engine := { engine with confirmation }
  if !authorized then (false, engine)
  else
    match engine.update.confirm authorized with
    | (false, update) => (false, { engine with update })
    | (true, update) =>
      let engine := { engine with update }
      let path :=
        if engine.activationManifestPath.isEmpty then engine.manifestPath
        else engine.activationManifestPath
      if !engine.prepareUpdate path answers then (false, engine)
      else
        match update.transition .activating with
        | (false, update) => (false, { engine with update })
        | (true, update) => (true, { engine with update, confirmation := .zero })

/-- The rollback branch of `rpc_poison_content_update_process`. From a healthy
update it goes back to the previous firmware, which changes places with the last
known good one. -/
def rollback (engine : UpdateEngine) (answers : UpdateAnswers) : Bool × UpdateEngine :=
  let toPrevious := engine.update.state == .healthy
  let path :=
    if toPrevious then engine.previousKnownGoodManifestPath else engine.lastKnownGoodManifestPath
  if path.isEmpty || !answers.prepared path then (false, engine)
  else
    match engine.update.rollback with
    | (false, update) => (false, { engine with update })
    | (true, update) =>
      let engine := { engine with update, acceptedDigest := update.previousDigest }
      (true, if toPrevious then
        { engine with
          lastKnownGoodManifestPath := path
          previousKnownGoodManifestPath := engine.lastKnownGoodManifestPath }
        else engine)

/-- The branches of `rpc_poison_content_update_process` for an operation on the
update the engine carries: the result and its name, and the engine. -/
def operate (engine : UpdateEngine) (operation : UpdateOperation) (request : UpdateRequest)
    (context : Option RequestContext) (answers : UpdateAnswers) : Bool × CString × UpdateEngine :=
  match operation with
  | .inspect => (!request.healthy, .literal "inspected", engine)
  | .importUpdate => (false, .literal "imported", engine)
  | .stage =>
    let (result, engine) := engine.stage request
    (result, if engine.update.state == .staged then .literal "staged" else .literal "receiving",
      engine)
  | .verify =>
    let (result, engine) := engine.verify sha256 request context answers
    (result, .literal "verified", engine)
  | .activate =>
    let (result, engine) := engine.activate request context answers
    (result, .literal "activating", engine)
  | .health =>
    (true, match engine.update.state with
      | .healthy => .literal "healthy"
      | .rolledBack => .literal "rolled-back"
      | _ => .literal "pending-health", engine)
  | .cancel =>
    let (result, update) := engine.update.cancel
    (result, .literal "cancelled", { engine with update })
  | .rollback =>
    let (result, engine) := engine.rollback answers
    (result, .literal "rolled-back", engine)
  | .quarantine =>
    let (result, update) := engine.update.quarantine
    (result, .literal "quarantined", { engine with update })

/-- `rpc_poison_content_update_process`: the status it fills in when it succeeds,
and the engine it leaves. -/
def process (engine : UpdateEngine) (request : UpdateRequest) (context : Option RequestContext)
    (answers : UpdateAnswers) : Option UpdateStatus × UpdateEngine :=
  match UpdateOperation.ofWire request.operation with
  | some .importUpdate =>
    match engine.importUpdate request answers with
    | (false, engine) => (none, engine)
    | (true, engine) => (some (engine.fillStatus (.literal "imported")), engine)
  | operation =>
    if !engine.idMatches request.updateId then (none, engine)
    else
      match operation with
      | none => (none, engine)
      | some operation =>
        match engine.operate sha256 operation request context answers with
        | (false, _, engine) => (none, engine)
        | (true, name, engine) => (some (engine.fillStatus name), engine)

end Confirmation

end UpdateEngine

/-- `rpc_poison_content_update_persisted_valid`. The magic and the version are
constants, and the ranges of the two enumerations hold of every value. -/
def PersistedUpdate.persistedValid (state : PersistedUpdate) : Bool :=
  let pathOrEmpty := fun path : CString => path.isEmpty || updateFufPathValid path
  boundedDigest state.acceptedDigest && pathOrEmpty state.activationManifestPath &&
    pathOrEmpty state.lastKnownGoodManifestPath &&
    pathOrEmpty state.previousKnownGoodManifestPath &&
    (!state.active ||
      (state.update.sequence > 0 && state.update.contentBytes > 0 &&
        state.update.receivedBytes ≤ state.update.contentBytes &&
        state.update.updateId == state.verifiedArchive.packageId &&
        state.update.candidateDigest == state.verifiedArchive.archiveSha256 &&
        state.update.sequence == state.verifiedArchive.releaseSequence &&
        state.update.contentBytes == state.verifiedArchive.archiveBytes &&
        boundedDigest state.update.candidateDigest && boundedDigest state.update.previousDigest &&
        updateManifestPathValid state.manifestPath &&
        decide (0 < state.verifiedArchive.payloads.length) &&
        decide (state.verifiedArchive.payloads.length ≤ packagePayloadMax)))

/-- The engine in memory and the state file it was last saved to. -/
structure UpdateSystem where
  engine : UpdateEngine
  file : Option PersistedUpdate
deriving DecidableEq

/-- What the outside answers at boot. -/
structure BootAnswers where
  read : Bool
  present : CString → Bool
  bootstrapSaved : Bool
  normalBoot : Bool
  allocated : Bool
  /-- The valid marker read at the completion path. -/
  marker : Option HealthMarker
  prepared : CString → Bool
  saved : Bool

namespace UpdateSystem

def init : UpdateSystem := ⟨.init, none⟩

/-- `rpc_poison_content_update_save` to the state path, given whether the storage
calls succeed. The file is replaced by the final rename alone. -/
def save (system : UpdateSystem) (saved : Bool) : Bool × UpdateSystem :=
  if system.engine.persistedValid && saved then
    (true, { system with file := some system.engine.toPersistedUpdate })
  else (false, system)

/-- `rpc_poison_content_update_load` from the state path, given whether the file
can be read. -/
def load (system : UpdateSystem) (read : Bool) : Bool × UpdateSystem :=
  match system.file with
  | none => (false, system)
  | some file =>
    if read && file.persistedValid then
      (true, { system with engine := { system.engine with toPersistedUpdate := file } })
    else (false, system)

/-- `rpc_content_update_reconcile_boot` on an activating update: whether it was
settled and saved, and the system then. -/
def settle (system : UpdateSystem) (answers : BootAnswers) : Bool × UpdateSystem :=
  let engine := system.engine
  let (healthy, promoted) :=
    if engine.update.healthCompleted answers.marker then
      engine.promoteLastKnownGood engine.activationManifestPath answers.present
    else (false, engine)
  let (reconciled, settled) :=
    if healthy then
      match promoted.update.reportHealth true with
      | (false, update) => (false, { promoted with update })
      | (true, update) =>
        (true, { promoted with
          update
          acceptedDigest := update.candidateDigest
          highestReleaseSequence := update.sequence })
    else if !promoted.lastKnownGoodManifestPath.isEmpty &&
        answers.prepared promoted.lastKnownGoodManifestPath then
      let (reverted, update) := promoted.update.reportHealth false
      (reverted, { promoted with update })
    else (true, { promoted with update := { promoted.update with state := .quarantined } })
  if reconciled then { system with engine := settled }.save answers.saved else (false, system)

/-- `rpc_content_update_reconcile_boot`: the system it leaves. Where the settled
engine cannot be saved it is put back as it was. -/
def reconcileBoot (system : UpdateSystem) (answers : BootAnswers) : UpdateSystem :=
  if !system.engine.active || !answers.normalBoot then system
  else if system.engine.update.state == .activating then
    if !answers.allocated then system
    else
      match system.settle answers with
      | (true, settled) => settled
      | (false, _) => system
  else system

section Handler

variable (sha256 : List UInt8 → Digest)

/-- `rpc_poison_content_update_request_process` after its checks of the session:
the physical confirmation is asked for only where the token matches, a processed
request that can change the engine is saved, and otherwise the engine is put back
as it was. The time is read again after the user has answered. -/
def handle (system : UpdateSystem) (request : UpdateRequest) (context : RequestContext)
    (answeredMs : UInt64) (answers : UpdateAnswers) (saved : Bool) :
    Option UpdateStatus × UpdateSystem :=
  let context := { context with
    nowMs := answeredMs
    physicalConfirmed :=
      system.engine.confirmationMatches request (some context) && context.physicalConfirmed }
  match system.engine.process sha256 request (some context) answers with
  | (none, _) => (none, system)
  | (some status, engine) =>
    let operation := UpdateOperation.ofWire request.operation
    if operation == some .inspect || operation == some .health then
      (some status, { system with engine })
    else
      match { system with engine }.save saved with
      | (true, persisted) => (some status, persisted)
      | (false, _) => (none, system)

end Handler

end UpdateSystem

end PoisonedOS
