import PoisonedOS.Audit.Chain
import PoisonedOS.Library.Infixes
import PoisonedOS.Library.Runs
import PoisonedOS.Pairing.Store
import PoisonedOS.Rpc.System
import PoisonedOS.Session.Policy
import PoisonedOS.Session.Session

/-!
# The audit of package operations

After a package operation has been processed its outcome is appended to the audit chain,
with the package's identifier and the result in the metadata. Nothing looks at whether the
chain accepted the event.

The metadata contains text chosen by the client, so whether an operation leaves a trace
depends on the identifier it names.
-/

namespace PoisonedOS

/-- `audit_actions`. -/
def PackageOperation.auditAction : PackageOperation → CString
  | .inspect => .literal "package.inspect"
  | .importArchive => .literal "package.import"
  | .stage => .literal "package.stage"
  | .verify => .literal "package.verify"
  | .activate => .literal "package.activate"
  | .health => .literal "package.health"
  | .disable => .literal "package.disable"
  | .enable => .literal "package.enable"
  | .remove => .literal "package.remove"
  | .rollback => .literal "package.rollback"
  | .quarantine => .literal "package.quarantine"

/-- The first bytes of a string, as a precision in a format cuts it. -/
def CString.truncate (value : CString) (count : Nat) : CString where
  bytes := value.bytes.take count
  noNul := fun stored => value.noNul (List.mem_of_mem_take stored)

/-- `"id=%.24s;result=%.28s"`, cut at the size of its buffer. -/
def packageAuditMetadata (packageId result : CString) : CString :=
  (CString.append (.literal "id=") (CString.append (packageId.truncate 24)
    (CString.append (.literal ";result=") (result.truncate 28)))).truncate auditMetadataMax

/-- A processed package request with what its audit reads: the session's identity, the
acknowledgement and the command it came with, and the time. -/
structure AuditedCall extends PackageCall where
  commandId : UInt32
  authority : PoisonSession
  acknowledgement : UInt64
  nowMs : UInt64

/-- The device, the sessions and the audit chain. -/
structure AuditedPackages (Tree : Type) where
  packages : PackageSystem Tree
  chain : AuditChain

namespace AuditedPackages

variable {Tree : Type} (sha256 : List UInt8 → Digest)
  (extract : Option (List UInt8) → VerifiedArchive → Traced (Option Tree) Bool)

/-- The actor's digest of `rpc_session_get_audit_context`. -/
def actorDigest (call : AuditedCall) : Digest :=
  sha256 ((CString.literal "poison-rpc-actor-v1").bytes ++
    (bytes64 call.authority.sessionId ++ (call.authority.role.number ::
      bytes32 call.authority.grantedCapabilities)))

/-- The correlation digest of `rpc_session_get_audit_context`. -/
def correlationId (call : AuditedCall) : Digest :=
  sha256 ((CString.literal "poison-rpc-correlation-v1").bytes ++
    (bytes64 call.authority.sessionId ++ (bytes64 call.acknowledgement ++
      bytes32 call.commandId)))

/-- `rpc_poison_packages_audit`: what is appended after a processed request. A request
without a status, or with a number that is no operation, appends nothing. -/
def audit (chain : AuditChain) (call : AuditedCall) (outcome : ProcessOutcome) :
    Option (AuditEvent × AuditChain) :=
  match outcome.status with
  | none => none
  | some status =>
    if status.result.isEmpty then none
    else
      match PackageOperation.ofWire call.request.operation with
      | none => none
      | some operation =>
        chain.append sha256 (actorDigest sha256 call) operation.auditAction (.literal "package")
          (if outcome.result then .allowed else .denied) call.nowMs (correlationId sha256 call)
          (packageAuditMetadata call.request.packageId status.result)

/-- The request is processed and its outcome offered to the chain. -/
def step (call : AuditedCall) (system : AuditedPackages Tree) : AuditedPackages Tree where
  packages := PackageSystem.step sha256 extract system.packages call.toPackageCall
  chain := ((audit sha256 system.chain call
    (PackageSystem.outcome sha256 extract system.packages call.toPackageCall).value).map
      Prod.snd).getD system.chain

def AppendsNamed (before after : AuditChain) (operation : UInt32) (succeeded : Bool) : Prop :=
  ∃ name event, PackageOperation.ofWire operation = some name ∧
    after = before.push event ∧ event.eventId = before.nextEventId ∧
    event.priorDigest = before.lastDigest ∧ event.action = name.auditAction ∧
    event.decision = if succeeded then .allowed else .denied

/-- A request whose audit can be appended: it names a package and one of the operations,
the first 24 bytes of the identifier are printable and contain none of the forbidden words,
and the two digests of its session are not zero. -/
structure Auditable (call : AuditedCall) : Prop where
  named : call.request.packageId.isEmpty = false
  operation : (PackageOperation.ofWire call.request.operation).isSome = true
  printable : (call.request.packageId.truncate 24).bytes.all isPrintable = true
  harmless : auditForbidden.any (call.request.packageId.truncate 24).contains = false
  actor : auditDigestValid (actorDigest sha256 call) = true
  correlation : auditDigestValid (correlationId sha256 call) = true

end AuditedPackages

variable (name : ResultName)

/-- Every result has a text. -/
theorem ResultName.text_nonempty : name.text.isEmpty = false := by
  cases name <;> decide

/-- No result contains a forbidden word. -/
theorem ResultName.text_harmless :
    auditForbidden.any (name.text.truncate 28).contains = false := by
  cases name <;> decide

/-- Every result is printable. -/
theorem ResultName.text_printable :
    (name.text.truncate 28).bytes.all isPrintable = true := by
  cases name <;> decide

/-- A request that names a package gets a status with a result; one that does not gets
none. -/
theorem RpcPackages.process_status {Tree : Type} (sha256 : List UInt8 → Digest)
    (extract : Option (List UInt8) → VerifiedArchive → Traced (Option Tree) Bool)
    (packages : RpcPackages) (request : PackageOperationRequest)
    (verified : Option VerifiedArchive) (context : Option RequestContext)
    (environment : Environment) (device : Device Tree) :
    (request.packageId.isEmpty = true ∧
      (packages.process sha256 extract request verified context environment device).value.status =
        none) ∨
    (request.packageId.isEmpty = false ∧ ∃ (status : PackageOperationStatus) (name : ResultName),
      (packages.process sha256 extract request verified context environment device).value.status =
        some status ∧ status.result = name.text) := by
  cases named : request.packageId.isEmpty with
  | true =>
    left
    refine ⟨rfl, ?_⟩
    simp only [process, named, ↓reduceIte]
    rfl
  | false =>
    right
    refine ⟨rfl, ?_⟩
    obtain ⟨empty, -⟩ | ⟨-, run⟩ | ⟨-, -, run⟩ :=
      packages.process_run sha256 extract request verified context environment device
    · rw [named] at empty
      cases empty
    · rw [run]
      exact ⟨_, .outOfMemory, rfl, rfl⟩
    · rw [run]
      exact ⟨_, _, rfl, rfl⟩

namespace AuditedPackages

/-- The bytes of the metadata. -/
theorem metadata_bytes (packageId result : CString) :
    (packageAuditMetadata packageId result).bytes =
      [105, 100] ++ 61 :: ((packageId.truncate 24).bytes ++ 59 ::
        ([114, 101, 115, 117, 108, 116] ++ 61 :: (result.truncate 28).bytes)) := by
  have label : (CString.literal "id=").bytes = [105, 100, 61] := by decide
  have middle : (CString.literal ";result=").bytes = [59, 114, 101, 115, 117, 108, 116, 61] := by
    decide
  simp only [packageAuditMetadata, CString.truncate, CString.append, label, middle]
  refine (List.take_of_length_le ?_).trans (by simp)
  simp only [List.length_append, List.length_cons, List.length_nil, List.length_take,
    auditMetadataMax]
  omega

/-- A forbidden word has neither of the separators and is not part of the labels. -/
theorem forbidden_separate : ∀ word ∈ auditForbidden, (61 : UInt8) ∉ word.bytes ∧
    (59 : UInt8) ∉ word.bytes ∧ ¬ word.bytes <:+: [105, 100] ∧
    ¬ word.bytes <:+: [114, 101, 115, 117, 108, 116] := by
  decide

theorem metadata_contains {word : CString} (forbidden : word ∈ auditForbidden)
    (packageId : CString) (name : ResultName) :
    (packageAuditMetadata packageId name.text).contains word =
      (packageId.truncate 24).contains word := by
  obtain ⟨noEquals, noSemicolon, notFirst, notSecond⟩ := forbidden_separate word forbidden
  have notResult : ¬ word.bytes <:+: (name.text.truncate 28).bytes := by
    have harmless := List.any_eq_false.mp name.text_harmless word forbidden
    simpa [CString.contains] using harmless
  rw [Bool.eq_iff_iff]
  simp only [CString.contains, decide_eq_true_eq, metadata_bytes]
  rw [Infixes.infix_append_separator noEquals, Infixes.infix_append_separator noSemicolon,
    Infixes.infix_append_separator noEquals]
  simp only [notFirst, notSecond, notResult, false_or, or_false]

variable (packageId : CString)

/-- So the metadata contains one at all exactly when the identifier does. -/
theorem metadata_harmless (name : ResultName) :
    auditForbidden.any (packageAuditMetadata packageId name.text).contains =
      auditForbidden.any (packageId.truncate 24).contains := by
  rw [Bool.eq_iff_iff, List.any_eq_true, List.any_eq_true]
  constructor
  · rintro ⟨word, forbidden, occurs⟩
    exact ⟨word, forbidden, metadata_contains forbidden packageId name ▸ occurs⟩
  · rintro ⟨word, forbidden, occurs⟩
    exact ⟨word, forbidden, (metadata_contains forbidden packageId name).symm ▸ occurs⟩

/-- The metadata is printable exactly when the identifier is. -/
theorem metadata_printable (name : ResultName) :
    (packageAuditMetadata packageId name.text).bytes.all isPrintable =
      (packageId.truncate 24).bytes.all isPrintable := by
  have first : ([105, 100] : List UInt8).all isPrintable = true := by decide
  have second : ([114, 101, 115, 117, 108, 116] : List UInt8).all isPrintable = true := by decide
  have equals : isPrintable 61 = true := by decide
  have semicolon : isPrintable 59 = true := by decide
  simp only [metadata_bytes, List.all_append, List.all_cons, first, second, equals, semicolon,
    name.text_printable, Bool.true_and, Bool.and_true]

/-- The metadata fits its buffer and is not empty. -/
theorem metadata_length (name : ResultName) :
    (packageAuditMetadata packageId name.text).isEmpty = false ∧
      (packageAuditMetadata packageId name.text).length ≤ auditMetadataMax := by
  constructor
  · rw [Bool.eq_false_iff, ne_eq, CString.isEmpty_iff, metadata_bytes]
    simp
  · simp only [CString.length, packageAuditMetadata, CString.truncate, List.length_take]
    omega

/-- The metadata is safe exactly when the identifier is printable and harmless. -/
theorem metadata_safe (name : ResultName) :
    auditMetadataSafe (packageAuditMetadata packageId name.text) =
      (!auditForbidden.any (packageId.truncate 24).contains &&
        (packageId.truncate 24).bytes.all isPrintable) := by
  obtain ⟨nonempty, fits⟩ := metadata_length packageId name
  simp only [auditMetadataSafe, auditTextValid, metadata_harmless, metadata_printable, nonempty,
    fits, decide_true, Bool.not_false, Bool.true_and]

/-- The names of the operations and of the resource are accepted texts. -/
theorem action_valid (operation : PackageOperation) :
    auditTextValid operation.auditAction auditTextMax = true := by
  cases operation <;> decide

theorem resource_valid : auditTextValid (.literal "package") auditTextMax = true := by decide

variable {Tree : Type} {sha256 : List UInt8 → Digest}
  {extract : Option (List UInt8) → VerifiedArchive → Traced (Option Tree) Bool}
  {system : AuditedPackages Tree} {call : AuditedCall}

/-- What processing a call returns. -/
def returned (sha256 : List UInt8 → Digest)
    (extract : Option (List UInt8) → VerifiedArchive → Traced (Option Tree) Bool)
    (system : AuditedPackages Tree) (call : AuditedCall) : ProcessOutcome :=
  (PackageSystem.outcome sha256 extract system.packages call.toPackageCall).value

theorem audit_named (sha256 : List UInt8 → Digest)
    (extract : Option (List UInt8) → VerifiedArchive → Traced (Option Tree) Bool)
    (system : AuditedPackages Tree) (named : call.request.packageId.isEmpty = false)
    (chain : AuditChain) :
    ∃ name : ResultName, audit sha256 chain call (returned sha256 extract system call) =
      match PackageOperation.ofWire call.request.operation with
      | none => none
      | some operation =>
        chain.append sha256 (actorDigest sha256 call) operation.auditAction (.literal "package")
          (if (returned sha256 extract system call).result then .allowed else .denied) call.nowMs
          (correlationId sha256 call)
          (packageAuditMetadata call.request.packageId name.text) := by
  obtain ⟨empty, -⟩ | ⟨-, status, name, filled, result⟩ :=
    (system.packages.sessions call.session).process_status sha256 extract call.request
      call.verified call.context call.environment system.packages.device
  · rw [named] at empty
    cases empty
  · refine ⟨name, ?_⟩
    have returnedStatus : (returned sha256 extract system call).status = some status := filled
    simp only [audit, returnedStatus, result, name.text_nonempty, Bool.false_eq_true, ↓reduceIte]

/-- A call that names no package offers nothing. -/
theorem audit_unnamed (unnamed : call.request.packageId.isEmpty = true) (chain : AuditChain) :
    audit sha256 chain call (returned sha256 extract system call) = none := by
  obtain ⟨-, absent⟩ | ⟨named, -⟩ :=
    (system.packages.sessions call.session).process_status sha256 extract call.request
      call.verified call.context call.environment system.packages.device
  · have returnedStatus : (returned sha256 extract system call).status = none := absent
    simp only [audit, returnedStatus]
  · rw [unnamed] at named
    cases named

/-- The chain's checks on a call come down to its identifier and its two digests. -/
theorem acceptable_call (operation : PackageOperation) (name : ResultName) :
    AuditChain.acceptable (actorDigest sha256 call) operation.auditAction (.literal "package")
      (correlationId sha256 call) (packageAuditMetadata call.request.packageId name.text) =
      (auditDigestValid (actorDigest sha256 call) &&
        auditDigestValid (correlationId sha256 call) &&
        (!auditForbidden.any (call.request.packageId.truncate 24).contains &&
          (call.request.packageId.truncate 24).bytes.all isPrintable)) := by
  simp only [AuditChain.acceptable, action_valid, resource_valid, metadata_safe, Bool.and_true]

theorem step_chain (sha256 : List UInt8 → Digest)
    (extract : Option (List UInt8) → VerifiedArchive → Traced (Option Tree) Bool)
    (system : AuditedPackages Tree) (call : AuditedCall) :
    (step sha256 extract call system).chain =
      ((audit sha256 system.chain call (returned sha256 extract system call)).map
        Prod.snd).getD system.chain := rfl

theorem step_auditable (counter : system.chain.nextEventId ≠ 0)
    (auditable : Auditable sha256 call) :
    AppendsNamed system.chain (step sha256 extract call system).chain call.request.operation
      (returned sha256 extract system call).result := by
  obtain ⟨name, offered⟩ := audit_named sha256 extract system auditable.named system.chain
  obtain ⟨operation, known⟩ := Option.isSome_iff_exists.mp auditable.operation
  have accepted : AuditChain.acceptable (actorDigest sha256 call) operation.auditAction
      (.literal "package") (correlationId sha256 call)
      (packageAuditMetadata call.request.packageId name.text) = true := by
    simp only [acceptable_call, auditable.actor, auditable.correlation, auditable.harmless,
      auditable.printable, Bool.not_false, Bool.and_self]
  obtain ⟨event, appended, fields, -⟩ := AuditChain.append_accepted sha256
    (if (returned sha256 extract system call).result then .allowed else .denied) call.nowMs counter
    accepted
  simp only [known, appended] at offered
  refine ⟨operation, event, known, ?_, ?_, ?_, ?_, ?_⟩
  · rw [step_chain, offered]
    rfl
  all_goals rw [fields]

/-- A call that is not audited leaves the chain as it is. -/
theorem step_unaudited (unaudited : ¬ Auditable sha256 call) :
    (step sha256 extract call system).chain = system.chain := by
  have nothing : audit sha256 system.chain call (returned sha256 extract system call) = none := by
    cases named : call.request.packageId.isEmpty with
    | true => exact audit_unnamed named system.chain
    | false =>
      obtain ⟨name, offered⟩ := audit_named sha256 extract system named system.chain
      rw [offered]
      cases known : PackageOperation.ofWire call.request.operation with
      | none => rfl
      | some operation =>
        refine AuditChain.append_refused (Bool.eq_false_iff.mpr fun accepted => unaudited ?_)
        simp only [acceptable_call, Bool.and_eq_true, Bool.not_eq_true'] at accepted
        obtain ⟨⟨actor, correlation⟩, harmless, printable⟩ := accepted
        exact ⟨named, by rw [known]; rfl, printable, harmless, actor, correlation⟩
  rw [step_chain, nothing]
  rfl

theorem AppendsNamed.counter {before after : AuditChain} {operation : UInt32} {succeeded : Bool}
    (appended : AppendsNamed before after operation succeeded) :
    after.nextEventId = before.nextEventId + 1 := by
  obtain ⟨name, event, -, rfl, -⟩ := appended
  rfl

/-- Nothing named was appended to a chain that stayed as it was. -/
theorem not_appendsNamed_self (chain : AuditChain) (operation : UInt32) (succeeded : Bool) :
    ¬ AppendsNamed chain chain operation succeeded := by
  intro appended
  have moved := congrArg UInt64.toNat appended.counter
  have bounded := chain.nextEventId.toNat_lt
  rw [UInt64.toNat_add, UInt64.toNat_one] at moved
  omega

end AuditedPackages

namespace AuditedPackages

def inspection (packageId : CString) : AuditedCall where
  session := 0
  request :=
    { operation := PackageOperation.inspect.toWire
      packageId
      version := .literal ""
      previousVersion := .literal ""
      manifestPath := .literal ""
      candidateDigest := .literal ""
      previousDigest := .literal ""
      signingKeyId := .literal ""
      capabilityMask := 0
      releaseSequence := 0
      receivedBytes := 0
      contentBytes := 0
      previousState := 0
      protectedPackage := false
      confirmationRequired := false
      healthy := false
      confirmationToken := [] }
  verified := none
  context := some ⟨7, .owner, 1, 0, false⟩
  environment := ⟨true, true, .zero _, fun _ => none⟩
  commandId := 1
  authority := { PoisonSession.init with
    state := .active, sessionId := 7, role := .owner, grantedCapabilities := allCapabilities }
  acknowledgement := 1
  nowMs := 0

/-- A device after a start. -/
def fresh : AuditedPackages Unit := ⟨.start fun _ => ⟨7, 1, 0, 0⟩, .init⟩

end AuditedPackages

open AuditedPackages in
/-- Audit completeness: in every run of package operations over any sessions, as long as
the chain's counter has not run out, exactly one event naming the operation and its decision
is appended for an operation if and only if it is auditable. So a run of auditable
operations leaves one event for each of them. -/
theorem package_audit_iff {Tree : Type} (sha256 : List UInt8 → Digest)
    (extract : Option (List UInt8) → VerifiedArchive → Traced (Option Tree) Bool)
    (start : AuditedPackages Tree) (calls : List AuditedCall) (index : Nat) (call : AuditedCall)
    (taken : calls[index]? = some call)
    (counter : (Runs.reached (step sha256 extract) start calls index).chain.nextEventId ≠ 0) :
    AppendsNamed (Runs.reached (step sha256 extract) start calls index).chain
      (Runs.reached (step sha256 extract) start calls (index + 1)).chain call.request.operation
      (returned sha256 extract (Runs.reached (step sha256 extract) start calls index)
        call).result ↔
    Auditable sha256 call := by
  rw [Runs.reached_succ taken]
  constructor
  · intro appended
    by_contra unaudited
    rw [step_unaudited unaudited] at appended
    exact not_appendsNamed_self _ _ _ appended
  · exact step_auditable counter

open AuditedPackages in
/-- An inspection of `org.example.app` leaves its event, the second one after that of
`org.example.clock`. -/
theorem inspection_audited :
    AppendsNamed
      (Runs.reached (step sha256Of fun _ _ => pure true) fresh
        [inspection (.literal "org.example.clock"), inspection (.literal "org.example.app")]
        1).chain
      (Runs.reached (step sha256Of fun _ _ => pure true) fresh
        [inspection (.literal "org.example.clock"), inspection (.literal "org.example.app")]
        2).chain
      PackageOperation.inspect.toWire
      (returned sha256Of (fun _ _ => pure true)
        (Runs.reached (step sha256Of fun _ _ => pure true) fresh
          [inspection (.literal "org.example.clock"), inspection (.literal "org.example.app")] 1)
        (inspection (.literal "org.example.app"))).result :=
  (package_audit_iff sha256Of (fun _ _ => pure true) fresh
    [inspection (.literal "org.example.clock"), inspection (.literal "org.example.app")] 1
    (inspection (.literal "org.example.app")) rfl (by decide +kernel)).mpr
    ⟨by decide, by decide, by decide, by decide, by decide +kernel, by decide +kernel⟩

open AuditedPackages in
/-- An inspection of `org.example.keyboard` on a fresh device is processed, and nothing is
appended for it. -/
theorem inspection_unaudited :
    (returned sha256Of (fun _ _ => pure true) fresh
      (inspection (.literal "org.example.keyboard"))).status.map (·.result) =
        some (.literal "not-found") ∧
    (step sha256Of (fun _ _ => pure true) (inspection (.literal "org.example.keyboard"))
      fresh).chain = fresh.chain ∧
    ¬ AppendsNamed fresh.chain
      (step sha256Of (fun _ _ => pure true) (inspection (.literal "org.example.keyboard"))
        fresh).chain PackageOperation.inspect.toWire false := by
  have unaudited : ¬ Auditable sha256Of (inspection (.literal "org.example.keyboard")) :=
    fun auditable => absurd auditable.harmless (by decide)
  have unchanged : (step sha256Of (fun _ _ => pure true)
      (inspection (.literal "org.example.keyboard")) fresh).chain = fresh.chain :=
    step_unaudited unaudited
  refine ⟨by decide +kernel, unchanged, ?_⟩
  rw [unchanged]
  exact not_appendsNamed_self _ _ _

end PoisonedOS
