import PoisonedOS.Library.Sha256
import PoisonedOS.Rpc.Packages

/-!
# Confirmations are bound and used once

A session is a sequence of requests against one confirmation state; the manager
and the directories each request meets are arbitrary, as other sessions change
them. The confirmation state moves in three ways only: it stays, a new
confirmation replaces it, or a matching and physically approved request uses it
up. The invariant of a session follows: whatever is waiting for approval was
issued by an earlier request and has not been used since.

SHA-256 enters as a function that does not collide on the requests hashed in the
session. That the hashed bytes determine the hashed fields is proved.
-/

namespace PoisonedOS

/-- The fields of a request that its confirmation hashes. -/
structure HashedFields where
  operation : UInt32
  packageId : CString
  version : CString
  previousVersion : CString
  manifestPath : CString
  candidateDigest : CString
  previousDigest : CString
  signingKeyId : CString
  capabilityMask : UInt64
  releaseSequence : UInt32
  receivedBytes : UInt32
  contentBytes : UInt32
  previousState : UInt32
  protectedPackage : Bool
  confirmationRequired : Bool
  healthy : Bool
deriving DecidableEq

/-- Every field but the token. -/
def PackageOperationRequest.hashedFields (request : PackageOperationRequest) : HashedFields where
  operation := request.operation
  packageId := request.packageId
  version := request.version
  previousVersion := request.previousVersion
  manifestPath := request.manifestPath
  candidateDigest := request.candidateDigest
  previousDigest := request.previousDigest
  signingKeyId := request.signingKeyId
  capabilityMask := request.capabilityMask
  releaseSequence := request.releaseSequence
  receivedBytes := request.receivedBytes
  contentBytes := request.contentBytes
  previousState := request.previousState
  protectedPackage := request.protectedPackage
  confirmationRequired := request.confirmationRequired
  healthy := request.healthy

/-- The hashed bytes determine the domain and every hashed field.

Proof: read the fields off the front one after the other; a string ends at its
first zero byte, and the others have fixed widths. -/
theorem confirmation_preimage_injective {left right : PackageOperationRequest}
    {leftDomain rightDomain : CString}
    (same : confirmationPreimage left leftDomain = confirmationPreimage right rightDomain) :
    leftDomain = rightDomain ∧ left.hashedFields = right.hashedFields := by
  unfold confirmationPreimage at same
  obtain ⟨domain, same⟩ := CString.terminated_append_injective same
  obtain ⟨operation, same⟩ := bytes32_append_injective same
  obtain ⟨packageId, same⟩ := CString.terminated_append_injective same
  obtain ⟨version, same⟩ := CString.terminated_append_injective same
  obtain ⟨previousVersion, same⟩ := CString.terminated_append_injective same
  obtain ⟨manifestPath, same⟩ := CString.terminated_append_injective same
  obtain ⟨candidateDigest, same⟩ := CString.terminated_append_injective same
  obtain ⟨previousDigest, same⟩ := CString.terminated_append_injective same
  obtain ⟨signingKeyId, same⟩ := CString.terminated_append_injective same
  obtain ⟨capabilityMask, same⟩ := bytes64_append_injective same
  obtain ⟨releaseSequence, same⟩ := bytes32_append_injective same
  obtain ⟨receivedBytes, same⟩ := bytes32_append_injective same
  obtain ⟨contentBytes, same⟩ := bytes32_append_injective same
  obtain ⟨previousState, same⟩ := bytes32_append_injective same
  obtain ⟨protectedPackage, same⟩ := bytesBool_append_injective same
  obtain ⟨confirmationRequired, same⟩ := bytesBool_append_injective same
  obtain ⟨healthy, -⟩ := bytesBool_append_injective same
  refine ⟨domain, ?_⟩
  simp only [PackageOperationRequest.hashedFields, operation, packageId, version, previousVersion,
    manifestPath, candidateDigest, previousDigest, signingKeyId, capabilityMask, releaseSequence,
    receivedBytes, contentBytes, previousState, protectedPackage, confirmationRequired, healthy]

namespace RpcPackages

variable {Tree : Type} {sha256 : List UInt8 → Digest}
  {extract : Option (List UInt8) → VerifiedArchive → Traced (Option Tree) Bool}
  {packages : RpcPackages} {request : PackageOperationRequest}
  {verified : Option VerifiedArchive} {context : Option RequestContext}
  {environment : Environment}

def needsConfirmation (request : PackageOperationRequest) : Bool :=
  (PackageOperation.ofWire request.operation).any PackageOperation.confirmed

/-- Saving neither touches the session state nor turns a failure into success. -/
theorem commit_outcome (previous : PackageManager) (outcome : OperationOutcome)
    (device : Device Tree) :
    let run := commit request environment previous outcome device
    run.value.packages = outcome.packages ∧ (run.value.result = true → outcome.result = true) := by
  refine ⟨rfl, fun succeeded => ?_⟩
  simp only [commit, Traced.bind_run, Traced.pure_run, Bool.and_eq_true] at succeeded
  exact succeeded.2

variable {token : Token}

/-- An issue that fails leaves the session state alone. -/
theorem issue_refused {after : RpcPackages}
    (refused : packages.issueConfirmation sha256 request context token = (false, after)) :
    after = packages := by
  unfold issueConfirmation at refused
  split at refused
  · exact (Prod.mk.inj refused).2.symm
  split at refused
  · exact (Prod.mk.inj refused).2.symm
  split at refused
  · exact (Prod.mk.inj refused).2.symm
  · cases refused

/-- What an issue writes, and when it is possible. -/
theorem issue_accepted {after : RpcPackages}
    (issuance : packages.issueConfirmation sha256 request context token = (true, after)) :
    ∃ given, context = some given ∧ after.confirmationActive = true ∧
      after.confirmationPackageId = request.packageId ∧
      Confirmation.issue given.sessionId given.role (boundDigests sha256 request)
        given.policyVersion given.nowMs confirmationMaxTtlMs true token =
          some after.confirmation := by
  unfold issueConfirmation at issuance
  split at issuance
  · cases issuance
  rename_i given
  split at issuance
  · cases issuance
  split at issuance
  · cases issuance
  rename_i confirmation issued
  obtain ⟨-, rfl⟩ := Prod.mk.inj issuance
  exact ⟨given, rfl, rfl, rfl, issued⟩

/-- A match was found against the very confirmation that waits, for the package
it was issued for. -/
theorem matches_active
    (matched : packages.confirmationMatches sha256 request context = true) :
    packages.confirmationActive = true ∧ packages.confirmationPackageId = request.packageId := by
  unfold confirmationMatches at matched
  split at matched
  · cases matched
  · rename_i passed
    simp only [Bool.or_eq_true, not_or, Bool.not_eq_true', Bool.not_eq_false, bne_iff_ne, ne_eq,
      not_not] at passed
    exact ⟨passed.1.1.1.1.1, passed.1.1.1.1.2⟩

/-- What requiring a confirmation can do to the session state: nothing, replace
the confirmation, or use it up. Only the last lets the operation run. -/
theorem require_confirmation_cases (packages : RpcPackages) (request : PackageOperationRequest)
    (context : Option RequestContext) (token : Token) :
    packages.requireConfirmation sha256 request context token = (false, packages) ∨
    (∃ after, packages.issueConfirmation sha256 request context token = (true, after) ∧
      packages.requireConfirmation sha256 request context token = (false, after)) ∨
    (packages.confirmationMatches sha256 request context = true ∧ ∃ given, context = some given ∧
      (packages.confirmation.approve given.sessionId given.role (boundDigests sha256 request)
        request.confirmationToken given.policyVersion given.nowMs given.physicalConfirmed).1 =
          .ok ∧
      packages.requireConfirmation sha256 request context token = (true, packages.cleared)) := by
  unfold requireConfirmation
  cases matched : packages.confirmationMatches sha256 request context with
  | false =>
    simp only [Bool.not_false, if_true]
    cases issued : packages.issueConfirmation sha256 request context token with
    | mk success after =>
      cases success with
      | true => exact .inr (.inl ⟨after, rfl, rfl⟩)
      | false => exact .inl (by rw [issue_refused issued])
  | true =>
    simp only [Bool.not_true, Bool.false_eq_true, if_false]
    cases context with
    | none => exact .inl rfl
    | some given =>
      have probed : (packages.confirmation.approve given.sessionId given.role
          (boundDigests sha256 request) request.confirmationToken given.policyVersion given.nowMs
          true).1 = .ok := by
        unfold confirmationMatches at matched
        split at matched
        · cases matched
        · simpa using matched
      rcases Confirmation.approve_after_probe probed given.physicalConfirmed with
        approved | refused
      · refine .inr (.inr ⟨trivial, given, rfl, approved, ?_⟩)
        cases approval : packages.confirmation.approve given.sessionId given.role
          (boundDigests sha256 request) request.confirmationToken given.policyVersion given.nowMs
          given.physicalConfirmed with
        | mk result confirmation =>
          rw [approval] at approved
          simp only at approved
          subst approved
          simp only [approval]
      · exact .inl (by simp only [refused])

/-- How a request moves the confirmation state, and what it can then report. A
request that needs a confirmation succeeds only by using one up. -/
inductive ConfirmationStep (sha256 : List UInt8 → Digest) (packages : RpcPackages)
    (request : PackageOperationRequest) (context : Option RequestContext) (token : Token) :
    RpcPackages → Bool → Prop where
  | kept (result : Bool) (unconfirmed : needsConfirmation request = true → result = false) :
      ConfirmationStep sha256 packages request context token packages result
  | issued (bound : PackageOperationRequest) (after : RpcPackages) (result : Bool)
      (unconfirmed : needsConfirmation request = true → result = false)
      (requested : bound = request ∨ (PackageOperation.ofWire request.operation = some .verify ∧
        bound = { request with operation := PackageOperation.activate.toWire }))
      (issuance : packages.issueConfirmation sha256 bound context token = (true, after)) :
      ConfirmationStep sha256 packages request context token after result
  | used (given : RequestContext) (result : Bool) (needed : needsConfirmation request = true)
      (isGiven : context = some given)
      (matched : packages.confirmationMatches sha256 request context = true)
      (approved : (packages.confirmation.approve given.sessionId given.role
        (boundDigests sha256 request) request.confirmationToken given.policyVersion given.nowMs
        given.physicalConfirmed).1 = .ok) :
      ConfirmationStep sha256 packages request context token packages.cleared result

/-- The three ways, as equations on the state the step leaves. -/
theorem ConfirmationStep.cases {after : RpcPackages} {result : Bool}
    (step : ConfirmationStep sha256 packages request context token after result) :
    (after = packages ∧ (needsConfirmation request = true → result = false)) ∨
    (∃ bound, (bound = request ∨ (PackageOperation.ofWire request.operation = some .verify ∧
        bound = { request with operation := PackageOperation.activate.toWire })) ∧
      packages.issueConfirmation sha256 bound context token = (true, after) ∧
      (needsConfirmation request = true → result = false)) ∨
    (∃ given, context = some given ∧ after = packages.cleared ∧
      packages.confirmationMatches sha256 request context = true ∧
      (packages.confirmation.approve given.sessionId given.role (boundDigests sha256 request)
        request.confirmationToken given.policyVersion given.nowMs given.physicalConfirmed).1 =
          .ok) := by
  cases step with
  | kept _ unconfirmed => exact .inl ⟨rfl, unconfirmed⟩
  | issued bound _ _ unconfirmed requested issuance =>
    exact .inr (.inl ⟨bound, requested, issuance, unconfirmed⟩)
  | used given _ _ isGiven matched approved =>
    exact .inr (.inr ⟨given, isGiven, rfl, matched, approved⟩)

/-- The step allows any result that is no better than an allowed one. -/
theorem ConfirmationStep.weaken {after : RpcPackages} {result weaker : Bool}
    (step : ConfirmationStep sha256 packages request context token after result)
    (noBetter : weaker = true → result = true) :
    ConfirmationStep sha256 packages request context token after weaker := by
  have refused : (needsConfirmation request = true → result = false) →
      needsConfirmation request = true → weaker = false := by
    intro unconfirmed needed
    rw [Bool.eq_false_iff]
    intro succeeded
    rw [unconfirmed needed] at noBetter
    exact nomatch noBetter succeeded
  cases step with
  | kept _ unconfirmed => exact .kept weaker (refused unconfirmed)
  | issued bound _ _ unconfirmed requested issuance =>
    exact .issued bound after weaker (refused unconfirmed) requested issuance
  | used given _ needed isGiven matched approved =>
    exact .used given weaker needed isGiven matched approved

/-- An operation behind a confirmation runs only when one is used up. -/
theorem when_confirmed_step (packages : RpcPackages)
    (body : RpcPackages → Traced (Device Tree) OperationOutcome)
    (keeps : ∀ left device, (body left device).value.packages = left)
    (needed : needsConfirmation request = true) (device : Device Tree) :
    let outcome := (packages.whenConfirmed sha256 request context environment body device).value
    ConfirmationStep sha256 packages request context environment.token outcome.packages
      outcome.result := by
  intro outcome
  simp only [outcome, whenConfirmed]
  rcases require_confirmation_cases packages request context environment.token with
    unchanged | ⟨after, issuance, refused⟩ | ⟨matched, given, isGiven, approved, granted⟩
  · rw [unchanged]
    exact .kept false fun _ => rfl
  · rw [refused]
    exact .issued request after false (fun _ => rfl) (.inl rfl) issuance
  · rw [granted]
    rw [keeps packages.cleared device]
    exact .used given _ needed isGiven matched approved

/-- A verification issues a confirmation or leaves the state alone. -/
theorem process_verify_step (packages : RpcPackages)
    (decoded : PackageOperation.ofWire request.operation = some .verify)
    (unneeded : needsConfirmation request = false) (device : Device Tree) :
    let outcome :=
      (packages.processVerify sha256 extract request verified context environment device).value
    ConfirmationStep sha256 packages request context environment.token outcome.packages
      outcome.result := by
  intro outcome
  simp only [outcome, processVerify, Traced.bind_run, Traced.pure_run, named]
  split
  · cases issued : packages.issueConfirmation sha256
      { request with operation := PackageOperation.activate.toWire } context environment.token with
    | mk success after =>
      cases success with
      | true =>
        exact .issued _ after true (fun needed => by rw [unneeded] at needed; cases needed)
          (.inr ⟨decoded, rfl⟩) issued
      | false =>
        rw [issue_refused issued]
        exact .kept false fun _ => rfl
  · exact .kept false fun _ => rfl

variable (sha256 extract verified context environment) in
/-- What the operation of a request does to the confirmation state. -/
theorem operate_step (packages : RpcPackages) (request : PackageOperationRequest)
    (device : Device Tree) :
    let outcome :=
      (packages.operate sha256 extract request verified context environment device).value
    ConfirmationStep sha256 packages request context environment.token outcome.packages
      outcome.result := by
  intro outcome
  have unneeded : ∀ result, needsConfirmation request = false →
      needsConfirmation request = true → result = false := by
    intro result absent needed
    rw [absent] at needed
    cases needed
  cases decoded : PackageOperation.ofWire request.operation with
  | none =>
    simp only [outcome, operate, decoded]
    exact .kept false fun _ => rfl
  | some operation =>
    have needs : needsConfirmation request = operation.confirmed := by
      rw [needsConfirmation, decoded, Option.any_some]
    simp only [outcome, operate, decoded]
    cases operation with
    | inspect => exact .kept _ (unneeded _ needs)
    | importArchive =>
      simp only [processImport]
      split
      · exact .kept false fun _ => rfl
      split
      · exact .kept false fun _ => rfl
      cases PackageState.ofWire request.previousState with
      | none => exact .kept false fun _ => rfl
      | some previousState => exact .kept _ (unneeded _ needs)
    | stage => exact .kept _ (unneeded _ needs)
    | verify => exact process_verify_step packages decoded needs device
    | activate => exact when_confirmed_step packages _ (fun _ _ => rfl) needs device
    | health => exact .kept _ (unneeded _ needs)
    | disable => exact .kept _ (unneeded _ needs)
    | enable => exact when_confirmed_step packages _ (fun _ _ => rfl) needs device
    | remove => exact when_confirmed_step packages _ (fun _ _ => rfl) needs device
    | rollback => exact when_confirmed_step packages _ (fun _ _ => rfl) needs device
    | quarantine => exact .kept _ (unneeded _ needs)

variable (sha256 extract verified context environment) in
/-- What processing a request does to the confirmation state. -/
theorem process_step (packages : RpcPackages) (request : PackageOperationRequest)
    (device : Device Tree) :
    let outcome :=
      (packages.process sha256 extract request verified context environment device).value
    ConfirmationStep sha256 packages request context environment.token outcome.packages
      outcome.result := by
  intro outcome
  rcases process_run sha256 extract packages request verified context environment device with
    ⟨-, refused⟩ | ⟨-, refused⟩ | ⟨-, -, ran⟩
  · simp only [outcome, refused]
    exact .kept false fun _ => rfl
  · simp only [outcome, refused]
    exact .kept false fun _ => rfl
  · simp only [outcome, ran]
    have step := operate_step sha256 extract verified context environment packages request device
    obtain ⟨samePackages, noBetter⟩ := commit_outcome device.manager
      (packages.operate sha256 extract request verified context environment device).value
      (packages.operate sha256 extract request verified context environment device).final
    rw [samePackages]
    exact step.weaken noBetter

end RpcPackages

/-- One request of a session with everything it meets outside the session. -/
structure Call (Tree : Type) where
  request : PackageOperationRequest
  verified : Option VerifiedArchive
  context : Option RequestContext
  environment : Environment
  device : Device Tree

namespace Session

variable {Tree : Type} (sha256 : List UInt8 → Digest)
  (extract : Option (List UInt8) → VerifiedArchive → Traced (Option Tree) Bool)

/-- What processing a call returns. -/
def outcome (packages : RpcPackages) (call : Call Tree) : ProcessOutcome :=
  (packages.process sha256 extract call.request call.verified call.context call.environment
    call.device).value

/-- The session state after a sequence of calls. -/
def after (packages : RpcPackages) : List (Call Tree) → RpcPackages
  | [] => packages
  | call :: rest => after (outcome sha256 extract packages call).packages rest

variable (packages : RpcPackages) (calls : List (Call Tree))

/-- The session state a call of the sequence meets. -/
def before (index : Nat) : RpcPackages := after sha256 extract packages (calls.take index)

def Succeeds (index : Nat) (call : Call Tree) : Prop :=
  calls[index]? = some call ∧ RpcPackages.needsConfirmation call.request = true ∧
    (outcome sha256 extract (before sha256 extract packages calls index) call).result = true

/-- The call issues its token for a request: its own one or, for a verification,
the activation with the same fields. -/
def Issues (index : Nat) (call : Call Tree) (bound : PackageOperationRequest) : Prop :=
  calls[index]? = some call ∧
    (bound = call.request ∨
      (PackageOperation.ofWire call.request.operation = some .verify ∧
        bound = { call.request with operation := PackageOperation.activate.toWire })) ∧
    (before sha256 extract packages calls index).issueConfirmation sha256 bound call.context
      call.environment.token = (true, before sha256 extract packages calls (index + 1))

/-- The requests whose fields the session can hash. -/
def Hashed (request : PackageOperationRequest) : Prop :=
  ∃ call ∈ calls, request = call.request ∨
    request = { call.request with operation := PackageOperation.activate.toWire }

/-- SHA-256 does not collide on the command preimages of the session. -/
def CollisionFree : Prop :=
  ∀ left right, Hashed calls left → Hashed calls right →
    (RpcPackages.boundDigests sha256 left).command =
      (RpcPackages.boundDigests sha256 right).command →
    confirmationPreimage left (.literal "package.command.v1") =
      confirmationPreimage right (.literal "package.command.v1")

/-- No two calls draw the same token. -/
def FreshTokens : Prop :=
  ∀ (first second : Nat) (left right : Call Tree), calls[first]? = some left →
    calls[second]? = some right → left.environment.token = right.environment.token →
      first = second

/-- The use of a token is bound to its issue: same hashed fields, session, role,
policy version and token, within its lifetime, physically confirmed. -/
structure Bound (issuer : Call Tree) (bound : PackageOperationRequest) (user : Call Tree) :
    Prop where
  fields : bound.hashedFields = user.request.hashedFields
  token : user.request.confirmationToken = issuer.environment.token.bytes
  contexts : ∃ given used, issuer.context = some given ∧ user.context = some used ∧
    given.sessionId = used.sessionId ∧ given.role = used.role ∧
    given.policyVersion = used.policyVersion ∧
    used.nowMs.toNat < given.nowMs.toNat + confirmationMaxTtlMs.toNat ∧
    used.physicalConfirmed = true

/-- Whatever waits for approval was issued by an earlier call, and no call since
has used it or changed anything. -/
def Waiting (index : Nat) : Prop :=
  (before sha256 extract packages calls index).confirmationActive = true →
    ∃ earlier < index, ∃ issuer bound, Issues sha256 extract packages calls earlier issuer bound ∧
      before sha256 extract packages calls index =
        before sha256 extract packages calls (earlier + 1) ∧
      ∀ between, earlier < between → between < index →
        ∀ user, ¬ Succeeds sha256 extract packages calls between user

variable {sha256 extract packages calls}

theorem after_append (first second : List (Call Tree)) :
    after sha256 extract packages (first ++ second) =
      after sha256 extract (after sha256 extract packages first) second := by
  induction first generalizing packages with
  | nil => rfl
  | cons call rest ih => exact ih

variable {index : Nat} {call : Call Tree}

/-- The state after a call is its outcome from the state before it. -/
theorem before_succ (present : calls[index]? = some call) :
    before sha256 extract packages calls (index + 1) =
      (outcome sha256 extract (before sha256 extract packages calls index) call).packages := by
  obtain ⟨inside, isCall⟩ := List.getElem?_eq_some_iff.mp present
  rw [before, List.take_succ_eq_append_getElem inside, after_append, isCall]
  rfl

/-- Past the end nothing changes. -/
theorem before_end (absent : calls[index]? = none) :
    before sha256 extract packages calls (index + 1) =
      before sha256 extract packages calls index := by
  have past := List.getElem?_eq_none_iff.mp absent
  rw [before, before, List.take_of_length_le past, List.take_of_length_le (by omega)]

variable (sha256 extract packages) in
/-- The three ways, for a call of the session. -/
theorem call_cases (present : calls[index]? = some call) :
    let now := before sha256 extract packages calls index
    let next := before sha256 extract packages calls (index + 1)
    (next = now ∧ ¬ Succeeds sha256 extract packages calls index call) ∨
    ((∃ bound, Issues sha256 extract packages calls index call bound) ∧
      ¬ Succeeds sha256 extract packages calls index call) ∨
    (next = now.cleared ∧ now.confirmationMatches sha256 call.request call.context = true ∧
      ∃ given, call.context = some given ∧
      (now.confirmation.approve given.sessionId given.role
        (RpcPackages.boundDigests sha256 call.request) call.request.confirmationToken
        given.policyVersion given.nowMs given.physicalConfirmed).1 = .ok) := by
  intro now next
  have advanced : next = (outcome sha256 extract now call).packages := before_succ present
  have failed : (RpcPackages.needsConfirmation call.request = true →
      (outcome sha256 extract now call).result = false) →
      ¬ Succeeds sha256 extract packages calls index call := by
    intro unconfirmed succeeds
    exact nomatch succeeds.2.2.symm.trans (unconfirmed succeeds.2.1)
  have step := RpcPackages.process_step sha256 extract call.verified call.context
    call.environment now call.request call.device
  rcases step.cases with
    ⟨same, unconfirmed⟩ | ⟨bound, requested, issuance, unconfirmed⟩ |
      ⟨given, isGiven, cleared, matched, approved⟩
  · exact .inl ⟨advanced.trans same, failed unconfirmed⟩
  · refine .inr (.inl ⟨⟨bound, present, requested, ?_⟩, failed unconfirmed⟩)
    exact issuance.trans (congrArg (Prod.mk true) advanced.symm)
  · exact .inr (.inr ⟨advanced.trans cleared, matched, given, isGiven, approved⟩)

variable {user : Call Tree}

/-- A call is found only at one request. -/
theorem succeeds_unique (present : calls[index]? = some call)
    (succeeds : Succeeds sha256 extract packages calls index user) : user = call :=
  Option.some.inj (succeeds.1.symm.trans present)

/-- The invariant holds at every point of a session that starts with nothing to
confirm. -/
theorem waiting_at (started : packages.confirmationActive = false) (index : Nat) :
    Waiting sha256 extract packages calls index := by
  induction index with
  | zero =>
    intro active
    simp only [before, List.take_zero, after] at active
    rw [started] at active
    cases active
  | succ index ih =>
    -- While the state stays and the call does not succeed, the witness stays.
    have carry : before sha256 extract packages calls (index + 1) =
          before sha256 extract packages calls index →
        (∀ user, ¬ Succeeds sha256 extract packages calls index user) →
        Waiting sha256 extract packages calls (index + 1) := by
      intro same failed active
      rw [same] at active ⊢
      obtain ⟨earlier, isEarlier, issuer, bound, issues, kept, unused⟩ := ih active
      refine ⟨earlier, by omega, issuer, bound, issues, kept, ?_⟩
      intro between isAfter isBefore user
      by_cases last : between = index
      · rw [last]
        exact failed user
      · exact unused between isAfter (by omega) user
    cases present : calls[index]? with
    | none =>
      refine carry (before_end present) fun user succeeds => ?_
      rw [succeeds.1] at present
      cases present
    | some call =>
      rcases call_cases sha256 extract packages present with
        ⟨same, failed⟩ | ⟨⟨bound, issues⟩, -⟩ | ⟨cleared, -, -⟩
      · refine carry same fun user succeeds => ?_
        rw [succeeds_unique present succeeds] at succeeds
        exact failed succeeds
      · intro _
        exact ⟨index, by omega, call, bound, issues, rfl, fun between isAfter isBefore => by omega⟩
      · intro active
        rw [cleared] at active
        cases active

/-- A successful confirmed call uses a confirmation that an earlier call issued
for the same package; nothing has changed in the session since, and no call in
between has used it. -/
theorem success_issue (started : packages.confirmationActive = false)
    (succeeds : Succeeds sha256 extract packages calls index user) :
    ∃ earlier < index, ∃ issuer bound, Issues sha256 extract packages calls earlier issuer bound ∧
      before sha256 extract packages calls index =
        before sha256 extract packages calls (earlier + 1) ∧
      bound.packageId = user.request.packageId ∧
      (∃ used, user.context = some used ∧
        ((before sha256 extract packages calls index).confirmation.approve used.sessionId used.role
          (RpcPackages.boundDigests sha256 user.request) user.request.confirmationToken
          used.policyVersion used.nowMs used.physicalConfirmed).1 = .ok) ∧
      ∀ between, earlier < between → between < index →
        ∀ other, ¬ Succeeds sha256 extract packages calls between other := by
  rcases call_cases sha256 extract packages succeeds.1 with
    ⟨-, failed⟩ | ⟨-, failed⟩ | ⟨-, matched, used, isUsed, approved⟩
  · exact absurd succeeds failed
  · exact absurd succeeds failed
  · obtain ⟨active, samePackage⟩ := RpcPackages.matches_active matched
    obtain ⟨earlier, isEarlier, issuer, bound, issues, same, unused⟩ :=
      waiting_at started index active
    obtain ⟨-, -, -, cached, -⟩ := RpcPackages.issue_accepted issues.2.2
    rw [same, cached] at samePackage
    exact ⟨earlier, isEarlier, issuer, bound, issues, same, samePackage, ⟨used, isUsed, approved⟩,
      unused⟩

/-- The use is bound to its issue. -/
theorem success_bound (started : packages.confirmationActive = false)
    (collisionFree : CollisionFree sha256 calls)
    (succeeds : Succeeds sha256 extract packages calls index user) :
    ∃ earlier < index, ∃ issuer bound, Issues sha256 extract packages calls earlier issuer bound ∧
      Bound issuer bound user ∧
      ∀ between, earlier < between → between < index →
        ∀ other, ¬ Succeeds sha256 extract packages calls between other := by
  have present := succeeds.1
  obtain ⟨earlier, isEarlier, issuer, bound, issues, same, -, ⟨used, isUsed, approved⟩, unused⟩ :=
    success_issue started succeeds
  refine ⟨earlier, isEarlier, issuer, bound, issues, ?_, unused⟩
  obtain ⟨given, isGiven, -, -, issued⟩ := RpcPackages.issue_accepted issues.2.2
  rw [same, Confirmation.issue_some issued] at approved
  obtain ⟨-, -, unexpired, session, role, policy, token, command, -, -, physical⟩ :=
    Confirmation.approve_ok approved
  have hashedIssuer : Hashed calls bound :=
    ⟨issuer, List.mem_of_getElem? issues.1, issues.2.1.imp id And.right⟩
  have hashedUser : Hashed calls user.request :=
    ⟨user, List.mem_of_getElem? present, .inl rfl⟩
  exact {
    fields := (confirmation_preimage_injective
      (collisionFree bound user.request hashedIssuer hashedUser command)).2
    token := token.symm
    contexts := by
      refine ⟨given, used, isGiven, isUsed, session, role, policy, ?_, physical rfl⟩
      exact Confirmation.before_expiry unexpired }

/-- Over every session that starts with nothing to confirm, each successful
request of the four confirmed kinds is assigned the earlier request that issued
its token. The two agree in every hashed field, in session, role and policy
version, the use is physically confirmed and within the token's lifetime. No two
successes share an issue and, where the random tokens differ, none share a token.
The hashed bytes determine the hashed fields.

Proof: the confirmation that a success uses up waits since its issue and has not
been used in between, so of two successes the later one's issue is not before
the earlier success. -/
theorem confirmations_bound_and_used_once (hardwareTarget firmwareApiMajor firmwareApiMinor : UInt32)
    (availableStorageBytes : UInt64) (sha256 : List UInt8 → Digest)
    (extract : Option (List UInt8) → VerifiedArchive → Traced (Option Tree) Bool)
    (calls : List (Call Tree)) (collisionFree : CollisionFree sha256 calls) :
    let packages :=
      RpcPackages.init hardwareTarget firmwareApiMajor firmwareApiMinor availableStorageBytes
    (∃ issueOf : Nat → Nat,
      (∀ index user, Succeeds sha256 extract packages calls index user →
        issueOf index < index ∧ ∃ issuer bound,
          Issues sha256 extract packages calls (issueOf index) issuer bound ∧
            Bound issuer bound user) ∧
      (∀ first second user other, Succeeds sha256 extract packages calls first user →
        Succeeds sha256 extract packages calls second other →
        issueOf first = issueOf second → first = second) ∧
      (FreshTokens calls → ∀ first second user other,
        Succeeds sha256 extract packages calls first user →
        Succeeds sha256 extract packages calls second other →
        user.request.confirmationToken = other.request.confirmationToken → first = second)) ∧
    (∀ (left right : PackageOperationRequest) (leftDomain rightDomain : CString),
      confirmationPreimage left leftDomain = confirmationPreimage right rightDomain →
        leftDomain = rightDomain ∧ left.hashedFields = right.hashedFields) := by
  intro packages
  refine ⟨?_, fun left right leftDomain rightDomain => confirmation_preimage_injective⟩
  have bound : ∀ index, ∃ earlier, ∀ user, Succeeds sha256 extract packages calls index user →
      earlier < index ∧ (∃ issuer bound,
        Issues sha256 extract packages calls earlier issuer bound ∧ Bound issuer bound user) ∧
      ∀ between, earlier < between → between < index →
        ∀ other, ¬ Succeeds sha256 extract packages calls between other := by
    intro index
    by_cases some_ : ∃ user, Succeeds sha256 extract packages calls index user
    · obtain ⟨user, succeeds⟩ := some_
      obtain ⟨earlier, isEarlier, issuer, bound, issues, isBound, unused⟩ :=
        success_bound rfl collisionFree succeeds
      refine ⟨earlier, fun other succeedsToo => ?_⟩
      rw [succeeds_unique succeeds.1 succeedsToo]
      exact ⟨isEarlier, ⟨issuer, bound, issues, isBound⟩, unused⟩
    · exact ⟨0, fun user succeeds => absurd ⟨user, succeeds⟩ some_⟩
  choose issueOf assigned using bound
  have different : ∀ first second user other, Succeeds sha256 extract packages calls first user →
      Succeeds sha256 extract packages calls second other →
      issueOf first = issueOf second → first = second := by
    intro first second user other succeeds succeedsToo same
    have usedFirst := assigned first user succeeds
    have usedSecond := assigned second other succeedsToo
    rcases lt_trichotomy first second with isBefore | equal | isAfter
    · exact absurd succeeds (usedSecond.2.2 first (by omega) isBefore user)
    · exact equal
    · exact absurd succeedsToo (usedFirst.2.2 second (by omega) isAfter other)
  refine ⟨issueOf, fun index user succeeds => ?_, different, ?_⟩
  · exact ⟨(assigned index user succeeds).1, (assigned index user succeeds).2.1⟩
  · intro fresh first second user other succeeds succeedsToo sameToken
    obtain ⟨-, ⟨issuer, bound, issues, isBound⟩, -⟩ := assigned first user succeeds
    obtain ⟨-, ⟨issuerToo, boundToo, issuesToo, isBoundToo⟩, -⟩ := assigned second other succeedsToo
    refine different first second user other succeeds succeedsToo ?_
    refine fresh _ _ issuer issuerToo issues.1 issuesToo.1 ?_
    have sameBytes := isBound.token.symm.trans (sameToken.trans isBoundToo.token)
    cases tokenFirst : issuer.environment.token
    cases tokenSecond : issuerToo.environment.token
    rw [tokenFirst, tokenSecond] at sameBytes
    simp only at sameBytes
    subst sameBytes
    rfl

section Removal

/-- SHA-256 itself, for concrete sessions. -/
def sha256Digest (message : List UInt8) : Digest :=
  ⟨Sha256.digest message, Sha256.length_digest message⟩

/-- A request to remove the package `demo`, with a token or without. -/
def removalRequest (token : List UInt8) : PackageOperationRequest where
  operation := PackageOperation.remove.toWire
  packageId := .literal "demo"
  version := .literal ""
  previousVersion := .literal ""
  manifestPath := .literal ""
  candidateDigest := .literal ""
  previousDigest := .literal ""
  signingKeyId := .literal ""
  capabilityMask := 0
  releaseSequence := 0
  receivedBytes := 0
  contentBytes := 0
  previousState := 0
  protectedPackage := false
  confirmationRequired := false
  healthy := false
  confirmationToken := token

theorem letters_terminated : (0 : UInt8) ∉ List.replicate 64 97 := by decide

/-- The installed package `demo`. -/
def removalRecord : PackageRecord where
  contentType := .literal "application"
  packageId := .literal "demo"
  version := .literal "1.0.0"
  previousVersion := .literal ""
  digest := ⟨List.replicate 64 97, letters_terminated⟩
  previousDigest := absentDigest
  signingKeyId := .literal "key"
  manifestPath := .literal "/ext/apps/.staging/demo.poisonpkg"
  entrypoint := .literal "main.js"
  capabilityMask := 0
  confirmationRequired := false
  transaction := {
    state := .active
    rollbackState := .removed
    protectedPackage := false
    initialized := true
    contentUpdate := {
      updateId := .literal "demo"
      candidateDigest := ⟨List.replicate 64 97, letters_terminated⟩
      previousDigest := absentDigest
      state := .healthy
      contentType := .application
      sequence := 1
      contentBytes := 10
      receivedBytes := 10
      rollbackAvailable := true
      confirmationRequired := false
      confirmationAuthorized := true
      payloadVerified := true
      healthReported := true } }

/-- A device that holds the package and its active directory. -/
def removalDevice : Device Unit where
  manager := ⟨fun slot => if slot.val = 0 then some removalRecord else none, 5⟩
  stored := none
  volume := fun _ => ⟨some (), none, none, none, none⟩

/-- The token of the first call; later calls of the sample draw another one. -/
def removalToken (byte : UInt8) : Token := ⟨List.replicate 16 byte, by simp [confirmationTokenBytes]⟩

/-- A call of the sample session. -/
def removalCall (token : List UInt8) (drawn : UInt8) (nowMs : UInt64) (physicalConfirmed : Bool) :
    Call Unit where
  request := removalRequest token
  verified := none
  context := some ⟨7, .owner, 1, nowMs, physicalConfirmed⟩
  environment := ⟨true, true, removalToken drawn, fun _ => none⟩
  device := removalDevice

/-- A removal is requested, then requested again with the token and physically
confirmed. -/
def removalCalls : List (Call Unit) :=
  [removalCall [] 1 0 false, removalCall (List.replicate 16 1) 2 100 true]

/-- The two messages this session hashes do not collide. -/
theorem removal_collision_free : CollisionFree sha256Digest removalCalls := by
  have different : (RpcPackages.boundDigests sha256Digest (removalRequest [])).command ≠
      (RpcPackages.boundDigests sha256Digest
        { removalRequest [] with operation := PackageOperation.activate.toWire }).command := by
    decide +kernel
  -- The token is not hashed, so the session hashes two messages only.
  have hashed : ∀ request, Hashed removalCalls request →
      confirmationPreimage request = confirmationPreimage (removalRequest []) ∨
      confirmationPreimage request = confirmationPreimage
        { removalRequest [] with operation := PackageOperation.activate.toWire } := by
    rintro request ⟨call, among, rfl | rfl⟩ <;>
      rcases List.mem_pair.mp among with rfl | rfl
    · exact .inl rfl
    · exact .inl rfl
    · exact .inr rfl
    · exact .inr rfl
  intro left right hashedLeft hashedRight same
  unfold RpcPackages.boundDigests at same different
  rcases hashed left hashedLeft with isLeft | isLeft <;>
    rcases hashed right hashedRight with isRight | isRight <;>
      rw [isLeft, isRight] at same ⊢
  · exact absurd same different
  · exact absurd same.symm different

/-- The second call removes the package. -/
theorem removal_succeeds : Succeeds sha256Digest (fun _ _ => pure true)
      (RpcPackages.init 1 1 0 100) removalCalls 1 (removalCall (List.replicate 16 1) 2 100 true) := by
  refine ⟨rfl, by decide, by decide +kernel⟩

/-- The general result for this session: the removal was confirmed by the first
call. -/
theorem removal_bound_and_used_once :
    ∃ earlier < 1, ∃ issuer bound, Issues sha256Digest (fun _ _ => pure true)
      (RpcPackages.init 1 1 0 100) removalCalls earlier issuer bound ∧
      Bound issuer bound (removalCall (List.replicate 16 1) 2 100 true) := by
  obtain ⟨⟨issueOf, assigned, -⟩, -⟩ := confirmations_bound_and_used_once 1 1 0 100 sha256Digest
    (fun _ _ => pure true) removalCalls removal_collision_free
  exact ⟨issueOf 1, assigned 1 _ removal_succeeds⟩

end Removal

end Session

end PoisonedOS
