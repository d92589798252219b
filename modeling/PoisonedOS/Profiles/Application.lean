import PoisonedOS.Profiles.Service
import PoisonedOS.Library.Sha256

/-!
# Which profile is applied

An apply takes whatever the shared store holds, which another session may have previewed
last. But it has the confirmation of its own session approved, and that is bound to the
profile of the session's last successful preview: as long as SHA-256 does not collide on
the profiles of the run, the two are one. Approving uses the confirmation up, so each
preview is applied at most once.
-/

namespace PoisonedOS

namespace ProfileSession

variable {sha256 : List UInt8 → Digest} {session : ProfileSession} {store : ProfileStore}

/-- The store a preview leaves holds the old preview or the validated new one. -/
structure Offered (request : ProfilePreviewRequest) (sessionId : UInt64) (role : Role)
    (profile : Profile) : Prop where
  identity : request.identity = some (sessionId, role)
  converted : profileFromPb request.message = some profile
  valid : profileValidate request.environment profile (roleCapabilities role).toUInt64 = true

def issuedConfirmation (sha256 : List UInt8 → Digest) (request : ProfilePreviewRequest)
    (sessionId : UInt64) (role : Role) (profile : Profile) : Confirmation where
  active := true
  physicalRequired := true
  consumed := false
  sessionId := sessionId
  role := role
  commandDigest := (profileDigests sha256 profile).command
  targetDigest := (profileDigests sha256 profile).target
  consequenceDigest := (profileDigests sha256 profile).consequence
  token := request.token
  policyVersion := profilePolicyVersion
  expiresAtMs := request.nowMs + confirmationMaxTtlMs.toUInt64

/-- A preview leaves everything, puts a validated profile in the store, or also issues
its confirmation. -/
theorem preview_cases (sha256 : List UInt8 → Digest) (session : ProfileSession)
    (store : ProfileStore) (request : ProfilePreviewRequest) :
    session.previewProcess sha256 store request = (false, session, store) ∨
      ∃ sessionId role profile, Offered request sessionId role profile ∧
        (session.previewProcess sha256 store request =
            (false, session, { store with preview := profile, previewValid := true }) ∨
          session.previewProcess sha256 store request =
            (true, ⟨issuedConfirmation sha256 request sessionId role profile, profile.id⟩,
              { store with preview := profile, previewValid := true })) := by
  simp only [previewProcess]
  by_cases blocked : (request.hasNext || !request.dispatchActive) = true
  · exact .inl (if_pos blocked)
  · rw [if_neg blocked]
    cases identity : request.identity with
    | none => exact .inl rfl
    | some found =>
      obtain ⟨sessionId, role⟩ := found
      cases converted : profileFromPb request.message with
      | none => exact .inl rfl
      | some profile =>
        simp only [profilePreview]
        by_cases valid : profileValidate request.environment profile
            (roleCapabilities role).toUInt64 = true
        · rw [if_pos valid]
          refine .inr ⟨sessionId, role, profile, ⟨identity, converted, valid⟩, ?_⟩
          simp only
          cases accepted : Confirmation.issue sessionId role (profileDigests sha256 profile)
              profilePolicyVersion request.nowMs confirmationMaxTtlMs true request.token with
          | none => exact .inl rfl
          | some issued =>
            have isIssued := Confirmation.issue_some accepted
            rw [isIssued]
            exact .inr rfl
        · rw [if_neg valid]
          exact .inl rfl

/-- What an apply that applies has found. -/
structure Applies (sha256 : List UInt8 → Digest) (session : ProfileSession)
    (store : ProfileStore) (request : ProfileApplyRequest) (sessionId : UInt64) (role : Role) :
    Prop where
  identity : request.identity = some (sessionId, role)
  previewed : store.previewValid = true
  shown : request.approver.request store.preview.id store.preview.version
    store.preview.capabilityMask = true
  approved : (session.confirmation.approve sessionId role (profileDigests sha256 store.preview)
    request.confirmationTokenBytes profilePolicyVersion request.approvalNowMs true).1 = .ok

/-- An approval uses the confirmation up, and a refusal leaves it as it was or
inactive. -/
theorem approve_left {confirmation after : Confirmation} {result : ConfirmationResult}
    {sessionId : UInt64} {role : Role} {digests : BoundDigests} {token : List UInt8}
    {policyVersion : UInt32} {nowMs : UInt64} {physicalConfirmed : Bool}
    (approved : confirmation.approve sessionId role digests token policyVersion nowMs
      physicalConfirmed = (result, after)) :
    (result = .ok → after.active = false) ∧
      (result ≠ .ok → after.active = true → after = confirmation) := by
  simp only [Confirmation.approve] at approved
  split at approved
  · obtain ⟨rfl, rfl⟩ := Prod.mk.inj approved
    exact ⟨fun isOk => absurd isOk (by simp), fun _ _ => rfl⟩
  · split at approved
    · obtain ⟨rfl, rfl⟩ := Prod.mk.inj approved
      exact ⟨fun isOk => absurd isOk (by simp), fun _ live => absurd live (by simp)⟩
    · split at approved
      · obtain ⟨rfl, rfl⟩ := Prod.mk.inj approved
        exact ⟨fun isOk => absurd isOk (by simp), fun _ _ => rfl⟩
      · split at approved
        · obtain ⟨rfl, rfl⟩ := Prod.mk.inj approved
          exact ⟨fun isOk => absurd isOk (by simp), fun _ _ => rfl⟩
        · obtain ⟨rfl, rfl⟩ := Prod.mk.inj approved
          exact ⟨fun _ => rfl, fun notOk => absurd rfl notOk⟩

/-- An apply fails and leaves the store, with the confirmation as it was or inactive, or
applies the previewed profile and uses the confirmation up. -/
theorem apply_cases (sha256 : List UInt8 → Digest) (session : ProfileSession)
    (store : ProfileStore) (request : ProfileApplyRequest) :
    ((session.applyProcess sha256 store request).1 = false ∧
        (session.applyProcess sha256 store request).2.2 = store ∧
        ((session.applyProcess sha256 store request).2.1.confirmation.active = true →
          (session.applyProcess sha256 store request).2.1.confirmation =
            session.confirmation)) ∨
      ∃ sessionId role, Applies sha256 session store request sessionId role ∧
        (session.applyProcess sha256 store request).1 = true ∧
        (session.applyProcess sha256 store request).2.2 =
          { store with active := store.preview, previewValid := false } ∧
        (session.applyProcess sha256 store request).2.1.confirmation.active = false := by
  simp only [applyProcess]
  by_cases blocked : (request.hasNext || !request.dispatchActive) = true
  · rw [if_pos blocked]
    exact .inl ⟨rfl, rfl, fun _ => rfl⟩
  · rw [if_neg blocked]
    cases prepared : session.prepare store request with
    | none => exact .inl ⟨rfl, rfl, fun _ => rfl⟩
    | some found =>
      obtain ⟨sessionId, role⟩ := found
      have checks : request.identity = some (sessionId, role) ∧ store.previewValid = true := by
        simp only [prepare] at prepared
        split at prepared
        · rename_i checked
          simp only [Bool.and_eq_true] at checked
          exact ⟨prepared, checked.1.2⟩
        · cases prepared
      simp only
      cases shown : request.approver.request store.preview.id store.preview.version
          store.preview.capabilityMask with
      | false => exact .inl ⟨rfl, rfl, fun _ => rfl⟩
      | true =>
        simp only [Bool.not_true, Bool.false_eq_true, if_false]
        cases answer : session.confirmation.approve sessionId role
            (profileDigests sha256 store.preview) request.confirmationTokenBytes
            profilePolicyVersion request.approvalNowMs true with
        | mk result after =>
          obtain ⟨used, kept⟩ := approve_left answer
          cases result with
          | ok =>
            simp only [profilesApplyGlobal, profileApply, checks.2, if_true]
            split
            · exact .inl ⟨rfl, rfl, fun live => absurd (live.symm.trans (used rfl)) (by simp)⟩
            · rename_i applied found
              split at found
              · obtain rfl := Option.some.inj found
                have approved := congrArg Prod.fst answer
                exact .inr ⟨sessionId, role, ⟨checks.1, checks.2, shown, approved⟩, rfl, rfl,
                  used rfl⟩
              · cases found
          | invalid => exact .inl ⟨rfl, rfl, kept (by simp)⟩
          | expired => exact .inl ⟨rfl, rfl, kept (by simp)⟩
          | replay => exact .inl ⟨rfl, rfl, kept (by simp)⟩
          | mismatch => exact .inl ⟨rfl, rfl, kept (by simp)⟩

end ProfileSession

namespace ProfileSystem

/-- The system after the first events of a run. -/
def systemAt (sha256 : List UInt8 → Digest) (active preview : Profile)
    (events : List ProfileEvent) (index : Nat) : ProfileSystem :=
  Runs.reached (fun event system => system.step sha256 event) (init active preview) events index

/-- The preview at an index of the run succeeds. -/
def Previewed (sha256 : List UInt8 → Digest) (active preview : Profile)
    (events : List ProfileEvent) (index : Nat) (request : ProfilePreviewRequest) : Prop :=
  events[index]? = some (.preview request) ∧
    ((systemAt sha256 active preview events index).outcome sha256 (.preview request)).1 = true

/-- The apply at an index of the run succeeds. -/
def Applied (sha256 : List UInt8 → Digest) (active preview : Profile)
    (events : List ProfileEvent) (index : Nat) (request : ProfileApplyRequest) : Prop :=
  events[index]? = some (.apply request) ∧
    ((systemAt sha256 active preview events index).outcome sha256 (.apply request)).1 = true

/-- The most recent successful preview of a session before an index. -/
structure LastPreview (sha256 : List UInt8 → Digest) (active preview : Profile)
    (events : List ProfileEvent) (session index issued : Nat) (offer : ProfilePreviewRequest) :
    Prop where
  previewed : Previewed sha256 active preview events issued offer
  own : offer.session = session
  before : issued < index
  last : ∀ later request, issued < later → later < index →
    Previewed sha256 active preview events later request → request.session ≠ session
  lasting : ∀ later, issued < later → later < index → events[later]? ≠ some (.ended session)

/-- The hash does not collide on the images of the profiles that the run previews. -/
def CollisionFree (sha256 : List UInt8 → Digest) (events : List ProfileEvent) : Prop :=
  ∀ (domain : CString) first second left right,
    ProfileEvent.preview first ∈ events → ProfileEvent.preview second ∈ events →
    profileFromPb first.message = some left → profileFromPb second.message = some right →
    profileDigest sha256 left domain = profileDigest sha256 right domain →
    domain.terminated ++ left.image = domain.terminated ++ right.image

/-- What stands behind an apply: the preview it is based on. -/
structure Confirmed (sha256 : List UInt8 → Digest) (active preview : Profile)
    (events : List ProfileEvent) (index : Nat) (request : ProfileApplyRequest) (issued : Nat)
    (offer : ProfilePreviewRequest) (profile : Profile) : Prop where
  /-- It is the most recent successful preview of the session. -/
  latest : LastPreview sha256 active preview events request.session index issued offer
  /-- The profile applied is the one it converted and validated. -/
  converted : profileFromPb offer.message = some profile
  valid : ∃ sessionId role, offer.identity = some (sessionId, role) ∧
    profileValidate offer.environment profile (roleCapabilities role).toUInt64 = true
  applied : (systemAt sha256 active preview events (index + 1)).store.active = profile
  /-- The approver was shown it, with all of its capabilities, and agreed. -/
  shown : request.approver.request profile.id profile.version profile.capabilityMask = true
  whole : profile.capabilityMask.toUInt32.toUInt64 = profile.capabilityMask
  /-- The token is the one the preview drew, for the same session and role, in time. -/
  token : request.confirmationTokenBytes = offer.token.bytes
  identity : request.identity = offer.identity
  unexpired : request.approvalNowMs.toNat < offer.nowMs.toNat + 60000

variable {sha256 : List UInt8 → Digest} {active preview : Profile} {events : List ProfileEvent}

open ProfileSession

variable {index : Nat} {event : ProfileEvent}

theorem systemAt_succ (taken : events[index]? = some event) :
    systemAt sha256 active preview events (index + 1) =
      (systemAt sha256 active preview events index).step sha256 event :=
  Runs.reached_succ taken

theorem step_session {system : ProfileSystem} :
    (system.step sha256 event).sessions event.session = (system.outcome sha256 event).2.1 :=
  Function.update_self _ _ _

theorem step_other {system : ProfileSystem} {other : Nat} (different : other ≠ event.session) :
    (system.step sha256 event).sessions other = system.sessions other :=
  Function.update_of_ne different _ _

def StoreOffered (events : List ProfileEvent) (store : ProfileStore) : Prop :=
  store.previewValid = true → ∃ request sessionId role,
    ProfileEvent.preview request ∈ events ∧ Offered request sessionId role store.preview

/-- An active confirmation was issued by the most recent successful preview of its
session, and nothing was applied with it. -/
def ConfirmationIssued (sha256 : List UInt8 → Digest) (active preview : Profile)
    (events : List ProfileEvent) (index session : Nat) (confirmation : Confirmation) : Prop :=
  confirmation.active = true → ∃ issued offer sessionId role profile,
    LastPreview sha256 active preview events session index issued offer ∧
      Offered offer sessionId role profile ∧
      confirmation = issuedConfirmation sha256 offer sessionId role profile ∧
      ∀ later request, issued < later → later < index →
        Applied sha256 active preview events later request → request.session ≠ session

/-- The last preview stays the last one through an event that is neither a successful
preview of the session nor its end. -/
theorem LastPreview.succ {session issued : Nat} {offer : ProfilePreviewRequest}
    (latest : LastPreview sha256 active preview events session index issued offer)
    (quiet : ∀ request, Previewed sha256 active preview events index request →
      request.session ≠ session) (lasting : events[index]? ≠ some (.ended session)) :
    LastPreview sha256 active preview events session (index + 1) issued offer where
  previewed := latest.previewed
  own := latest.own
  before := Nat.lt_succ_of_lt latest.before
  last later request after before previewed := by
    obtain earlier | rfl := Nat.lt_succ_iff_lt_or_eq.mp before
    · exact latest.last later request after earlier previewed
    · exact quiet request previewed
  lasting later after before := by
    obtain earlier | rfl := Nat.lt_succ_iff_lt_or_eq.mp before
    · exact latest.lasting later after earlier
    · exact lasting

/-- A confirmation that an event leaves alone keeps where it comes from. -/
theorem ConfirmationIssued.succ {session : Nat} {confirmation : Confirmation}
    (known : ConfirmationIssued sha256 active preview events index session confirmation)
    (quiet : ∀ request, Previewed sha256 active preview events index request →
      request.session ≠ session)
    (unused : ∀ request, Applied sha256 active preview events index request →
      request.session ≠ session) (lasting : events[index]? ≠ some (.ended session)) :
    ConfirmationIssued sha256 active preview events (index + 1) session confirmation := by
  intro live
  obtain ⟨issued, offer, sessionId, role, profile, latest, offered, same, unapplied⟩ := known live
  refine ⟨issued, offer, sessionId, role, profile, latest.succ quiet lasting, offered, same, ?_⟩
  intro later request after before applied
  obtain earlier | rfl := Nat.lt_succ_iff_lt_or_eq.mp before
  · exact unapplied later request after earlier applied
  · exact unused request applied

/-- A preview leaves the contexts and the store of its handler. -/
theorem step_preview (system : ProfileSystem) (request : ProfilePreviewRequest) :
    (system.step sha256 (.preview request)).store =
        ((system.sessions request.session).previewProcess sha256 system.store request).2.2 ∧
      (system.step sha256 (.preview request)).sessions request.session =
        ((system.sessions request.session).previewProcess sha256 system.store request).2.1 :=
  ⟨rfl, step_session⟩

/-- An apply leaves the contexts and the store of its handler. -/
theorem step_apply (system : ProfileSystem) (request : ProfileApplyRequest) :
    (system.step sha256 (.apply request)).store =
        ((system.sessions request.session).applyProcess sha256 system.store request).2.2 ∧
      (system.step sha256 (.apply request)).sessions request.session =
        ((system.sessions request.session).applyProcess sha256 system.store request).2.1 :=
  ⟨rfl, step_session⟩

theorem store_offered (sha256 : List UInt8 → Digest) (active preview : Profile)
    (events : List ProfileEvent) (index : Nat) :
    StoreOffered events (systemAt sha256 active preview events index).store := by
  refine Runs.always (motive := fun (system : ProfileSystem) => StoreOffered events system.store)
    (fun previewed => by cases previewed) ?_ index
  intro index event taken known
  have member := List.mem_of_getElem? taken
  cases event with
  | preview request =>
    rw [(step_preview _ request).1]
    obtain same | ⟨sessionId, role, profile, offered, same | same⟩ :=
      preview_cases sha256 _ _ request
    · rw [same]
      exact known
    · rw [same]
      exact fun _ => ⟨request, sessionId, role, member, offered⟩
    · rw [same]
      exact fun _ => ⟨request, sessionId, role, member, offered⟩
  | apply request =>
    rw [(step_apply _ request).1]
    obtain ⟨-, same, -⟩ | ⟨sessionId, role, -, -, same, -⟩ := apply_cases sha256 _ _ request
    · rw [same]
      exact known
    · rw [same]
      exact fun previewed => absurd previewed (by simp)
  | ended session => exact known

/-- Along a run every active confirmation comes from the most recent successful preview of
its session. -/
theorem confirmation_issued (sha256 : List UInt8 → Digest) (active preview : Profile)
    (events : List ProfileEvent) (session index : Nat) :
    ConfirmationIssued sha256 active preview events index session
      ((systemAt sha256 active preview events index).sessions session).confirmation := by
  induction index with
  | zero =>
    intro live
    cases live
  | succ index known =>
    cases taken : events[index]? with
    | none =>
      have still : systemAt sha256 active preview events (index + 1) =
          systemAt sha256 active preview events index := Runs.reached_end taken
      rw [still]
      refine known.succ ?_ ?_ ?_
      · rintro request ⟨isTaken, -⟩
        exact absurd (taken.symm.trans isTaken) (by simp)
      · rintro request ⟨isTaken, -⟩
        exact absurd (taken.symm.trans isTaken) (by simp)
      · rw [taken]
        simp
    | some event =>
      rw [systemAt_succ taken]
      by_cases mine : session = event.session
      · subst mine
        cases event with
        | preview request =>
          have lasting : events[index]? ≠ some (.ended request.session) := by
            rw [taken]
            simp
          have unused : ∀ other, Applied sha256 active preview events index other →
              other.session ≠ request.session := by
            rintro other ⟨isTaken, -⟩
            exact absurd (taken.symm.trans isTaken) (by simp)
          have quiet (failed : ((systemAt sha256 active preview events index).outcome sha256
              (.preview request)).1 = false) (other : ProfilePreviewRequest)
              (previewed : Previewed sha256 active preview events index other) :
              other.session ≠ request.session := by
            obtain ⟨isTaken, succeeded⟩ := previewed
            obtain rfl := ProfileEvent.preview.inj (Option.some.inj (taken.symm.trans isTaken))
            exact absurd (failed.symm.trans succeeded) (by simp)
          rw [ProfileEvent.session] at known ⊢
          rw [(step_preview _ request).2]
          obtain same | ⟨sessionId, role, profile, offered, same | same⟩ :=
            preview_cases sha256
              ((systemAt sha256 active preview events index).sessions request.session)
              (systemAt sha256 active preview events index).store request
          · have failed : ((systemAt sha256 active preview events index).outcome sha256
                (.preview request)).1 = false := congrArg Prod.fst same
            rw [same]
            exact known.succ (quiet failed) unused lasting
          · have failed : ((systemAt sha256 active preview events index).outcome sha256
                (.preview request)).1 = false := congrArg Prod.fst same
            rw [same]
            exact known.succ (quiet failed) unused lasting
          · have succeeded : ((systemAt sha256 active preview events index).outcome sha256
                (.preview request)).1 = true := congrArg Prod.fst same
            rw [same]
            intro _
            refine ⟨index, request, sessionId, role, profile, ⟨⟨taken, succeeded⟩, rfl,
              Nat.lt_succ_self index, ?_, ?_⟩, offered, rfl, ?_⟩
            · intro later other after before
              omega
            · intro later after before
              omega
            · intro later other after before
              omega
        | apply request =>
          have lasting : events[index]? ≠ some (.ended request.session) := by
            rw [taken]
            simp
          have quiet : ∀ other, Previewed sha256 active preview events index other →
              other.session ≠ request.session := by
            rintro other ⟨isTaken, -⟩
            exact absurd (taken.symm.trans isTaken) (by simp)
          rw [ProfileEvent.session, (step_apply _ request).2]
          obtain ⟨failed, -, kept⟩ | ⟨sessionId, role, -, -, -, used⟩ := apply_cases sha256 _ _ request
          · intro live
            have same := kept live
            rw [same] at live ⊢
            refine known.succ quiet ?_ lasting live
            rintro other ⟨isTaken, succeeded⟩
            obtain rfl := ProfileEvent.apply.inj (Option.some.inj (taken.symm.trans isTaken))
            exact absurd (failed.symm.trans succeeded) (by simp)
          · intro live
            exact absurd (live.symm.trans used) (by simp)
        | ended session =>
          intro live
          rw [step_session] at live
          cases live
      · rw [step_other mine]
        refine known.succ ?_ ?_ ?_
        · rintro request ⟨isTaken, -⟩
          obtain rfl := Option.some.inj (taken.symm.trans isTaken)
          exact fun same => mine same.symm
        · rintro request ⟨isTaken, -⟩
          obtain rfl := Option.some.inj (taken.symm.trans isTaken)
          exact fun same => mine same.symm
        · rintro ended
          obtain rfl := Option.some.inj (taken.symm.trans ended)
          exact mine rfl

/-- The most recent successful preview is one. -/
theorem LastPreview.unique {session issued other : Nat} {offer second : ProfilePreviewRequest}
    (latest : LastPreview sha256 active preview events session index issued offer)
    (again : LastPreview sha256 active preview events session index other second) :
    issued = other := by
  by_contra different
  obtain earlier | later := Nat.lt_or_gt_of_ne different
  · exact latest.last other second earlier again.before again.previewed again.own
  · exact again.last issued offer later latest.before latest.previewed latest.own

/-- The capabilities of a validated profile fit the dialog. -/
theorem capabilities_whole {mask : UInt64} {role : Role}
    (within : mask &&& ~~~(roleCapabilities role).toUInt64 = 0) :
    mask.toUInt32.toUInt64 = mask := by
  have same : mask &&& (roleCapabilities role).toUInt64 = mask := by
    apply UInt64.eq_of_toBitVec_eq
    have bits := congrArg UInt64.toBitVec within
    ext place isPlace
    have bit := congrArg (fun value : BitVec 64 => value.getLsbD place) bits
    simp only [UInt64.toBitVec_and, UInt64.toBitVec_not, UInt64.toBitVec_ofNat,
      BitVec.getLsbD_and, BitVec.getLsbD_not, BitVec.getElem_and, BitVec.getLsbD_zero] at bit ⊢
    grind
  have small : mask.toNat ≤ (roleCapabilities role).toUInt64.toNat := by
    rw [← same, UInt64.toNat_and]
    exact Nat.and_le_right
  have word := (roleCapabilities role).toNat_lt
  rw [UInt32.toNat_toUInt64] at small
  apply UInt64.toNat.inj
  rw [UInt32.toNat_toUInt64, UInt64.toNat_toUInt32]
  omega

theorem applied_confirmed (collisionFree : CollisionFree sha256 events)
    {request : ProfileApplyRequest} (applied : Applied sha256 active preview events index request) :
    ∃ issued offer profile,
      Confirmed sha256 active preview events index request issued offer profile ∧
        ∀ later other, issued < later → later < index →
          Applied sha256 active preview events later other →
          other.session ≠ request.session := by
  obtain ⟨taken, succeeded⟩ := applied
  obtain ⟨failed, -⟩ | ⟨sessionId, role, found, -, isStore, -⟩ := apply_cases sha256
    ((systemAt sha256 active preview events index).sessions request.session)
    (systemAt sha256 active preview events index).store request
  · exact absurd (succeeded.symm.trans failed) (by simp)
  obtain ⟨live, -, unexpired, sameSession, sameRole, -, sameToken, sameCommand, -, -, -⟩ :=
    Confirmation.approve_ok found.approved
  obtain ⟨issued, offer, offeredId, offeredRole, profile, latest, offered, isIssued, unapplied⟩ :=
    confirmation_issued sha256 active preview events request.session index live
  obtain ⟨first, firstId, firstRole, isFirst, firstOffered⟩ :=
    store_offered sha256 active preview events index found.previewed
  rw [isIssued] at unexpired sameSession sameRole sameToken sameCommand
  have isOffer : ProfileEvent.preview offer ∈ events :=
    List.mem_of_getElem? latest.previewed.1
  have sameImage := collisionFree _ offer first _ _ isOffer isFirst offered.converted
    firstOffered.converted sameCommand
  have isProfile : (systemAt sha256 active preview events index).store.preview = profile :=
    (Profile.image_injective (Profile.fits_of_validate offered.valid)
      (Profile.fits_of_validate firstOffered.valid) (List.append_cancel_left sameImage)).symm
  obtain rfl : offeredId = sessionId := sameSession
  obtain rfl : offeredRole = role := sameRole
  refine ⟨issued, offer, profile, ?_, unapplied⟩
  exact {
    latest
    converted := offered.converted
    valid := ⟨offeredId, offeredRole, offered.identity, offered.valid⟩
    applied := by
      rw [systemAt_succ taken, (step_apply _ request).1, isStore]
      exact isProfile
    shown := by rw [← isProfile]; exact found.shown
    whole := capabilities_whole (Profile.capabilities_of_validate offered.valid)
    token := sameToken.symm
    identity := found.identity.trans offered.identity.symm
    unexpired := Confirmation.before_expiry unexpired }

/-- For every run of previews, applies and ends of any number of sessions on whose
profiles the hash does not collide: what is applied was confirmed by the most recent
successful preview of its session, no preview is applied twice, and the active profile
changes in no other way. -/
theorem profiles_confirmed (sha256 : List UInt8 → Digest) (active preview : Profile)
    (events : List ProfileEvent) (collisionFree : CollisionFree sha256 events) :
    (∀ index request, Applied sha256 active preview events index request →
      ∃ issued offer profile,
        Confirmed sha256 active preview events index request issued offer profile) ∧
    (∀ first second request other issued offer again profile copy,
      Applied sha256 active preview events first request →
      Applied sha256 active preview events second other →
      Confirmed sha256 active preview events first request issued offer profile →
      Confirmed sha256 active preview events second other issued again copy → first = second) ∧
    ∀ index, (systemAt sha256 active preview events (index + 1)).store.active ≠
        (systemAt sha256 active preview events index).store.active →
      ∃ request, Applied sha256 active preview events index request := by
  refine ⟨fun index request applied => ?_, ?_, fun index changed => ?_⟩
  · obtain ⟨issued, offer, profile, confirmed, -⟩ := applied_confirmed collisionFree applied
    exact ⟨issued, offer, profile, confirmed⟩
  · have ordered {first second : Nat} {request other : ProfileApplyRequest} {issued : Nat}
        {offer again : ProfilePreviewRequest} {profile copy : Profile}
        (applied : Applied sha256 active preview events first request)
        (later : Applied sha256 active preview events second other)
        (confirmed : Confirmed sha256 active preview events first request issued offer profile)
        (repeated : Confirmed sha256 active preview events second other issued again copy) :
        ¬ first < second := by
      intro before
      obtain ⟨issued', offer', profile', confirmed', unapplied⟩ :=
        applied_confirmed collisionFree later
      have sameIssued := confirmed'.latest.unique repeated.latest
      have sameOffer : offer = again := ProfileEvent.preview.inj (Option.some.inj
        (confirmed.latest.previewed.1.symm.trans repeated.latest.previewed.1))
      have sameSession : request.session = other.session := by
        rw [← confirmed.latest.own, sameOffer, repeated.latest.own]
      exact unapplied first request (sameIssued ▸ confirmed.latest.before) before applied
        sameSession
    intro first second request other issued offer again profile copy applied later confirmed
      repeated
    have notBefore := ordered applied later confirmed repeated
    have notAfter := ordered later applied repeated confirmed
    omega
  · cases taken : events[index]? with
    | none =>
      have still : systemAt sha256 active preview events (index + 1) =
          systemAt sha256 active preview events index := Runs.reached_end taken
      exact absurd (by rw [still]) changed
    | some event =>
      rw [systemAt_succ taken] at changed
      cases event with
      | preview request =>
        rw [(step_preview _ request).1] at changed
        obtain same | ⟨sessionId, role, profile, -, same | same⟩ :=
          preview_cases sha256 _ _ request
        all_goals
          rw [same] at changed
          exact absurd rfl changed
      | apply request =>
        rw [(step_apply _ request).1] at changed
        obtain ⟨-, same, -⟩ | ⟨sessionId, role, -, succeeded, -, -⟩ := apply_cases sha256 _ _ request
        · rw [same] at changed
          exact absurd rfl changed
        · exact ⟨request, taken, succeeded⟩
      | ended session => exact absurd rfl changed

section FieldProfile

/-- A profile of built-in content. -/
def fieldMessage : ProfileMessage where
  format := 1
  id := .literal "team.field"
  version := .literal "1.0.0"
  role := .literal "field"
  enabledTools := []
  favorites := []
  hiddenTools := []
  shortcuts := []
  policyId := .literal "builtin.field"
  themeId := .literal "builtin.field-console"
  fontPackId := .literal "builtin.default"
  iconPackId := .literal "builtin.default"
  menuId := .literal "builtin.field-console"
  dashboardLayout := .literal "field-console"
  homePresentation := .literal "builtin.field-console"
  statusPresentation := .literal "builtin.field-console"
  lockBehavior := .literal "pin"
  toolDefaultsJson := .literal "\x7b\x7d"
  transportPolicy := .literal "local-only"
  loggingPolicy := .literal "metadata"
  evidencePolicy := .literal "digest-only"
  radioRegion := .literal "device"
  peripheralSafety := .literal "guarded"
  classroomPolicy := .literal "none"
  contrastRatioX10 := 45
  capabilityMask := 1
  notificationsEnabled := true
  hapticsEnabled := true
  classroomRestricted := false

/-- The owner previews the profile. -/
def fieldPreview : ProfilePreviewRequest where
  session := 0
  hasNext := false
  dispatchActive := true
  identity := some (7, .owner)
  message := fieldMessage
  environment := ⟨fun _ _ => false, none⟩
  nowMs := 1000
  token := .zero _

/-- The owner applies it, and it is confirmed at the device. -/
def fieldApply : ProfileApplyRequest where
  session := 0
  hasNext := false
  dispatchActive := true
  identity := some (7, .owner)
  profileId := .literal "team.field"
  confirmationToken := .literal ""
  confirmationTokenBytes := List.replicate 16 0
  approver := .dialog fun _ => true
  approvalNowMs := 2000
  environment := ⟨fun _ _ => false, none⟩
  stored := true

def fieldRun : List ProfileEvent := [.preview fieldPreview, .apply fieldApply]

/-- The profile that is active before. -/
def startProfile : Profile := ⟨{ fieldMessage with id := .literal "team.start" }, true⟩

/-- A run that previews one profile has no two to collide. -/
theorem field_collision_free (sha256 : List UInt8 → Digest) : CollisionFree sha256 fieldRun := by
  intro domain first second left right isFirst isSecond converted again _
  have only {request : ProfilePreviewRequest} (member : ProfileEvent.preview request ∈ fieldRun) :
      request = fieldPreview := by
    simpa [fieldRun] using member
  rw [only isFirst] at converted
  rw [only isSecond] at again
  rw [Option.some.inj (converted.symm.trans again)]

/-- A checksum in the place of SHA-256, which is evaluated faster on the image of a profile. -/
def profileChecksum (message : List UInt8) : Digest where
  bytes := littleEndian 32
    (message.foldl (fun sum byte => (sum * 257 + byte.toNat + 1) % 256 ^ 32) 7)
  sized := by simp; rfl

/-- What the run applies was confirmed, with SHA-256 itself; and with the checksum the apply
succeeds. -/
theorem field_profile_confirmed :
    let sha256 : List UInt8 → Digest := fun message =>
      ⟨Sha256.digest message, Sha256.length_digest message⟩
    (∀ index request, Applied sha256 startProfile startProfile fieldRun index request →
      ∃ issued offer profile, Confirmed sha256 startProfile startProfile fieldRun index request
        issued offer profile) ∧
      Applied profileChecksum startProfile startProfile fieldRun 1 fieldApply ∧
        ∃ issued offer profile, Confirmed profileChecksum startProfile startProfile fieldRun 1
          fieldApply issued offer profile := by
  intro sha256
  have applied : Applied profileChecksum startProfile startProfile fieldRun 1 fieldApply :=
    ⟨rfl, by decide +kernel⟩
  exact ⟨(profiles_confirmed _ _ _ _ (field_collision_free _)).1, applied,
    (profiles_confirmed _ _ _ _ (field_collision_free _)).1 1 fieldApply applied⟩

end FieldProfile

end ProfileSystem

end PoisonedOS
