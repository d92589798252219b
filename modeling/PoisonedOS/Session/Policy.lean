import PoisonedOS.Rpc.Confirmation

/-!
# Roles and capabilities

A capability is a bit of a 32-bit word. Each role may hold the capabilities of its
mask, and a request is allowed where all of it may be granted.
-/

namespace PoisonedOS

/-- `PoisonCapability`. -/
abbrev Capabilities := UInt32

/-- `POISON_CAPABILITY_STATUS`. -/
def capabilityStatus : Capabilities := 1

/-- `POISON_CAPABILITY_CONTROL`. -/
def capabilityControl : Capabilities := 2

/-- `POISON_CAPABILITY_LAUNCH`. -/
def capabilityLaunch : Capabilities := 4

/-- `POISON_CAPABILITY_FILES`. -/
def capabilityFiles : Capabilities := 8

/-- `POISON_CAPABILITY_EVIDENCE`. -/
def capabilityEvidence : Capabilities := 16

/-- `POISON_CAPABILITY_RADIO`. -/
def capabilityRadio : Capabilities := 32

/-- `POISON_CAPABILITY_NATIVE`. -/
def capabilityNative : Capabilities := 64

/-- `POISON_CAPABILITY_DESTRUCTIVE`. -/
def capabilityDestructive : Capabilities := 128

/-- The capabilities there are. -/
def allCapabilities : Capabilities :=
  capabilityStatus ||| capabilityControl ||| capabilityLaunch ||| capabilityFiles |||
    capabilityEvidence ||| capabilityRadio ||| capabilityNative ||| capabilityDestructive

/-- Every capability of the first set is in the second. -/
def CapabilitiesIn (held allowed : Capabilities) : Prop := held &&& allowed = held

instance (held allowed : Capabilities) : Decidable (CapabilitiesIn held allowed) :=
  inferInstanceAs (Decidable (_ = _))

theorem CapabilitiesIn.refl (held : Capabilities) : CapabilitiesIn held held :=
  UInt32.and_self

theorem CapabilitiesIn.trans {held middle allowed : Capabilities}
    (first : CapabilitiesIn held middle) (second : CapabilitiesIn middle allowed) :
    CapabilitiesIn held allowed := by
  unfold CapabilitiesIn at *
  calc held &&& allowed = held &&& middle &&& allowed := by rw [first]
    _ = held &&& (middle &&& allowed) := UInt32.and_assoc ..
    _ = held := by rw [second, first]

theorem capabilitiesIn_and_left (left right : Capabilities) :
    CapabilitiesIn (left &&& right) left := by
  unfold CapabilitiesIn
  rw [UInt32.and_comm left right, UInt32.and_assoc, UInt32.and_self]

/-- `poison_policy_role_capabilities` of a role below the counting sentinel. -/
def roleCapabilities : Role → Capabilities
  | .owner => allCapabilities
  | .operator =>
    capabilityStatus ||| capabilityControl ||| capabilityLaunch ||| capabilityFiles |||
      capabilityEvidence ||| capabilityRadio
  | .instructor =>
    capabilityStatus ||| capabilityControl ||| capabilityLaunch ||| capabilityFiles |||
      capabilityEvidence
  | .student => capabilityStatus ||| capabilityControl ||| capabilityLaunch
  | .observer => capabilityStatus ||| capabilityEvidence

/-- `PoisonPolicyDecision`. -/
structure PolicyDecision where
  granted : Capabilities
  allowed : Bool
  policyVersion : UInt32
deriving DecidableEq

/-- `poison_policy_evaluate`. -/
def policyEvaluate (role : Role) (requested : Capabilities)
    (deviceLocked physicalConfirmation : Bool) (policyVersion : UInt32) : PolicyDecision :=
  let granted := roleCapabilities role &&& requested
  let granted :=
    if deviceLocked then granted &&& (capabilityStatus ||| capabilityEvidence) else granted
  let granted :=
    if physicalConfirmation then granted
    else granted &&& ~~~(capabilityNative ||| capabilityDestructive ||| capabilityRadio)
  { granted
    allowed := granted != 0 && (granted &&& requested) == requested
    policyVersion }

/-- What is granted is within the role, whatever the device's state. -/
theorem policyEvaluate_within_role (role : Role) (requested : Capabilities)
    (deviceLocked physicalConfirmation : Bool) (policyVersion : UInt32) :
    CapabilitiesIn (policyEvaluate role requested deviceLocked physicalConfirmation
      policyVersion).granted (roleCapabilities role) := by
  have within := capabilitiesIn_and_left (roleCapabilities role) requested
  cases deviceLocked <;> cases physicalConfirmation
  · exact (capabilitiesIn_and_left ..).trans within
  · exact within
  · exact (capabilitiesIn_and_left ..).trans ((capabilitiesIn_and_left ..).trans within)
  · exact (capabilitiesIn_and_left ..).trans within

/-- An allowed request of an unlocked device is granted as it was made. -/
theorem policyEvaluate_granted {role : Role} {requested : Capabilities} {policyVersion : UInt32}
    (allowed : (policyEvaluate role requested false true policyVersion).allowed = true) :
    (policyEvaluate role requested false true policyVersion).granted = requested := by
  simp only [policyEvaluate, Bool.false_eq_true, ↓reduceIte, Bool.and_eq_true,
    beq_iff_eq] at allowed ⊢
  have whole := allowed.2
  rwa [UInt32.and_assoc, UInt32.and_self] at whole

end PoisonedOS
