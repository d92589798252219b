import PoisonedOS.Library.Buffers
import PoisonedOS.Session.Policy

/-!
# Profiles

A profile selects tools, presentation and policies, and asks for capabilities. It is
validated against the content that is installed, the radio region of the device and the
capabilities of the role that offers it.

A confirmation binds a profile by the hash of its image in memory. Every text of a
validated profile leaves room for its terminator, so the image determines the profile.
-/

namespace PoisonedOS

/-- `POISON_PROFILE_TEXT`, the buffer size with its terminator. -/
def profileTextSize : Nat := 65

/-- `POISON_PROFILE_LAYOUT_TEXT`. -/
def profileLayoutTextSize : Nat := 257

/-- `POISON_PROFILE_DEFAULTS_TEXT`. -/
def profileDefaultsTextSize : Nat := 513

/-- `POISON_PROFILE_MAX_LIST`. -/
def profileMaxList : Nat := 32

/-- `POISON_PROFILE_KNOWN_GOOD_ID`. -/
def profileKnownGoodId : CString := .literal "poisonedos.field-console"

/-- `PB_Poison_Profile`: the fields of a profile that a message carries. -/
structure ProfileMessage where
  format : UInt32
  id : CString
  version : CString
  role : CString
  enabledTools : List CString
  favorites : List CString
  hiddenTools : List CString
  shortcuts : List CString
  policyId : CString
  themeId : CString
  fontPackId : CString
  iconPackId : CString
  menuId : CString
  dashboardLayout : CString
  homePresentation : CString
  statusPresentation : CString
  lockBehavior : CString
  toolDefaultsJson : CString
  transportPolicy : CString
  loggingPolicy : CString
  evidencePolicy : CString
  radioRegion : CString
  peripheralSafety : CString
  classroomPolicy : CString
  contrastRatioX10 : UInt32
  capabilityMask : UInt64
  notificationsEnabled : Bool
  hapticsEnabled : Bool
  classroomRestricted : Bool
deriving DecidableEq

/-- `PoisonProfile`. The counts are the lengths of the lists. -/
structure Profile extends ProfileMessage where
  knownGood : Bool
deriving DecidableEq

/-- What validation reads from the device: which content is active under which type, and
the name of its radio region. -/
structure ProfileEnvironment where
  activeContent : CString → CString → Bool
  regionName : Option CString

/-- `poison_profile_asset_identifier_valid`. -/
def profileAssetIdentifierValid (identifier : CString) (maxLength : Nat) : Bool :=
  !identifier.isEmpty && decide (identifier.length ≤ maxLength) &&
    identifier.bytes.all fun byte =>
      isLower byte || isDigit byte || byte == 46 || byte == 45 || byte == 95

/-- `poison_profile_asset_is_active`. -/
def profileAssetIsActive (environment : ProfileEnvironment) (identifier primaryType : CString)
    (combinedType : Option CString) : Bool :=
  identifier.startsWith (.literal "builtin.") ||
    environment.activeContent identifier primaryType ||
    combinedType.any (environment.activeContent identifier) ||
    environment.activeContent identifier (.literal "ui-pack")

/-- `poison_profile_assets_available`. -/
def profileAssetsAvailable (environment : ProfileEnvironment)
    (themeId fontPackId iconPackId menuId : CString) : Bool :=
  profileAssetIsActive environment themeId (.literal "theme") none &&
    profileAssetIsActive environment fontPackId (.literal "font") (some (.literal "font-icon")) &&
    profileAssetIsActive environment iconPackId (.literal "icon") (some (.literal "font-icon")) &&
    profileAssetIsActive environment menuId (.literal "menu") none

/-- `text`. -/
def profileText (value : CString) : Bool :=
  !value.isEmpty && decide (value.length < profileTextSize)

/-- `profile_list_valid`. -/
def profileListValid (values : List CString) : Bool :=
  decide (values.length ≤ profileMaxList) && values.all profileText

/-- `profile_choice`. -/
def profileChoice (value : CString) (choices : List String) : Bool :=
  profileText value && choices.any fun choice => value == .literal choice

/-- `profile_tool_defaults_valid`. -/
def profileToolDefaultsValid (value : CString) : Bool :=
  decide (value.length ≥ 2) && decide (value.length < profileDefaultsTextSize) &&
    value.bytes.head? == some 123 && value.bytes.getLast? == some 125

/-- `profile_region_valid`. -/
def profileRegionValid (environment : ProfileEnvironment) (value : CString) : Bool :=
  profileText value && (value == .literal "device" || environment.regionName == some value)

/-- `poison_profile_validate`. -/
def profileValidate (environment : ProfileEnvironment) (profile : Profile)
    (roleCapabilityMask : UInt64) : Bool :=
  profile.format == 1 && profileText profile.id && profileText profile.version &&
    profileText profile.role && profileText profile.policyId && profileText profile.themeId &&
    profileText profile.fontPackId && profileText profile.iconPackId &&
    profileText profile.menuId &&
    profileAssetsAvailable environment profile.themeId profile.fontPackId profile.iconPackId
      profile.menuId &&
    profileListValid profile.enabledTools && profileListValid profile.favorites &&
    profileListValid profile.hiddenTools && profileListValid profile.shortcuts &&
    !profile.dashboardLayout.isEmpty &&
    decide (profile.dashboardLayout.length < profileLayoutTextSize) &&
    profileText profile.homePresentation && profileText profile.statusPresentation &&
    profileChoice profile.lockBehavior ["pin", "locked", "classroom"] &&
    profileToolDefaultsValid profile.toolDefaultsJson &&
    profileChoice profile.transportPolicy ["usb-only", "local-only", "classroom-managed"] &&
    profileChoice profile.loggingPolicy ["metadata", "detailed"] &&
    profileChoice profile.evidencePolicy ["digest-only", "full-local"] &&
    profileRegionValid environment profile.radioRegion &&
    profileChoice profile.peripheralSafety ["guarded", "strict"] &&
    profileChoice profile.classroomPolicy ["none", "student", "instructor"] &&
    (!profile.classroomRestricted ||
      (profile.classroomPolicy != .literal "none" &&
        profile.transportPolicy == .literal "classroom-managed")) &&
    decide (profile.contrastRatioX10 ≥ 45) &&
    (profile.capabilityMask &&& ~~~roleCapabilityMask) == 0 &&
    profile.knownGood == (profile.id == profileKnownGoodId)

/-- `rpc_poison_profile_from_pb`. -/
def profileFromPb (input : ProfileMessage) : Option Profile :=
  if input.enabledTools.length > profileMaxList || input.favorites.length > profileMaxList ||
      input.hiddenTools.length > profileMaxList || input.shortcuts.length > profileMaxList then
    none
  else if input.enabledTools.all (profileAssetIdentifierValid · 64) &&
      input.favorites.all (profileAssetIdentifierValid · 64) &&
      input.hiddenTools.all (profileAssetIdentifierValid · 64) &&
      input.shortcuts.all (profileAssetIdentifierValid · 64) &&
      profileAssetIdentifierValid input.id 64 && profileAssetIdentifierValid input.policyId 64 &&
      profileAssetIdentifierValid input.themeId 64 &&
      profileAssetIdentifierValid input.fontPackId 64 &&
      profileAssetIdentifierValid input.iconPackId 64 &&
      profileAssetIdentifierValid input.menuId 64 then
    some { input with knownGood := false }
  else none

namespace Profile

/-- The image of a text field. -/
def field (value : CString) : List UInt8 := textBuffer profileTextSize value

def listField (padding : Nat) (values : List CString) : List UInt8 :=
  countedArray profileTextSize profileMaxList padding values

/-- The image of the structure in memory. The counts are aligned to four bytes and the
capability mask to eight; what is between the fields is zero. -/
def image (profile : Profile) : List UInt8 :=
  bytes32 profile.format ++ (field profile.id ++ (field profile.version ++ (field profile.role ++
  (listField 1 profile.enabledTools ++ (listField 0 profile.favorites ++
  (listField 0 profile.hiddenTools ++ (listField 0 profile.shortcuts ++
  (field profile.policyId ++ (field profile.themeId ++ (field profile.fontPackId ++
  (field profile.iconPackId ++ (field profile.menuId ++
  (textBuffer profileLayoutTextSize profile.dashboardLayout ++
  (field profile.homePresentation ++ (field profile.statusPresentation ++
  (field profile.lockBehavior ++
  (textBuffer profileDefaultsTextSize profile.toolDefaultsJson ++
  (field profile.transportPolicy ++ (field profile.loggingPolicy ++
  (field profile.evidencePolicy ++ (field profile.radioRegion ++
  (field profile.peripheralSafety ++ (field profile.classroomPolicy ++
  (bytes32 profile.contrastRatioX10 ++ (List.replicate 4 0 ++
  (bytes64 profile.capabilityMask ++ (bytesBool profile.notificationsEnabled ++
  (bytesBool profile.hapticsEnabled ++ (bytesBool profile.classroomRestricted ++
  (bytesBool profile.knownGood ++ List.replicate 4 0))))))))))))))))))))))))))))))

/-- Every text and list has room in its buffer. -/
structure Fits (profile : Profile) : Prop where
  id : profile.id.length < profileTextSize
  version : profile.version.length < profileTextSize
  role : profile.role.length < profileTextSize
  enabledTools : profileListValid profile.enabledTools = true
  favorites : profileListValid profile.favorites = true
  hiddenTools : profileListValid profile.hiddenTools = true
  shortcuts : profileListValid profile.shortcuts = true
  policyId : profile.policyId.length < profileTextSize
  themeId : profile.themeId.length < profileTextSize
  fontPackId : profile.fontPackId.length < profileTextSize
  iconPackId : profile.iconPackId.length < profileTextSize
  menuId : profile.menuId.length < profileTextSize
  dashboardLayout : profile.dashboardLayout.length < profileLayoutTextSize
  homePresentation : profile.homePresentation.length < profileTextSize
  statusPresentation : profile.statusPresentation.length < profileTextSize
  lockBehavior : profile.lockBehavior.length < profileTextSize
  toolDefaultsJson : profile.toolDefaultsJson.length < profileDefaultsTextSize
  transportPolicy : profile.transportPolicy.length < profileTextSize
  loggingPolicy : profile.loggingPolicy.length < profileTextSize
  evidencePolicy : profile.evidencePolicy.length < profileTextSize
  radioRegion : profile.radioRegion.length < profileTextSize
  peripheralSafety : profile.peripheralSafety.length < profileTextSize
  classroomPolicy : profile.classroomPolicy.length < profileTextSize

variable {value : CString}

theorem length_of_text (valid : profileText value = true) :
    value.length < profileTextSize := by
  simp only [profileText, Bool.and_eq_true, decide_eq_true_eq] at valid
  exact valid.2

theorem length_of_choice {choices : List String} (valid : profileChoice value choices = true) :
    value.length < profileTextSize := by
  simp only [profileChoice, Bool.and_eq_true] at valid
  exact length_of_text valid.1

variable {environment : ProfileEnvironment}

theorem length_of_region (valid : profileRegionValid environment value = true) :
    value.length < profileTextSize := by
  simp only [profileRegionValid, Bool.and_eq_true] at valid
  exact length_of_text valid.1

/-- A validated profile has room in all of its buffers. -/
theorem fits_of_validate {profile : Profile} {mask : UInt64}
    (valid : profileValidate environment profile mask = true) : profile.Fits := by
  simp only [profileValidate, Bool.and_eq_true] at valid
  obtain ⟨⟨⟨⟨⟨⟨⟨⟨⟨⟨⟨⟨⟨⟨⟨⟨⟨⟨⟨⟨⟨⟨⟨⟨⟨⟨⟨⟨⟨-, id⟩, version⟩, role⟩, policyId⟩, themeId⟩, fontPackId⟩,
    iconPackId⟩, menuId⟩, -⟩, enabledTools⟩, favorites⟩, hiddenTools⟩, shortcuts⟩, -⟩,
    dashboardLayout⟩, homePresentation⟩, statusPresentation⟩, lockBehavior⟩, toolDefaults⟩,
    transportPolicy⟩, loggingPolicy⟩, evidencePolicy⟩, radioRegion⟩, peripheralSafety⟩,
    classroomPolicy⟩, -⟩, -⟩, -⟩, -⟩ := valid
  simp only [profileToolDefaultsValid, Bool.and_eq_true, decide_eq_true_eq] at toolDefaults
  exact {
    id := length_of_text id
    version := length_of_text version
    role := length_of_text role
    enabledTools, favorites, hiddenTools, shortcuts
    policyId := length_of_text policyId
    themeId := length_of_text themeId
    fontPackId := length_of_text fontPackId
    iconPackId := length_of_text iconPackId
    menuId := length_of_text menuId
    dashboardLayout := of_decide_eq_true dashboardLayout
    homePresentation := length_of_text homePresentation
    statusPresentation := length_of_text statusPresentation
    lockBehavior := length_of_choice lockBehavior
    toolDefaultsJson := toolDefaults.1.1.2
    transportPolicy := length_of_choice transportPolicy
    loggingPolicy := length_of_choice loggingPolicy
    evidencePolicy := length_of_choice evidencePolicy
    radioRegion := length_of_region radioRegion
    peripheralSafety := length_of_choice peripheralSafety
    classroomPolicy := length_of_choice classroomPolicy }

theorem capabilities_of_validate {profile : Profile} {mask : UInt64}
    (valid : profileValidate environment profile mask = true) :
    profile.capabilityMask &&& ~~~mask = 0 := by
  simp only [profileValidate, Bool.and_eq_true, beq_iff_eq] at valid
  exact valid.1.2

theorem listField_append_injective {padding : Nat} {left right : List CString}
    {tail rest : List UInt8} (leftValid : profileListValid left = true)
    (rightValid : profileListValid right = true)
    (same : listField padding left ++ tail = listField padding right ++ rest) :
    left = right ∧ tail = rest := by
  simp only [profileListValid, Bool.and_eq_true, decide_eq_true_eq, List.all_eq_true]
    at leftValid rightValid
  exact countedArray_append_injective (fun text isText => length_of_text (leftValid.2 text isText))
    (fun text isText => length_of_text (rightValid.2 text isText)) leftValid.1 rightValid.1
    (by decide) same

/-- The image determines a profile that fits. -/
theorem image_injective {left right : Profile} (leftFits : left.Fits) (rightFits : right.Fits)
    (same : left.image = right.image) : left = right := by
  obtain ⟨format, same⟩ := bytes32_append_injective same
  obtain ⟨id, same⟩ := textBuffer_append_injective leftFits.id rightFits.id same
  obtain ⟨version, same⟩ := textBuffer_append_injective leftFits.version rightFits.version same
  obtain ⟨role, same⟩ := textBuffer_append_injective leftFits.role rightFits.role same
  obtain ⟨enabledTools, same⟩ :=
    listField_append_injective leftFits.enabledTools rightFits.enabledTools same
  obtain ⟨favorites, same⟩ :=
    listField_append_injective leftFits.favorites rightFits.favorites same
  obtain ⟨hiddenTools, same⟩ :=
    listField_append_injective leftFits.hiddenTools rightFits.hiddenTools same
  obtain ⟨shortcuts, same⟩ :=
    listField_append_injective leftFits.shortcuts rightFits.shortcuts same
  obtain ⟨policyId, same⟩ := textBuffer_append_injective leftFits.policyId rightFits.policyId same
  obtain ⟨themeId, same⟩ := textBuffer_append_injective leftFits.themeId rightFits.themeId same
  obtain ⟨fontPackId, same⟩ :=
    textBuffer_append_injective leftFits.fontPackId rightFits.fontPackId same
  obtain ⟨iconPackId, same⟩ :=
    textBuffer_append_injective leftFits.iconPackId rightFits.iconPackId same
  obtain ⟨menuId, same⟩ := textBuffer_append_injective leftFits.menuId rightFits.menuId same
  obtain ⟨dashboardLayout, same⟩ :=
    textBuffer_append_injective leftFits.dashboardLayout rightFits.dashboardLayout same
  obtain ⟨homePresentation, same⟩ :=
    textBuffer_append_injective leftFits.homePresentation rightFits.homePresentation same
  obtain ⟨statusPresentation, same⟩ :=
    textBuffer_append_injective leftFits.statusPresentation rightFits.statusPresentation same
  obtain ⟨lockBehavior, same⟩ :=
    textBuffer_append_injective leftFits.lockBehavior rightFits.lockBehavior same
  obtain ⟨toolDefaultsJson, same⟩ :=
    textBuffer_append_injective leftFits.toolDefaultsJson rightFits.toolDefaultsJson same
  obtain ⟨transportPolicy, same⟩ :=
    textBuffer_append_injective leftFits.transportPolicy rightFits.transportPolicy same
  obtain ⟨loggingPolicy, same⟩ :=
    textBuffer_append_injective leftFits.loggingPolicy rightFits.loggingPolicy same
  obtain ⟨evidencePolicy, same⟩ :=
    textBuffer_append_injective leftFits.evidencePolicy rightFits.evidencePolicy same
  obtain ⟨radioRegion, same⟩ :=
    textBuffer_append_injective leftFits.radioRegion rightFits.radioRegion same
  obtain ⟨peripheralSafety, same⟩ :=
    textBuffer_append_injective leftFits.peripheralSafety rightFits.peripheralSafety same
  obtain ⟨classroomPolicy, same⟩ :=
    textBuffer_append_injective leftFits.classroomPolicy rightFits.classroomPolicy same
  obtain ⟨contrastRatioX10, same⟩ := bytes32_append_injective same
  obtain ⟨capabilityMask, same⟩ := bytes64_append_injective (List.append_cancel_left same)
  obtain ⟨notificationsEnabled, same⟩ := bytesBool_append_injective same
  obtain ⟨hapticsEnabled, same⟩ := bytesBool_append_injective same
  obtain ⟨classroomRestricted, same⟩ := bytesBool_append_injective same
  obtain ⟨knownGood, -⟩ := bytesBool_append_injective same
  obtain ⟨⟨_⟩, _⟩ := left
  obtain ⟨⟨_⟩, _⟩ := right
  simp only at *
  subst_vars
  rfl

end Profile

end PoisonedOS
