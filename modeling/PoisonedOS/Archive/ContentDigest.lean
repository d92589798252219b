import PoisonedOS.Archive.Bundles
import PoisonedOS.Library.Hex
import PoisonedOS.Audit.Chain

/-!
# One content digest

The archive verifier, the bundle loader and the builder hash the payloads in the order of
their paths by code points: UTF-8 keeps that order, so `strcmp` and Python agree. The
dashboard sorts by UTF-16 units. The four digests are the same where no two paths clash in
these orders and the loader's path buffer holds every path.
-/

namespace PoisonedOS.ContentDigest

open BundleVerifier JsBundle PackageArchive

open PackageBuilder (BuiltPayload)

/-- A text as the device has it. -/
def deviceText (text : List Char) : CString := CString.ofBytes (Unicode.utf8 text)

/-- A payload as the device has it. -/
def descriptor (payload : BuiltPayload) : PayloadDescriptor where
  path := deviceText payload.path
  sha256 := deviceText payload.sha256
  size := UInt32.ofNat payload.size

/-- A payload as the dashboard has it. -/
def asset (payload : BuiltPayload) : BundleVerifier.ServedBundleAsset where
  path := payload.path
  sha256 := payload.sha256
  size := payload.size

/-- A payload as an accepted manifest can have it. -/
structure Valid (payload : BuiltPayload) : Prop where
  text : Char.ofNat 0 ∉ payload.path
  path : PackageManifest.pathValid (deviceText payload.path) = true
  digest : PackageBuilder.isDigest payload.sha256 = true
  size : payload.size < 4294967296

/-! ## Texts on the device -/

/-- A code point other than U+0000 has no zero byte. -/
theorem zero_not_mem_char {character : Char} (nonzero : character ≠ Char.ofNat 0) :
    (0 : UInt8) ∉ String.utf8EncodeChar character := by
  intro inside
  have number : (0 : Nat) ∈ TextOrder.bytesOf character :=
    List.mem_map.mpr ⟨0, inside, rfl⟩
  have positive : character.toNat ≠ 0 := by
    intro zero
    exact nonzero (TextOrder.toNat_injective zero)
  rw [TextOrder.bytesOf_eq] at number
  split at number
  · simp only [List.mem_singleton] at number
    omega
  split at number
  · simp only [List.mem_cons, List.not_mem_nil, or_false] at number
    omega
  split at number
  · simp only [List.mem_cons, List.not_mem_nil, or_false] at number
    omega
  · simp only [List.mem_cons, List.not_mem_nil, or_false] at number
    omega

variable {text : List Char}

theorem zero_not_mem (nonzero : Char.ofNat 0 ∉ text) :
    (0 : UInt8) ∉ Unicode.utf8 text := by
  intro inside
  obtain ⟨character, member, byte⟩ := List.mem_flatMap.mp inside
  refine zero_not_mem_char ?_ byte
  rintro rfl
  exact nonzero member

/-- A text without U+0000 is kept whole. -/
theorem deviceText_bytes (nonzero : Char.ofNat 0 ∉ text) :
    (deviceText text).bytes = Unicode.utf8 text :=
  CString.ofBytes_bytes (zero_not_mem nonzero)

theorem utf8_injective {left right : List Char} (same : Unicode.utf8 left = Unicode.utf8 right) :
    left = right := by
  have decoded := congrArg Unicode.decodeUtf8 same
  simpa using decoded

theorem deviceText_injective {left right : List Char} (leftText : Char.ofNat 0 ∉ left)
    (rightText : Char.ofNat 0 ∉ right) (same : deviceText left = deviceText right) :
    left = right := by
  refine utf8_injective ?_
  rw [← deviceText_bytes leftText, ← deviceText_bytes rightText, same]

theorem digest_text (digest : PackageBuilder.isDigest text = true) :
    Char.ofNat 0 ∉ text := by
  intro inside
  simp only [PackageBuilder.isDigest, Bool.and_eq_true] at digest
  have digit := List.all_eq_true.mp digest.2 _ inside
  revert digit
  decide

/-- The digits of a byte are the same on the device. -/
theorem utf8_hexdigest (bytes : List UInt8) :
    Unicode.utf8 (PackageBuilder.hexdigest bytes) = hexBytes bytes := by
  induction bytes with
  | nil => rfl
  | cons byte bytes ih =>
    have digits := beq_iff_eq.mp (Hex.forall_byte (fun byte =>
      Unicode.utf8 [Nat.digitChar (byte.toNat / 16), Nat.digitChar (byte.toNat % 16)] ==
        [hexDigit (byte >>> (4 : UInt8)), hexDigit (byte &&& (15 : UInt8))])
      (by decide +kernel) byte)
    rw [Hex.hexBytes_cons, ← ih]
    simp only [PackageBuilder.hexdigest, List.flatMap_cons, Unicode.utf8, List.flatMap_append]
      at digits ⊢
    rw [digits]
    rfl

theorem deviceText_hexdigest (digest : Digest) :
    deviceText (PackageBuilder.hexdigest digest.bytes) = hexEncode digest := by
  rw [deviceText, utf8_hexdigest, hexEncode]

/-! ## Sorted payloads -/

/-- A comparison of paths that is a linear order. -/
structure Linear (le : List Char → List Char → Bool) : Prop where
  total : ∀ first second, le first second = true ∨ le second first = true
  trans : ∀ first second third, le first second = true → le second third = true →
    le first third = true
  antisymm : ∀ first second, le first second = true → le second first = true → first = second

section Sorting

variable {le : List Char → List Char → Bool} {payloads permuted : List BuiltPayload}

/-- Payloads by their paths. -/
def sortBy (le : List Char → List Char → Bool) (payloads : List BuiltPayload) :
    List BuiltPayload :=
  payloads.insertionSort fun left right => le left.path right.path = true

theorem sortBy_perm (le : List Char → List Char → Bool) (payloads : List BuiltPayload) :
    (sortBy le payloads).Perm payloads := List.perm_insertionSort _ _

theorem Linear.sorted (linear : Linear le) (payloads : List BuiltPayload) :
    (sortBy le payloads).Pairwise fun left right => le left.path right.path = true := by
  have total : Std.Total fun left right : BuiltPayload => le left.path right.path = true :=
    ⟨fun left right => linear.total left.path right.path⟩
  have trans : IsTrans BuiltPayload fun left right => le left.path right.path = true :=
    ⟨fun left middle right => linear.trans left.path middle.path right.path⟩
  exact List.pairwise_insertionSort _ _

theorem same_payload (distinct : (payloads.map BuiltPayload.path).Nodup)
    {left right : BuiltPayload} (one : left ∈ payloads) (two : right ∈ payloads)
    (same : left.path = right.path) : left = right :=
  List.inj_on_of_nodup_map distinct one two same

/-- The order in which the payloads are listed does not matter. -/
theorem Linear.sortBy_eq (linear : Linear le)
    (distinct : (payloads.map BuiltPayload.path).Nodup) (permutation : permuted.Perm payloads) :
    sortBy le permuted = sortBy le payloads := by
  refine List.Perm.eq_of_pairwise ?_ (linear.sorted permuted) (linear.sorted payloads)
    ((sortBy_perm le permuted).trans (permutation.trans (sortBy_perm le payloads).symm))
  intro left right one two before after
  exact same_payload distinct (permutation.subset ((sortBy_perm le permuted).subset one))
    ((sortBy_perm le payloads).subset two) (linear.antisymm _ _ before after)

end Sorting

theorem linear_textLe : Linear PackageBuilder.textLe where
  total := by
    intro first second
    simp only [PackageBuilder.textLe, decide_eq_true_eq]
    exact le_total _ _
  trans := by
    intro first second third
    simp only [PackageBuilder.textLe, decide_eq_true_eq]
    exact le_trans
  antisymm := by
    intro first second before after
    simp only [PackageBuilder.textLe, decide_eq_true_eq] at before after
    exact List.map_injective_iff.mpr (fun _ _ => TextOrder.toNat_injective)
      (le_antisymm before after)

/-- The order of UTF-16 as a comparison. -/
def unitTextLe (left right : List Char) : Bool :=
  decide (Unicode.utf16 left ≤ Unicode.utf16 right)

theorem linear_unitTextLe : Linear unitTextLe where
  total := by
    intro first second
    simp only [unitTextLe, decide_eq_true_eq]
    exact le_total _ _
  trans := by
    intro first second third
    simp only [unitTextLe, decide_eq_true_eq]
    exact le_trans
  antisymm := by
    intro first second before after
    simp only [unitTextLe, decide_eq_true_eq] at before after
    exact TextOrder.ordered_utf16.antisymm before after

/-- No two paths clash. -/
def Harmonious (payloads : List BuiltPayload) : Prop :=
  ∀ left ∈ payloads, ∀ right ∈ payloads, ¬ TextOrder.Clash left.path right.path

/-- **The two orders of the payloads are one where no two paths clash.** -/
theorem sorted_eq_iff (payloads : List BuiltPayload) :
    sortBy unitTextLe payloads = sortBy PackageBuilder.textLe payloads ↔
      Harmonious payloads := by
  have agree (left right : BuiltPayload) :
      ¬ TextOrder.Clash left.path right.path ↔ (unitTextLe left.path right.path = true ↔
        PackageBuilder.textLe left.path right.path = true) := by
    simp only [unitTextLe, PackageBuilder.textLe, decide_eq_true_eq]
    exact (TextOrder.utf16_le_iff left.path right.path).symm
  constructor
  · intro same left one right two clash
    have units := linear_unitTextLe.sorted payloads
    have codes := linear_textLe.sorted payloads
    rw [same] at units
    have both := List.pairwise_iff_getElem.mp (units.and codes)
    have permutation := (sortBy_perm PackageBuilder.textLe payloads).symm
    obtain ⟨first, firstBound, rfl⟩ := List.getElem_of_mem (permutation.subset one)
    obtain ⟨second, secondBound, rfl⟩ := List.getElem_of_mem (permutation.subset two)
    obtain before | equal | after := lt_trichotomy first second
    · have places := both first second firstBound secondBound before
      exact (agree _ _).mpr (iff_of_true places.1 places.2) clash
    · subst equal
      exact (agree _ _).mpr (iff_of_true (linear_unitTextLe.total _ _ |>.elim id id)
        (linear_textLe.total _ _ |>.elim id id)) clash
    · have places := both second first secondBound firstBound after
      exact (agree _ _).mpr (iff_of_true places.1 places.2) clash.symm
  · intro harmonious
    have sorted := List.map_insertionSort
      (fun left right : BuiltPayload => unitTextLe left.path right.path = true)
      (fun left right : BuiltPayload => PackageBuilder.textLe left.path right.path = true) id
      payloads (fun left one right two => (agree left right).mp (harmonious left one right two))
    rw [List.map_id, List.map_id] at sorted
    exact sorted

/-! ## The four digests -/

section Digests

variable (sha256 : List UInt8 → Digest) (file : List UInt8) (members : List ZipMember)
  (installed : CString → Option (List UInt8)) (activeRoot : CString)
  (files : List Char → Option (List UInt8))

/-- The content digest in `poison_package_verify_members`. -/
def archiveContentDigest (payloads : List PayloadDescriptor) : Option CString :=
  ((payloads.insertionSort fun left right => PackageArchive.pathLe left right = true).mapM
    (PackageArchive.verifyPayload sha256 file members)).map fun contents =>
      PackageArchive.hexEncode (sha256 contents.flatten)

/-- The content digests of one list of payloads. -/
structure ContentDigests where
  archive : Option CString
  bundle : Option CString
  builder : Option CString
  dashboard : Option CString
deriving DecidableEq

/-- What the four compute, as texts of the device. -/
def contentDigests (payloads : List BuiltPayload) : ContentDigests where
  archive := archiveContentDigest sha256 file members (payloads.map descriptor)
  bundle := JsBundle.contentDigest sha256 installed activeRoot (payloads.map descriptor)
  builder := (PackageBuilder.contentDigest (fun bytes => (sha256 bytes).bytes) files
    payloads).map deviceText
  dashboard := (BundleVerifier.contentDigest sha256 files (payloads.map asset)).map deviceText

/-- The archive and the installed files hold the files that the builder has. -/
structure Stored (payloads : List BuiltPayload) : Prop where
  archived : ∀ payload ∈ payloads,
    (PackageArchive.findMember members (deviceText payload.path)).map (fun member =>
      (member.size, PackageArchive.memberData file member)) =
        (files payload.path).map fun data => (data.length, data)
  installed : ∀ payload ∈ payloads,
    installed ((activeRoot.append (.literal "/")).append (deviceText payload.path)) =
      files payload.path

/-- A payload's file is as the manifest has it. -/
def Intact (payload : BuiltPayload) : Prop :=
  ∃ data, files payload.path = some data ∧ data.length = payload.size ∧
    PackageBuilder.hexdigest (sha256 data).bytes = payload.sha256

/-- What a payload adds to the hash. -/
def stream (payload : BuiltPayload) : List UInt8 :=
  Unicode.utf8 payload.path ++ 0 :: (files payload.path).getD []

/-- The loader takes the path of a payload, and its buffer holds the full path. -/
def Reachable (payload : BuiltPayload) : Prop :=
  127 ∉ Unicode.utf8 payload.path ∧
    activeRoot.length + 1 + (Unicode.utf8 payload.path).length ≤ JsBundle.maxPath

end Digests

section Content

variable {sha256 : List UInt8 → Digest} {file : List UInt8} {members : List ZipMember}
  {installed : CString → Option (List UInt8)} {activeRoot : CString}
  {files : List Char → Option (List UInt8)} {payload : BuiltPayload}
  {payloads : List BuiltPayload}

theorem deviceText_terminated (valid : Valid payload) :
    (deviceText payload.path).terminated = Unicode.utf8 payload.path ++ [0] := by
  rw [CString.terminated, deviceText_bytes valid.text]

/-- A digest on the device is the declared one where it is the declared one for the builder. -/
theorem hexEncode_eq_iff (valid : Valid payload) (data : List UInt8) :
    hexEncode (sha256 data) = deviceText payload.sha256 ↔
      PackageBuilder.hexdigest (sha256 data).bytes = payload.sha256 := by
  rw [← deviceText_hexdigest]
  constructor
  · intro same
    refine utf8_injective ?_
    have free : (0 : UInt8) ∉ Unicode.utf8 (PackageBuilder.hexdigest (sha256 data).bytes) := by
      rw [utf8_hexdigest]
      exact Hex.zero_not_mem _
    rw [← deviceText_bytes (digest_text valid.digest), ← same, deviceText,
      CString.ofBytes_bytes free]
  · exact congrArg deviceText

theorem size_toNat (valid : Valid payload) :
    (UInt32.ofNat payload.size).toNat = payload.size := by
  rw [UInt32.toNat_ofNat', Nat.mod_eq_of_lt valid.size]

/-- The check of a payload's file, as the two verifiers of the device make it. -/
theorem content_iff (sha256 : List UInt8 → Digest) (valid : Valid payload) (data : List UInt8) :
    (data.length = (UInt32.ofNat payload.size).toNat ∧
        hexEncode (sha256 data) = deviceText payload.sha256) ↔
      data.length = payload.size ∧
        PackageBuilder.hexdigest (sha256 data).bytes = payload.sha256 := by
  rw [size_toNat valid, hexEncode_eq_iff valid]

/-- What both verifiers do with a file they found. -/
theorem checked_content (valid : Valid payload) {data : List UInt8}
    (stored : files payload.path = some data) :
    (Intact sha256 files payload →
      (if data.length != (UInt32.ofNat payload.size).toNat then none
        else if hexEncode (sha256 data) != deviceText payload.sha256 then none
        else some ((deviceText payload.path).terminated ++ data)) = some (stream files payload)) ∧
    (¬ Intact sha256 files payload →
      (if data.length != (UInt32.ofNat payload.size).toNat then none
        else if hexEncode (sha256 data) != deviceText payload.sha256 then none
        else some ((deviceText payload.path).terminated ++ data)) = none) := by
  have checked := content_iff sha256 valid data
  constructor
  · rintro ⟨other, found, intact⟩
    cases stored.symm.trans found
    obtain ⟨length, digest⟩ := checked.mpr intact
    rw [if_neg (by rw [length]; simp), if_neg (by rw [digest]; simp), stream, stored,
      deviceText_terminated valid, List.append_assoc]
    rfl
  · intro broken
    by_cases length : data.length = (UInt32.ofNat payload.size).toNat
    · have digest : hexEncode (sha256 data) ≠ deviceText payload.sha256 :=
        fun same => broken ⟨data, stored, checked.mp ⟨length, same⟩⟩
      rw [if_neg (by rw [length]; simp), if_pos (bne_iff_ne.mpr digest)]
    · rw [if_pos (bne_iff_ne.mpr length)]

/-- A payload that is not there is not intact. -/
theorem not_intact (missing : files payload.path = none) : ¬ Intact sha256 files payload := by
  rintro ⟨data, stored, _⟩
  rw [missing] at stored
  cases stored

/-- What the archive verifier adds for a payload. -/
theorem verifyPayload_eq (valid : Valid payload)
    (archived : (findMember members (deviceText payload.path)).map (fun member =>
      (member.size, memberData file member)) =
        (files payload.path).map fun data => (data.length, data)) :
    (Intact sha256 files payload →
      verifyPayload sha256 file members (descriptor payload) =
        some (stream files payload)) ∧
    (¬ Intact sha256 files payload →
      verifyPayload sha256 file members (descriptor payload) = none) := by
  rw [verifyPayload]
  simp only [descriptor]
  cases stored : files payload.path with
  | none =>
    rw [stored, Option.map_none, Option.map_eq_none_iff] at archived
    rw [archived]
    exact ⟨fun intact => absurd intact (not_intact stored), fun _ => rfl⟩
  | some data =>
    rw [stored, Option.map_some, Option.map_eq_some_iff] at archived
    obtain ⟨member, found, same⟩ := archived
    simp only [Prod.mk.injEq] at same
    simp only [found, same.1, same.2]
    exact checked_content valid stored

/-- The loader takes the paths that the manifest allows, but for those with a U+007F. -/
theorem pathValid_iff (path : CString) :
    pathValid path = true ↔
      PackageManifest.pathValid path = true ∧ 127 ∉ path.bytes := by
  have parts (segment : List UInt8) :
      (segment != [] && segment != [46] && segment != [46, 46]) = true ↔
        segment ∉ [[], [46], [46, 46]] := by
    simp only [Bool.and_eq_true, bne_iff_ne, List.mem_cons, List.not_mem_nil, or_false, not_or,
      and_assoc, ne_eq]
  simp only [pathValid, PackageManifest.pathValid, maxPath,
    packagePayloadPathMax, CString.hasByte, Bool.and_eq_true, List.all_eq_true, parts,
    Bool.not_eq_true', decide_eq_true_eq]
  simp only [bne_iff_ne]
  constructor
  · rintro ⟨⟨⟨⟨filled, relative⟩, short⟩, segments⟩, bytes⟩
    refine ⟨⟨⟨⟨⟨⟨filled, relative⟩, ?_⟩, short⟩, segments⟩, fun byte inside =>
      (bytes byte inside).1.1⟩, fun inside => (bytes 127 inside).1.2 rfl⟩
    refine Bool.eq_false_iff.mpr fun inside => ?_
    exact (bytes 92 (List.contains_iff_mem.mp inside)).2 rfl
  · rintro ⟨⟨⟨⟨⟨⟨filled, relative⟩, slash⟩, short⟩, segments⟩, bytes⟩, free⟩
    refine ⟨⟨⟨⟨filled, relative⟩, short⟩, segments⟩, fun byte inside =>
      ⟨⟨bytes byte inside, ?_⟩, ?_⟩⟩
    · rintro rfl
      exact free inside
    · rintro rfl
      rw [List.contains_iff_mem.mpr inside] at slash
      cases slash

/-- The length of a full path. -/
theorem activePath_length (valid : Valid payload) :
    ((activeRoot.append (.literal "/")).append (deviceText payload.path)).length =
      activeRoot.length + 1 + (Unicode.utf8 payload.path).length := by
  have slash : (CString.literal "/").bytes.length = 1 := by decide
  simp only [CString.length, CString.append, List.length_append, slash,
    deviceText_bytes valid.text]

/-- The path of a valid payload among the installed files. -/
theorem activePath_some (valid : Valid payload) (reachable : Reachable activeRoot payload) :
    activePath activeRoot (deviceText payload.path) =
      some ((activeRoot.append (.literal "/")).append (deviceText payload.path)) := by
  have taken : pathValid (deviceText payload.path) = true := by
    rw [pathValid_iff, deviceText_bytes valid.text]
    exact ⟨valid.path, reachable.1⟩
  rw [activePath, taken]
  simp only [Bool.not_true, Bool.false_eq_true, ↓reduceIte, activePath_length valid]
  exact if_pos reachable.2

/-- A path that the loader does not reach. -/
theorem activePath_none (valid : Valid payload) (far : ¬ Reachable activeRoot payload) :
    activePath activeRoot (deviceText payload.path) = none := by
  rw [activePath]
  by_cases free : 127 ∈ Unicode.utf8 payload.path
  · have refused : ¬ pathValid (deviceText payload.path) = true := by
      rw [pathValid_iff, deviceText_bytes valid.text]
      exact fun taken => taken.2 free
    simp only [refused, Bool.not_false, ↓reduceIte]
  · have taken : pathValid (deviceText payload.path) = true := by
      rw [pathValid_iff, deviceText_bytes valid.text]
      exact ⟨valid.path, free⟩
    simp only [taken, Bool.not_true, Bool.false_eq_true, ↓reduceIte, activePath_length valid]
    exact if_neg fun short => far ⟨free, short⟩

/-- What the bundle loader adds for a payload whose path it can hold. -/
theorem assetContent_eq (valid : Valid payload) (reachable : Reachable activeRoot payload)
    (held : installed ((activeRoot.append (.literal "/")).append (deviceText payload.path)) =
      files payload.path) :
    (Intact sha256 files payload →
      assetContent sha256 installed activeRoot (descriptor payload) =
        some (stream files payload)) ∧
    (¬ Intact sha256 files payload →
      assetContent sha256 installed activeRoot (descriptor payload) = none) := by
  rw [assetContent]
  simp only [descriptor, activePath_some valid reachable, held]
  cases stored : files payload.path with
  | none => exact ⟨fun intact => absurd intact (not_intact stored), fun _ => rfl⟩
  | some data => exact checked_content valid stored

/-- The bundle loader refuses a path that is too long for it. -/
theorem assetContent_far (valid : Valid payload) (far : ¬ Reachable activeRoot payload) :
    assetContent sha256 installed activeRoot (descriptor payload) = none := by
  rw [assetContent]
  simp only [descriptor, activePath_none valid far]

/-- What the builder adds for a payload. -/
theorem payloadData_eq (sha256 : List UInt8 → Digest) (files : List Char → Option (List UInt8))
    (payload : BuiltPayload) :
    (Intact sha256 files payload →
      (PackageBuilder.payloadData (fun bytes => (sha256 bytes).bytes) files payload).map
        (fun data => PackageBuilder.utf8 payload.path ++ 0 :: data) =
          some (stream files payload)) ∧
    (¬ Intact sha256 files payload →
      (PackageBuilder.payloadData (fun bytes => (sha256 bytes).bytes) files payload).map
        (fun data => PackageBuilder.utf8 payload.path ++ 0 :: data) = none) := by
  rw [PackageBuilder.payloadData]
  constructor
  · rintro ⟨data, stored, length, digest⟩
    simp only [stored, Option.filter, length, digest, BEq.rfl, Bool.and_self, ↓reduceIte,
      Option.map_some, stream, Option.getD_some]
    rfl
  · intro broken
    cases stored : files payload.path with
    | none => rfl
    | some data =>
      rw [Option.filter, if_neg, Option.map_none]
      intro checks
      rw [Bool.and_eq_true, beq_iff_eq, beq_iff_eq] at checks
      exact broken ⟨data, stored, checks⟩

/-- The dashboard's check of an asset. -/
theorem assetMatches_iff (sha256 : List UInt8 → Digest)
    (files : List Char → Option (List UInt8)) (payload : BuiltPayload) :
    assetMatches sha256 files (asset payload) = true ↔
      Intact sha256 files payload := by
  rw [assetMatches]
  simp only [asset]
  constructor
  · intro checks
    cases stored : files payload.path with
    | none => simp [stored] at checks
    | some data =>
      simp only [stored, Bool.and_eq_true, beq_iff_eq] at checks
      exact ⟨data, stored, checks⟩
  · rintro ⟨data, stored, length, digest⟩
    simp only [stored, length, digestText, digest, BEq.rfl, Bool.and_self]

/-! ## Whole lists -/

/-- The digest of payloads in an order. -/
def digestOf (sha256 : List UInt8 → Digest) (files : List Char → Option (List UInt8))
    (order : List BuiltPayload) : CString :=
  PackageArchive.hexEncode (sha256 (order.flatMap (stream files)))

/-- A walk over payloads that all add their part adds up to the stream of the list. -/
theorem mapM_all (files : List Char → Option (List UInt8))
    (content : BuiltPayload → Option (List UInt8)) (order : List BuiltPayload)
    (all : ∀ payload ∈ order, content payload = some (stream files payload)) :
    order.mapM content = some (order.map (stream files)) := by
  induction order with
  | nil => rfl
  | cons payload order ih =>
    rw [List.mapM_cons, all payload (by simp),
      ih fun later inside => all later (List.mem_cons_of_mem _ inside)]
    rfl

/-- A walk that fails at some payload fails. -/
theorem mapM_missing (content : BuiltPayload → Option (List UInt8)) (order : List BuiltPayload)
    (missing : ∃ payload ∈ order, content payload = none) : order.mapM content = none := by
  induction order with
  | nil => simp at missing
  | cons payload order ih =>
    rw [List.mapM_cons]
    cases first : content payload with
    | none => rfl
    | some part =>
      obtain ⟨other, inside, absent⟩ := missing
      have later : other ∈ order := by
        cases List.mem_cons.mp inside with
        | inl same =>
          rw [same, first] at absent
          cases absent
        | inr later => exact later
      rw [ih ⟨other, later, absent⟩]
      rfl

theorem sorted_descriptors (valid : ∀ payload ∈ payloads, Valid payload) :
    ((payloads.map descriptor).insertionSort fun left right =>
        pathLe left right = true) =
      (sortBy PackageBuilder.textLe payloads).map descriptor := by
  refine (List.map_insertionSort _ _ descriptor payloads ?_).symm
  intro left one right two
  simp only [PackageBuilder.textLe, pathLe, decide_eq_true_eq, descriptor,
    deviceText_bytes (valid left one).text, deviceText_bytes (valid right two).text]
  exact (TextOrder.utf8_le_iff left.path right.path).symm

end Content

/-! ## The digests in closed form -/

section ClosedForms

variable {sha256 : List UInt8 → Digest} {file : List UInt8} {members : List ZipMember}
  {installed : CString → Option (List UInt8)} {activeRoot : CString}
  {files : List Char → Option (List UInt8)} {payloads : List BuiltPayload}

/-- Some payload of a list that is not all intact is broken. -/
theorem exists_broken (broken : ¬ ∀ payload ∈ payloads, Intact sha256 files payload) :
    ∃ payload ∈ payloads, ¬ Intact sha256 files payload := by
  push Not at broken
  exact broken

theorem archive_intact (valid : ∀ payload ∈ payloads, Valid payload)
    (stored : Stored file members installed activeRoot files payloads)
    (intact : ∀ payload ∈ payloads, Intact sha256 files payload) :
    archiveContentDigest sha256 file members (payloads.map descriptor) =
      some (digestOf sha256 files (sortBy PackageBuilder.textLe payloads)) := by
  have parts := mapM_all files
    (fun payload => verifyPayload sha256 file members
      (descriptor payload)) (sortBy PackageBuilder.textLe payloads) (by
      intro payload inside
      have member := (sortBy_perm _ _).subset inside
      exact (verifyPayload_eq (valid payload member) (stored.archived payload member)).1
        (intact payload member))
  rw [archiveContentDigest, sorted_descriptors valid, List.mapM_map, Function.comp_def, parts,
    Option.map_some, digestOf, List.flatMap_def]

theorem archive_broken (valid : ∀ payload ∈ payloads, Valid payload)
    (stored : Stored file members installed activeRoot files payloads)
    (broken : ¬ ∀ payload ∈ payloads, Intact sha256 files payload) :
    archiveContentDigest sha256 file members (payloads.map descriptor) = none := by
  obtain ⟨payload, member, damaged⟩ := exists_broken broken
  have refused := mapM_missing
    (fun payload => verifyPayload sha256 file members
      (descriptor payload)) (sortBy PackageBuilder.textLe payloads)
    ⟨payload, (sortBy_perm _ _).symm.subset member,
      (verifyPayload_eq (valid payload member) (stored.archived payload member)).2 damaged⟩
  rw [archiveContentDigest, sorted_descriptors valid, List.mapM_map, Function.comp_def, refused,
    Option.map_none]

theorem bundle_intact (valid : ∀ payload ∈ payloads, Valid payload)
    (stored : Stored file members installed activeRoot files payloads)
    (reachable : ∀ payload ∈ payloads, Reachable activeRoot payload)
    (intact : ∀ payload ∈ payloads, Intact sha256 files payload) :
    JsBundle.contentDigest sha256 installed activeRoot (payloads.map descriptor) =
      some (digestOf sha256 files (sortBy PackageBuilder.textLe payloads)) := by
  have parts := mapM_all files
    (fun payload => assetContent sha256 installed activeRoot
      (descriptor payload)) (sortBy PackageBuilder.textLe payloads) (by
      intro payload inside
      have member := (sortBy_perm _ _).subset inside
      exact (assetContent_eq (valid payload member) (reachable payload member)
        (stored.installed payload member)).1 (intact payload member))
  rw [JsBundle.contentDigest, sorted_descriptors valid, List.mapM_map, Function.comp_def, parts,
    Option.map_some, digestOf, List.flatMap_def]

/-- The bundle loader refuses a payload that is broken or out of reach. -/
theorem bundle_refused (valid : ∀ payload ∈ payloads, Valid payload)
    (stored : Stored file members installed activeRoot files payloads)
    (bad : ∃ payload ∈ payloads, ¬ Reachable activeRoot payload ∨
      ¬ Intact sha256 files payload) :
    JsBundle.contentDigest sha256 installed activeRoot (payloads.map descriptor) = none := by
  obtain ⟨payload, member, bad⟩ := bad
  have missing : assetContent sha256 installed activeRoot (descriptor payload) =
      none := by
    by_cases reachable : Reachable activeRoot payload
    · exact (assetContent_eq (valid payload member) reachable
        (stored.installed payload member)).2 (bad.resolve_left (not_not_intro reachable))
    · exact assetContent_far (valid payload member) reachable
  have refused := mapM_missing
    (fun payload => assetContent sha256 installed activeRoot
      (descriptor payload)) (sortBy PackageBuilder.textLe payloads)
    ⟨payload, (sortBy_perm _ _).symm.subset member, missing⟩
  rw [JsBundle.contentDigest, sorted_descriptors valid, List.mapM_map, Function.comp_def,
    refused, Option.map_none]

/-- The bundle loader serves a package exactly if its payloads are intact and within reach, and
the manifest declares their digest. -/
theorem verifyActivePayloads_iff (valid : ∀ payload ∈ payloads, Valid payload)
    (stored : Stored file members installed activeRoot files payloads) (declared : CString) :
    JsBundle.verifyActivePayloads sha256 installed activeRoot (payloads.map descriptor) declared =
        true ↔
      (∀ payload ∈ payloads, Reachable activeRoot payload ∧ Intact sha256 files payload) ∧
        declared = digestOf sha256 files (sortBy PackageBuilder.textLe payloads) := by
  by_cases fine : ∀ payload ∈ payloads, Reachable activeRoot payload ∧ Intact sha256 files payload
  · have computed := bundle_intact valid stored (fun payload inside => (fine payload inside).1)
      fun payload inside => (fine payload inside).2
    rw [JsBundle.verifyActivePayloads, computed, beq_iff_eq, Option.some.injEq]
    exact ⟨fun same => ⟨fine, same.symm⟩, fun both => both.2.symm⟩
  · have bad : ∃ payload ∈ payloads, ¬ Reachable activeRoot payload ∨
        ¬ Intact sha256 files payload := by
      simpa only [not_forall, not_and_or, exists_prop] using fine
    rw [JsBundle.verifyActivePayloads, bundle_refused valid stored bad]
    exact iff_of_false (by simp) fun both => fine both.1

theorem builder_intact (intact : ∀ payload ∈ payloads, Intact sha256 files payload) :
    (PackageBuilder.contentDigest (fun bytes => (sha256 bytes).bytes) files payloads).map
      deviceText = some (digestOf sha256 files (sortBy PackageBuilder.textLe payloads)) := by
  have parts := mapM_all files (fun payload =>
    (PackageBuilder.payloadData (fun bytes => (sha256 bytes).bytes) files payload).map
      fun data => PackageBuilder.utf8 payload.path ++ 0 :: data)
    (PackageBuilder.sortedPayloads payloads) (by
      intro payload inside
      exact (payloadData_eq sha256 files payload).1
        (intact payload ((sortBy_perm _ _).subset inside)))
  rw [PackageBuilder.contentDigest, parts, Option.map_some, Option.map_some,
    deviceText_hexdigest, digestOf, List.flatMap_def]
  rfl

theorem builder_broken (broken : ¬ ∀ payload ∈ payloads, Intact sha256 files payload) :
    PackageBuilder.contentDigest (fun bytes => (sha256 bytes).bytes) files payloads = none := by
  obtain ⟨payload, member, damaged⟩ := exists_broken broken
  have refused := mapM_missing (fun payload =>
    (PackageBuilder.payloadData (fun bytes => (sha256 bytes).bytes) files payload).map
      fun data => PackageBuilder.utf8 payload.path ++ 0 :: data)
    (PackageBuilder.sortedPayloads payloads)
    ⟨payload, (sortBy_perm PackageBuilder.textLe payloads).symm.subset member,
      (payloadData_eq sha256 files payload).2 damaged⟩
  rw [PackageBuilder.contentDigest, refused, Option.map_none]

/-- The dashboard's order of the assets. -/
theorem sorted_assets (payloads : List BuiltPayload) :
    ((payloads.map asset).insertionSort fun left right =>
        unitLe left right = true) =
      (sortBy unitTextLe payloads).map asset := by
  refine (List.map_insertionSort _ _ asset payloads ?_).symm
  intro left one right two
  exact Iff.rfl

theorem dashboard_intact (intact : ∀ payload ∈ payloads, Intact sha256 files payload) :
    (BundleVerifier.contentDigest sha256 files (payloads.map asset)).map deviceText =
      some (digestOf sha256 files (sortBy unitTextLe payloads)) := by
  have matching : (payloads.map asset).all (assetMatches sha256 files) = true := by
    rw [List.all_map, List.all_eq_true]
    exact fun payload member => (assetMatches_iff sha256 files payload).mpr (intact payload member)
  have content : orderedContent files (payloads.map asset) =
      (sortBy unitTextLe payloads).flatMap (stream files) := by
    rw [orderedContent, sorted_assets, List.flatMap_map]
    rfl
  rw [BundleVerifier.contentDigest, if_pos matching, Option.map_some, digestText,
    deviceText_hexdigest, content, digestOf]

theorem dashboard_broken (broken : ¬ ∀ payload ∈ payloads, Intact sha256 files payload) :
    BundleVerifier.contentDigest sha256 files (payloads.map asset) = none := by
  rw [BundleVerifier.contentDigest, if_neg]
  intro matching
  rw [List.all_map, List.all_eq_true] at matching
  exact broken fun payload member => (assetMatches_iff sha256 files payload).mp
    (matching payload member)

end ClosedForms

/-! ## Different orders have different digests -/

section Injectivity

variable {sha256 : List UInt8 → Digest} {files : List Char → Option (List UInt8)}

/-- What is hashed determines the order of the payloads. -/
theorem order_of_stream {left right : List BuiltPayload} (permutation : left.Perm right)
    (distinct : (left.map BuiltPayload.path).Nodup) (valid : ∀ payload ∈ left, Valid payload)
    (same : left.flatMap (stream files) = right.flatMap (stream files)) : left = right := by
  induction left generalizing right with
  | nil => exact (List.nil_perm.mp permutation).symm
  | cons payload left ih =>
    cases right with
    | nil => exact absurd permutation.length_eq (by simp)
    | cons other right =>
      have member : other ∈ payload :: left := permutation.symm.subset (by simp)
      simp only [List.flatMap_cons, stream] at same
      have payloadPath := deviceText_terminated (valid payload (by simp))
      have otherPath := deviceText_terminated (valid other member)
      have paths : deviceText payload.path = deviceText other.path := by
        refine (@CString.terminated_append_injective _ _
          ((files payload.path).getD [] ++ left.flatMap (stream files))
          ((files other.path).getD [] ++ right.flatMap (stream files)) ?_).1
        rw [payloadPath, otherPath]
        simpa using same
      have equal : payload = other :=
        same_payload distinct (by simp) member (deviceText_injective
          (valid payload (by simp)).text (valid other member).text paths)
      subst equal
      rw [ih (List.Perm.cons_inv permutation)
        (List.nodup_cons.mp distinct).2
        (fun later inside => valid later (List.mem_cons_of_mem _ inside))
        (List.append_cancel_left same)]

/-- The text of a digest determines the digest. -/
theorem hexEncode_injective {left right : Digest}
    (same : hexEncode left = hexEncode right) : left = right := by
  have bytes := congrArg CString.bytes same
  rw [hexEncode, hexEncode,
    CString.ofBytes_bytes (Hex.zero_not_mem _), CString.ofBytes_bytes (Hex.zero_not_mem _)] at bytes
  have same := Hex.hexBytes_injective bytes
  cases left
  cases right
  congr

end Injectivity

/-! ## One digest or not -/

/-- The four digests are one. -/
def ContentDigests.Same (digests : ContentDigests) : Prop :=
  digests.archive = digests.builder ∧ digests.bundle = digests.builder ∧
    digests.dashboard = digests.builder

section Agreement

variable {sha256 : List UInt8 → Digest} {file : List UInt8} {members : List ZipMember}
  {installed : CString → Option (List UInt8)} {activeRoot : CString}
  {files : List Char → Option (List UInt8)} {payloads : List BuiltPayload}

/-- The order in which the payloads are listed does not matter. -/
theorem contentDigests_perm (distinct : (payloads.map BuiltPayload.path).Nodup)
    (valid : ∀ payload ∈ payloads, Valid payload) {permuted : List BuiltPayload}
    (permutation : permuted.Perm payloads) :
    contentDigests sha256 file members installed activeRoot files permuted =
      contentDigests sha256 file members installed activeRoot files payloads := by
  have codes := linear_textLe.sortBy_eq distinct permutation
  have units := linear_unitTextLe.sortBy_eq distinct permutation
  have permutedValid : ∀ payload ∈ permuted, Valid payload :=
    fun payload member => valid payload (permutation.subset member)
  have matching : (permuted.map asset).all (assetMatches sha256 files) =
      (payloads.map asset).all (assetMatches sha256 files) :=
    (permutation.map asset).all_eq
  have content : orderedContent files (permuted.map asset) =
      orderedContent files (payloads.map asset) := by
    rw [orderedContent, orderedContent, sorted_assets,
      sorted_assets, units]
  have built : PackageBuilder.sortedPayloads permuted = PackageBuilder.sortedPayloads payloads :=
    codes
  simp only [contentDigests, archiveContentDigest, JsBundle.contentDigest,
    PackageBuilder.contentDigest, BundleVerifier.contentDigest, sorted_descriptors valid,
    sorted_descriptors permutedValid, codes, matching, content, built]

/-- All four refuse payloads that are not as the manifest has them. -/
theorem same_of_broken (valid : ∀ payload ∈ payloads, Valid payload)
    (stored : Stored file members installed activeRoot files payloads)
    (broken : ¬ ∀ payload ∈ payloads, Intact sha256 files payload) :
    (contentDigests sha256 file members installed activeRoot files payloads).Same := by
  obtain ⟨payload, member, damaged⟩ := exists_broken broken
  simp only [ContentDigests.Same, contentDigests, archive_broken valid stored broken,
    bundle_refused valid stored ⟨payload, member, .inr damaged⟩, builder_broken broken,
    dashboard_broken broken, Option.map_none, and_self]

/-- Where the payloads are intact, the digests are one if the loader reaches every path and no
two paths clash. -/
theorem same_of_intact (distinct : (payloads.map BuiltPayload.path).Nodup)
    (valid : ∀ payload ∈ payloads, Valid payload)
    (stored : Stored file members installed activeRoot files payloads)
    (resistant : sha256 ((sortBy unitTextLe payloads).flatMap (stream files)) =
        sha256 ((sortBy PackageBuilder.textLe payloads).flatMap (stream files)) →
      (sortBy unitTextLe payloads).flatMap (stream files) =
        (sortBy PackageBuilder.textLe payloads).flatMap (stream files))
    (intact : ∀ payload ∈ payloads, Intact sha256 files payload) :
    (contentDigests sha256 file members installed activeRoot files payloads).Same ↔
      (∀ payload ∈ payloads, Reachable activeRoot payload) ∧ Harmonious payloads := by
  have orders : digestOf sha256 files (sortBy unitTextLe payloads) =
      digestOf sha256 files (sortBy PackageBuilder.textLe payloads) ↔ Harmonious payloads := by
    rw [← sorted_eq_iff]
    constructor
    · intro same
      have permutation := (sortBy_perm unitTextLe payloads).trans
        (sortBy_perm PackageBuilder.textLe payloads).symm
      refine order_of_stream permutation ?_ ?_ (resistant (hexEncode_injective same))
      · exact ((sortBy_perm unitTextLe payloads).map _).nodup_iff.mpr distinct
      · exact fun payload member => valid payload ((sortBy_perm _ _).subset member)
    · exact congrArg _
  simp only [ContentDigests.Same, contentDigests, archive_intact valid stored intact,
    builder_intact intact, dashboard_intact intact, true_and, Option.some.injEq, orders]
  refine and_congr_left fun _ => ?_
  constructor
  · intro same payload member
    by_contra far
    rw [bundle_refused valid stored ⟨payload, member, .inl far⟩] at same
    cases same
  · exact fun reachable => bundle_intact valid stored reachable intact

variable (sha256 file members installed activeRoot files payloads) in
/-- **One content digest.** The order in which the payloads are listed does not matter, and
the four digests are one exactly where some payload is not as the manifest has it, so that all
four refuse, or the loader reaches every path and no two paths clash. -/
theorem contentDigests_same_iff (distinct : (payloads.map BuiltPayload.path).Nodup)
    (valid : ∀ payload ∈ payloads, Valid payload)
    (stored : Stored file members installed activeRoot files payloads)
    (resistant : sha256 ((sortBy unitTextLe payloads).flatMap (stream files)) =
        sha256 ((sortBy PackageBuilder.textLe payloads).flatMap (stream files)) →
      (sortBy unitTextLe payloads).flatMap (stream files) =
        (sortBy PackageBuilder.textLe payloads).flatMap (stream files)) :
    (∀ permuted : List BuiltPayload, permuted.Perm payloads →
      contentDigests sha256 file members installed activeRoot files permuted =
        contentDigests sha256 file members installed activeRoot files payloads) ∧
    ((contentDigests sha256 file members installed activeRoot files payloads).Same ↔
      (¬ ∀ payload ∈ payloads, Intact sha256 files payload) ∨
        (∀ payload ∈ payloads, Reachable activeRoot payload) ∧ Harmonious payloads) := by
  refine ⟨fun permuted permutation => contentDigests_perm distinct valid permutation, ?_⟩
  by_cases intact : ∀ payload ∈ payloads, Intact sha256 files payload
  · rw [same_of_intact distinct valid stored resistant intact]
    exact (or_iff_right (not_not_intro intact)).symm
  · exact iff_of_true (same_of_broken valid stored intact) (.inl intact)

end Agreement

/-! ## Two payloads -/

section Pair

/-- A payload of one byte. -/
def single (path : List Char) (byte : UInt8) : BuiltPayload where
  path := path
  sha256 := PackageBuilder.hexdigest (sha256Of [byte]).bytes
  size := 1

/-- The files of two payloads of one byte. -/
def pairFiles (first second path : List Char) : Option (List UInt8) :=
  if path = first then some [97] else if path = second then some [98] else none

/-- The members of an archive whose first two bytes are the two files. -/
def pairMembers (first second : List Char) : List ZipMember :=
  [⟨deviceText first, 0, 0, 1, 0, true⟩, ⟨deviceText second, 0, 1, 1, 0, true⟩]

/-- The two files where they are installed. -/
def pairInstalled (activeRoot : CString) (first second : List Char) (path : CString) :
    Option (List UInt8) :=
  if path = (activeRoot.append (.literal "/")).append (deviceText first) then some [97]
  else if path = (activeRoot.append (.literal "/")).append (deviceText second) then some [98]
  else none

/-- The four digests of two payloads of one byte. -/
def pairDigests (first second : List Char) : ContentDigests :=
  contentDigests sha256Of [97, 98] (pairMembers first second)
    (pairInstalled (.literal "/ext/packages/active/demo") first second)
    (.literal "/ext/packages/active/demo") (pairFiles first second)
    [single first 97, single second 98]

end Pair

/-- The entry page and a script of a bundle have one digest in any order. -/
theorem contentDigests_same_iff_script :
    (∀ permuted : List BuiltPayload,
      permuted.Perm [single "index.html".toList 97, single "lib/main.js".toList 98] →
        contentDigests sha256Of [97, 98] (pairMembers "index.html".toList "lib/main.js".toList)
          (pairInstalled (.literal "/ext/packages/active/demo") "index.html".toList
            "lib/main.js".toList)
          (.literal "/ext/packages/active/demo")
          (pairFiles "index.html".toList "lib/main.js".toList) permuted =
            pairDigests "index.html".toList "lib/main.js".toList) ∧
    (pairDigests "index.html".toList "lib/main.js".toList).Same := by
  have harmonious :
      Harmonious [single "index.html".toList 97, single "lib/main.js".toList 98] :=
    (sorted_eq_iff _).mp (by decide +kernel)
  have valid : ∀ payload ∈ [single "index.html".toList 97, single "lib/main.js".toList 98],
      Valid payload := by
    intro payload member
    simp only [List.mem_cons, List.not_mem_nil, or_false] at member
    obtain rfl | rfl := member
    · exact ⟨by decide +kernel, by decide +kernel, by decide +kernel, by decide +kernel⟩
    · exact ⟨by decide +kernel, by decide +kernel, by decide +kernel, by decide +kernel⟩
  have result := contentDigests_same_iff sha256Of [97, 98]
    (pairMembers "index.html".toList "lib/main.js".toList)
    (pairInstalled (.literal "/ext/packages/active/demo") "index.html".toList
      "lib/main.js".toList)
    (.literal "/ext/packages/active/demo") (pairFiles "index.html".toList "lib/main.js".toList)
    [single "index.html".toList 97, single "lib/main.js".toList 98]
    (by decide +kernel) valid ⟨by decide +kernel, by decide +kernel⟩
    (fun _ => congrArg _ ((sorted_eq_iff _).mpr harmonious))
  refine ⟨result.1, result.2.mpr (.inr ⟨?_, harmonious⟩)⟩
  unfold Reachable
  decide +kernel

/-- A full-width tilde and an emoji: both parties of the device and the builder hash the tilde
first, the dashboard the emoji. -/
theorem contentDigests_differ :
    (∀ payload ∈ [single ['\uFF5E'] 97, single [Char.ofNat 0x1f600] 98], Valid payload) ∧
      (pairDigests ['\uFF5E'] [Char.ofNat 0x1f600]).builder.isSome = true ∧
      (pairDigests ['\uFF5E'] [Char.ofNat 0x1f600]).archive =
        (pairDigests ['\uFF5E'] [Char.ofNat 0x1f600]).builder ∧
      (pairDigests ['\uFF5E'] [Char.ofNat 0x1f600]).bundle =
        (pairDigests ['\uFF5E'] [Char.ofNat 0x1f600]).builder ∧
      (pairDigests ['\uFF5E'] [Char.ofNat 0x1f600]).dashboard ≠
        (pairDigests ['\uFF5E'] [Char.ofNat 0x1f600]).builder ∧
      ¬ (pairDigests ['\uFF5E'] [Char.ofNat 0x1f600]).Same := by
  have differ : (pairDigests ['\uFF5E'] [Char.ofNat 0x1f600]).dashboard ≠
      (pairDigests ['\uFF5E'] [Char.ofNat 0x1f600]).builder := by
    decide +kernel
  refine ⟨?_, by decide +kernel, by decide +kernel, by decide +kernel, differ,
    fun same => differ same.2.2⟩
  intro payload member
  simp only [List.mem_cons, List.not_mem_nil, or_false] at member
  obtain rfl | rfl := member
  · exact ⟨by decide +kernel, by decide +kernel, by decide +kernel, by decide +kernel⟩
  · exact ⟨by decide +kernel, by decide +kernel, by decide +kernel, by decide +kernel⟩

end PoisonedOS.ContentDigest
