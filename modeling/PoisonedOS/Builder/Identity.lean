import PoisonedOS.Builder.JobLaws
import PoisonedOS.Library.DotSegments
import PoisonedOS.Library.Marks

/-!
# Canonical bytes of builds and artifacts

The provenance of a build and the manifest of a native artifact are written as lines of fields.
The lines are not escaped, and no field of a provenance is checked before it is stored. So a
provenance is known from its bytes exactly if no field has the mark of a line beside it, and two
manifests are known from theirs if no name has a comma or a line break.
-/

namespace PoisonedOS.Builder

open Marks (IsMark Separated)
open DotSegments (joined)

/-- `into_bytes` of a formatted text. -/
def intoBytes (text : List Char) : ByteArray := (String.ofList text).toUTF8

def lineMark (lead : String) : List Char := '\n' :: lead.toList

/-- The text of a number. -/
def numberText (number : Nat) : List Char := Nat.toDigits 10 number

/-- The text of `Provenance::canonical_bytes`. -/
def Provenance.canonicalText (provenance : Provenance) : List Char :=
  "api=".toList ++ numberText provenance.apiVersion.toNat ++
    lineMark "lock=" ++ provenance.lockDigest.toList ++
    lineMark "source=" ++ provenance.sourceDigest.toList ++
    lineMark "target=" ++ provenance.target.toList ++
    lineMark "toolchain=" ++ provenance.toolchainDigest.toList ++ ['\n']

/-- `Provenance::canonical_bytes`. -/
def Provenance.canonicalBytes (provenance : Provenance) : ByteArray :=
  intoBytes provenance.canonicalText

/-- `join(",")` of names. -/
def joinNames (names : List String) : List Char := joined ',' (names.map String.toList)

/-- The text of `NativeArtifactManifest::canonical_bytes`. -/
def NativeArtifactManifest.canonicalText (manifest : NativeArtifactManifest) : List Char :=
  "abi=".toList ++ numberText manifest.abiVersion.toNat ++
    lineMark "api=" ++ numberText manifest.apiVersion.toNat ++
    lineMark "digest=" ++ manifest.digest.toList ++
    lineMark "entry=" ++ manifest.entry.toList ++
    lineMark "target=" ++ manifest.target.toList ++
    lineMark "capabilities=" ++ joinNames manifest.capabilities ++
    lineMark "imports=" ++ joinNames manifest.imports ++
    lineMark "relocations=" ++
      joined ',' (manifest.relocations.map fun relocation => numberText relocation.toNat) ++
    ['\n']

/-- `NativeArtifactManifest::canonical_bytes`. -/
def NativeArtifactManifest.canonicalBytes (manifest : NativeArtifactManifest) : ByteArray :=
  intoBytes manifest.canonicalText

def Stored (provenance : Provenance) : Prop :=
  ∃ policy operations index id job,
    (Runs.reached BuilderStore.next (.new policy) operations index).jobs id = some job ∧
      job.provenance = some provenance

/-- No other provenance that can be stored has these bytes. -/
def Provenance.Identified (provenance : Provenance) : Prop :=
  ∀ other : Provenance, Stored other → other.canonicalBytes = provenance.canonicalBytes →
    other = provenance

/-- No field has the mark of a line beside it. -/
def Provenance.Marked (provenance : Provenance) : Prop :=
  Separated (lineMark "source=") (lineMark "target=") (lineMark "toolchain=")
    provenance.lockDigest.toList provenance.sourceDigest.toList provenance.target.toList
    provenance.toolchainDigest.toList

def Provenance.fields (provenance : Provenance) : List Char :=
  Marks.fields (lineMark "source=") (lineMark "target=") (lineMark "toolchain=")
    provenance.lockDigest.toList provenance.sourceDigest.toList provenance.target.toList
    provenance.toolchainDigest.toList

/-- No name has a comma or a line break. -/
def NativeArtifactManifest.Plain (manifest : NativeArtifactManifest) : Prop :=
  ∀ name ∈ manifest.capabilities ++ manifest.imports, ',' ∉ name.toList ∧ '\n' ∉ name.toList

instance (manifest : NativeArtifactManifest) : Decidable manifest.Plain :=
  inferInstanceAs (Decidable (∀ name ∈ manifest.capabilities ++ manifest.imports, _))

/-- Two manifests that are valid for the same target have other bytes unless they are the
same. -/
def NativeArtifactManifest.Apart (first second : NativeArtifactManifest) : Prop :=
  ∀ target api abi, first.validate target api abi = none → second.validate target api abi = none →
    first.canonicalBytes = second.canonicalBytes → first = second

/-! ## Texts -/

theorem intoBytes_inj {first second : List Char} (same : intoBytes first = intoBytes second) :
    first = second :=
  String.ofList_injective (String.toByteArray_inj.mp same)

theorem numberText_injective {first second : Nat} (same : numberText first = numberText second) :
    first = second := by
  rw [← Nat.ofDigitChars_toDigits (n := first) (by decide : 1 < 10) (by decide),
    ← Nat.ofDigitChars_toDigits (n := second) (by decide : 1 < 10) (by decide)]
  exact congrArg (Nat.ofDigitChars 10 · 0) same

/-- A number is written without separators. -/
theorem not_mem_numberText {letter : Char} (other : letter.isDigit = false) (number : Nat) :
    letter ∉ numberText number := by
  intro inside
  rw [Nat.isDigit_of_mem_toDigits (by decide) (by decide) inside] at other
  cases other

theorem not_lineMark {text : List Char} (lead : String) (free : '\n' ∉ text) :
    ¬ lineMark lead <:+: text :=
  fun inside => free (inside.subset List.mem_cons_self)

/-! ## Provenances -/

/-- Finalizing inputs stores whatever provenance it is given. -/
theorem stored (provenance : Provenance) : Stored provenance := by
  refine ⟨BuilderStore.defaultPolicy, [.createJob "key", .finalizeInputs "job-1" 0 provenance], 2,
    "job-1", ⟨"job-1", "key", .inputsFinalized, 0, some provenance, none⟩, ?_, rfl⟩
  have created : (BuilderStore.next (.createJob "key") (.new BuilderStore.defaultPolicy)).jobs
      "job-1" = some ⟨"job-1", "key", .created, 0, none, none⟩ := by
    decide +kernel
  show (BuilderStore.next (.finalizeInputs _ 0 provenance) (BuilderStore.next _ _)).jobs _ = _
  generalize BuilderStore.next (.createJob "key") _ = store at created
  have finalized : store.finalizeInputs "job-1" 0 provenance = (none, { store with
      jobs := Function.update store.jobs "job-1"
        (some ⟨"job-1", "key", .inputsFinalized, 0, some provenance, none⟩) }) := by
    rw [BuilderStore.finalizeInputs, if_neg (UInt64.not_lt_zero), BuilderStore.replace, created]
    rfl
  rw [BuilderStore.next, BuilderStore.apply, finalized]
  show Function.update store.jobs "job-1" _ "job-1" = _
  exact Function.update_self _ _ _

/-- A mark of a line without a second line break. -/
theorem isMark_lineMark (lead : String) (free : '\n' ∉ lead.toList) : IsMark (lineMark lead) :=
  ⟨'\n', lead.toList, rfl, free⟩

/-- The bytes of two provenances are the same exactly if their versions and the texts of their
fields are. -/
theorem canonicalBytes_iff {first second : Provenance} :
    first.canonicalBytes = second.canonicalBytes ↔
      first.apiVersion = second.apiVersion ∧ first.fields = second.fields := by
  have text (provenance : Provenance) : provenance.canonicalText =
      "api=".toList ++ (numberText provenance.apiVersion.toNat ++ (lineMark "lock=" ++
        (provenance.fields ++ ['\n']))) := by
    unfold Provenance.canonicalText Provenance.fields Marks.fields
    generalize "api=".toList = lead
    simp only [List.append_assoc]
  constructor
  · intro same
    have lines := intoBytes_inj same
    rw [text, text] at lines
    have free (number : Nat) : ¬ lineMark "lock=" <:+: numberText number :=
      not_lineMark _ (not_mem_numberText (by decide) number)
    obtain ⟨version, rest⟩ := Marks.first_cut (isMark_lineMark "lock=" (by decide))
      (free _) (free _) (List.append_cancel_left lines)
    exact ⟨UInt16.toNat_inj.mp (numberText_injective version), List.append_cancel_right rest⟩
  · rintro ⟨version, same⟩
    rw [Provenance.canonicalBytes, Provenance.canonicalBytes, text, text, version, same]

/-- A provenance is known from its bytes exactly if no field has the mark of a line beside it. -/
theorem identified_iff (provenance : Provenance) :
    provenance.Identified ↔ provenance.Marked := by
  rw [Provenance.Marked, ← Marks.unique_iff (isMark_lineMark "source=" (by decide))
    (isMark_lineMark "target=" (by decide)) (isMark_lineMark "toolchain=" (by decide))]
  constructor
  · intro identified lock source target toolchain same
    have isOther := identified ⟨.ofList source, .ofList lock, .ofList toolchain,
      provenance.apiVersion, .ofList target⟩ (stored _) (canonicalBytes_iff.mpr ⟨rfl, by
        simpa only [Provenance.fields, String.toList_ofList] using same⟩)
    rw [← isOther]
    simp only [String.toList_ofList, and_self]
  · intro known other _ same
    obtain ⟨version, text⟩ := canonicalBytes_iff.mp same
    obtain ⟨lock, source, target, toolchain⟩ := known _ _ _ _ text
    cases other
    cases provenance
    simp only [Provenance.mk.injEq]
    exact ⟨String.toList_inj.mp source, String.toList_inj.mp lock, String.toList_inj.mp toolchain,
      version, String.toList_inj.mp target⟩

/-! ## Manifests -/

/-- Names that are not empty and have no comma are known from their text. -/
theorem joined_injective {first second : List (List Char)}
    (firstNamed : ∀ name ∈ first, name ≠ [] ∧ ',' ∉ name)
    (secondNamed : ∀ name ∈ second, name ≠ [] ∧ ',' ∉ name)
    (same : joined ',' first = joined ',' second) : first = second := by
  have empty {names : List (List Char)} (named : ∀ name ∈ names, name ≠ [] ∧ ',' ∉ name)
      (none : joined ',' names = []) : names = [] := by
    by_contra inhabited
    exact DotSegments.joined_ne_nil (fun name isName => (named name isName).1) inhabited none
  by_cases firstEmpty : first = []
  · rw [firstEmpty, DotSegments.joined_nil] at same
    rw [firstEmpty, empty secondNamed same.symm]
  by_cases secondEmpty : second = []
  · rw [secondEmpty, DotSegments.joined_nil] at same
    exact absurd (empty firstNamed same) firstEmpty
  calc first = (joined ',' first).splitOn ',' := (List.splitOn_intercalate ','
        (fun name isName => (firstNamed name isName).2) firstEmpty).symm
    _ = (joined ',' second).splitOn ',' := by rw [same]
    _ = second := List.splitOn_intercalate ',' (fun name isName => (secondNamed name isName).2)
        secondEmpty

/-- A text that joins texts without line breaks has none. -/
theorem not_mem_joined {letter : Char} {names : List (List Char)} (other : letter ≠ ',')
    (free : ∀ name ∈ names, letter ∉ name) : letter ∉ joined ',' names := by
  induction names with
  | nil => exact List.not_mem_nil
  | cons name rest ih =>
    have later := ih fun name isName => free name (List.mem_cons_of_mem _ isName)
    have here := free name List.mem_cons_self
    cases rest with
    | nil => simpa [joined] using here
    | cons second others =>
      rw [joined, List.intercalate_cons_cons]
      simp only [List.mem_append, List.mem_singleton, not_or]
      exact ⟨⟨here, other⟩, later⟩

/-- What is known of a manifest that is valid. -/
structure NativeArtifactManifest.Valid (manifest : NativeArtifactManifest) (target : String)
    (api abi : UInt16) : Prop where
  target : manifest.target = target
  api : manifest.apiVersion = api
  abi : manifest.abiVersion = abi
  entry : manifest.entry = "poison_rust_entry"
  digest : '\n' ∉ manifest.digest.toList
  imports : ∀ name ∈ manifest.imports, name.toList ≠ []
  capabilities : ∀ name ∈ manifest.capabilities, name.toList ≠ []

theorem valid_of_validate {manifest : NativeArtifactManifest} {target : String} {api abi : UInt16}
    (accepted : manifest.validate target api abi = none) : manifest.Valid target api abi := by
  rw [NativeArtifactManifest.validate] at accepted
  split at accepted
  · cases accepted
  rename_i sameTarget
  split at accepted
  · cases accepted
  rename_i sameEntry
  split at accepted
  · cases accepted
  rename_i hexadecimal
  split at accepted
  · cases accepted
  rename_i prefixed
  split at accepted
  · cases accepted
  split at accepted
  · cases accepted
  rename_i named
  simp only [Bool.or_eq_true, bne_iff_ne, not_or, not_not] at sameTarget sameEntry
  refine ⟨sameTarget.1.1, sameTarget.1.2, sameTarget.2, sameEntry, ?_, ?_, ?_⟩
  · intro inside
    rw [Bool.or_eq_true, not_or, Bool.not_eq_true', Bool.not_eq_false] at hexadecimal
    exact absurd (List.all_eq_true.mp hexadecimal.2 _ inside) (by decide)
  · intro name isName empty
    have lead := List.any_eq_false.mp (Bool.not_eq_true _ |>.mp prefixed) name isName
    rw [empty] at lead
    exact lead (by decide)
  · intro name isName empty
    have full := List.any_eq_false.mp (Bool.not_eq_true _ |>.mp named) name isName
    rw [Bool.or_eq_true, not_or, String.isEmpty_iff, ← String.toList_eq_nil_iff] at full
    exact full.1 empty

/-- Two valid manifests whose names have no comma or line break have other bytes unless they are
the same.

Proof: no field has a line break, so that all lines are cut at the same places, and no name has a
comma, so that the names are. -/
theorem apart_of_plain {first second : NativeArtifactManifest} (firstPlain : first.Plain)
    (secondPlain : second.Plain) : first.Apart second := by
  intro target api abi firstAccepted secondAccepted same
  have firstValid := valid_of_validate firstAccepted
  have secondValid := valid_of_validate secondAccepted
  have text (manifest : NativeArtifactManifest) : manifest.canonicalText =
      "abi=".toList ++ (numberText manifest.abiVersion.toNat ++ (lineMark "api=" ++
        (numberText manifest.apiVersion.toNat ++ (lineMark "digest=" ++
          (manifest.digest.toList ++ (lineMark "entry=" ++ (manifest.entry.toList ++
            (lineMark "target=" ++ (manifest.target.toList ++ (lineMark "capabilities=" ++
              (joinNames manifest.capabilities ++ (lineMark "imports=" ++
                (joinNames manifest.imports ++ (lineMark "relocations=" ++
                  (joined ',' (manifest.relocations.map fun relocation =>
                    numberText relocation.toNat) ++ ['\n']))))))))))))))) := by
    unfold NativeArtifactManifest.canonicalText
    generalize "abi=".toList = lead
    simp only [List.append_assoc]
  have lines := intoBytes_inj same
  rw [text, text, firstValid.target, firstValid.api, firstValid.abi, firstValid.entry,
    secondValid.target, secondValid.api, secondValid.abi, secondValid.entry] at lines
  have rest := List.append_cancel_left (List.append_cancel_left (List.append_cancel_left
    (List.append_cancel_left (List.append_cancel_left lines))))
  have freeNames {names : List String} (free : ∀ name ∈ names, '\n' ∉ name.toList)
      (lead : String) : ¬ lineMark lead <:+: joinNames names := by
    refine not_lineMark lead (not_mem_joined (by decide) fun text isText => ?_)
    obtain ⟨name, isName, rfl⟩ := List.mem_map.mp isText
    exact free name isName
  obtain ⟨digest, rest⟩ := Marks.first_cut (isMark_lineMark "entry=" (by decide))
    (not_lineMark _ firstValid.digest) (not_lineMark _ secondValid.digest) rest
  obtain ⟨capabilities, rest⟩ := Marks.first_cut (isMark_lineMark "imports=" (by decide))
    (freeNames (fun name isName => (firstPlain name (List.mem_append_left _ isName)).2) _)
    (freeNames (fun name isName => (secondPlain name (List.mem_append_left _ isName)).2) _)
    (List.append_cancel_left (List.append_cancel_left (List.append_cancel_left
      (List.append_cancel_left rest))))
  obtain ⟨imports, rest⟩ := Marks.first_cut (isMark_lineMark "relocations=" (by decide))
    (freeNames (fun name isName => (firstPlain name (List.mem_append_right _ isName)).2) _)
    (freeNames (fun name isName => (secondPlain name (List.mem_append_right _ isName)).2) _) rest
  have sameNames {names others : List String}
      (named : ∀ name ∈ names, name.toList ≠ [] ∧ ',' ∉ name.toList)
      (othersNamed : ∀ name ∈ others, name.toList ≠ [] ∧ ',' ∉ name.toList)
      (same : joinNames names = joinNames others) : names = others := by
    refine List.map_injective_iff.mpr (fun _ _ => String.toList_inj.mp)
      (joined_injective ?_ ?_ same)
    · exact List.forall_mem_map.mpr named
    · exact List.forall_mem_map.mpr othersNamed
  have numbers (relocations : List UInt32) : ∀ text ∈ relocations.map
      fun relocation => numberText relocation.toNat, text ≠ [] ∧ ',' ∉ text :=
    List.forall_mem_map.mpr fun relocation _ =>
      ⟨Nat.toDigits_ne_nil, not_mem_numberText (by decide) _⟩
  have relocations : first.relocations = second.relocations :=
    List.map_injective_iff.mpr
      (fun _ _ same => UInt32.toNat_inj.mp (numberText_injective same))
      (joined_injective (numbers _) (numbers _) (List.append_cancel_right rest))
  cases first
  cases second
  simp only [NativeArtifactManifest.mk.injEq]
  refine ⟨firstValid.target.trans secondValid.target.symm,
    firstValid.api.trans secondValid.api.symm, firstValid.abi.trans secondValid.abi.symm,
    firstValid.entry.trans secondValid.entry.symm, sameNames ?_ ?_ imports, relocations,
    sameNames ?_ ?_ capabilities, String.toList_inj.mp digest⟩
  · exact fun name isName => ⟨firstValid.imports name isName,
      (firstPlain name (List.mem_append_right _ isName)).1⟩
  · exact fun name isName => ⟨secondValid.imports name isName,
      (secondPlain name (List.mem_append_right _ isName)).1⟩
  · exact fun name isName => ⟨firstValid.capabilities name isName,
      (firstPlain name (List.mem_append_left _ isName)).1⟩
  · exact fun name isName => ⟨secondValid.capabilities name isName,
      (secondPlain name (List.mem_append_left _ isName)).1⟩

/-- A provenance is known from its bytes exactly if no field has the mark of a line beside it, and
two valid manifests without commas and line breaks in their names have other bytes unless they
are the same. -/
theorem build_identities (provenance : Provenance) (first second : NativeArtifactManifest) :
    (provenance.Identified ↔ provenance.Marked) ∧
      (first.Plain → second.Plain → first.Apart second) :=
  ⟨identified_iff provenance, apart_of_plain⟩

def mixedProvenance (lockDigest sourceDigest : String) : Provenance where
  sourceDigest := sourceDigest
  lockDigest := lockDigest
  toolchainDigest := "t"
  apiVersion := 1
  target := "thumbv7em-none-eabihf"

/-- An artifact with one capability. -/
def sampleArtifact (capability : String) : NativeArtifactManifest where
  target := "thumbv7em-none-eabihf"
  apiVersion := 1
  abiVersion := 1
  entry := "poison_rust_entry"
  imports := ["poison_storage_open"]
  relocations := [0, 2, 3]
  capabilities := [capability]
  digest := .ofList (List.replicate 64 'a')

/-- A provenance and two artifacts without separators in their fields. -/
theorem sample_identities : (mixedProvenance "a" "c").Identified ∧
    (sampleArtifact "read").Apart (sampleArtifact "log") := by
  obtain ⟨identified, apart⟩ :=
    build_identities (mixedProvenance "a" "c") (sampleArtifact "read") (sampleArtifact "log")
  refine ⟨identified.mpr ⟨?_, ?_, ?_, ?_, ?_, ?_⟩, apart ?_ ?_⟩ <;> decide +kernel

/-- Two provenances have the same bytes: a lock digest has the mark of the next line. -/
theorem shared_identity : ¬ ∀ provenance : Provenance, provenance.Identified := by
  intro identified
  have same := identified (mixedProvenance "a" "b\nsource=c") (mixedProvenance "a\nsource=b" "c")
    (stored _) (congrArg intoBytes (by decide +kernel))
  exact absurd (congrArg Provenance.sourceDigest same) (by decide)

end PoisonedOS.Builder
