import PoisonedOS.Archive.Manifest

/-!
# The canonical form that is printed

The code prints the canonical form of a manifest with the quotation marks of its keys
written out in the format. `json_printf` puts marks of its own around every key, so what it
prints begins with an empty string and a word. That is not JSON: a manifest that equals it
is read up to its first key and no further, and none of its fields is found.

So no manifest is parsed, whatever it says and whoever signed it.
-/

namespace PoisonedOS

namespace PackageManifest

/-- How every canonical form begins. -/
def renderingStart : List UInt8 := (CString.literal "\x7b\"\"capabilities\"\":[").bytes

/-- A place of a text is where it is found. -/
theorem splitFirst_eq {needle text before after : List UInt8}
    (found : splitFirst needle text = some (before, after)) : text = before ++ needle ++ after := by
  induction text generalizing before after with
  | nil =>
    simp only [splitFirst] at found
    split at found
    · rename_i isEmpty
      cases found
      rw [isEmpty]
      rfl
    · cases found
  | cons byte rest ih =>
    simp only [splitFirst] at found
    split at found
    · rename_i starts
      cases found
      obtain ⟨tail, isTail⟩ := List.isPrefixOf_iff_prefix.mp starts
      rw [← isTail, List.drop_left, List.nil_append]
    · obtain ⟨⟨inner, isAfter⟩, isFound, isSplit⟩ := Option.map_eq_some_iff.mp found
      cases isSplit
      rw [ih isFound]
      rfl

/-- The text without the signature: what was before it and the comma after it. -/
theorem canonicalUnsigned_eq {manifest unsigned : List UInt8}
    (spliced : canonicalUnsigned manifest = some unsigned) :
    ∃ before value rest, manifest = before ++ value ∧ unsigned = before ++ 44 :: rest := by
  simp only [canonicalUnsigned] at spliced
  split at spliced
  · cases spliced
  · split at spliced
    · cases spliced
    · rename_i before value found
      split at spliced
      · cases spliced
      · split at spliced
        · rename_i following _
          split at spliced
          · cases spliced
            have isText := splitFirst_eq found
            refine ⟨before, signatureMarker ++ value ++ manifest.dropWhile (· != 0),
              following ++ manifest.drop (manifest.takeWhile (· != 0)).length, ?_, ?_⟩
            · conv => lhs; rw [← List.takeWhile_append_dropWhile (p := (· != 0)) (l := manifest)]
              rw [isText]
              simp only [List.append_assoc]
            · simp only [List.append_assoc, List.cons_append]
          · cases spliced
        · cases spliced

/-- A canonical form begins as it is printed. -/
theorem canonicalRendering_start (verified : VerifiedArchive) :
    ∃ rest, canonicalRendering verified = renderingStart ++ rest := by
  have start : Json.printf (CString.literal "\x7b\"capabilities\":[") [] = renderingStart := by
    decide +kernel
  rw [canonicalRendering, start]
  simp only [List.append_assoc]
  exact ⟨_, rfl⟩

/-- A manifest whose unsigned text is a canonical form begins as one. -/
theorem manifest_start {manifest unsigned rest : List UInt8}
    (spliced : canonicalUnsigned manifest = some unsigned)
    (printed : unsigned = renderingStart ++ rest) : ∃ tail, manifest = renderingStart ++ tail := by
  obtain ⟨before, value, following, isManifest, isUnsigned⟩ := canonicalUnsigned_eq spliced
  have same := isUnsigned.symm.trans printed
  obtain ⟨tail, isStart, isComma⟩ | ⟨tail, isBefore, -⟩ := List.append_eq_append_iff.mp same
  · cases tail with
    | nil =>
      rw [List.append_nil] at isStart
      exact ⟨value, by rw [isManifest, isStart]⟩
    | cons byte tail =>
      have comma : (44 : UInt8) ∈ renderingStart := by
        rw [isStart, (List.cons.inj isComma).1]
        simp
      exact absurd comma (by decide)
  · exact ⟨tail ++ value, by rw [isManifest, isBefore, List.append_assoc]⟩

/-- An object whose first key is empty and not followed by a colon is read no further. -/
theorem parseValue_emptyKey (fuel : Nat) (tail : List UInt8) :
    (Json.parseValue (fuel + 2) [] (123 :: 34 :: 34 :: 99 :: tail)).1 =
      [⟨[], .objectStart, none⟩] := by
  rfl

/-- A text that begins as a canonical form is read up to its first key. -/
theorem walk_start (tail : List UInt8) :
    Json.walk (renderingStart ++ tail) = [⟨[], .objectStart, none⟩] := by
  have start : renderingStart = 123 :: 34 :: 34 :: 99 :: renderingStart.drop 4 := by decide
  rw [Json.walk, start]
  exact parseValue_emptyKey _ _

/-- The start of a rendering has none of the fields. -/
theorem scanned_start (tail : List UInt8) :
    (scanned (Json.walk (renderingStart ++ tail))).fields = none := by
  rw [walk_start]
  decide +kernel

theorem signed_canonical {rendering : VerifiedArchive → List UInt8}
    {signatureOk : FixedBytes 65 → List UInt8 → List UInt8 → Bool}
    {manifest signature : List UInt8} {authorities : List PackageAuthority}
    {fields verified : VerifiedArchive}
    (accepted : signed rendering signatureOk manifest signature authorities fields =
      .ok verified) :
    ∃ unsigned, canonicalUnsigned manifest = some unsigned ∧ rendering verified = unsigned := by
  simp only [signed] at accepted
  split at accepted
  · cases accepted
  · split at accepted
    · cases accepted
    · split at accepted
      · cases accepted
      · rename_i unsigned spliced
        split at accepted
        · cases accepted
        · rename_i canonical
          split at accepted
          · cases accepted
            simp only [Bool.or_eq_true, bne_iff_ne, not_or, not_not] at canonical
            exact ⟨unsigned, spliced, canonical.1⟩
          · cases accepted

/-- Whatever a manifest says and whoever signed it, it is not parsed. -/
theorem parseManifest_refuses (signatureOk : FixedBytes 65 → List UInt8 → List UInt8 → Bool)
    (manifest : List UInt8) (authorities : List PackageAuthority)
    (firmwareApiMajor firmwareApiMinor : UInt32) (installedVersion : Option CString)
    (verified : VerifiedArchive) :
    parseManifest canonicalRendering signatureOk manifest authorities firmwareApiMajor
      firmwareApiMinor installedVersion ≠ .ok verified := by
  intro parsed
  simp only [parseManifest] at parsed
  split at parsed
  · cases parsed
  · rename_i fields isFields
    split at parsed
    · cases parsed
    · split at parsed
      · cases parsed
      · split at parsed
        · obtain ⟨unsigned, spliced, printed⟩ := signed_canonical parsed
          obtain ⟨rest, start⟩ := canonicalRendering_start _
          obtain ⟨tail, isManifest⟩ := manifest_start spliced (printed.symm.trans start)
          rw [isManifest, scanned_start] at isFields
          cases isFields
        · cases parsed

end PackageManifest

end PoisonedOS
