import PoisonedOS.Archive.AuthorityTable

/-!
# The format of the authority store

The file of a table holds the list of its authorities. What decoding accepts is described by
the entries the file is made of: their key ids, read as texts, are valid and distinct, and the
file ends where the last entry ends.

A key id of the file ends for the table at its first zero byte, but its length field counts
what follows as well. An accepted file is therefore the one its table is encoded to exactly
when no key id of it holds a zero byte.
-/

namespace PoisonedOS

/-- An entry of a file, with its key id as the bytes the length counts. -/
structure AuthorityField where
  revoked : Bool
  publicKey : FixedBytes authorityKeyBytes
  keyIdField : List UInt8

namespace AuthorityField

/-- The bytes of an entry. -/
def bytes (field : AuthorityField) : List UInt8 :=
  [UInt8.ofNat field.keyIdField.length, if field.revoked then 1 else 0, 0, 0] ++
    field.publicKey.bytes ++ field.keyIdField

/-- The authority an entry is read as. -/
def authority (field : AuthorityField) : StoredAuthority :=
  ⟨field.revoked, CString.ofBytes field.keyIdField, field.publicKey⟩

/-- The length of a key id is one a file may have. -/
def Sized (field : AuthorityField) : Prop :=
  0 < field.keyIdField.length ∧ field.keyIdField.length ≤ authorityKeyIdMax

/-- The entry of an authority. -/
def ofAuthority (authority : StoredAuthority) : AuthorityField :=
  ⟨authority.revoked, authority.publicKey, authority.keyId.bytes⟩

@[simp] theorem bytes_ofAuthority (authority : StoredAuthority) :
    (ofAuthority authority).bytes = authority.encode := rfl

@[simp] theorem authority_ofAuthority (stored : StoredAuthority) :
    (ofAuthority stored).authority = stored := by
  have same : CString.ofBytes stored.keyId.bytes = stored.keyId :=
    CString.ext (CString.ofBytes_bytes stored.keyId.noNul)
  rw [authority, ofAuthority, same]

theorem sized_ofAuthority {stored : StoredAuthority}
    (valid : authorityKeyIdValid stored.keyId = true) : (ofAuthority stored).Sized := by
  simp only [authorityKeyIdValid, Bool.and_eq_true, decide_eq_true_eq, Bool.not_eq_true']
    at valid
  refine ⟨?_, valid.1.2⟩
  rw [List.length_pos_iff]
  intro empty
  rw [(CString.isEmpty_iff stored.keyId).mpr empty] at valid
  cases valid.1.1

/-- The authority of an entry whose key id has no zero byte is encoded to the entry. -/
theorem encode_authority {field : AuthorityField} (free : (0 : UInt8) ∉ field.keyIdField) :
    field.authority.encode = field.bytes := by
  have whole := CString.ofBytes_bytes free
  rw [StoredAuthority.encode, authority, bytes, CString.length, whole]

/-- An authority is encoded to no more bytes than its entry has, and to as many only where the
key id has no zero byte. -/
theorem length_encode_authority (field : AuthorityField) :
    field.authority.encode.length ≤ field.bytes.length ∧
      (field.bytes.length ≤ field.authority.encode.length → (0 : UInt8) ∉ field.keyIdField) := by
  have cut : field.keyIdField.takeWhile (· != 0) <+: field.keyIdField := List.takeWhile_prefix _
  have lengths : field.authority.encode.length + field.keyIdField.length =
      field.bytes.length + (field.keyIdField.takeWhile (· != 0)).length := by
    simp only [StoredAuthority.encode, authority, bytes, CString.ofBytes, List.length_append,
      List.length_cons]
    omega
  refine ⟨by have := cut.length_le; omega, ?_⟩
  intro long
  have whole := cut.eq_of_length_le (by omega)
  exact whole ▸ (CString.ofBytes field.keyIdField).noNul

end AuthorityField

/-- The key ids of the entries at the start of some bytes, each as long as the first byte of
its entry says. -/
def keyIdFields : Nat → List UInt8 → List (List UInt8)
  | 0, _ => []
  | count + 1, entries =>
    let length := (entries.headD 0).toNat
    (entries.drop (4 + authorityKeyBytes)).take length ::
      keyIdFields count (entries.drop (4 + authorityKeyBytes + length))

/-- The key ids of a file. -/
def fileKeyIds (input : List UInt8) : List (List UInt8) :=
  keyIdFields (input.getD 5 0).toNat (input.drop 8)

variable {fields : List AuthorityField}

/-- The key ids of a file of entries are theirs. -/
theorem keyIdFields_fields (sized : ∀ field ∈ fields, field.Sized) :
    keyIdFields fields.length (fields.flatMap AuthorityField.bytes) =
      fields.map AuthorityField.keyIdField := by
  induction fields with
  | nil => rfl
  | cons field rest ih =>
    have small : field.keyIdField.length < 256 :=
      Nat.lt_of_le_of_lt (sized field List.mem_cons_self).2 (by decide)
    have announced : (((field :: rest).flatMap AuthorityField.bytes).headD 0).toNat =
        field.keyIdField.length := by
      rw [List.flatMap_cons, AuthorityField.bytes]
      exact Nat.mod_eq_of_lt small
    have front : (field :: rest).flatMap AuthorityField.bytes =
        ([UInt8.ofNat field.keyIdField.length, if field.revoked then 1 else 0, 0, 0] ++
          field.publicKey.bytes) ++ (field.keyIdField ++ rest.flatMap AuthorityField.bytes) := by
      rw [List.flatMap_cons, AuthorityField.bytes, List.append_assoc, List.append_assoc]
    have frontLength : ([UInt8.ofNat field.keyIdField.length,
        if field.revoked then 1 else 0, 0, 0] ++ field.publicKey.bytes).length =
          4 + authorityKeyBytes := by
      rw [List.length_append, field.publicKey.sized]
      rfl
    rw [List.length_cons, keyIdFields, announced, front, List.drop_left' frontLength,
      List.take_left, ← List.drop_drop, List.drop_left' frontLength, List.drop_left, List.map_cons,
      ih fun other member => sized other (List.mem_cons_of_mem _ member)]

section Decode

variable {pointValid : FixedBytes authorityKeyBytes → Bool}

open AuthorityStore

variable {list : List StoredAuthority}

/-- What the loop accepts, from the table of an admissible list, are entries whose authorities
can be appended to the list, and nothing after them. -/
theorem decodeAuthorities_sound {count : Nat} {rest : List UInt8}
    (admissible : Admissible pointValid list) {generation : UInt32} {next : AuthorityStore}
    (decoded : decodeAuthorities pointValid count rest (holding list generation) = some next) :
    ∃ fields : List AuthorityField, fields.length = count ∧
      rest = fields.flatMap AuthorityField.bytes ∧ (∀ field ∈ fields, field.Sized) ∧
      Admissible pointValid (list ++ fields.map AuthorityField.authority) ∧
      ∃ after, next = holding (list ++ fields.map AuthorityField.authority) after := by
  induction count generalizing rest list generation with
  | zero =>
    rw [decodeAuthorities] at decoded
    split at decoded
    · rename_i empty
      cases decoded
      refine ⟨[], rfl, List.isEmpty_iff.mp empty, ?_, ?_, generation, ?_⟩
      · intro field member
        cases member
      · rwa [List.map_nil, List.append_nil]
      · rw [List.map_nil, List.append_nil]
    · cases decoded
  | succ count ih =>
    unfold decodeAuthorities at decoded
    split at decoded
    · cases decoded
    split at decoded
    · rename_i keyIdLength flags reservedA reservedB body _
      split at decoded
      · cases decoded
      rename_i checked
      simp only [Bool.or_eq_true, not_or, beq_iff_eq, decide_eq_true_eq, bne_iff_ne, not_not,
        Nat.not_lt, UInt8.not_lt, gt_iff_lt] at checked
      obtain ⟨⟨⟨⟨⟨nonzero, bounded⟩, isFlag⟩, rfl⟩, rfl⟩, long⟩ := checked
      split at decoded
      · cases decoded
      rename_i publicKey isKey
      dsimp only at decoded
      split at decoded
      · cases decoded
      rename_i added isAdded
      have keyBytes := FixedBytes.ofList?_bytes isKey
      obtain ⟨keyIdValid, publicKeyValid, absent, short, rfl⟩ :=
        (add_holding admissible.fits (flags != 0)).mp isAdded
      obtain ⟨fields, isCount, isRest, sized, further, after, rfl⟩ :=
        ih (admissible_append.mpr
          ⟨admissible, keyIdValid, publicKeyValid, absent, short⟩) decoded
      let field : AuthorityField :=
        ⟨flags != 0, publicKey, (body.drop authorityKeyBytes).take keyIdLength.toNat⟩
      have fieldLength : field.keyIdField.length = keyIdLength.toNat := by
        simp only [field, List.length_take, List.length_drop]
        omega
      refine ⟨field :: fields, congrArg Nat.succ isCount, ?_, ?_, ?_, after, ?_⟩
      · have flagByte : (if flags != 0 then 1 else 0 : UInt8) = flags := by
          have : flags = 0 ∨ flags = 1 := by
            have := UInt8.le_iff_toNat_le.mp isFlag
            rw [← UInt8.toNat_inj, ← UInt8.toNat_inj]
            simp only [UInt8.toNat_one, UInt8.toNat_zero] at this ⊢
            omega
          obtain rfl | rfl := this
          · rfl
          · rfl
        have parts : body = publicKey.bytes ++
            ((body.drop authorityKeyBytes).take keyIdLength.toNat ++
              body.drop (authorityKeyBytes + keyIdLength.toNat)) := by
          rw [keyBytes, ← List.drop_drop, List.take_append_drop, List.take_append_drop]
        rw [List.flatMap_cons, AuthorityField.bytes, fieldLength, ← isRest, UInt8.ofNat_toNat]
        simp only [field, flagByte, List.append_assoc]
        rw [← parts]
        rfl
      · intro other member
        obtain rfl | member := List.mem_cons.mp member
        · refine ⟨?_, ?_⟩
          · rw [fieldLength]
            exact Nat.pos_of_ne_zero fun zero => nonzero (UInt8.toNat_inj.mp zero)
          · rw [fieldLength]
            exact bounded
        · exact sized other member
      · rwa [List.append_assoc] at further
      · rw [List.append_assoc]
        rfl
    · cases decoded

/-- Entries whose authorities can be appended to the list are accepted. -/
theorem decodeAuthorities_complete (sized : ∀ field ∈ fields, field.Sized)
    (admissible : Admissible pointValid (list ++ fields.map AuthorityField.authority))
    (generation : UInt32) :
    ∃ after, decodeAuthorities pointValid fields.length (fields.flatMap AuthorityField.bytes)
      (holding list generation) =
        some (holding (list ++ fields.map AuthorityField.authority) after) := by
  induction fields generalizing list generation with
  | nil => exact ⟨generation, by rw [List.map_nil, List.append_nil]; rfl⟩
  | cons field rest ih =>
    have split : list ++ (field :: rest).map AuthorityField.authority =
        list ++ [field.authority] ++ rest.map AuthorityField.authority := by
      rw [List.map_cons, List.append_assoc]
      rfl
    rw [split] at admissible ⊢
    have here := admissible.front
    obtain ⟨before, keyIdValid, publicKeyValid, absent, short⟩ := admissible_append.mp here
    obtain ⟨nonempty, bounded⟩ := sized field List.mem_cons_self
    have announced : (UInt8.ofNat field.keyIdField.length).toNat = field.keyIdField.length :=
      Nat.mod_eq_of_lt (Nat.lt_of_le_of_lt bounded (by decide))
    have added : (holding list generation).add pointValid (CString.ofBytes field.keyIdField)
        field.publicKey field.revoked =
          some (holding (list ++ [field.authority]) (generation + 1)) :=
      (add_holding before.fits field.revoked).mpr
        ⟨keyIdValid, publicKeyValid, absent, short, rfl⟩
    obtain ⟨after, decoded⟩ := ih
      (fun other member => sized other (List.mem_cons_of_mem _ member)) admissible
      (generation + 1)
    refine ⟨after, ?_⟩
    have front : (field :: rest).flatMap AuthorityField.bytes =
        UInt8.ofNat field.keyIdField.length :: (if field.revoked then 1 else 0) :: 0 :: 0 ::
          (field.publicKey.bytes ++
            (field.keyIdField ++ rest.flatMap AuthorityField.bytes)) := by
      rw [List.flatMap_cons, AuthorityField.bytes, List.append_assoc, List.append_assoc]
      rfl
    have key := field.publicKey.sized
    have readKey : FixedBytes.ofList? authorityKeyBytes field.publicKey.bytes =
        some field.publicKey := dif_pos key
    have flagged : ((if field.revoked then 1 else 0 : UInt8) != 0) = field.revoked := by
      cases field.revoked <;> rfl
    have guards : ¬ (UInt8.ofNat field.keyIdField.length == 0 ||
        decide ((UInt8.ofNat field.keyIdField.length).toNat > authorityKeyIdMax) ||
        decide ((if field.revoked then 1 else 0 : UInt8) > 1) || (0 : UInt8) != 0 ||
        (0 : UInt8) != 0 || decide ((field.publicKey.bytes ++
          (field.keyIdField ++ rest.flatMap AuthorityField.bytes)).length <
            authorityKeyBytes + (UInt8.ofNat field.keyIdField.length).toNat)) = true := by
      have nonzero : UInt8.ofNat field.keyIdField.length ≠ 0 := by
        intro zero
        rw [zero] at announced
        exact Nat.ne_of_gt nonempty announced.symm
      have isFlag : ¬ (if field.revoked then 1 else 0 : UInt8) > 1 := by
        cases field.revoked <;> decide
      have long : ¬ (field.publicKey.bytes ++
          (field.keyIdField ++ rest.flatMap AuthorityField.bytes)).length <
            authorityKeyBytes + field.keyIdField.length := by
        rw [List.length_append, List.length_append, key]
        omega
      simp only [announced, Bool.or_eq_true, beq_iff_eq, nonzero, decide_eq_true_eq, isFlag, long,
        Nat.not_lt.mpr bounded, bne_self_eq_false, Bool.false_eq_true, or_self,
        not_false_eq_true]
    rw [List.length_cons, front, decodeAuthorities, if_neg (by
      simp only [List.length_cons, List.length_append, key]
      omega)]
    dsimp only
    rw [if_neg guards, List.take_left' key, readKey, flagged, announced, List.drop_left' key,
      List.take_left, ← List.drop_drop, List.drop_left' key, List.drop_left]
    dsimp only
    rw [added]
    exact decoded

/-- A file of entries. -/
def authorityFile (fields : List AuthorityField) : List UInt8 :=
  authorityHeader (UInt8.ofNat fields.length) ++ fields.flatMap AuthorityField.bytes

/-- Entries take what their key ids take and the same number of bytes each besides. -/
theorem length_fields (fields : List AuthorityField) :
    (fields.flatMap AuthorityField.bytes).length =
      fields.length * (4 + authorityKeyBytes) +
        (fields.flatMap AuthorityField.keyIdField).length := by
  induction fields with
  | nil => rfl
  | cons field rest ih =>
    have key := field.publicKey.sized
    simp only [List.flatMap_cons, List.length_append, ih, AuthorityField.bytes,
      List.length_cons, List.length_nil, key, Nat.succ_mul]
    omega

/-- Eight entries fit into a file. -/
theorem length_fields_le (sized : ∀ field ∈ fields, field.Sized) :
    (fields.flatMap AuthorityField.bytes).length ≤
      fields.length * (4 + authorityKeyBytes + authorityKeyIdMax) := by
  induction fields with
  | nil => exact Nat.le_refl 0
  | cons field rest ih =>
    have key := field.publicKey.sized
    have bounded := (sized field List.mem_cons_self).2
    have others := ih fun other member =>
      sized other (List.mem_cons_of_mem _ member)
    simp only [List.flatMap_cons, List.length_append, AuthorityField.bytes, List.length_cons,
      List.length_nil, key, Nat.succ_mul] at others ⊢
    omega

theorem length_authorityFile_le (sized : ∀ field ∈ fields, field.Sized)
    (fits : fields.length ≤ authorityMax) :
    (authorityFile fields).length ≤ authorityFileMax := by
  have bounded := length_fields_le sized
  rw [authorityFile, List.length_append]
  simp only [authorityHeader, List.length_cons, List.length_nil, authorityFileMax,
    authorityKeyBytes, authorityKeyIdMax, authorityMax] at bounded fits ⊢
  omega

/-- What decoding accepts is a file of entries whose authorities make an admissible list. -/
theorem decodeAuthorityStore_sound {input : List UInt8} {store : AuthorityStore}
    (decoded : decodeAuthorityStore pointValid input = some store) :
    ∃ fields : List AuthorityField, input = authorityFile fields ∧
      (∀ field ∈ fields, field.Sized) ∧
      Admissible pointValid (fields.map AuthorityField.authority) ∧
      ∃ after, store = holding (fields.map AuthorityField.authority) after := by
  unfold decodeAuthorityStore at decoded
  split at decoded
  · cases decoded
  split at decoded
  · rename_i count rest _
    split at decoded
    · cases decoded
    · rw [init_eq_holding] at decoded
      obtain ⟨fields, isCount, rfl, sized, admissible, after, rfl⟩ :=
        decodeAuthorities_sound admissible_nil decoded
      refine ⟨fields, ?_, sized, admissible, after, rfl⟩
      rw [authorityFile, isCount, UInt8.ofNat_toNat]
      rfl
  · cases decoded

/-- A file of entries whose authorities make an admissible list is accepted. -/
theorem decodeAuthorityStore_complete (sized : ∀ field ∈ fields, field.Sized)
    (admissible : Admissible pointValid (fields.map AuthorityField.authority)) :
    ∃ after, decodeAuthorityStore pointValid (authorityFile fields) =
      some (holding (fields.map AuthorityField.authority) after) := by
  have fits : fields.length ≤ authorityMax := by simpa using admissible.fits
  have announced : (UInt8.ofNat fields.length).toNat = fields.length :=
    Nat.mod_eq_of_lt (Nat.lt_of_le_of_lt fits (by decide))
  have short := length_authorityFile_le sized fits
  have long : 8 ≤ (authorityFile fields).length := by
    rw [authorityFile, List.length_append]
    exact Nat.le_add_right 8 _
  have fromEmpty : Admissible pointValid ([] ++ fields.map AuthorityField.authority) := admissible
  obtain ⟨after, decoded⟩ := decodeAuthorities_complete sized fromEmpty 0
  refine ⟨after, ?_⟩
  unfold decodeAuthorityStore
  rw [if_neg (by
    rw [Bool.or_eq_true, decide_eq_true_eq, decide_eq_true_eq]
    omega)]
  simp only [authorityFile, authorityHeader, List.cons_append, List.nil_append]
  rw [announced, if_neg (Nat.not_lt.mpr fits)]
  exact decoded

/-- The number of bytes that encoding computes beforehand. -/
theorem required_eq (list : List StoredAuthority) (start : Nat) :
    list.foldl (fun required authority =>
      required + (4 + authorityKeyBytes + authority.keyId.length)) start =
        start + ((list.map AuthorityField.ofAuthority).flatMap AuthorityField.bytes).length := by
  induction list generalizing start with
  | nil => rfl
  | cons authority rest ih =>
    have key := authority.publicKey.sized
    rw [List.foldl_cons, ih]
    simp only [List.map_cons, List.flatMap_cons, List.length_append, AuthorityField.bytes,
      AuthorityField.ofAuthority, List.length_cons, List.length_nil, key, CString.length]
    omega

theorem encode_holding (admissible : Admissible pointValid list) (generation : UInt32)
    {capacity : Nat} (enough : authorityFileMax ≤ capacity) :
    (holding list generation).encode capacity =
      some (authorityFile (list.map AuthorityField.ofAuthority)) := by
  have sized : ∀ field ∈ list.map AuthorityField.ofAuthority, field.Sized := by
    intro field member
    obtain ⟨stored, inside, rfl⟩ := List.mem_map.mp member
    exact AuthorityField.sized_ofAuthority (admissible.keyIds stored inside)
  have fits := admissible.fits
  have short := length_authorityFile_le sized (by simpa using fits)
  rw [authorityFile, List.length_append] at short
  have header : ∀ count, (authorityHeader count).length = 8 := fun _ => rfl
  rw [header] at short
  unfold AuthorityStore.encode
  rw [entries_holding fits, required_eq, if_neg (by
    simp only [Bool.or_eq_true, decide_eq_true_eq]
    simp only [authorityFileMax, authorityMax] at short fits enough ⊢
    omega)]
  rw [authorityFile, List.length_map, List.flatMap_map]
  rfl

/-- The authorities of entries are encoded to no more bytes than the entries have, and to as
many only where no key id has a zero byte. -/
theorem length_encode_authorities (fields : List AuthorityField) :
    ((fields.map AuthorityField.authority).flatMap StoredAuthority.encode).length ≤
        (fields.flatMap AuthorityField.bytes).length ∧
      ((fields.flatMap AuthorityField.bytes).length ≤
          ((fields.map AuthorityField.authority).flatMap StoredAuthority.encode).length →
        ∀ field ∈ fields, (0 : UInt8) ∉ field.keyIdField) := by
  induction fields with
  | nil => exact ⟨Nat.le_refl 0, fun _ field member => by cases member⟩
  | cons field rest ih =>
    obtain ⟨shorterHere, freeHere⟩ := field.length_encode_authority
    obtain ⟨shorter, free⟩ := ih
    simp only [List.map_cons, List.flatMap_cons, List.length_append]
    refine ⟨Nat.add_le_add shorterHere shorter, ?_⟩
    intro long other member
    obtain rfl | member := List.mem_cons.mp member
    · exact freeHere (by omega)
    · exact free (by omega) other member

/-- The authorities of entries are encoded to the entries exactly when no key id has a zero
byte. -/
theorem encode_authorities_iff (fields : List AuthorityField) :
    (fields.map AuthorityField.authority).flatMap StoredAuthority.encode =
        fields.flatMap AuthorityField.bytes ↔
      ∀ field ∈ fields, (0 : UInt8) ∉ field.keyIdField := by
  constructor
  · intro same
    exact (length_encode_authorities fields).2 (Nat.le_of_eq (congrArg List.length same).symm)
  · intro free
    rw [List.flatMap_map]
    exact List.flatMap_congr fun field member => AuthorityField.encode_authority (free field member)

/-- Every table that additions and revocations lead to is encoded, and its file decodes to the
same authorities. What decoding accepts is a file of at most eight entries with distinct key
ids, of exactly their length, and it is the file of its table exactly when none of its key
ids holds a zero byte.

Proof: a table is an admissible list, and the entries of a file are accepted exactly when
their authorities make one; the loop reads a key id up to its first zero byte, and encoding
writes what was read. -/
theorem authority_codec (pointValid : FixedBytes authorityKeyBytes → Bool) :
    (∀ store : AuthorityStore, Reachable pointValid store →
      ∀ capacity, authorityFileMax ≤ capacity → ∃ file decoded,
        store.encode capacity = some file ∧
        decodeAuthorityStore pointValid file = some decoded ∧
        ∀ entry, entry ∈ decoded.entries ↔ entry ∈ store.entries) ∧
    (∀ (input : List UInt8) (store : AuthorityStore),
      decodeAuthorityStore pointValid input = some store →
        (∃ fields : List AuthorityField, input = authorityFile fields ∧
          fields.length ≤ authorityMax ∧
          input.length = 8 + fields.length * (4 + authorityKeyBytes) +
            (fields.flatMap AuthorityField.keyIdField).length ∧
          (fields.map fun field => CString.ofBytes field.keyIdField).Nodup) ∧
        ∀ capacity, authorityFileMax ≤ capacity →
          (store.encode capacity = some input ↔
            ∀ keyId ∈ fileKeyIds input, (0 : UInt8) ∉ keyId)) := by
  constructor
  · intro store reachable capacity enough
    obtain ⟨list, admissible, same⟩ := reachable.holding
    have sized : ∀ field ∈ list.map AuthorityField.ofAuthority, field.Sized := by
      intro field member
      obtain ⟨stored, inside, rfl⟩ := List.mem_map.mp member
      exact AuthorityField.sized_ofAuthority (admissible.keyIds stored inside)
    have back : (list.map AuthorityField.ofAuthority).map AuthorityField.authority = list := by
      rw [List.map_map]
      exact (List.map_congr_left fun stored _ =>
        AuthorityField.authority_ofAuthority stored).trans (List.map_id list)
    have again : Admissible pointValid ((list.map AuthorityField.ofAuthority).map
        AuthorityField.authority) := by
      rw [back]
      exact admissible
    obtain ⟨after, decoded⟩ := decodeAuthorityStore_complete sized again
    rw [back] at decoded
    refine ⟨_, _, same ▸ encode_holding admissible store.generation enough, decoded, ?_⟩
    intro entry
    rw [entries_holding admissible.fits, same, entries_holding admissible.fits]
  · intro input store decoded
    obtain ⟨fields, rfl, sized, admissible, after, rfl⟩ := decodeAuthorityStore_sound decoded
    have fits : fields.length ≤ authorityMax := by simpa using admissible.fits
    refine ⟨⟨fields, rfl, fits, ?_, ?_⟩, ?_⟩
    · rw [authorityFile, List.length_append, length_fields]
      exact (Nat.add_assoc _ _ _).symm
    · have := admissible.distinct
      rwa [List.map_map] at this
    · intro capacity enough
      have announced : (UInt8.ofNat fields.length).toNat = fields.length :=
        Nat.mod_eq_of_lt (Nat.lt_of_le_of_lt fits (by decide))
      have keyIds : fileKeyIds (authorityFile fields) =
          fields.map AuthorityField.keyIdField := by
        have counted : (authorityFile fields).getD 5 0 = UInt8.ofNat fields.length := rfl
        have entries : (authorityFile fields).drop 8 =
            fields.flatMap AuthorityField.bytes := rfl
        rw [fileKeyIds, counted, entries, announced]
        exact keyIdFields_fields sized
      rw [encode_holding admissible after enough, keyIds, Option.some.injEq, authorityFile,
        authorityFile, List.length_map, List.length_map, List.append_cancel_left_eq,
        List.flatMap_map]
      refine (encode_authorities_iff fields).trans ?_
      simp only [List.mem_map, forall_exists_index, and_imp, forall_apply_eq_imp_iff₂]

/-- The base point of the curve, uncompressed. -/
def basePoint : FixedBytes authorityKeyBytes where
  bytes := [0x04,
    0x6B, 0x17, 0xD1, 0xF2, 0xE1, 0x2C, 0x42, 0x47, 0xF8, 0xBC, 0xE6, 0xE5, 0x63, 0xA4, 0x40,
    0xF2, 0x77, 0x03, 0x7D, 0x81, 0x2D, 0xEB, 0x33, 0xA0, 0xF4, 0xA1, 0x39, 0x45, 0xD8, 0x98,
    0xC2, 0x96,
    0x4F, 0xE3, 0x42, 0xE2, 0xFE, 0x1A, 0x7F, 0x9B, 0x8E, 0xE7, 0xEB, 0x4A, 0x7C, 0x0F, 0x9E,
    0x16, 0x2B, 0xCE, 0x33, 0x57, 0x6B, 0x31, 0x5E, 0xCE, 0xCB, 0xB6, 0x40, 0x68, 0x37, 0xBF,
    0x51, 0xF5]
  sized := by decide

/-- A file whose only key id is three bytes, the second of them zero. -/
def nulKeyIdFile : List UInt8 :=
  authorityFile [⟨false, basePoint, [97, 0, 98]⟩]

/-- The file is accepted, and its table is encoded to another one. -/
theorem nul_key_id_lost :
    ∃ store, decodeAuthorityStore (· == basePoint) nulKeyIdFile = some store ∧
      store.encode authorityFileMax ≠ some nulKeyIdFile :=
  ⟨_, rfl, by decide +kernel⟩

end Decode

end PoisonedOS
