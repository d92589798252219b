import PoisonedOS.Packages.Manager
import PoisonedOS.Session.Handshake

/-!
# The store of package authorities

The keys that may sign packages are kept in a table of eight slots and in a file. The file is a
header with the number of entries, and for each entry the length of its key id, its flags, the
public key and the key id. Reading the file adds its entries to an empty table one after the
other, with the checks of every addition.

Whether a public key is a point of the curve is decided by the microcontroller's library, and
is a parameter.
-/

namespace PoisonedOS

/-- `POISON_PACKAGE_AUTHORITY_MAX`. -/
def authorityMax : Nat := 8

/-- `POISON_PACKAGE_KEY_ID_MAX`. -/
def authorityKeyIdMax : Nat := 64

/-- `POISON_PACKAGE_PUBLIC_KEY_BYTES`. -/
def authorityKeyBytes : Nat := 65

/-- `POISON_PACKAGE_AUTHORITY_FILE_MAX`. -/
def authorityFileMax : Nat := 1200

/-- An active `PoisonPackageAuthority` of the store. -/
structure StoredAuthority where
  revoked : Bool
  keyId : CString
  publicKey : FixedBytes authorityKeyBytes
deriving DecidableEq

/-- `PoisonPackageAuthorityStore`. An inactive slot is all zeros, so it is `none`. -/
structure AuthorityStore where
  authorities : Fin authorityMax → Option StoredAuthority
  generation : UInt32

/-- `poison_package_authority_key_id_valid`. -/
def authorityKeyIdValid (keyId : CString) : Bool :=
  !keyId.isEmpty && decide (keyId.length ≤ authorityKeyIdMax) && keyId.bytes.all packageIdByte

/-- `poison_package_authority_public_key_valid`, where the library accepts the point. -/
def authorityPublicKeyValid (pointValid : FixedBytes authorityKeyBytes → Bool)
    (publicKey : FixedBytes authorityKeyBytes) : Bool :=
  publicKey.bytes.head? == some 4 && pointValid publicKey

namespace AuthorityStore

/-- `poison_package_authority_store_init`. -/
def init : AuthorityStore := ⟨fun _ => none, 0⟩

/-- `poison_package_authority_store_find_any`: the slot. -/
def findAny (store : AuthorityStore) (keyId : CString) : Option (Fin authorityMax) :=
  if authorityKeyIdValid keyId then
    SlotTable.findSlot StoredAuthority.keyId store.authorities keyId
  else none

/-- `poison_package_authority_store_add`. -/
def add (pointValid : FixedBytes authorityKeyBytes → Bool) (store : AuthorityStore)
    (keyId : CString) (publicKey : FixedBytes authorityKeyBytes) (revoked : Bool) :
    Option AuthorityStore :=
  if !authorityKeyIdValid keyId || !authorityPublicKeyValid pointValid publicKey ||
      (store.findAny keyId).isSome then
    none
  else
    (SlotTable.firstSlot store.authorities (·.isNone)).map fun slot =>
      { authorities := SlotTable.place store.authorities slot ⟨revoked, keyId, publicKey⟩
        generation := store.generation + 1 }

/-- `poison_package_authority_store_revoke`. -/
def revoke (store : AuthorityStore) (keyId : CString) : Option AuthorityStore :=
  match store.findAny keyId with
  | none => none
  | some slot =>
    match store.authorities slot with
    | none => none
    | some authority =>
      if authority.revoked then none
      else some
        { authorities := SlotTable.place store.authorities slot { authority with revoked := true }
          generation := store.generation + 1 }

/-- `poison_package_authority_store_find`. -/
def find (store : AuthorityStore) (keyId : CString) : Option StoredAuthority :=
  ((store.findAny keyId).bind store.authorities).filter fun authority => !authority.revoked

/-- The active authorities in the order of their slots. -/
def entries (store : AuthorityStore) : List StoredAuthority :=
  (List.finRange authorityMax).filterMap store.authorities

end AuthorityStore

/-- One entry of the file. -/
def StoredAuthority.encode (authority : StoredAuthority) : List UInt8 :=
  [UInt8.ofNat authority.keyId.length, if authority.revoked then 1 else 0, 0, 0] ++
    authority.publicKey.bytes ++ authority.keyId.bytes

/-- The first bytes of the file. -/
def authorityHeader (count : UInt8) : List UInt8 := [80, 80, 75, 49, 1, count, 0, 0]

/-- `poison_package_authority_store_encode` into a buffer of a capacity; `none` where it
returns zero. -/
def AuthorityStore.encode (store : AuthorityStore) (outputCapacity : Nat) :
    Option (List UInt8) :=
  let required := store.entries.foldl
    (fun required authority => required + (4 + authorityKeyBytes + authority.keyId.length)) 8
  if decide (outputCapacity < 8) || decide (store.entries.length > 255) ||
      decide (required > outputCapacity) || decide (required > authorityFileMax) then
    none
  else
    some (authorityHeader (UInt8.ofNat store.entries.length) ++
      store.entries.flatMap StoredAuthority.encode)

section Decode

variable (pointValid : FixedBytes authorityKeyBytes → Bool)

/-- The loop of `poison_package_authority_store_decode` over the bytes after the cursor. -/
def decodeAuthorities : Nat → List UInt8 → AuthorityStore → Option AuthorityStore
  | 0, rest, store => if rest.isEmpty then some store else none
  | count + 1, rest, store =>
    if rest.length < 4 + authorityKeyBytes then none
    else
      match rest with
      | keyIdLength :: flags :: reservedA :: reservedB :: body =>
        if keyIdLength == 0 || decide (keyIdLength.toNat > authorityKeyIdMax) ||
            decide (flags > 1) || reservedA != 0 || reservedB != 0 ||
            decide (body.length < authorityKeyBytes + keyIdLength.toNat) then
          none
        else
          match FixedBytes.ofList? authorityKeyBytes (body.take authorityKeyBytes) with
          | none => none
          | some publicKey =>
            let keyId :=
              CString.ofBytes ((body.drop authorityKeyBytes).take keyIdLength.toNat)
            match store.add pointValid keyId publicKey (flags != 0) with
            | none => none
            | some store =>
              decodeAuthorities count (body.drop (authorityKeyBytes + keyIdLength.toNat)) store
      | _ => none

/-- `poison_package_authority_store_decode`. -/
def decodeAuthorityStore (input : List UInt8) : Option AuthorityStore :=
  if decide (input.length < 8) || decide (input.length > authorityFileMax) then none
  else
    match input with
    | 80 :: 80 :: 75 :: 49 :: 1 :: count :: 0 :: 0 :: rest =>
      if count.toNat > authorityMax then none
      else decodeAuthorities pointValid count.toNat rest .init
    | _ => none

end Decode

end PoisonedOS
