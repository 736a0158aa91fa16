import PatronGateway.Proofs.Cache.Backing

/-!
# Patrons in a cache of texts

The cache of patrons is one for all tenants: a tenant and an external id are written one
behind the other, after the length of the tenant's name and a colon.

* `identityKey_inj` says that no two patrons share a key, whatever their tenants and ids
  are made of.
-/

namespace PatronGateway
namespace Cache

theorem toList_identityKey (tenant externalId : String) :
    (identityKey tenant externalId).toList =
      (Text.digits tenant.utf8ByteSize).map Text.Digit.toChar ++
        (':' :: (tenant ++ externalId).toList) := by
  simp [identityKey, Text.decimal]

/-- A key tells the length of the tenant's name, and what stands behind the colon. -/
theorem takeDigits_identityKey (tenant externalId : String) :
    Text.takeDigits (identityKey tenant externalId).toList =
      (Text.digits tenant.utf8ByteSize, ':' :: (tenant ++ externalId).toList) := by
  have hcolon : Text.Digit.ofChar? ':' = none := by decide
  rw [toList_identityKey]
  exact Text.takeDigits_append _ hcolon

/-- No two patrons share a key. -/
theorem identityKey_inj {tenant tenant' externalId externalId' : String} :
    identityKey tenant externalId = identityKey tenant' externalId' ↔
      tenant = tenant' ∧ externalId = externalId' := by
  constructor
  · intro h
    have hread := congrArg (fun key : String => Text.takeDigits key.toList) h
    simp only [takeDigits_identityKey, Prod.mk.injEq, List.cons.injEq, true_and] at hread
    obtain ⟨hdigits, hrest⟩ := hread
    have hsize : tenant.utf8ByteSize = tenant'.utf8ByteSize := by
      rw [← Text.value_digits tenant.utf8ByteSize, hdigits, Text.value_digits]
    -- names of one length that begin the same text are the same
    have hbytes : tenant.toByteArray ++ externalId.toByteArray =
        tenant'.toByteArray ++ externalId'.toByteArray := by
      rw [← String.toByteArray_append, ← String.toByteArray_append, String.toList_inj.mp hrest]
    obtain rfl : tenant = tenant' :=
      String.toByteArray_inj.mp (ByteArray.append_inj_left hbytes hsize)
    exact ⟨rfl, (String.append_right_inj tenant).mp (String.toList_inj.mp hrest)⟩
  · rintro ⟨rfl, rfl⟩
    rfl

end Cache
end PatronGateway
