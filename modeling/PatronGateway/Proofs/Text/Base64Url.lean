import PatronGateway.Http.Header
import PatronGateway.Proofs.Text.Rows
import PatronGateway.Text.Base64Url

/-!
# Bytes that are written in base64url are read back

Three bytes make four digits, and what is left at the end makes two or three, of which the last one
has bits to spare.  The writer leaves these bits zero, so the reader has nothing to refuse.

* `bytes?_digits` is the round trip of the digits, and `decode?_encode` the one of their text.
* `forall_mem_encode` and `isReadableByte_of_mem_encode` say what characters such a text has.
-/

namespace PatronGateway
namespace Text
namespace Base64Url

@[simp] theorem val_sextet (n : Nat) : (sextet n).val = n % 64 := rfl

/-- A byte counts by its lowest eight bits. -/
theorem ofNat_eq_of_mod {n : Nat} {b : UInt8} (h : n % 256 = b.toNat) : UInt8.ofNat n = b := by
  rw [← UInt8.toNat_inj, UInt8.toNat_ofNat', h]

/-- The digits of bytes are read as these bytes. -/
theorem bytes?_digits (bs : Bytes) : bytes? (digits bs) = some bs := by
  fun_induction digits bs with
  | case1 => rfl
  | case2 a =>
      have ha := a.toNat_lt
      have hspare : (sextet (a.toNat * 16)).val % 16 = 0 := by
        rw [val_sextet]
        omega
      rw [bytes?, if_pos hspare, val_sextet, val_sextet, ofNat_eq_of_mod (b := a) (by omega)]
  | case3 a b =>
      have ha := a.toNat_lt
      have hb := b.toNat_lt
      have hspare : (sextet (b.toNat * 4)).val % 4 = 0 := by
        rw [val_sextet]
        omega
      rw [bytes?, if_pos hspare, val_sextet, val_sextet, val_sextet,
        ofNat_eq_of_mod (b := a) (by omega), ofNat_eq_of_mod (b := b) (by omega)]
  | case4 a b c rest ih =>
      have ha := a.toNat_lt
      have hb := b.toNat_lt
      have hc := c.toNat_lt
      rw [bytes?, ih, Option.map_some, val_sextet, val_sextet, val_sextet, val_sextet,
        ofNat_eq_of_mod (b := a) (by omega), ofNat_eq_of_mod (b := b) (by omega),
        ofNat_eq_of_mod (b := c) (by omega)]

/-- The text of bytes is read as these bytes. -/
theorem decode?_encode (bs : Bytes) : decode? (encode bs) = some bs := by
  unfold decode? encode
  rw [mapM_map_eq_some ofChar?_toChar, Option.bind_some, bytes?_digits]

/-- What holds of all digits holds of all characters of a text of bytes. -/
theorem forall_mem_encode {p : Char → Prop} (h : ∀ d, p (toChar d)) (bs : Bytes) :
    ∀ c ∈ encode bs, p c := by
  unfold encode
  intro c hc
  obtain ⟨d, -, rfl⟩ := List.mem_map.mp hc
  exact h d

/-- A text of bytes is a readable value of a header field. -/
theorem isReadableByte_of_mem_encode (bs : Bytes) :
    ∀ b ∈ Utf8.encode (String.ofList (encode bs)), Http.isReadableByte b = true := by
  have hdigit : ∀ d : Sextet, ∀ b ∈ String.utf8EncodeChar (toChar d),
      Http.isReadableByte b = true := by
    decide +kernel
  intro b hb
  unfold Utf8.encode at hb
  rw [String.toList_ofList] at hb
  obtain ⟨c, hc, hbyte⟩ := List.mem_flatMap.mp hb
  exact forall_mem_encode (p := fun c => ∀ b ∈ String.utf8EncodeChar c,
    Http.isReadableByte b = true) hdigit bs c hc b hbyte

end Base64Url
end Text
end PatronGateway
