import PatronGateway.Http.Charset
import PatronGateway.Proofs.Text.Size

/-!
# How large the text of a body is

The text of a body is counted in the bytes that UTF-8 writes it with, whatever the charset of the
body is.  In a charset that is read byte by byte, and in UTF-8, that is not less than what the body
has.  A body in UTF-16 may have twice as many bytes as its text, and a mark at its front counts for
nothing.  A body that is replaced counts for one character, however long it is; of the charsets
that go by tables of several bytes nothing is known.

* `IsBytewise` and `IsUnitwise` say which charsets are known to be of the first two kinds.
* `length_le_bodyText_of_bytewise` and `length_le_bodyText` are the two bounds, and
  `bodyText_of_replacement` says that there is none for a body that is replaced.
* `bodyText_encode` is the case of a text in UTF-8.
-/

namespace PatronGateway
namespace Http

open Text.Utf8 (encode width)

namespace Charset

/-- Each byte counts for itself or belongs to a code point in UTF-8. -/
def IsBytewise : Charset → Prop
  | utf8 | western | userDefined | singleByte _ => True
  | utf16 _ | replacement | multiByte _ => False

/-- Each byte counts, or each unit of two. -/
def IsUnitwise (c : Charset) : Prop := c.IsBytewise ∨ ∃ bigEndian, c = utf16 bigEndian

theorem length_le_width_map (f : UInt8 → Char) (bs : Bytes) : bs.length ≤ width (bs.map f) := by
  induction bs with
  | nil => exact Nat.le_refl 0
  | cons b bs ih =>
      have hpos := (f b).utf8Size_pos
      rw [List.map_cons, Text.Utf8.width_cons, List.length_cons]
      omega

/-- Two bytes make a unit; one that is left over is kept as well. -/
theorem length_le_units (bigEndian : Bool) (bs : Bytes) :
    bs.length ≤ 2 * (units bigEndian bs).length := by
  fun_induction units bigEndian bs with
  | case1 => exact Nat.le_refl 0
  | case2 => exact Nat.le_succ 1
  | case3 a b rest ih =>
      simp only [List.length_cons]
      omega

/-- What two units that belong together are read as is no smaller than they are. -/
theorem two_le_of_pairChar? {u v : Option Nat} {c : Char} (h : pairChar? u v = some c) :
    2 ≤ c.utf8Size := by
  unfold pairChar? at h
  split at h
  · split at h
    · obtain rfl := Option.some.inj h
      exact Text.Utf8.le_utf8Size_ofNat (by omega) (by omega)
    · cases h
  · split at h
    · obtain rfl := Option.some.inj h
      decide
    · cases h
  · cases h

/-- No unit counts for nothing, not even those of a pair. -/
theorem length_le_width_fromUnits (us : List (Option Nat)) :
    us.length ≤ width (fromUnits us) := by
  fun_induction fromUnits us with
  | case1 => exact Nat.le_refl 0
  | case2 u => exact Char.utf8Size_pos _
  | case3 u v rest c hpair ih =>
      -- one character stands for two units, and makes up for both
      have hlong : 2 ≤ c.utf8Size := two_le_of_pairChar? hpair
      simp only [List.length_cons, Text.Utf8.width_cons]
      omega
  | case4 u v rest hpair ih =>
      have hpos := (unitChar u).utf8Size_pos
      rw [List.length_cons, Text.Utf8.width_cons]
      omega

variable {t : Tables} {c : Charset}

theorem length_le_decode_of_bytewise (h : c.IsBytewise) (bs : Bytes) :
    bs.length ≤ (c.decode t bs).utf8ByteSize := by
  have hmap (f : UInt8 → Char) : bs.length ≤ (String.ofList (bs.map f)).utf8ByteSize := by
    rw [Text.Utf8.utf8ByteSize_ofList]
    exact length_le_width_map f bs
  cases c with
  | utf8 => exact Text.Utf8.length_le_decodeLossy bs
  | western => exact hmap _
  | userDefined => exact hmap _
  | singleByte table => exact hmap _
  | utf16 bigEndian => exact h.elim
  | replacement => exact h.elim
  | multiByte table => exact h.elim

theorem length_le_decode (h : c.IsUnitwise) (bs : Bytes) :
    bs.length ≤ 2 * (c.decode t bs).utf8ByteSize := by
  obtain hbytewise | ⟨bigEndian, rfl⟩ := h
  · have hsize := length_le_decode_of_bytewise (t := t) hbytewise bs
    omega
  · have hunits := length_le_units bigEndian bs
    have hwidth := length_le_width_fromUnits (units bigEndian bs)
    unfold decode
    rw [Text.Utf8.utf8ByteSize_ofList]
    omega

/-- A mark has three bytes at most, and tells a charset in which each byte or unit counts. -/
theorem isUnitwise_of_mark? {bs rest : Bytes} (h : mark? bs = some (c, rest)) :
    c.IsUnitwise ∧ bs.length ≤ rest.length + 3 := by
  unfold mark? at h
  split at h
  · cases h
    exact ⟨Or.inl trivial, Nat.le_refl _⟩
  · cases h
    exact ⟨Or.inr ⟨true, rfl⟩, Nat.le_succ _⟩
  · cases h
    exact ⟨Or.inr ⟨false, rfl⟩, Nat.le_succ _⟩
  · cases h

end Charset

section

variable {t : Charset.Tables} {contentType : Option String} {body : Bytes}

/-- Where each byte counts, the text of a body is not smaller than the body. -/
theorem length_le_bodyText_of_bytewise (hmark : Charset.mark? body = none)
    (hbytewise : (Charset.ofContentType contentType).IsBytewise) :
    body.length ≤ (bodyText t contentType body).utf8ByteSize := by
  unfold bodyText
  rw [hmark]
  exact Charset.length_le_decode_of_bytewise hbytewise body

/-- A body with a mark, or in a charset in which each byte or unit counts, has at most twice as
many bytes as its text, and those of a mark. -/
theorem length_le_bodyText (h : Charset.mark? body = none →
      (Charset.ofContentType contentType).IsUnitwise) :
    body.length ≤ 2 * (bodyText t contentType body).utf8ByteSize + 3 := by
  unfold bodyText
  cases hmark : Charset.mark? body with
  | none => exact Nat.le_add_right_of_le (Charset.length_le_decode (h hmark) body)
  | some found =>
      -- the charset of the mark counts, whatever the content type says
      obtain ⟨c, rest⟩ := found
      obtain ⟨hunitwise, hmarked⟩ := Charset.isUnitwise_of_mark? hmark
      have hsize := Charset.length_le_decode (t := t) hunitwise rest
      dsimp only
      omega

/-- A body that is replaced is read as one character, whatever it is. -/
theorem bodyText_of_replacement (hmark : Charset.mark? body = none)
    (hcharset : Charset.ofContentType contentType = .replacement) (hbody : body ≠ []) :
    bodyText t contentType body = "\uFFFD" := by
  unfold bodyText
  rw [hmark, hcharset]
  exact if_neg (by simpa using hbody)

/-- A text in UTF-8 without a mark is read as it is. -/
theorem bodyText_encode {text : String} (hmark : Charset.mark? (encode text) = none)
    (hcharset : Charset.ofContentType contentType = .utf8) :
    bodyText t contentType (encode text) = text := by
  unfold bodyText
  rw [hmark, hcharset]
  exact Text.Utf8.decodeLossy_encode text

end

end Http
end PatronGateway
