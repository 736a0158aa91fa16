import PatronGateway.Proofs.Url.Form

/-!
# The ways in which a form spells a text

A form may spell the same text in many ways: any byte may be a triple with digits in either case, a
blank may be a plus sign, and what has no meaning of its own may stand as it is.  Readers know the
parameters of a query by what they spell, and the first one of a name is the one that is looked up.

* `FormSpells` is the relation between what is spelled and how; `formDecodeText_of_spells` says that
  every spelling is read, and `formSpells_formText` that the writer's text is one.
* `GivesFirst` says that a query gives a text in its first parameter of a name, and
  `lookup_of_givesFirst` that this is the text that is found.
-/

namespace PatronGateway
namespace Url

open Text (Nibble)
open Text.Utf8 (encode)

/-- A row of bytes in a form spells another one. -/
inductive FormSpells : Bytes → Bytes → Prop
  | nil : FormSpells [] []
  | plain {b : UInt8} {raw bs : Bytes} (hsign : b ≠ percentSign) (hplus : b ≠ 0x2B)
      (hand : b ≠ 0x26) (h : FormSpells raw bs) : FormSpells (b :: raw) (b :: bs)
  | blank {raw bs : Bytes} (h : FormSpells raw bs) : FormSpells (0x2B :: raw) (0x20 :: bs)
  | triple {x y : UInt8} {high low : Nibble} {raw bs : Bytes}
      (hhigh : nibbleOfByte? x = some high) (hlow : nibbleOfByte? y = some low)
      (h : FormSpells raw bs) :
      FormSpells (percentSign :: x :: y :: raw) (Nibble.byte high low :: bs)

namespace FormSpells

variable {raw bs : Bytes}

/-- What stands in a spelling is spelled by itself, or is a sign or a digit of a triple. -/
theorem mem_cases (h : FormSpells raw bs) {b : UInt8} (hb : b ∈ raw) :
    (b ∈ bs ∧ b ≠ 0x26) ∨ b = percentSign ∨ b = 0x2B ∨ (nibbleOfByte? b).isSome = true := by
  induction h with
  | nil => cases hb
  | plain hsign hplus hand h ih =>
      rcases List.mem_cons.mp hb with rfl | hb
      · exact Or.inl ⟨List.mem_cons_self, hand⟩
      · exact (ih hb).imp_left fun hmem => ⟨List.mem_cons_of_mem _ hmem.1, hmem.2⟩
  | blank h ih =>
      rcases List.mem_cons.mp hb with rfl | hb
      · exact Or.inr (Or.inr (Or.inl rfl))
      · exact (ih hb).imp_left fun hmem => ⟨List.mem_cons_of_mem _ hmem.1, hmem.2⟩
  | triple hhigh hlow h ih =>
      rcases List.mem_cons.mp hb with rfl | hb
      · exact Or.inr (Or.inl rfl)
      · rcases List.mem_cons.mp hb with rfl | hb
        · exact Or.inr (Or.inr (Or.inr (by rw [hhigh]; rfl)))
        · rcases List.mem_cons.mp hb with rfl | hb
          · exact Or.inr (Or.inr (Or.inr (by rw [hlow]; rfl)))
          · exact (ih hb).imp_left fun hmem => ⟨List.mem_cons_of_mem _ hmem.1, hmem.2⟩

/-- Nothing in a spelling divides parameters. -/
theorem and_not_mem (h : FormSpells raw bs) : 0x26 ∉ raw := by
  intro hmem
  rcases h.mem_cases hmem with ⟨-, hne⟩ | hsign | hplus | hdigit
  · exact hne rfl
  · exact absurd hsign (by decide)
  · exact absurd hplus (by decide)
  · exact absurd hdigit (by decide)

/-- A sign of equality is spelled by itself or by a triple. -/
theorem equals_not_mem (h : FormSpells raw bs) (hbs : 0x3D ∉ bs) : 0x3D ∉ raw := by
  intro hmem
  rcases h.mem_cases hmem with ⟨hmem, -⟩ | hsign | hplus | hdigit
  · exact hbs hmem
  · exact absurd hsign (by decide)
  · exact absurd hplus (by decide)
  · exact absurd hdigit (by decide)

/-- A spelling is read as what it spells. -/
theorem percentDecode_eq (h : FormSpells raw bs) : percentDecode (withBlanks raw) = bs := by
  induction h with
  | nil => rfl
  | @plain b raw bs hsign hplus hand h ih =>
      have hkept : withBlanks (b :: raw) = b :: withBlanks raw := by
        unfold withBlanks
        rw [List.map_cons, if_neg hplus]
      rw [hkept, percentDecode_cons_of_ne hsign, ih]
  | @blank raw bs h ih =>
      have hblank : withBlanks (0x2B :: raw) = 0x20 :: withBlanks raw := rfl
      rw [hblank, percentDecode_cons_of_ne (by decide), ih]
  | @triple x y high low raw bs hhigh hlow h ih =>
      have hdigit {z : UInt8} {d : Nibble} (hz : nibbleOfByte? z = some d) : z ≠ 0x2B := by
        rintro rfl
        cases hz
      have hkept : withBlanks (percentSign :: x :: y :: raw) =
          percentSign :: x :: y :: withBlanks raw := by
        unfold withBlanks
        rw [List.map_cons, List.map_cons, List.map_cons, if_neg (hdigit hhigh),
          if_neg (hdigit hlow)]
        rfl
      rw [hkept, percentDecode, if_pos rfl, hhigh, hlow]
      dsimp only
      rw [ih]

end FormSpells

/-- Every spelling of a text is read as this text. -/
theorem formDecodeText_of_spells {raw : Bytes} {text : String} (h : FormSpells raw (encode text)) :
    formDecodeText raw = text := by
  have hbytes := h.percentDecode_eq
  unfold formDecodeText
  unfold withBlanks at hbytes
  rw [hbytes, Text.Utf8.decodeLossy_encode]

/-- What has no meaning of its own in a form spells itself. -/
theorem formSpells_self {bs : Bytes} (h : ∀ b ∈ bs, b ≠ percentSign ∧ b ≠ 0x2B ∧ b ≠ 0x26) :
    FormSpells bs bs := by
  induction bs with
  | nil => exact .nil
  | cons b bs ih =>
      obtain ⟨hsign, hplus, hand⟩ := h b List.mem_cons_self
      exact .plain hsign hplus hand (ih fun b' hb' => h b' (List.mem_cons_of_mem _ hb'))

/-- The writer spells a byte. -/
theorem formSpells_formByte (b : UInt8) {raw bs : Bytes} (h : FormSpells raw bs) :
    FormSpells ((formByte b).flatMap String.utf8EncodeChar ++ raw) (b :: bs) := by
  unfold formByte
  split
  case isTrue hblank =>
    subst hblank
    exact .blank h
  case isFalse =>
    unfold percentByte
    split
    case isTrue hplain =>
      obtain ⟨hascii, hform⟩ := hplain
      have hform : isFormChar (Char.ofNat b.toNat) = true := by simpa using hform
      have hbyte : String.utf8EncodeChar (Char.ofNat b.toNat) = [b] :=
        Text.Utf8.utf8EncodeChar_asciiChar hascii
      have hne {c : UInt8} (hc : isFormChar (Char.ofNat c.toNat) = false) : b ≠ c := by
        rintro rfl
        rw [hform] at hc
        cases hc
      rw [List.flatMap_singleton, hbyte]
      exact .plain (hne (by decide)) (hne (by decide)) (hne (by decide)) h
    case isFalse =>
      have hsign : String.utf8EncodeChar '%' = [percentSign] := rfl
      simp only [triple, List.flatMap_cons, List.flatMap_nil, List.append_nil, hsign,
        Nibble.utf8EncodeChar_toUpperChar, List.cons_append, List.nil_append]
      have htriple := FormSpells.triple (nibbleOfByte?_toUpperChar (Nibble.high b))
        (nibbleOfByte?_toUpperChar (Nibble.low b)) h
      rw [Nibble.byte_high_low] at htriple
      exact htriple

/-- The writer spells a text. -/
theorem formSpells_formText (s : String) :
    FormSpells ((formText s).flatMap String.utf8EncodeChar) (encode s) := by
  unfold formText
  induction encode s with
  | nil => exact .nil
  | cons b bs ih =>
      rw [List.flatMap_cons, List.flatMap_append]
      exact formSpells_formByte b ih

/-- The bytes of a query give a text in their first parameter of a name: there is a piece that
spells the name and the text, with a sign of equality between them, and the pieces before it have
other names. -/
inductive GivesFirst (name text : String) : Bytes → Prop
  | here {rawName rawText others : Bytes} (hname : FormSpells rawName (encode name))
      (htext : FormSpells rawText (encode text))
      (hends : others = [] ∨ ∃ rest, others = 0x26 :: rest) :
      GivesFirst name text (rawName ++ 0x3D :: rawText ++ others)
  | behind {piece query : Bytes} (hpiece : 0x26 ∉ piece)
      (hother : (formDecodePair piece).1 ≠ name) (h : GivesFirst name text query) :
      GivesFirst name text (piece ++ 0x26 :: query)

/-- A piece that spells a name and a text is read as both. -/
theorem formDecodePair_of_spells {rawName rawText : Bytes} {name text : String}
    (hname : FormSpells rawName (encode name)) (htext : FormSpells rawText (encode text))
    (hequals : 0x3D ∉ encode name) :
    formDecodePair (rawName ++ 0x3D :: rawText) = (name, text) := by
  have hcut : Text.splitFirst? 0x3D (rawName ++ 0x3D :: rawText) = some (rawName, rawText) :=
    Text.splitFirst?_eq_some_iff.mpr ⟨rfl, hname.equals_not_mem hequals⟩
  unfold formDecodePair
  rw [hcut]
  dsimp only
  rw [formDecodeText_of_spells hname, formDecodeText_of_spells htext]

/-- The text that a query gives first is the one that is found. -/
theorem lookup_of_givesFirst {name text query : String} (hequals : 0x3D ∉ encode name)
    (h : GivesFirst name text (encode query)) : (formDecode query).lookup name = some text := by
  unfold formDecode
  generalize encode query = bytes at h
  -- the induction is on the pieces before the parameter
  induction h with
  | @here rawName rawText others hname htext hends =>
      have hpiece : 0x26 ∉ rawName ++ 0x3D :: rawText := by
        rw [List.mem_append, List.mem_cons]
        rintro (hmem | hmem | hmem)
        · exact hname.and_not_mem hmem
        · exact absurd hmem (by decide)
        · exact htext.and_not_mem hmem
      have hsplit : ∃ pieces, Text.splitOn 0x26 (rawName ++ 0x3D :: rawText ++ others) =
          (rawName ++ 0x3D :: rawText) :: pieces := by
        rcases hends with rfl | ⟨rest, rfl⟩
        · rw [List.append_nil, Text.splitOn_of_not_mem hpiece]
          exact ⟨_, rfl⟩
        · rw [Text.splitOn_append hpiece]
          exact ⟨_, rfl⟩
      obtain ⟨pieces, hpieces⟩ := hsplit
      rw [hpieces, List.filter_cons_of_pos (by simp), List.map_cons,
        formDecodePair_of_spells hname htext hequals, List.lookup_cons_self]
  | @behind piece query hpiece hother h ih =>
      rw [Text.splitOn_append hpiece]
      cases hempty : piece.isEmpty with
      | true => rw [List.filter_cons_of_neg (by simp [hempty]), ih]
      | false =>
          rw [List.filter_cons_of_pos (by simp [hempty]), List.map_cons, List.lookup_cons,
            beq_false_of_ne (Ne.symm hother), ih]

end Url
end PatronGateway
