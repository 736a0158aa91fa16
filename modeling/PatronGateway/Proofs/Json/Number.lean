import Mathlib.Data.List.Induction
import PatronGateway.Json.Number
import PatronGateway.Proofs.Json.RoundTrip

/-!
# Integers in JSON

An integer is written with its digits, which never begin with a superfluous zero, so the grammar
can write it and it is read back as long as it fits into 64 bits.  The one integer that is no
integer once it has been read is minus zero; but this is read back as well.

* `isProper_ofDigits` says that the grammar can write an integer.
* `natural?_ofNat` and `integer?_ofInt` are the round trips of the numbers that have a field.
* `exists_toNumeral?_of_isInteger` is that of a number that is kept as it was given.
-/

namespace PatronGateway

namespace Text

/-- Only the number zero begins with the digit zero. -/
theorem eq_nil_of_digits_eq_zero_cons {n : Nat} {ds : List Digit} (h : digits n = 0 :: ds) :
    ds = [] := by
  -- the last digit is split off, as writing does it: what is left of a longer number is not zero
  induction n using Nat.strongRecOn generalizing ds with
  | ind n ih =>
    rw [digits] at h
    split at h
    case isTrue => exact (List.cons.inj h).2.symm
    case isFalse hten =>
      obtain ⟨d, front, hfront⟩ := List.exists_cons_of_ne_nil (digits_ne_nil (n / 10))
      rw [hfront, List.cons_append] at h
      obtain rfl : d = 0 := (List.cons.inj h).1
      have hzero := ih (n / 10) (by omega) hfront
      have hvalue := value_digits (n / 10)
      rw [hfront, hzero] at hvalue
      have hten' : n / 10 = 0 := hvalue.symm
      omega

end Text

namespace Json

open Text (Digit)

/-- The grammar can write an integer. -/
theorem Numeral.isProper_ofDigits (negative : Bool) (n : Nat) :
    (⟨negative, Text.digits n, none, none⟩ : Numeral).IsProper where
  whole_ne_nil := Text.digits_ne_nil n
  no_leading_zero _ := Text.eq_nil_of_digits_eq_zero_cons
  fraction_ne_nil := by simp
  exponent_ne_nil := by simp

namespace Document

theorem isProper_ofNat (n : Nat) : (ofNat n).IsProper := by
  unfold ofNat Numeral.ofNat
  rw [IsProper]
  exact Numeral.isProper_ofDigits false n

/-- A natural number is read back. -/
theorem natural?_ofNat {n : Nat} (h : n < 2 ^ 64) : (ofNat n).natural? = some n := by
  unfold ofNat Numeral.ofNat natural?
  dsimp only
  rw [Text.value_digits, if_pos h]

/-- What a document is that was read as an integer. -/
theorem exists_of_integer? {d : Document} {i : Int} (h : d.integer? = some i) :
    ∃ whole, d = .number ⟨decide (i < 0), whole, none, none⟩ ∧ Text.value whole = i.natAbs ∧
      -(2 ^ 63) ≤ i ∧ i < 2 ^ 63 := by
  unfold integer? at h
  split at h
  case h_2 => cases h
  case h_1 negative whole =>
    dsimp only at h
    refine ⟨whole, ?_⟩
    split at h
    case isTrue hsign =>
      split at h
      case isTrue hrange =>
        have hi := Option.some.inj h
        rw [hsign, decide_eq_true (by omega)]
        exact ⟨rfl, by omega, by omega, by omega⟩
      case isFalse => cases h
    case isFalse hsign =>
      split at h
      case isTrue hrange =>
        have hi := Option.some.inj h
        rw [eq_false_of_ne_true hsign, decide_eq_false (by omega)]
        exact ⟨rfl, by omega, by omega, by omega⟩
      case isFalse => cases h

/-- An integer that was read is read back. -/
theorem integer?_ofInt {d : Document} {i : Int} (h : d.integer? = some i) :
    (Document.number (.ofInt i)).integer? = some i := by
  obtain ⟨-, -, -, hlow, hhigh⟩ := exists_of_integer? h
  unfold Numeral.ofInt integer?
  dsimp only
  rw [Text.value_digits]
  by_cases hneg : i < 0
  · rw [decide_eq_true hneg, if_pos rfl, if_pos (by omega), Option.some.injEq]
    omega
  · rw [decide_eq_false hneg, if_neg Bool.false_ne_true, if_pos (by omega), Option.some.injEq]
    omega

end Document

namespace Number

/-- The value of an integer. -/
def ofInt (i : Int) : Number :=
  if i < 0 then .negative i.natAbs else .natural i.natAbs

theorem toNumeral?_ofInt (i : Int) : (ofInt i).toNumeral? = some (.ofInt i) := by
  unfold ofInt Numeral.ofInt
  split
  case isTrue hneg => rw [decide_eq_true hneg]; rfl
  case isFalse hneg => rw [decide_eq_false hneg]; rfl

/-- Digits are taken as long as their number fits into 64 bits. -/
theorem feedAll_zero {ds : List Digit} (h : Text.value ds < 2 ^ 64) :
    Significand.feedAll 0 ds = ⟨Text.value ds, ds.length, false⟩ := by
  induction ds using List.reverseRecOn with
  | nil => rfl
  | append_singleton ds d ih =>
      have hvalue := Text.value_append_singleton ds d
      rw [hvalue] at h
      have hfront : ds.foldl Significand.feed ⟨0, 0, false⟩ =
          ⟨Text.value ds, ds.length, false⟩ := ih (by omega)
      unfold Significand.feedAll
      rw [List.foldl_append, hfront, hvalue, List.length_append]
      simp [Significand.feed, h]

/-- The value of an integer as it is written: minus zero is a number of its own. -/
theorem ofNumeral?_of_lt (negative : Bool) {whole : List Digit} (h : Text.value whole < 2 ^ 64) :
    ofNumeral? ⟨negative, whole, none, none⟩ =
      if negative = false then some (.natural (Text.value whole))
      else if 0 < Text.value whole ∧ Text.value whole ≤ 2 ^ 63 then
        some (.negative (Text.value whole))
      else ofParts? true (Text.value whole) 0 := by
  unfold ofNumeral?
  dsimp only
  rw [feedAll_zero h]
  cases negative <;> rfl

end Number

/-- An integer of 64 bits as it is written, with or without a sign. -/
structure Numeral.IsInteger (n : Numeral) : Prop where
  fraction_eq : n.fraction = none
  exponent_eq : n.exponent = none
  value_lt : n.negative = false → Text.value n.whole < 2 ^ 64
  value_le : n.negative = true → Text.value n.whole ≤ 2 ^ 63

namespace Number

/-- The value of an integer as it is written is written as a number that has this value. -/
theorem exists_toNumeral?_of_isInteger {n : Numeral} {k : Number} (hn : n.IsInteger)
    (hk : ofNumeral? n = some k) :
    ∃ n', k.toNumeral? = some n' ∧ n'.IsProper ∧ ofNumeral? n' = some k := by
  obtain ⟨negative, whole, fraction, exponent⟩ := n
  obtain ⟨rfl, rfl, hlt, hle⟩ := hn
  dsimp only at hlt hle
  have hdigits := Text.value_digits (Text.value whole)
  cases negative with
  | false =>
      have hvalue := hlt rfl
      rw [ofNumeral?_of_lt false hvalue, if_pos rfl] at hk
      obtain rfl := Option.some.inj hk
      refine ⟨_, rfl, Numeral.isProper_ofDigits false _, ?_⟩
      exact (ofNumeral?_of_lt false (by rwa [hdigits])).trans (by rw [if_pos rfl, hdigits])
  | true =>
      have hvalue := hle rfl
      rw [ofNumeral?_of_lt true (by omega), if_neg (by decide)] at hk
      split at hk
      case isTrue hpos =>
        obtain rfl := Option.some.inj hk
        refine ⟨_, rfl, Numeral.isProper_ofDigits true _, ?_⟩
        rw [ofNumeral?_of_lt true (by rw [hdigits]; omega), if_neg (by decide), hdigits,
          if_pos hpos]
      case isFalse hpos =>
        -- minus zero is a double, which is written with a fraction
        have hzero : Text.value whole = 0 := by omega
        have hparts : ofParts? true 0 0 = some (.double 9223372036854775808) := by decide +kernel
        rw [hzero, hparts] at hk
        obtain rfl := Option.some.inj hk
        refine ⟨⟨true, [0], some [0], none⟩, by decide +kernel, ?_, by decide +kernel⟩
        constructor <;> simp

end Number

/-- The meaning of an integer that was read for a field. -/
theorem Document.ofNumeral?_of_integer? {n : Numeral} {i : Int}
    (h : (Document.number n).integer? = some i) :
    Number.ofNumeral? n = some (.ofInt i) := by
  obtain ⟨whole, hn, hvalue, hlow, hhigh⟩ := exists_of_integer? h
  obtain rfl := Document.number.inj hn
  rw [Number.ofNumeral?_of_lt _ (by omega), hvalue]
  unfold Number.ofInt
  by_cases hneg : i < 0
  · rw [decide_eq_true hneg, if_neg (by decide), if_pos (by omega), if_pos hneg]
  · rw [decide_eq_false hneg, if_pos rfl, if_neg hneg]

end Json
end PatronGateway
