import Mathlib.Data.List.DropRight
import PatronGateway.Proofs.Text.Rows
import PatronGateway.Time.Instant

/-!
# Instants are read back

What is written for an instant is read as this instant, to the nanosecond and with its offset,
and an instant that was read can be written.  Reading never gives a second 60: a leap second is
kept as the last nanosecond before it, and that is how it is written from then on.

* `number?_padded` reads a number that was written with a fixed number of digits.
* `fraction?_fractionChars` is the case of the fraction, which loses the zeros at its end when it
  is written and gets them back when it is read; `offset?_offsetChars` is that of the offset.
* `Instant.read?_write` is the round trip, and `Instant.isValid_of_read?` says that the parts of
  what was read lie in their ranges.
-/

namespace PatronGateway
namespace Time

open Text (Digit NoDigitAhead)

section Digits

/-- A number has no more digits than the power of ten that it stays below. -/
theorem length_digits_le {k n : Nat} (hk : 0 < k) (h : n < 10 ^ k) :
    (Text.digits n).length ≤ k := by
  -- the last digit is split off, as writing does it, so the bound loses one power of ten
  induction k generalizing n with
  | zero => omega
  | succ k ih =>
      rw [Text.digits]
      split
      case isTrue => exact hk
      case isFalse hten =>
        have hpos : 0 < k := by
          refine Nat.pos_of_ne_zero fun hzero => ?_
          subst hzero
          exact hten h
        have hquotient : n / 10 < 10 ^ k := by
          rw [Nat.pow_succ] at h
          omega
        rw [List.length_append, List.length_singleton]
        exact Nat.succ_le_succ (ih hpos hquotient)

/-- The digits of a number with zeros in front. -/
def paddedDigits (count n : Nat) : List Digit :=
  List.replicate (count - (Text.digits n).length) 0 ++ Text.digits n

theorem padded_eq (count n : Nat) :
    Instant.padded count n = (paddedDigits count n).map Digit.toChar := by
  unfold Instant.padded paddedDigits Text.decimal
  rw [List.map_append, List.map_replicate]
  dsimp only
  rw [List.length_map]
  rfl

theorem length_paddedDigits {count n : Nat} (hcount : 0 < count) (h : n < 10 ^ count) :
    (paddedDigits count n).length = count := by
  have hlength := length_digits_le hcount h
  unfold paddedDigits
  rw [List.length_append, List.length_replicate]
  omega

theorem value_replicate_append (j : Nat) (ds : List Digit) :
    Text.value (List.replicate j 0 ++ ds) = Text.value ds := by
  induction j with
  | zero => rfl
  | succ j ih => exact ih

theorem value_paddedDigits (count n : Nat) : Text.value (paddedDigits count n) = n := by
  unfold paddedDigits
  rw [value_replicate_append, Text.value_digits]

end Digits

namespace Instant

/-- A number that was written with a fixed number of digits is read back. -/
theorem number?_padded {count n : Nat} (hcount : 0 < count) (h : n < 10 ^ count)
    (rest : List Char) : number? count (padded count n ++ rest) = some (n, rest) := by
  have hlength := length_paddedDigits hcount h
  have hchars : ((paddedDigits count n).map Digit.toChar).length = count := by
    rw [List.length_map, hlength]
  unfold number?
  rw [padded_eq, List.take_left' hchars, List.drop_left' hchars,
    Text.mapM_map_eq_some Digit.ofChar?_toChar]
  simp [hlength, value_paddedDigits]

section Fraction

theorem toChar_beq_zero : ∀ d : Digit, (d.toChar == '0') = (d == 0) := by
  decide

/-- The zeros at the end of a row of digits are dropped from its characters. -/
theorem dropWhile_map_toChar (ds : List Digit) :
    ((ds.map Digit.toChar).reverse.dropWhile (· == '0')).reverse =
      (ds.rdropWhile (· == 0)).map Digit.toChar := by
  have hzero : ((· == '0') ∘ Digit.toChar) = (· == (0 : Digit)) := funext toChar_beq_zero
  unfold List.rdropWhile
  rw [← List.map_reverse, List.dropWhile_map, hzero, ← List.map_reverse]

/-- Nine digits get the zeros back that they have lost at their end. -/
theorem fractionValue_rdropWhile {ds : List Digit} (h : ds.length = 9) :
    fractionValue (ds.rdropWhile (· == 0)) = Text.value ds := by
  have hsplit : ds.rdropWhile (· == 0) ++ ds.rtakeWhile (· == 0) = ds :=
    List.rdropWhile_append_rtakeWhile
  have hzeros : ∀ d ∈ ds.rtakeWhile (· == 0), d = 0 := by
    intro d hd
    simpa using List.mem_rtakeWhile_imp hd
  -- nine zeros are offered, of which as many are taken as were lost
  generalize ds.rdropWhile (· == 0) = front at hsplit ⊢
  rw [List.eq_replicate_of_mem hzeros] at hsplit
  generalize (ds.rtakeWhile (· == 0)).length = lost at hsplit
  have hlost : lost ≤ 9 := by
    rw [← h, ← hsplit, List.length_append, List.length_replicate]
    omega
  have hnine : List.replicate 9 (0 : Digit) =
      List.replicate lost 0 ++ List.replicate (9 - lost) 0 := by
    rw [List.replicate_append_replicate, Nat.add_sub_cancel' hlost]
  unfold fractionValue
  rw [hnine, ← List.append_assoc, hsplit, List.take_left' h]

variable {rest : List Char}

/-- The fraction of a second is read back. -/
theorem fraction?_fractionChars {nanosecond : Nat} (h : nanosecond < 1000000000)
    (hrest : NoDigitAhead rest) (hpoint : rest.head? ≠ some '.') :
    fraction? (fractionChars nanosecond ++ rest) = some (nanosecond, rest) := by
  unfold fractionChars
  split
  case isTrue hzero =>
    subst hzero
    rw [List.nil_append, fraction?]
    rintro after rfl
    exact hpoint rfl
  case isFalse hpos =>
    have hlength : (paddedDigits 9 nanosecond).length = 9 := length_paddedDigits (by omega) h
    have hvalue := fractionValue_rdropWhile hlength
    rw [value_paddedDigits] at hvalue
    rw [padded_eq, dropWhile_map_toChar, List.cons_append, fraction?,
      Text.takeDigits_append _ hrest]
    -- a fraction without digits would be no fraction, but then all nine were zero
    cases hfront : (paddedDigits 9 nanosecond).rdropWhile (· == 0) with
    | nil =>
        rw [hfront] at hvalue
        exact absurd hvalue.symm hpos
    | cons d ds =>
        rw [hfront] at hvalue
        dsimp only
        rw [hvalue]

end Fraction

/-- What stands behind the fraction is no part of it. -/
theorem noDigitAhead_offsetChars (offset : Int) : NoDigitAhead (offsetChars offset) := by
  unfold offsetChars
  split
  · rfl
  · split <;> rfl

theorem head?_offsetChars (offset : Int) : (offsetChars offset).head? ≠ some '.' := by
  unfold offsetChars
  split
  · decide
  · split <;> simp

/-- The hours and the minutes of an offset are read back behind their sign. -/
theorem offset?_sign {sign : Char} (hsign : sign = '+' ∨ sign = '-') {hours minutes : Nat}
    (hhours : hours ≤ 23) (hminutes : minutes ≤ 59) :
    offset? (sign :: padded 2 hours ++ ':' :: padded 2 minutes) =
      some (if sign = '-' then -((hours : Int) * 60 + minutes) else hours * 60 + minutes) := by
  have hfirst := number?_padded (show 0 < 2 by decide) (show hours < 10 ^ 2 by omega)
    (':' :: padded 2 minutes)
  have hlast := number?_padded (show 0 < 2 by decide) (show minutes < 10 ^ 2 by omega) []
  have hcolon : mark? ':' (':' :: padded 2 minutes) = some (padded 2 minutes) := rfl
  rw [List.append_nil] at hlast
  obtain rfl | rfl := hsign
  all_goals
    rw [List.cons_append, offset?]
    · simp [hfirst, hcolon, hlast, hhours, hminutes]
    · exact fun hzero => absurd hzero (by decide)
    · exact fun hzero => absurd hzero (by decide)

/-- The offset from UTC is read back. -/
theorem offset?_offsetChars {offset : Int} (h : offset.natAbs < 1440) :
    offset? (offsetChars offset) = some offset := by
  unfold offsetChars
  split
  case isTrue hzero =>
    subst hzero
    rfl
  case isFalse hpos =>
    rw [offset?_sign (by split <;> simp) (by omega) (by omega)]
    split
    all_goals
      simp only [if_true, Char.reduceEq, if_false, Option.some.injEq]
      omega

/-- The parts of an instant that was read lie in their ranges. -/
theorem isValid_of_ofParts? {year month day hour minute second nanosecond : Nat} {offset : Int}
    {t : Instant}
    (h : ofParts? year month day hour minute second nanosecond offset = some t) : t.IsValid := by
  unfold ofParts? at h
  split at h
  · dsimp only at h
    split at h
    case isTrue hvalid =>
      rw [← Option.some.inj h]
      exact hvalid.1
    case isFalse => cases h
  · dsimp only at h
    split at h
    case isTrue hvalid =>
      rw [← Option.some.inj h]
      exact hvalid
    case isFalse => cases h

theorem isValid_of_read? {s : String} {t : Instant} (h : read? s = some t) : t.IsValid := by
  unfold read? ofChars? at h
  simp only [Option.bind_eq_bind, Option.bind_eq_some_iff] at h
  obtain ⟨_, -, _, -, _, -, _, -, _, -, _, -, _, -, _, -, _, -, _, -, _, -, _, -, _, -, hparts⟩ := h
  exact isValid_of_ofParts? hparts

theorem daysInMonth_le (year : Int) (month : Nat) : daysInMonth year month ≤ 31 := by
  unfold daysInMonth
  repeat' split
  all_goals omega

/-- What is written for an instant is read as this instant. -/
theorem read?_write {t : Instant} (h : t.IsValid) : read? t.write = some t := by
  have hvalid := h
  obtain ⟨hyear, -, hmonth, -, hday, hhour, hminute, hsecond, hnanosecond, hoffset⟩ := h
  -- no month has more days than two digits can show
  have hdays := daysInMonth_le t.year t.month
  have hmark (c : Char) (rest : List Char) : mark? c (c :: rest) = some rest := if_pos rfl
  have hseparator (rest : List Char) : separator? ('T' :: rest) = some rest := rfl
  have hfraction := fraction?_fractionChars hnanosecond (noDigitAhead_offsetChars t.offset)
    (head?_offsetChars t.offset)
  have hparts : ofParts? t.year t.month t.day t.hour t.minute t.second t.nanosecond t.offset =
      some t := by
    unfold ofParts?
    rw [if_neg (by omega)]
    exact if_pos hvalid
  unfold read? write ofChars? toChars
  rw [String.toList_ofList]
  simp only [List.append_assoc, List.cons_append]
  rw [number?_padded (by decide) (by omega)]
  have htwo {n : Nat} (hn : n < 100) (rest : List Char) :
      number? 2 (padded 2 n ++ rest) = some (n, rest) := number?_padded (by decide) hn rest
  simp only [Option.bind_eq_bind, Option.bind_some, hmark, hseparator,
    htwo (show t.month < 100 by omega), htwo (show t.day < 100 by omega),
    htwo (show t.hour < 100 by omega), htwo (show t.minute < 100 by omega),
    htwo (show t.second < 100 by omega), hfraction, offset?_offsetChars hoffset, hparts]

end Instant
end Time
end PatronGateway
