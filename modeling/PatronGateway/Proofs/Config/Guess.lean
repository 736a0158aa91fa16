import Mathlib.Data.Bool.AllAny
import PatronGateway.Config.Environment

/-!
# What the text of a variable becomes

The text of a variable is taken for a truth value, an integer or a double wherever it looks like
one, and where a text is asked for after all, that value is printed.  What is printed need not be
the text of the variable.

* `IsNumberChar` and `IsWord` say what a text must be made of to be taken for something else;
  `guess_eq_text` is the rule for all others.
* `guess_toString` is the rule for integers: their own notation is kept.
* `arrival` is what a text becomes, and `arrival_eq_self_iff` says which texts stay what they are.
-/

namespace PatronGateway

open Text (Digit takeDigits natural? digits decimal)

namespace Config

open Decimal (Double)

/-! ## What numbers are made of -/

/-- The characters that numbers are written with. -/
def numberChars : List Char :=
  "0123456789+-.eE".toList

/-- A text made of such characters alone. -/
def AllNumber (cs : List Char) : Prop :=
  ∀ c ∈ cs, c ∈ numberChars

section AllNumber

variable {c : Char} {cs : List Char}

theorem allNumber_nil : AllNumber [] :=
  nofun

theorem AllNumber.cons (hc : c ∈ numberChars) (h : AllNumber cs) : AllNumber (c :: cs) :=
  List.forall_mem_cons.mpr ⟨hc, h⟩

theorem mem_numberChars_of_ofChar? {d : Digit} (h : Digit.ofChar? c = some d) :
    c ∈ numberChars := by
  have hdigit : ∀ d : Digit, d.toChar ∈ numberChars := by decide
  have hc : d.toChar = c := by
    unfold Digit.ofChar? at h
    split at h
    case isTrue hrange =>
      have hvalue : 48 + d.val = c.toNat := by
        rw [← Option.some.inj h]
        dsimp only
        omega
      rw [Digit.toChar, hvalue, Char.ofNat_toNat]
    case isFalse => cases h
  exact hc ▸ hdigit d

theorem allNumber_of_takeDigits (h : AllNumber (takeDigits cs).2) : AllNumber cs := by
  induction cs with
  | nil => exact allNumber_nil
  | cons c cs ih =>
      unfold takeDigits at h
      cases hc : Digit.ofChar? c with
      | none =>
          rw [hc] at h
          exact h
      | some d =>
          rw [hc] at h
          exact .cons (mem_numberChars_of_ofChar? hc) (ih h)

theorem allNumber_of_takeSign (h : AllNumber (Double.takeSign cs).2) : AllNumber cs := by
  unfold Double.takeSign at h
  split at h
  · exact .cons (by decide) h
  · exact .cons (by decide) h
  · exact h

theorem allNumber_of_natural? {n : Nat} (h : natural? cs = some n) : AllNumber cs := by
  unfold natural? at h
  split at h
  case h_1 d ds heq =>
    refine allNumber_of_takeDigits ?_
    rw [heq]
    exact allNumber_nil
  case h_2 => cases h

theorem allNumber_of_integer64? {i : Int} (h : Tree.integer64? cs = some i) : AllNumber cs := by
  unfold Tree.integer64? at h
  dsimp only at h
  split at h
  case h_1 n hn => exact allNumber_of_takeSign (allNumber_of_natural? hn)
  case h_2 => cases h

theorem allNumber_of_exponent? {e : Int} (h : Double.exponent? cs = some e) : AllNumber cs := by
  unfold Double.exponent? at h
  split at h
  · exact allNumber_nil
  · next c rest =>
      split at h
      case isTrue hletter =>
        dsimp only at h
        obtain ⟨e, he, -⟩ := Option.map_eq_some_iff.mp h
        obtain ⟨n, hn, -⟩ := Option.bind_eq_some_iff.mp he
        have hc : c ∈ numberChars := by
          simp only [Bool.or_eq_true, beq_iff_eq] at hletter
          obtain rfl | rfl := hletter <;> decide
        exact .cons hc (allNumber_of_takeSign (allNumber_of_natural? hn))
      case isFalse => cases h

theorem allNumber_of_finite? {negative : Bool} {d : Double}
    (h : Double.finite? negative cs = some d) : AllNumber cs := by
  unfold Double.finite? at h
  dsimp only at h
  obtain ⟨-, h⟩ := Option.ite_none_left_eq_some.mp h
  obtain ⟨e, he, -⟩ := Option.map_eq_some_iff.mp h
  have hrest := allNumber_of_exponent? he
  refine allNumber_of_takeDigits ?_
  split at hrest
  case h_1 more heq =>
    rw [heq]
    exact .cons (by decide) (allNumber_of_takeDigits hrest)
  case h_2 => exact hrest

/-- The words for doubles that are no numbers. -/
def doubleWords : List String :=
  ["inf", "infinity", "nan"]

theorem mem_or_allNumber_of_read? {d : Double} (h : Double.read? cs = some d) :
    String.ofList ((Double.takeSign cs).2.map Char.toLower) ∈ doubleWords ∨ AllNumber cs := by
  unfold Double.read? at h
  dsimp only at h
  split at h
  case isTrue hname =>
    rw [Bool.or_eq_true, beq_iff_eq, beq_iff_eq] at hname
    exact .inl (by obtain hname | hname := hname <;> simp [hname, doubleWords])
  case isFalse =>
    split at h
    case isTrue hname => exact .inl (by simp [beq_iff_eq.mp hname, doubleWords])
    case isFalse => exact .inr (allNumber_of_takeSign (allNumber_of_finite? h))

end AllNumber

/-! ## Integers in their own notation -/

theorem toDigits_eq_decimal (n : Nat) : Nat.toDigits 10 n = decimal n := by
  have hdigit : ∀ d < 10, d.digitChar = Digit.toChar (Fin.ofNat 10 d) := by decide
  induction n using Nat.strongRecOn with
  | ind n ih =>
      rw [Nat.toDigits_eq_if (by decide), hdigit (n % 10) (by omega)]
      unfold decimal at ih ⊢
      rw [digits]
      split
      · next hlt => rw [hdigit n hlt]; rfl
      · next hge =>
          rw [ih (n / 10) (by omega), List.map_append]
          simp [Fin.ofNat]

theorem natural?_decimal (n : Nat) : natural? (decimal n) = some n := by
  have htake : takeDigits (decimal n) = (digits n, []) := by
    have happend : takeDigits (decimal n ++ []) = (digits n, []) :=
      Text.takeDigits_append (digits n) trivial
    rwa [List.append_nil] at happend
  obtain ⟨d, ds, hdigits⟩ := List.exists_cons_of_ne_nil (Text.digits_ne_nil n)
  unfold natural?
  rw [htake, hdigits]
  dsimp only
  rw [← hdigits, Text.value_digits]

theorem takeSign_decimal (n : Nat) : Double.takeSign (decimal n) = (false, decimal n) := by
  obtain ⟨d, ds, hdigits⟩ := List.exists_cons_of_ne_nil (Text.digits_ne_nil n)
  have hsign : ∀ d : Digit, d.toChar ≠ '-' ∧ d.toChar ≠ '+' := by decide
  unfold decimal
  rw [hdigits, List.map_cons]
  unfold Double.takeSign
  split
  · next heq => exact absurd (List.cons.inj heq).1 (hsign d).1
  · next heq => exact absurd (List.cons.inj heq).1 (hsign d).2
  · rfl

theorem range_of_integer64? {cs : List Char} {i : Int} (h : Tree.integer64? cs = some i) :
    -(2 ^ 63) ≤ i ∧ i < 2 ^ 63 := by
  unfold Tree.integer64? at h
  dsimp only at h
  split at h
  · obtain ⟨hrange, hvalue⟩ := Option.ite_none_right_eq_some.mp h
    exact Option.some.inj hvalue ▸ hrange
  · cases h

/-- An integer of 64 bits is read from its own notation. -/
theorem integer64?_toString {i : Int} (hlow : -(2 ^ 63) ≤ i) (hhigh : i < 2 ^ 63) :
    Tree.integer64? (toString i).toList = some i := by
  rw [Int.toString_eq_repr]
  unfold Tree.integer64?
  cases i with
  | ofNat n =>
      have htext : (Int.ofNat n).repr.toList = decimal n :=
        Nat.toList_repr.trans (toDigits_eq_decimal n)
      rw [htext, takeSign_decimal]
      dsimp only
      rw [natural?_decimal]
      dsimp only
      rw [if_neg Bool.false_ne_true]
      exact if_pos ⟨hlow, hhigh⟩
  | negSucc n =>
      have htext : (Int.negSucc n).repr.toList = '-' :: decimal (n + 1) := by
        rw [← toDigits_eq_decimal]
        simp [Int.repr]
      have hsign : Double.takeSign ('-' :: decimal (n + 1)) = (true, decimal (n + 1)) := rfl
      rw [htext, hsign]
      dsimp only
      rw [natural?_decimal]
      dsimp only
      rw [if_pos rfl]
      exact if_pos ⟨hlow, hhigh⟩

/-! ## What a text is taken for -/

namespace Variables

variable {v : String}

/-- The words that are taken for a truth value or for a double that is no number, in any case; the
latter may have a sign. -/
def IsWord (v : String) : Prop :=
  v.toLower ∈ ["true", "false"] ∨
    String.ofList ((Double.takeSign v.toList).2.map Char.toLower) ∈ doubleWords

/-- A text that is no such word, and has a character that no number has, is taken for a text. -/
theorem guess_eq_text (hword : ¬ IsWord v) (hchar : ∃ c ∈ v.toList, c ∉ numberChars) :
    guess v = .text v := by
  have hnumber : ¬ AllNumber v.toList := by
    obtain ⟨c, hc, hnot⟩ := hchar
    exact fun h => hnot (h c hc)
  obtain ⟨htruth, hdouble⟩ := not_or.mp hword
  unfold guess
  split
  · next htrue => simp [htrue] at htruth
  · next hfalse => simp [hfalse] at htruth
  · split
    · next i hi => exact absurd (allNumber_of_integer64? hi) hnumber
    · split
      · next d hd => exact absurd (mem_or_allNumber_of_read? hd) (not_or.mpr ⟨hdouble, hnumber⟩)
      · rfl

theorem toLower_ne_of_allNumber (h : AllNumber v.toList) :
    v.toLower ≠ "true" ∧ v.toLower ≠ "false" := by
  have hletter : ∀ c ∈ numberChars, c.toLower ≠ 't' ∧ c.toLower ≠ 'f' :=
    List.all_iff_forall_prop.mp (by decide)
  have hfree : ∀ c ∈ v.toLower.toList, c ≠ 't' ∧ c ≠ 'f' := by
    unfold String.toLower
    rw [String.toList_map, List.forall_mem_map]
    exact fun c hc => hletter c (h c hc)
  constructor
  · intro heq
    rw [heq] at hfree
    exact (hfree 't' (by decide)).1 rfl
  · intro heq
    rw [heq] at hfree
    exact (hfree 'f' (by decide)).2 rfl

/-- An integer of 64 bits in its own notation is taken for this integer. -/
theorem guess_toString {i : Int} (hlow : -(2 ^ 63) ≤ i) (hhigh : i < 2 ^ 63) :
    guess (toString i) = .integer i := by
  have hread := integer64?_toString hlow hhigh
  obtain ⟨htrue, hfalse⟩ := toLower_ne_of_allNumber (allNumber_of_integer64? hread)
  unfold guess
  split
  · next heq => exact absurd heq htrue
  · next heq => exact absurd heq hfalse
  · rw [hread]

/-! ## What arrives -/

/-- What the text of a variable becomes where a text is asked for. -/
def arrival (v : String) : String :=
  (guess v).text?.getD v

/-- The five things that the text of a variable is taken for. -/
theorem guess_cases (v : String) :
    guess v = .truth true ∨ guess v = .truth false ∨
      (∃ i : Int, -(2 ^ 63) ≤ i ∧ i < 2 ^ 63 ∧ guess v = .integer i) ∨
      (∃ d, guess v = .real d) ∨ guess v = .text v := by
  unfold guess
  split
  · exact .inl rfl
  · exact .inr (.inl rfl)
  · split
    · next i hi =>
        obtain ⟨hlow, hhigh⟩ := range_of_integer64? hi
        exact .inr (.inr (.inl ⟨i, hlow, hhigh, rfl⟩))
    · split
      · next d _ => exact .inr (.inr (.inr (.inl ⟨d, rfl⟩)))
      · exact .inr (.inr (.inr (.inr rfl)))

/-- It can be had as a text, and it takes the place of what is there. -/
theorem guess_spec (v : String) :
    (guess v).text? = some (arrival v) ∧ ∀ t, Tree.overlay t (guess v) = guess v := by
  unfold arrival
  obtain h | h | ⟨i, -, -, h⟩ | ⟨d, h⟩ | h := guess_cases v <;> rw [h] <;> exact ⟨rfl, fun _ => rfl⟩

/-- The texts that stay what they are: a truth value and an integer in their own notation, a double
in plain notation, and what is taken for none of these. -/
def Stays (v : String) : Prop :=
  v = "true" ∨ v = "false" ∨ (∃ i : Int, -(2 ^ 63) ≤ i ∧ i < 2 ^ 63 ∧ v = toString i) ∨
    (∃ d, guess v = .real d ∧ v = Decimal.plain d) ∨ guess v = .text v

/-- A text arrives unchanged in these cases only. -/
theorem arrival_eq_self_iff (v : String) : arrival v = v ↔ Stays v := by
  have harrival {t : Tree} (h : guess v = t) : arrival v = t.text?.getD v := by rw [arrival, h]
  constructor
  · intro heq
    obtain h | h | ⟨i, hlow, hhigh, h⟩ | ⟨d, h⟩ | h := guess_cases v
    · exact .inl (heq.symm.trans (harrival h))
    · exact .inr (.inl (heq.symm.trans (harrival h)))
    · exact .inr (.inr (.inl ⟨i, hlow, hhigh, heq.symm.trans (harrival h)⟩))
    · exact .inr (.inr (.inr (.inl ⟨d, h, heq.symm.trans (harrival h)⟩)))
    · exact .inr (.inr (.inr (.inr h)))
  · rintro (rfl | rfl | ⟨i, hlow, hhigh, rfl⟩ | ⟨d, h, hplain⟩ | h)
    · decide +kernel
    · decide +kernel
    · exact harrival (guess_toString hlow hhigh)
    · exact (harrival h).trans hplain.symm
    · exact harrival h

example : arrival "TRUE" = "true" := by decide +kernel

example : arrival "1e5" = "100000" := by decide +kernel

/-- A text that is no word for a value, and has a character that no number has, stays what it
is. -/
theorem stays_of_mem (hword : ¬ IsWord v) (hchar : ∃ c ∈ v.toList, c ∉ numberChars) : Stays v :=
  .inr (.inr (.inr (.inr (guess_eq_text hword hchar))))

end Variables
end Config
end PatronGateway
