/-!
# Decimal digits

A digit is a number below ten.  `digits` writes a natural number, `value` reads
a row of digits back, and `value_digits` says that nothing is lost.  Leading
zeros are the only freedom that a row of digits has.
-/

-- A power is the core library's one everywhere, also where algebra with powers of its
-- own is imported.
attribute [instance (10000), default_instance 10001] instPowNat
attribute [instance (10000)] instNatPowNat Int.instNatPow

namespace PatronGateway
namespace Text

/-- There are digits. -/
instance neZeroTen : @NeZero Nat Zero.ofOfNat0 10 := ⟨by decide⟩

/-- A decimal digit. -/
abbrev Digit := Fin 10

namespace Digit

/-- The character of a digit. -/
def toChar (d : Digit) : Char :=
  Char.ofNat (48 + d.val)

/-- The digit that an ASCII character stands for, if it is one. -/
def ofChar? (c : Char) : Option Digit :=
  if h : 48 ≤ c.toNat ∧ c.toNat < 58 then
    some ⟨c.toNat - 48, by omega⟩
  else
    none

@[simp] theorem ofChar?_toChar (d : Digit) : ofChar? d.toChar = some d := by
  revert d; decide

end Digit

/-- The number that a row of digits stands for, most significant first. -/
def value (ds : List Digit) : Nat :=
  ds.foldl (fun n d => 10 * n + d.val) 0

/-- The digits of a number, most significant first and without leading zeros. -/
def digits (n : Nat) : List Digit :=
  if n < 10 then
    [Fin.ofNat 10 n]
  else
    digits (n / 10) ++ [Fin.ofNat 10 n]
termination_by n

/-- The decimal text of a number. -/
def decimal (n : Nat) : List Char :=
  (digits n).map Digit.toChar

theorem value_append_singleton (ds : List Digit) (d : Digit) :
    value (ds ++ [d]) = 10 * value ds + d.val := by
  simp [value]

theorem value_digits (n : Nat) : value (digits n) = n := by
  induction n using Nat.strongRecOn with
  | ind n ih =>
    rw [digits]
    split
    · simp [value, Fin.ofNat]; omega
    · rw [value_append_singleton, ih (n / 10) (by omega)]
      simp [Fin.ofNat]; omega

theorem digits_ne_nil (n : Nat) : digits n ≠ [] := by
  rw [digits]; split <;> simp

/-- Takes the digits at the front of a text. -/
def takeDigits : List Char → List Digit × List Char
  | [] => ([], [])
  | c :: rest =>
    match Digit.ofChar? c with
    | some d => ((d :: (takeDigits rest).1), (takeDigits rest).2)
    | none => ([], c :: rest)

/-- Text that does not begin with a digit. -/
def NoDigitAhead : List Char → Prop
  | [] => True
  | c :: _ => Digit.ofChar? c = none

theorem takeDigits_append (ds : List Digit) {rest : List Char} (h : NoDigitAhead rest) :
    takeDigits (ds.map Digit.toChar ++ rest) = (ds, rest) := by
  induction ds with
  | nil =>
    cases rest with
    | nil => rfl
    | cons c rest => simp [takeDigits, show Digit.ofChar? c = none from h]
  | cons d ds ih => simp [takeDigits, ih]

/-- Reads a text of ASCII digits alone; the empty text is no number. -/
def natural? (cs : List Char) : Option Nat :=
  match takeDigits cs with
  | (d :: ds, []) => some (value (d :: ds))
  | _ => none

end Text
end PatronGateway
