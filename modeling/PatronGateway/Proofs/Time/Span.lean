import Mathlib.Data.Bool.AllAny
import Mathlib.Data.List.Induction
import PatronGateway.Time.Span

/-!
# Spans of time are read back

A span is written as a row of terms, from years down to nanoseconds, each unit with the largest
share of what the longer ones leave and without those that have none.  Reading adds the terms up,
each step of it in 64 bits, and comes out at the span again; up to `2 ^ 64` seconds nothing on the
way is too large.

* `Span.HasShares` says which shares the units have, and `Span.IsWrittenAs` what the text is.
* `foldlM_feed?_term` reads one term, and `read?_row` a row of them by induction: the invariant is
  that the terms before have been added up.
* `Span.isWrittenAs_write` and `Span.read?_write` are the statements about the text of a span.
-/

namespace PatronGateway
namespace Time

open Text (Digit)

namespace TimeUnit

/-- How long a unit is, in nanoseconds. -/
def length : TimeUnit → Nat
  | nanosecond => 1
  | microsecond => 1000
  | millisecond => 1000000
  | second => 1000000000
  | minute => 60000000000
  | hour => 3600000000000
  | day => 86400000000000
  | week => 604800000000000
  | month => 2630016000000000
  | year => 31557600000000000

/-- The length of a unit is that with which texts are read. -/
theorem length_eq (u : TimeUnit) :
    u.length = u.nanoseconds?.getD (u.seconds * 1000000000) := by
  cases u <;> decide

/-- The units of written texts, from the longest one down. -/
def written : List TimeUnit :=
  [year, month, day, hour, minute, second, millisecond, microsecond, nanosecond]

/-- The name of a unit behind a count; only the names that are words have a plural. -/
def label (u : TimeUnit) (count : Nat) : String :=
  let plural (word : String) : String := if count = 1 then word else word ++ "s"
  match u with
  | year => plural "year"
  | month => plural "month"
  | week => plural "week"
  | day => plural "day"
  | hour => "h"
  | minute => "m"
  | second => "s"
  | millisecond => "ms"
  | microsecond => "us"
  | nanosecond => "ns"

theorem ofName?_label (u : TimeUnit) (count : Nat) : ofName? (u.label count) = some u := by
  cases u <;> unfold label <;> dsimp only
  all_goals first | decide | (split <;> decide)

end TimeUnit

/-- A term of a span's text: how many of a unit. -/
structure Term where
  count : Nat
  unit : TimeUnit
  deriving DecidableEq, Repr

namespace Term

/-- How long a term is, in nanoseconds. -/
def length (t : Term) : Nat :=
  t.count * t.unit.length

/-- The text of a term. -/
def text (t : Term) : String :=
  String.ofList (Text.decimal t.count) ++ t.unit.label t.count

/-- How long several terms are together. -/
def total : List Term → Nat
  | [] => 0
  | t :: rest => t.length + total rest

/-- Whatever follows a term in a row is together shorter than its unit. -/
def Greedy : List Term → Prop
  | [] => True
  | t :: rest => total rest < t.unit.length ∧ Greedy rest

end Term

open Term (total Greedy)

namespace Span

/-- The shares of the units of written texts in a span, each as large as the longer units leave
it. -/
structure HasShares (s : Span) (ts : List Term) : Prop where
  units : ts.map Term.unit = TimeUnit.written
  greedy : Greedy ts
  total_eq : total ts = s.nanoseconds

/-- The text of a span: the shares that are not nothing, with a blank between them.  No time at
all is no seconds. -/
def IsWrittenAs (s : Span) (text : String) : Prop :=
  ∃ ts, s.HasShares ts ∧
    text = match ts.filter fun t => 0 < t.count with
      | [] => "0s"
      | shown => " ".intercalate (shown.map Term.text)

end Span

/-! ## Writing -/

section Writing

namespace Span

/-- The shares that writing computes. -/
def shares (s : Span) : List Term :=
  let inYear := s.seconds % 31557600
  let inMonth := inYear % 2630016
  let inDay := inMonth % 86400
  [⟨s.seconds / 31557600, .year⟩, ⟨inYear / 2630016, .month⟩, ⟨inMonth / 86400, .day⟩,
    ⟨inDay / 3600, .hour⟩, ⟨inDay % 3600 / 60, .minute⟩, ⟨inDay % 60, .second⟩,
    ⟨s.subsecond / 1000000, .millisecond⟩, ⟨s.subsecond / 1000 % 1000, .microsecond⟩,
    ⟨s.subsecond % 1000, .nanosecond⟩]

theorem hasShares_shares (s : Span) : s.HasShares s.shares := by
  have hspan : s.seconds * 1000000000 + s.subsecond = s.nanoseconds := by
    unfold seconds subsecond
    omega
  have hsub : s.subsecond < 1000000000 := Nat.mod_lt _ (by decide)
  -- each share with what it leaves to the shorter units
  have hyear := Nat.div_add_mod s.seconds 31557600
  have hmonth := Nat.div_add_mod (s.seconds % 31557600) 2630016
  have hday := Nat.div_add_mod (s.seconds % 31557600 % 2630016) 86400
  have hyear' := Nat.mod_lt s.seconds (show 31557600 > 0 by decide)
  have hmonth' := Nat.mod_lt (s.seconds % 31557600) (show 2630016 > 0 by decide)
  have hday' := Nat.mod_lt (s.seconds % 31557600 % 2630016) (show 86400 > 0 by decide)
  have hclock (n : Nat) : 3600 * (n / 3600) + 60 * (n % 3600 / 60) + n % 60 = n ∧
      n % 3600 / 60 < 60 ∧ n % 60 < 60 := by omega
  have hparts (n : Nat) : 1000000 * (n / 1000000) + 1000 * (n / 1000 % 1000) + n % 1000 = n ∧
      n / 1000 % 1000 < 1000 ∧ n % 1000 < 1000 := by omega
  refine ⟨rfl, ?_, ?_⟩
  all_goals
    unfold shares
    simp only [Greedy, total, Term.length, TimeUnit.length, and_true]
    generalize s.seconds / 31557600 = years at *
    generalize s.seconds % 31557600 = inYear at *
    generalize inYear / 2630016 = months at *
    generalize inYear % 2630016 = inMonth at *
    generalize inMonth / 86400 = days at *
    generalize inMonth % 86400 = inDay at *
    obtain ⟨hinDay, hminutes, hseconds⟩ := hclock inDay
    obtain ⟨hnanos, hmicros, hrest⟩ := hparts s.subsecond
    clear hclock hparts
    generalize inDay / 3600 = hours at *
    generalize inDay % 3600 / 60 = minutes at *
    generalize inDay % 60 = seconds at *
    generalize s.subsecond / 1000000 = millis at *
    generalize s.subsecond / 1000 % 1000 = micros at *
    generalize s.subsecond % 1000 = nanos at *
  · refine ⟨?_, ?_, ?_, ?_, ?_, ?_, ?_, ?_, ?_⟩ <;> omega
  · rw [← hspan, ← hyear, ← hmonth, ← hday, ← hinDay, ← hnanos]
    grind

/-- What is written for a count and a unit are the terms of which there is something. -/
theorem term_eq (t : Term) :
    term t.count (t.unit.label t.count) =
      ([t].filter fun t => 0 < t.count).map Term.text := by
  by_cases hzero : t.count = 0
  · simp [term, hzero]
  · simp [term, hzero, Nat.pos_of_ne_zero hzero, Term.text]

theorem terms_eq (s : Span) :
    s.terms = (s.shares.filter fun t => 0 < t.count).map Term.text := by
  have hrow : s.shares = s.shares.flatMap fun t => [t] := by rw [List.flatMap_singleton']
  have hterms : s.terms = s.shares.flatMap fun t => term t.count (t.unit.label t.count) := by
    simp only [shares, List.flatMap_cons, List.flatMap_nil, List.append_nil]
    unfold terms
    simp only [List.append_assoc]
    rfl
  rw [hterms, hrow, List.filter_flatMap, List.map_flatMap]
  simp only [term_eq]
  rw [← hrow]

/-- What is written for a span is its text. -/
theorem isWrittenAs_write (s : Span) : s.IsWrittenAs s.write := by
  refine ⟨s.shares, s.hasShares_shares, ?_⟩
  unfold write
  rw [terms_eq]
  cases s.shares.filter fun t => 0 < t.count <;> rfl

end Span

end Writing

/-! ## Reading -/

namespace Span

section Adding

variable {s : Span} {count seconds nanoseconds : Nat}

theorem word?_of_lt {n : Nat} (h : n < 2 ^ 64) : word? n = some n :=
  if_pos h

/-- What is added is the sum, as long as this has less than `2 ^ 64` seconds. -/
theorem plus?_eq (hnanoseconds : nanoseconds < 2 ^ 63)
    (hsum : (s.nanoseconds + seconds * 1000000000 + nanoseconds) / 1000000000 < 2 ^ 64) :
    s.plus? seconds nanoseconds =
      some ⟨s.nanoseconds + seconds * 1000000000 + nanoseconds⟩ := by
  have hcarry (a x : Nat) : (a + seconds + (x + nanoseconds) / 1000000000) * 1000000000 +
      (x + nanoseconds) % 1000000000 = a * 1000000000 + x + seconds * 1000000000 + nanoseconds := by
    clear hsum hnanoseconds
    omega
  have hsub : s.subsecond < 1000000000 := Nat.mod_lt _ (by decide)
  have hspan : s.seconds * 1000000000 + s.subsecond = s.nanoseconds := by
    unfold Span.seconds subsecond
    omega
  rw [← hspan] at hsum ⊢
  unfold plus?
  rw [word?_of_lt (by omega), Option.bind_eq_bind, Option.bind_some, word?_of_lt (by omega),
    Option.bind_some, Option.pure_def, hcarry]

/-- Whole units are added with their length, if they can be counted in 64 bits. -/
theorem plusUnits?_eq {u : TimeUnit} (hshort : u.nanoseconds?.isSome → count * u.length < 2 ^ 63)
    (hsum : (s.nanoseconds + count * u.length) / 1000000000 < 2 ^ 64) :
    s.plusUnits? count u = some ⟨s.nanoseconds + count * u.length⟩ := by
  have hlength := u.length_eq
  unfold plusUnits?
  cases hu : u.nanoseconds? with
  | some k =>
      rw [hu, Option.getD_some] at hlength
      rw [hu, hlength] at hshort
      rw [hlength] at hsum ⊢
      dsimp only
      rw [word?_of_lt (Nat.lt_trans (hshort rfl) (by decide)), Option.bind_eq_bind,
        Option.bind_some, plus?_eq (hshort rfl) (by rwa [Nat.zero_mul, Nat.add_zero]),
        Nat.zero_mul, Nat.add_zero]
  | none =>
      rw [hu, Option.getD_none] at hlength
      rw [hlength, ← Nat.mul_assoc] at hsum ⊢
      dsimp only
      rw [word?_of_lt (by omega), Option.bind_eq_bind, Option.bind_some,
        plus?_eq (by decide) (by rwa [Nat.add_zero]), Nat.add_zero]

end Adding

section Reading

variable (before : Option Span)

/-- A letter of a unit's name is nothing else that a text may hold. -/
def IsLetter (c : Char) : Prop :=
  Digit.ofChar? c = none ∧ Text.isBlankChar c = false ∧ isUnitLetter c = true

instance (c : Char) : Decidable (IsLetter c) := inferInstanceAs (Decidable (_ ∧ _ ∧ _))

/-- The name of a unit has letters, and nothing but letters. -/
theorem exists_letters_label (u : TimeUnit) (count : Nat) :
    ∃ c cs, (u.label count).toList = c :: cs ∧ IsLetter c ∧ ∀ c ∈ cs, IsLetter c := by
  cases u <;> unfold TimeUnit.label <;> dsimp only
  all_goals first
    | exact ⟨_, _, rfl, by decide, List.all_iff_forall_prop.mp (by decide)⟩
    | (split <;> exact ⟨_, _, rfl, by decide, List.all_iff_forall_prop.mp (by decide)⟩)

/-- The digits of a count are read as the count. -/
theorem foldlM_feed?_digits {ds : List Digit} (hne : ds ≠ []) (hcount : Text.value ds < 2 ^ 64) :
    (ds.map Digit.toChar).foldlM Reading.feed? ⟨before, .between⟩ =
      some ⟨before, .whole (Text.value ds)⟩ := by
  -- the last digit is split off, so that what is read before it is a smaller count
  induction ds using List.reverseRecOn with
  | nil => exact absurd rfl hne
  | append_singleton ds d ih =>
      have hvalue := Text.value_append_singleton ds d
      rw [hvalue] at hcount ⊢
      rw [List.map_append, List.foldlM_append]
      cases ds with
      | nil => simp [Reading.feed?, Text.value]
      | cons d' ds =>
          rw [ih (List.cons_ne_nil d' ds) (by omega)]
          simp [Reading.feed?, Nat.mul_comm, word?_of_lt hcount]

/-- Letters are kept until the name of the unit ends. -/
theorem foldlM_feed?_letters {cs : List Char} (h : ∀ c ∈ cs, IsLetter c) (count : Nat)
    (reversed : List Char) :
    cs.foldlM Reading.feed? ⟨before, .unit count none reversed⟩ =
      some ⟨before, .unit count none (cs.reverse ++ reversed)⟩ := by
  induction cs generalizing reversed with
  | nil => rfl
  | cons c cs ih =>
      obtain ⟨hdigit, hblank, hletter⟩ := h c List.mem_cons_self
      have hfeed : Reading.feed? ⟨before, .unit count none reversed⟩ c =
          some ⟨before, .unit count none (c :: reversed)⟩ := by
        simp [Reading.feed?, hdigit, hblank, hletter]
      rw [List.foldlM_cons, hfeed, Option.bind_eq_bind, Option.bind_some,
        ih fun c' hc' => h c' (List.mem_cons_of_mem c hc')]
      simp

/-- A term is read up to the name of its unit, which is not yet complete. -/
theorem foldlM_feed?_term (t : Term) (hcount : t.count < 2 ^ 64) :
    t.text.toList.foldlM Reading.feed? ⟨before, .between⟩ =
      some ⟨before, .unit t.count none (t.unit.label t.count).toList.reverse⟩ := by
  obtain ⟨c, cs, hlabel, ⟨hdigit, hblank, hletter⟩, hcs⟩ := exists_letters_label t.unit t.count
  have hvalue := Text.value_digits t.count
  have hdigits := foldlM_feed?_digits before (Text.digits_ne_nil t.count)
    (by rwa [hvalue])
  have hfirst : Reading.feed? ⟨before, .whole t.count⟩ c =
      some ⟨before, .unit t.count none [c]⟩ := by
    simp [Reading.feed?, hdigit, hblank, hletter]
  rw [hvalue] at hdigits
  unfold Term.text Text.decimal
  rw [String.toList_append, String.toList_ofList, List.foldlM_append, hdigits, hlabel,
    Option.bind_eq_bind, Option.bind_some, List.foldlM_cons, hfirst, Option.bind_eq_bind,
    Option.bind_some, foldlM_feed?_letters before hcs]
  simp

/-- A term that can be counted in 64 bits. -/
structure IsCounted (t : Term) : Prop where
  count_lt : t.count < 2 ^ 64
  length_lt : t.unit.nanoseconds?.isSome → t.length < 2 ^ 63

/-- Where the name of its unit ends, a term is added to those before it. -/
theorem close?_term {t : Term} (ht : IsCounted t)
    (hsum : ((before.getD zero).nanoseconds + t.length) / 1000000000 < 2 ^ 64)
    (stage next : Stage) :
    Reading.close? ⟨before, stage⟩ t.count none (t.unit.label t.count).toList.reverse next =
      some ⟨some ⟨(before.getD zero).nanoseconds + t.length⟩, next⟩ := by
  unfold Reading.close? plusTerm?
  simp only [List.reverse_reverse, String.ofList_toList, TimeUnit.ofName?_label,
    Option.bind_eq_bind, Option.bind_some, Option.pure_def]
  rw [plusUnits?_eq ht.length_lt hsum]
  rfl

/-- A row of terms with blanks between them is read as their sum. -/
theorem read?_row (t : Term) (ts : List Term) (hcounted : ∀ t' ∈ t :: ts, IsCounted t')
    (hsum : ((before.getD zero).nanoseconds + total (t :: ts)) / 1000000000 < 2 ^ 64) :
    (([' '].intercalate ((t :: ts).map fun t => t.text.toList)).foldlM Reading.feed?
        ⟨before, .between⟩).bind Reading.finish? =
      some ⟨(before.getD zero).nanoseconds + total (t :: ts)⟩ := by
  induction ts generalizing t before with
  | nil =>
      have ht := hcounted t List.mem_cons_self
      have hclose := close?_term before ht hsum
      rw [List.map_cons, List.map_nil, List.intercalate_singleton, foldlM_feed?_term before t ht.count_lt]
      simp [Reading.finish?, hclose, total]
  | cons t' ts ih =>
      have ht := hcounted t List.mem_cons_self
      rw [total] at hsum ⊢
      have hclose := close?_term before ht (by omega)
      have hrest := ih (some ⟨(before.getD zero).nanoseconds + t.length⟩) t'
        (fun t hmem => hcounted t (List.mem_cons_of_mem _ hmem))
        (by rwa [Option.getD_some, Nat.add_assoc])
      have hblank (name : List Char) :
          Reading.feed? ⟨before, .unit t.count none name⟩ ' ' =
            Reading.close? ⟨before, .unit t.count none name⟩ t.count none name .between := rfl
      rw [List.map_cons, List.map_cons, List.intercalate_cons_cons, List.foldlM_append,
        List.foldlM_append, foldlM_feed?_term before t ht.count_lt]
      simp only [Option.bind_eq_bind, Option.bind_some, List.foldlM_cons, List.foldlM_nil, hblank,
        hclose, Option.pure_def]
      rw [List.map_cons] at hrest
      rw [hrest, Option.getD_some, Nat.add_assoc]

theorem isCounted_of_mem_shares {s : Span} (h : s.seconds < 2 ^ 64) {t : Term}
    (ht : t ∈ s.shares) : IsCounted t := by
  have hsub : s.subsecond < 1000000000 := Nat.mod_lt _ (by decide)
  unfold shares at ht
  simp only [List.mem_cons, List.not_mem_nil, or_false] at ht
  obtain rfl | rfl | rfl | rfl | rfl | rfl | rfl | rfl | rfl := ht
  -- the units from a second on need no bound on their length
  iterate 6 exact ⟨by dsimp only; omega, fun hshort => by cases hshort⟩
  all_goals exact ⟨by dsimp only; omega, fun _ => by simp only [Term.length, TimeUnit.length]; omega⟩

theorem total_filter (ts : List Term) : total (ts.filter fun t => 0 < t.count) = total ts := by
  induction ts with
  | nil => rfl
  | cons t ts ih =>
      by_cases hpos : 0 < t.count
      · simp [hpos, total, ih]
      · have hzero : t.count = 0 := by omega
        simp [hzero, total, ih, Term.length]

/-- What is written for a span of less than `2 ^ 64` seconds is read as this span. -/
theorem read?_write {s : Span} (h : s.seconds < 2 ^ 64) : read? s.write = some s := by
  have htotal := total_filter s.shares
  rw [s.hasShares_shares.total_eq] at htotal
  unfold write
  rw [terms_eq]
  cases hshown : s.shares.filter fun t => 0 < t.count with
  | nil =>
      rw [hshown] at htotal
      have hzero : s = zero := congrArg Span.mk htotal.symm
      rw [hzero]
      rfl
  | cons t ts =>
      rw [hshown] at htotal
      have hcounted : ∀ t' ∈ t :: ts, IsCounted t' := by
        intro t' ht'
        rw [← hshown] at ht'
        exact isCounted_of_mem_shares h (List.mem_filter.mp ht').1
      have hsum : ((none : Option Span).getD zero).nanoseconds + total (t :: ts) =
          s.nanoseconds := by
        rw [htotal]
        exact Nat.zero_add _
      have hread := read?_row none t ts hcounted (by rw [hsum]; exact h)
      rw [hsum] at hread
      have htext : (" ".intercalate ((t :: ts).map Term.text)).toList =
          [' '].intercalate ((t :: ts).map fun t => t.text.toList) := by
        rw [String.toList_intercalate, List.map_map]
        rfl
      rw [← htext] at hread
      -- a lone zero would be a count whose unit is missing
      have hunit : " ".intercalate ((t :: ts).map Term.text) ≠ "0" := by
        intro hzero
        have hnone : ("0".toList.foldlM Reading.feed? ⟨none, .between⟩).bind Reading.finish? =
            none := rfl
        rw [hzero, hnone] at hread
        cases hread
      unfold read?
      rw [List.map_cons] at hunit hread ⊢
      dsimp only
      rw [if_neg hunit]
      exact hread

end Reading

end Span

end Time
end PatronGateway
