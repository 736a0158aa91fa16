import PatronGateway.Text.Split

/-!
# Where lists are cut

The cuts are characterized by what they leave: a separator stands between two pieces, of
which the one that has been searched does not hold it, and a lead stands before the rest.
`splitOn_append` takes the pieces of a whole list apart one by one.
-/

namespace PatronGateway
namespace Text

variable {α : Type} [DecidableEq α] {separator : α} {xs before after : List α}

theorem splitFirst?_eq_some_iff :
    splitFirst? separator xs = some (before, after) ↔
      xs = before ++ separator :: after ∧ separator ∉ before := by
  induction xs generalizing before with
  | nil => simp [splitFirst?]
  | cons x rest ih =>
      unfold splitFirst?
      by_cases hx : x = separator
      · rw [if_pos hx]
        constructor
        · intro h
          cases h
          exact ⟨by rw [hx]; rfl, List.not_mem_nil⟩
        · rintro ⟨hxs, hbefore⟩
          cases before with
          | nil => rw [(List.cons.inj hxs).2]
          | cons y ys =>
              have hy : y = separator := (List.cons.inj hxs).1.symm.trans hx
              exact absurd (hy ▸ List.mem_cons_self) hbefore
      · rw [if_neg hx]
        constructor
        · intro h
          obtain ⟨⟨ys, zs⟩, hrest, hpair⟩ := Option.map_eq_some_iff.mp h
          cases hpair
          obtain ⟨hxs, hys⟩ := ih.mp hrest
          refine ⟨by rw [hxs]; rfl, ?_⟩
          rw [List.mem_cons]
          rintro (hsame | hmem)
          · exact hx hsame.symm
          · exact hys hmem
        · rintro ⟨hxs, hbefore⟩
          cases before with
          | nil => exact absurd (List.cons.inj hxs).1 hx
          | cons y ys =>
              obtain ⟨rfl, hrest⟩ := List.cons.inj hxs
              have hcut : splitFirst? separator rest = some (ys, after) :=
                ih.mpr ⟨hrest, fun hmem => hbefore (List.mem_cons_of_mem _ hmem)⟩
              rw [hcut]
              rfl

/-- A list without the separator is one piece. -/
theorem splitOn_of_not_mem (h : separator ∉ xs) : splitOn separator xs = [xs] := by
  induction xs with
  | nil => rfl
  | cons x rest ih =>
      obtain ⟨hx, hrest⟩ := not_or.mp (mt List.mem_cons.mpr h)
      rw [splitOn, if_neg (Ne.symm hx), ih hrest]

/-- The piece before a separator comes first. -/
theorem splitOn_append (h : separator ∉ before) :
    splitOn separator (before ++ separator :: after) = before :: splitOn separator after := by
  induction before with
  | nil => simp [splitOn]
  | cons x rest ih =>
      obtain ⟨hx, hrest⟩ := not_or.mp (mt List.mem_cons.mpr h)
      rw [List.cons_append, splitOn, if_neg (Ne.symm hx), ih hrest]

theorem splitLast?_eq_some_iff :
    splitLast? separator xs = some (before, after) ↔
      xs = before ++ separator :: after ∧ separator ∉ after := by
  unfold splitLast?
  constructor
  · intro h
    obtain ⟨⟨ys, zs⟩, hcut, hpair⟩ := Option.map_eq_some_iff.mp h
    cases hpair
    obtain ⟨hxs, hys⟩ := splitFirst?_eq_some_iff.mp hcut
    refine ⟨?_, by simpa using hys⟩
    rw [← List.reverse_reverse xs, hxs]
    simp
  · rintro ⟨rfl, hafter⟩
    have hcut : splitFirst? separator (before ++ separator :: after).reverse =
        some (after.reverse, before.reverse) :=
      splitFirst?_eq_some_iff.mpr ⟨by simp, by simpa using hafter⟩
    rw [hcut]
    simp

theorem dropLead?_eq_some_iff {lead rest : List α} :
    dropLead? lead xs = some rest ↔ xs = lead ++ rest := by
  induction lead generalizing xs with
  | nil => simp [dropLead?]
  | cons a lead ih =>
      cases xs with
      | nil => simp [dropLead?]
      | cons x xs =>
          unfold dropLead?
          by_cases hx : a = x
          · rw [if_pos hx, ih]
            simp [hx]
          · rw [if_neg hx]
            simp [Ne.symm hx]

end Text
end PatronGateway
