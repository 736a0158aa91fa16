import Mathlib.Data.List.Forall2

/-!
# Rows that are read item by item

A row is read if each of its items is, and then the results stand in the same row.
-/

namespace PatronGateway
namespace Text

variable {α β : Type} {read : α → Option β} {xs xs' : List α} {ys ys' : List β}

/-- Many things are read if each of them is. -/
theorem mapM_eq_some_iff :
    xs.mapM read = some ys ↔ List.Forall₂ (fun x y => read x = some y) xs ys := by
  induction xs generalizing ys with
  | nil => simp [eq_comm]
  | cons x xs ih => cases ys <;> simp [List.mapM_cons, Option.bind_eq_some_iff, ih]

/-- Many things are read if those at the front and those behind them are. -/
theorem mapM_append_eq_some (h : xs.mapM read = some ys) (h' : xs'.mapM read = some ys') :
    (xs ++ xs').mapM read = some (ys ++ ys') := by
  rw [mapM_eq_some_iff] at h h' ⊢
  exact List.rel_append h h'

/-- What was written item by item is read back. -/
theorem mapM_map_eq_some {write : β → α} (h : ∀ y, read (write y) = some y) (ys : List β) :
    (ys.map write).mapM read = some ys := by
  rw [mapM_eq_some_iff, List.forall₂_map_left_iff, List.forall₂_same]
  exact fun y _ => h y

end Text
end PatronGateway
