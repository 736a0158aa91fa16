import Mathlib.Logic.Function.Basic
import PatronGateway.Cache.Slot

/-!
# Caches whose keys are written in another way

A cache does nothing with its keys but compare them.  So it does not matter how they are
written, as long as no two keys are written alike: with its keys renamed, a cache gives the
same answers and ends up as the renamed cache.

* `Bounded.mapKeys` renames the keys of a cache.
* `get_mapKeys`, `put_mapKeys` and `stats_mapKeys` say this of the uses of a cache.  The first
  two need the renaming to be injective, and say what becomes of the cache as well.
-/

namespace PatronGateway
namespace Cache
namespace Bounded

variable {K L V : Type}

/-- The same cache with its keys renamed. -/
def mapKeys (f : K → L) (c : Bounded K V) : Bounded L V where
  capacity := c.capacity
  presentTtl := c.presentTtl
  absentTtl := c.absentTtl
  entries := c.entries.map (Prod.map f id)
  counters := c.counters

variable (f : K → L) (c : Bounded K V) (now : Moment)

@[simp] theorem stats_mapKeys : (c.mapKeys f).stats = c.stats := by
  simp [stats, mapKeys]

theorem prune_mapKeys : (c.mapKeys f).prune now = (c.prune now).mapKeys f := by
  have hkept : (c.entries.map (Prod.map f id)).filter (fun e => !e.2.isExpired now) =
      (c.entries.filter fun e => !e.2.isExpired now).map (Prod.map f id) := by
    rw [List.filter_map]
    rfl
  simp only [prune, mapKeys, hkept, List.length_map]

theorem makeRoom_mapKeys : (c.mapKeys f).makeRoom = c.makeRoom.mapKeys f := by
  unfold makeRoom
  by_cases hroom : c.entries.length < c.capacity
  · rw [if_pos hroom, if_pos (by simpa [mapKeys] using hroom)]
  · rw [if_neg hroom, if_neg (by simpa [mapKeys] using hroom)]
    cases hentries : c.entries <;> simp [mapKeys, hentries]

theorem insert_mapKeys (key : K) (e : Entry V) :
    (c.mapKeys f).insert (f key) e = (c.insert key e).mapKeys f := by
  simp [insert, mapKeys]

variable [DecidableEq K] [DecidableEq L]

section

variable {f} (hf : f.Injective)

include hf

/-- A key is found under its new name where it has been found before. -/
theorem entry?_mapKeys (key : K) : Bounded.entry? (c.mapKeys f) (f key) = c.entry? key := by
  show (c.entries.map (Prod.map f id)).lookup (f key) = c.entries.lookup key
  induction c.entries with
  | nil => rfl
  | cons p rest ih =>
      have hsame : (f key == f p.1) = (key == p.1) := by
        rw [Bool.eq_iff_iff, beq_iff_eq, beq_iff_eq]
        exact hf.eq_iff
      rw [List.map_cons, List.lookup_cons, List.lookup_cons, ih]
      show (match f key == f p.1 with
        | true => some p.2
        | false => rest.lookup key) = _
      rw [hsame]
      cases key == p.1 <;> rfl

theorem live?_mapKeys (key : K) : (c.mapKeys f).live? now (f key) = c.live? now key := by
  unfold live?
  rw [entry?_mapKeys c hf]

theorem peek_mapKeys (key : K) : (c.mapKeys f).peek now (f key) = c.peek now key := by
  unfold peek
  rw [live?_mapKeys c now hf]

/-- A lookup of a renamed key is the lookup of the key. -/
theorem get_mapKeys (key : K) :
    (c.mapKeys f).get now (f key) = ((c.get now key).1, (c.get now key).2.mapKeys f) := by
  unfold get
  rw [peek_mapKeys c now hf]
  rfl

/-- A put under a renamed key is the put under the key. -/
theorem put_mapKeys (key : K) (value : Option V) :
    (c.mapKeys f).put now (f key) value =
      ((c.put now key value).1, (c.put now key value).2.mapKeys f) := by
  unfold put
  rw [live?_mapKeys c now hf]
  cases c.live? now key with
  | some e => rfl
  | none =>
      dsimp only
      rw [prune_mapKeys, makeRoom_mapKeys, insert_mapKeys]
      rfl

end

end Bounded
end Cache
end PatronGateway
