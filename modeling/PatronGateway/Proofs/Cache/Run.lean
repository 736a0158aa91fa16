import Mathlib.Data.List.Basic
import Mathlib.Data.List.Nodup
import PatronGateway.Proofs.Cache.Backing

/-!
# Runs of a cache

A cache goes through puts, lookups, clearings and the passing of time, in any order.
This module says what each of these does to its entries.

* `entries_put_of_miss` lists what a put that inserts leaves behind: the entries that are
  alive, less the oldest one if they fill the cache, and the new one at the end.
* `Regular` is what every reachable cache has in common: its keys are distinct, there are
  not too many, and its settings are those that it began with.  `regular_step` keeps it.
-/

namespace PatronGateway
namespace Cache

open Time (Span)

/-- Whether an entry is alive at a moment: its lifetime is longer than it has been there. -/
def Entry.lives {V : Type} (now : Moment) (e : Entry V) : Bool :=
  now - e.insertedAt < e.ttl.nanoseconds

theorem Entry.lives_iff {V : Type} {now : Moment} {e : Entry V} :
    e.lives now = true ↔ now - e.insertedAt < e.ttl.nanoseconds :=
  decide_eq_true_iff

theorem Entry.isExpired_eq_not_lives {V : Type} (now : Moment) (e : Entry V) :
    e.isExpired now = !e.lives now := by
  cases hlives : e.lives now with
  | true => exact (isExpired_eq_false_iff now e).mpr (lives_iff.mp hlives)
  | false =>
      cases hexpired : e.isExpired now with
      | true => rfl
      | false =>
          rw [lives_iff.mpr ((isExpired_eq_false_iff now e).mp hexpired)] at hlives
          cases hlives

/-- What is alive at a moment has been alive ever since it was put. -/
theorem Entry.lives_of_le {V : Type} {e : Entry V} {earlier later : Moment}
    (hle : earlier ≤ later) (h : e.lives later = true) : e.lives earlier = true := by
  rw [lives_iff] at h ⊢
  exact Nat.lt_of_le_of_lt (Nat.sub_le_sub_right hle _) h

namespace Bounded

variable {K V : Type}

theorem entries_prune (c : Bounded K V) (now : Moment) :
    (c.prune now).entries = c.entries.filter fun p => p.2.lives now := by
  simp [prune, Entry.isExpired_eq_not_lives]

theorem entries_makeRoom (c : Bounded K V) :
    c.makeRoom.entries =
      if c.entries.length < c.capacity then c.entries else c.entries.tail := by
  unfold makeRoom
  split
  · rfl
  · cases hentries : c.entries <;> simp [hentries]

theorem capacity_makeRoom (c : Bounded K V) : c.makeRoom.capacity = c.capacity := by
  unfold makeRoom
  split
  · rfl
  · split <;> rfl

theorem insertions_makeRoom (c : Bounded K V) :
    c.makeRoom.counters.insertions = c.counters.insertions := by
  unfold makeRoom
  split
  · rfl
  · split <;> rfl

variable [DecidableEq K]

/-- A put under a key that has a live entry gives that entry and changes nothing. -/
theorem put_of_live? {c : Bounded K V} {now : Moment} {key : K} {e : Entry V}
    (h : c.live? now key = some e) (value : Option V) : c.put now key value = (e, c) := by
  unfold put
  rw [h]

/-- What a put that inserts leaves behind. -/
theorem entries_put_of_miss {c : Bounded K V} {now : Moment} {key : K}
    (h : c.live? now key = none) (value : Option V) :
    (c.put now key value).2.entries =
      (let alive := c.entries.filter fun p => p.2.lives now
       if alive.length < c.capacity then alive else alive.tail) ++
        [(key, ⟨value, now, c.ttlFor value⟩)] := by
  unfold put
  rw [h]
  show (c.prune now).makeRoom.entries ++ _ = _
  rw [entries_makeRoom, entries_prune]
  rfl

theorem capacity_put (c : Bounded K V) (now : Moment) (key : K) (value : Option V) :
    (c.put now key value).2.capacity = c.capacity := by
  cases h : c.live? now key with
  | some e => rw [put_of_live? h]
  | none =>
      unfold put
      rw [h]
      exact capacity_makeRoom (c.prune now)

theorem peek_eq_hit_iff {c : Bounded K V} {now : Moment} {key : K} {value : V} :
    c.peek now key = .hit value ↔ ∃ e, c.live? now key = some e ∧ e.value = some value := by
  refine ⟨live?_of_peek_hit, ?_⟩
  rintro ⟨e, hlive, hvalue⟩
  unfold peek
  rw [hlive]
  simp [hvalue]

theorem peek_eq_knownAbsent_iff {c : Bounded K V} {now : Moment} {key : K} :
    c.peek now key = .knownAbsent ↔ ∃ e, c.live? now key = some e ∧ e.value = none := by
  refine ⟨live?_of_peek_knownAbsent, ?_⟩
  rintro ⟨e, hlive, hvalue⟩
  unfold peek
  rw [hlive]
  simp [hvalue]

/-- A put inserts if it adds to the insertions that the cache counts. -/
def Inserts (c : Bounded K V) (now : Moment) (key : K) (value : Option V) : Prop :=
  (c.put now key value).2.counters.insertions = c.counters.insertions + 1

instance (c : Bounded K V) (now : Moment) (key : K) (value : Option V) :
    Decidable (c.Inserts now key value) :=
  inferInstanceAs (Decidable (_ = _))

/-- A put inserts exactly where the key has no live entry. -/
theorem inserts_iff {c : Bounded K V} {now : Moment} {key : K} {value : Option V} :
    c.Inserts now key value ↔ c.live? now key = none := by
  unfold Inserts
  cases h : c.live? now key with
  | some e =>
      rw [put_of_live? h]
      simp
  | none =>
      have hcount : (c.put now key value).2.counters.insertions =
          (c.prune now).makeRoom.counters.insertions + 1 := by
        unfold put
        rw [h]
        rfl
      rw [hcount, insertions_makeRoom]
      simp [prune]

/-- What every reachable cache has in common. -/
structure Regular (settings : Settings) (c : Bounded K V) : Prop where
  capacity_eq : c.capacity = max settings.capacity 1
  ttlFor_eq : ∀ value, c.ttlFor value = settings.lifetime value
  keys_nodup : (c.entries.map Prod.fst).Nodup
  length_le : c.entries.length ≤ c.capacity

/-- Where keys are distinct, a key has a live entry if it is found anywhere. -/
theorem live?_eq_some_iff {c : Bounded K V} (hkeys : (c.entries.map Prod.fst).Nodup)
    {now : Moment} {key : K} {e : Entry V} :
    c.live? now key = some e ↔ (key, e) ∈ c.entries ∧ e.lives now = true := by
  have hexpired : e.isExpired now = false ↔ e.lives now = true := by
    rw [Entry.isExpired_eq_not_lives]
    simp
  constructor
  · intro h
    obtain ⟨hmem, halive⟩ := mem_of_live? h
    exact ⟨hmem, hexpired.mp halive⟩
  · rintro ⟨hmem, halive⟩
    have hlookup : c.entries.lookup key = some e := by
      obtain ⟨before, after, hentries⟩ := List.append_of_mem hmem
      refine List.lookup_eq_some_iff.mpr ⟨before, after, hentries, ?_⟩
      -- an earlier entry of the key would be a second one
      intro p hp
      rw [hentries, List.map_append, List.map_cons] at hkeys
      have hapart := (List.nodup_append.mp hkeys).2.2 p.1 (List.mem_map_of_mem hp) key
        List.mem_cons_self
      simpa using Ne.symm hapart
    exact Option.filter_eq_some_iff.mpr ⟨hlookup, by simpa using hexpired.mpr halive⟩

theorem live?_eq_none_iff {c : Bounded K V} (hkeys : (c.entries.map Prod.fst).Nodup)
    {now : Moment} {key : K} :
    c.live? now key = none ↔ ∀ e, (key, e) ∈ c.entries → e.lives now = false := by
  rw [Option.eq_none_iff_forall_ne_some]
  constructor
  · intro h e hmem
    by_contra halive
    exact h e ((live?_eq_some_iff hkeys).mpr ⟨hmem, by simpa using halive⟩)
  · intro h e hlive
    obtain ⟨hmem, halive⟩ := (live?_eq_some_iff hkeys).mp hlive
    rw [h e hmem] at halive
    cases halive

/-- A put that inserts leaves some of the live entries, in their order, and the new one
behind them.  None of those that it leaves has the key of the new one. -/
theorem exists_others_of_miss {c : Bounded K V} (hkeys : (c.entries.map Prod.fst).Nodup)
    {now : Moment} {key : K} (hmiss : c.live? now key = none) (value : Option V) :
    ∃ others, others.Sublist (c.entries.filter fun p => p.2.lives now) ∧
      (∀ p ∈ others, p.1 ≠ key) ∧
      (c.put now key value).2.entries = others ++ [(key, ⟨value, now, c.ttlFor value⟩)] := by
  have hentries := entries_put_of_miss hmiss value
  set alive := c.entries.filter fun p => p.2.lives now with halive
  have hsub : (if alive.length < c.capacity then alive else alive.tail).Sublist alive := by
    split
    · exact List.Sublist.refl alive
    · exact List.tail_sublist alive
  refine ⟨_, hsub, ?_, hentries⟩
  -- an old entry of the key has expired, and so has not been kept
  rintro p hp rfl
  obtain ⟨hmem, hlives⟩ := List.mem_filter.mp (hsub.subset hp)
  have hdead := (live?_eq_none_iff hkeys).mp hmiss p.2 hmem
  rw [hdead] at hlives
  cases hlives

/-- A put keeps the keys distinct. -/
theorem keys_nodup_put {c : Bounded K V} (hkeys : (c.entries.map Prod.fst).Nodup)
    (now : Moment) (key : K) (value : Option V) :
    ((c.put now key value).2.entries.map Prod.fst).Nodup := by
  cases hlive : c.live? now key with
  | some e =>
      rw [put_of_live? hlive]
      exact hkeys
  | none =>
      obtain ⟨others, hsub, hothers, hentries⟩ := exists_others_of_miss hkeys hlive value
      rw [hentries, List.map_append]
      refine List.nodup_append.mpr ⟨?_, List.nodup_singleton key, ?_⟩
      · exact hkeys.sublist ((hsub.trans List.filter_sublist).map Prod.fst)
      · rintro other hother _ hnew rfl
        obtain ⟨p, hp, rfl⟩ := List.mem_map.mp hother
        exact hothers p hp (List.mem_singleton.mp hnew)

/-- What a put has inserted is found at once, unless it does not live at all. -/
theorem live?_put_of_miss {c : Bounded K V} (hkeys : (c.entries.map Prod.fst).Nodup)
    {now : Moment} {key : K} {value : Option V} (hmiss : c.live? now key = none)
    (hlifetime : 0 < (c.ttlFor value).nanoseconds) :
    (c.put now key value).2.live? now key = some ⟨value, now, c.ttlFor value⟩ := by
  rw [live?_eq_some_iff (keys_nodup_put hkeys now key value)]
  constructor
  · rw [entries_put_of_miss hmiss value]
    exact List.mem_append_right _ List.mem_cons_self
  · rw [Entry.lives_iff, Nat.sub_self]
    exact hlifetime

namespace Regular

variable {settings : Settings} {c : Bounded K V}

omit [DecidableEq K] in
theorem empty (settings : Settings) : Regular settings (Bounded.empty settings : Bounded K V) where
  capacity_eq := rfl
  ttlFor_eq _ := rfl
  keys_nodup := List.nodup_nil
  length_le := Nat.zero_le _

omit [DecidableEq K] in
theorem capacity_pos (h : c.Regular settings) : 0 < c.capacity := by
  rw [h.capacity_eq]
  omega

omit [DecidableEq K] in
theorem clear (h : c.Regular settings) : c.clear.Regular settings where
  capacity_eq := h.capacity_eq
  ttlFor_eq := h.ttlFor_eq
  keys_nodup := List.nodup_nil
  length_le := Nat.zero_le _

theorem get (h : c.Regular settings) (now : Moment) (key : K) :
    (c.get now key).2.Regular settings where
  capacity_eq := h.capacity_eq
  ttlFor_eq := h.ttlFor_eq
  keys_nodup := h.keys_nodup
  length_le := h.length_le

omit [DecidableEq K] in
/-- What an inserting put keeps of the old entries leaves room for the new one. -/
theorem length_kept_lt (h : c.Regular settings) (now : Moment) :
    let alive := c.entries.filter fun p => p.2.lives now
    (if alive.length < c.capacity then alive else alive.tail).length < c.capacity := by
  intro alive
  have halive : alive.length ≤ c.capacity :=
    Nat.le_trans (List.length_filter_le _ _) h.length_le
  have hpos := h.capacity_pos
  split
  · assumption
  · rw [List.length_tail]
    omega

theorem put (h : c.Regular settings) (now : Moment) (key : K) (value : Option V) :
    (c.put now key value).2.Regular settings := by
  cases hlive : c.live? now key with
  | some e =>
      rw [put_of_live? hlive]
      exact h
  | none =>
      constructor
      · rw [capacity_put]
        exact h.capacity_eq
      · intro value'
        unfold ttlFor
        rw [(lifetimes_put c now key value).1, (lifetimes_put c now key value).2]
        exact h.ttlFor_eq value'
      · exact keys_nodup_put h.keys_nodup now key value
      · rw [entries_put_of_miss hlive value, capacity_put, List.length_append]
        exact h.length_kept_lt now

end Regular
end Bounded

/-- The value of the entry that a put gives is the one that was put, or a lookup would have
given it. -/
theorem Slot.hit_of_put {K V : Type} [DecidableEq K] {s : Slot K V} {now : Moment} {key : K}
    {value : Option V} {e : Entry V} {v : V} (h : (s.put now key value).1 = .ok e)
    (hv : e.value = some v) : value = some v ∨ (s.get now key).1 = .ok (.hit v) := by
  unfold put at h
  unfold get
  cases hcache : s.cache with
  | none =>
      rw [hcache] at h
      cases h
  | some c =>
      rw [hcache] at h
      dsimp only at h ⊢
      cases hlive : c.live? now key with
      | some found =>
          rw [Bounded.put_of_live? hlive] at h
          obtain rfl : found = e := Except.ok.inj h
          exact Or.inr (congrArg Except.ok (Bounded.peek_eq_hit_iff.mpr ⟨found, hlive, hv⟩))
      | none =>
          have hnew : (c.put now key value).1 = ⟨value, now, c.ttlFor value⟩ := by
            unfold Bounded.put
            rw [hlive]
          rw [hnew] at h
          rw [← Except.ok.inj h] at hv
          exact Or.inl hv

/-- An entry that is alive has been alive at every moment before. -/
theorem Bounded.live?_of_le {K V : Type} [DecidableEq K] {c : Bounded K V}
    {earlier later : Moment} {key : K} {e : Entry V} (hle : earlier ≤ later)
    (h : c.live? later key = some e) : c.live? earlier key = some e := by
  obtain ⟨hentry, halive⟩ := Option.filter_eq_some_iff.mp h
  refine Option.filter_eq_some_iff.mpr ⟨hentry, ?_⟩
  rw [Entry.isExpired_eq_not_lives, Bool.not_not] at halive ⊢
  exact Entry.lives_of_le hle halive

/-- What a slot knows of a key it has known at every moment before. -/
theorem Slot.get_of_le {K V : Type} [DecidableEq K] {s : Slot K V} {earlier later : Moment}
    {key : K} {found : Lookup V} (hle : earlier ≤ later)
    (h : (s.get later key).1 = .ok found) (hknown : found ≠ .miss) :
    (s.get earlier key).1 = .ok found := by
  unfold get at h ⊢
  cases hcache : s.cache with
  | none =>
      rw [hcache] at h
      cases h
  | some c =>
      rw [hcache] at h
      have hfound : c.peek later key = found := Except.ok.inj h
      refine congrArg Except.ok ?_
      show c.peek earlier key = found
      cases found with
      | hit value =>
          obtain ⟨e, hlive, hvalue⟩ := Bounded.peek_eq_hit_iff.mp hfound
          exact Bounded.peek_eq_hit_iff.mpr ⟨e, Bounded.live?_of_le hle hlive, hvalue⟩
      | knownAbsent =>
          obtain ⟨e, hlive, hvalue⟩ := Bounded.peek_eq_knownAbsent_iff.mp hfound
          exact Bounded.peek_eq_knownAbsent_iff.mpr ⟨e, Bounded.live?_of_le hle hlive, hvalue⟩
      | miss => exact absurd rfl hknown

/-- Looking something up changes nothing that a lookup gives. -/
@[simp] theorem Slot.get_get {K V : Type} [DecidableEq K] (s : Slot K V) (now later : Moment)
    (key other : K) : ((s.get now key).2.get later other).1 = (s.get later other).1 := by
  unfold get
  cases hcache : s.cache with
  | none => simp [hcache]
  | some c => rfl

/-- What can be done with a cache, and the passing of time. -/
inductive Use (K V : Type) where
  | put (key : K) (value : Option V)
  | get (key : K)
  | clear
  | advance (nanoseconds : Nat)

/-- A cache and the clock that its users read. -/
structure Timed (K V : Type) where
  cache : Bounded K V
  now : Moment

namespace Timed

variable {K V : Type} [DecidableEq K]

/-- An empty cache at a moment. -/
def start (settings : Settings) (now : Moment) : Timed K V := ⟨Bounded.empty settings, now⟩

/-- One use. -/
def step (s : Timed K V) : Use K V → Timed K V
  | .put key value => { s with cache := (s.cache.put s.now key value).2 }
  | .get key => { s with cache := (s.cache.get s.now key).2 }
  | .clear => { s with cache := s.cache.clear }
  | .advance nanoseconds => { s with now := s.now + nanoseconds }

/-- Many uses. -/
def run (s : Timed K V) (uses : List (Use K V)) : Timed K V := uses.foldl step s

theorem regular_step {settings : Settings} {s : Timed K V} (h : s.cache.Regular settings)
    (u : Use K V) : (s.step u).cache.Regular settings := by
  cases u with
  | put key value => exact h.put s.now key value
  | get key => exact h.get s.now key
  | clear => exact h.clear
  | advance nanoseconds => exact h

end Timed
end Cache
end PatronGateway
