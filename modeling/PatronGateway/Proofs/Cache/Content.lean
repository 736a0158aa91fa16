import PatronGateway.Proofs.Cache.Run

/-!
# What a slot holds

A lookup changes what a cache counts and nothing else, and what a put leaves behind does not
hang on what has been counted.  So a cache may be looked up before a put, and the entries after
it are the same.

* `entries?` is what a slot holds, and `Alike` says that two slots differ at most in what their
  caches have counted.  `Alike.put` keeps that over a put.
* `Distinct` says that no key has two entries, which every use keeps.
* `get_put_of_miss` says what a lookup finds right after a put.
-/

namespace PatronGateway
namespace Cache

open Time (Span)

variable {K V : Type}

namespace Bounded

/-- Two caches differ at most in what they have counted. -/
structure Alike (c c' : Bounded K V) : Prop where
  capacity_eq : c.capacity = c'.capacity
  presentTtl_eq : c.presentTtl = c'.presentTtl
  absentTtl_eq : c.absentTtl = c'.absentTtl
  entries_eq : c.entries = c'.entries

namespace Alike

variable {c c' : Bounded K V}

theorem refl (c : Bounded K V) : c.Alike c := ⟨rfl, rfl, rfl, rfl⟩

theorem ttlFor_eq (h : c.Alike c') (value : Option V) : c.ttlFor value = c'.ttlFor value := by
  unfold ttlFor
  rw [h.presentTtl_eq, h.absentTtl_eq]

variable [DecidableEq K]

theorem live?_eq (h : c.Alike c') (now : Moment) (key : K) :
    c.live? now key = c'.live? now key := by
  unfold live? entry?
  rw [h.entries_eq]

theorem put (h : c.Alike c') (now : Moment) (key : K) (value : Option V) :
    (c.put now key value).2.Alike (c'.put now key value).2 := by
  have hlive := h.live?_eq now key
  cases hfound : c'.live? now key with
  | some e =>
      rw [put_of_live? hfound, put_of_live? (hlive.trans hfound)]
      exact h
  | none =>
      constructor
      · rw [capacity_put, capacity_put, h.capacity_eq]
      · rw [(lifetimes_put c now key value).1, (lifetimes_put c' now key value).1,
          h.presentTtl_eq]
      · rw [(lifetimes_put c now key value).2, (lifetimes_put c' now key value).2,
          h.absentTtl_eq]
      · rw [entries_put_of_miss hfound, entries_put_of_miss (hlive.trans hfound), h.entries_eq,
          h.capacity_eq, h.ttlFor_eq]

end Alike
end Bounded

namespace Slot

/-- The entries of the cache, if it is there. -/
def entries? (s : Slot K V) : Option (List (K × Entry V)) := s.cache.map fun c => c.entries

/-- Two slots differ at most in what their caches have counted. -/
def Alike (s s' : Slot K V) : Prop := Option.Rel Bounded.Alike s.cache s'.cache

/-- No key has two entries. -/
def Distinct (s : Slot K V) : Prop :=
  ∀ c, s.cache = some c → (c.entries.map Prod.fst).Nodup

theorem Distinct.install (s : Slot K V) (settings : Settings) : (s.install settings).Distinct := by
  intro c hc
  obtain rfl := Option.some.inj hc
  exact List.nodup_nil

theorem Alike.refl (s : Slot K V) : s.Alike s := by
  unfold Alike
  cases s.cache with
  | none => exact Option.Rel.none
  | some c => exact Option.Rel.some (Bounded.Alike.refl c)

theorem Alike.entries?_eq {s s' : Slot K V} (h : s.Alike s') : s.entries? = s'.entries? := by
  unfold Alike at h
  unfold entries?
  generalize s.cache = cache at h
  generalize s'.cache = cache' at h
  cases h with
  | some hcaches => exact congrArg Option.some hcaches.entries_eq
  | none => rfl

variable [DecidableEq K]

theorem get_alike (s : Slot K V) (now : Moment) (key : K) : (s.get now key).2.Alike s := by
  obtain ⟨name, cache⟩ := s
  cases cache with
  | none => exact Option.Rel.none
  | some c => exact Option.Rel.some ⟨rfl, rfl, rfl, rfl⟩

theorem Alike.get_eq_ok_iff {s s' : Slot K V} (h : s.Alike s') {now : Moment} {key : K}
    {found : Lookup V} : (s.get now key).1 = .ok found ↔ (s'.get now key).1 = .ok found := by
  obtain ⟨name, cache⟩ := s
  obtain ⟨name', cache'⟩ := s'
  cases h with
  | some hcaches =>
      rename_i c c'
      show Except.ok (c.peek now key) = _ ↔ Except.ok (c'.peek now key) = _
      unfold Bounded.peek
      rw [hcaches.live?_eq]
  | none => exact iff_of_false (fun h => by cases h) (fun h => by cases h)

theorem Alike.put {s s' : Slot K V} (h : s.Alike s') (now : Moment) (key : K)
    (value : Option V) : (s.put now key value).2.Alike (s'.put now key value).2 := by
  obtain ⟨name, cache⟩ := s
  obtain ⟨name', cache'⟩ := s'
  cases h with
  | some hcaches => exact Option.Rel.some (hcaches.put now key value)
  | none => exact Option.Rel.none

theorem Distinct.get {s : Slot K V} (h : s.Distinct) (now : Moment) (key : K) :
    (s.get now key).2.Distinct := by
  obtain ⟨name, cache⟩ := s
  cases cache with
  | none => exact h
  | some c =>
      intro c' hc'
      obtain rfl := Option.some.inj hc'
      exact h c rfl

theorem Distinct.put {s : Slot K V} (h : s.Distinct) (now : Moment) (key : K)
    (value : Option V) : (s.put now key value).2.Distinct := by
  obtain ⟨name, cache⟩ := s
  cases cache with
  | none => exact h
  | some c =>
      intro c' hc'
      obtain rfl := Option.some.inj hc'
      exact Bounded.keys_nodup_put (h c rfl) now key value

/-- What a put has brought is found at once, unless it does not live at all. -/
theorem get_put_of_miss {s : Slot K V} (h : s.Distinct) {now : Moment} {key : K}
    (hmiss : (s.get now key).1 = .ok .miss) {value : V} {c : Bounded K V}
    (hcache : (s.put now key (some value)).2.cache = some c)
    (hlifetime : 0 < c.presentTtl.nanoseconds) :
    ((s.put now key (some value)).2.get now key).1 = .ok (.hit value) := by
  obtain ⟨name, cache⟩ := s
  cases cache with
  | none => cases hmiss
  | some old =>
      have hlive : old.live? now key = none := Bounded.peek_eq_miss_iff.mp (Except.ok.inj hmiss)
      obtain rfl : (old.put now key (some value)).2 = c := Option.some.inj hcache
      rw [(Bounded.lifetimes_put old now key (some value)).1] at hlifetime
      have hfound : (old.put now key (some value)).2.live? now key =
          some ⟨some value, now, old.ttlFor (some value)⟩ :=
        Bounded.live?_put_of_miss (h old rfl) hlive hlifetime
      exact congrArg Except.ok (Bounded.peek_eq_hit_iff.mpr ⟨_, hfound, rfl⟩)

end Slot
end Cache
end PatronGateway
