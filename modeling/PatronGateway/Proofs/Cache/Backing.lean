import PatronGateway.Cache.Slot

/-!
# What backs the entries of a cache

Whatever a cache says about a key has been put there, and not too long ago.  This
module keeps track of that for an arbitrary record of what was put: a cache is *backed*
by a record if every entry stands in it with its value and its moment, and lives as
long as the settings allow.

* `Backed.empty`, `Backed.get` and `Backed.put` say that a cache stays backed, as long
  as the record notes a put wherever the cache knows nothing of the key.
* `Backed.noted_of_hit` and `Backed.noted_of_knownAbsent` say what a lookup in a backed
  cache shows.

The same is then said of slots, whose cache may be missing.
-/

namespace PatronGateway
namespace Cache

open Time (Span)

/-- How long an entry with a value, or one without, lives. -/
def Settings.lifetime {V : Type} (s : Settings) (value : Option V) : Span :=
  if value.isSome then s.presentTtl else s.absentTtl

/-- An entry that is looked at some time after it was put is alive if its lifetime is
longer than that. -/
theorem Entry.isExpired_eq_false_iff {V : Type} (now : Moment) (e : Entry V) :
    e.isExpired now = false ↔
      now - e.insertedAt < e.ttl.nanoseconds := by
  unfold Entry.isExpired Entry.age
  rw [decide_eq_false_iff_not, Nat.not_le]

namespace Bounded

variable {K V : Type}

/-- A cache with given settings whose entries all stand in a record. -/
structure Backed (c : Bounded K V) (settings : Settings)
    (noted : K → Option V → Moment → Prop) : Prop where
  presentTtl_eq : c.presentTtl = settings.presentTtl
  absentTtl_eq : c.absentTtl = settings.absentTtl
  noted_of_mem : ∀ p ∈ c.entries, noted p.1 p.2.value p.2.insertedAt
  ttl_of_mem : ∀ p ∈ c.entries, p.2.ttl = settings.lifetime p.2.value

/-- Making room only drops entries. -/
theorem mem_of_mem_makeRoom {c : Bounded K V} {p : K × Entry V}
    (h : p ∈ c.makeRoom.entries) : p ∈ c.entries := by
  unfold makeRoom at h
  split at h
  · exact h
  · cases hentries : c.entries with
    | nil => simp [hentries] at h
    | cons first rest =>
        simp only [hentries] at h
        exact List.mem_cons_of_mem _ h

theorem lifetimes_makeRoom (c : Bounded K V) :
    c.makeRoom.presentTtl = c.presentTtl ∧ c.makeRoom.absentTtl = c.absentTtl := by
  unfold makeRoom
  split
  · exact ⟨rfl, rfl⟩
  · split <;> exact ⟨rfl, rfl⟩

namespace Backed

variable {c : Bounded K V} {settings : Settings} {noted other : K → Option V → Moment → Prop}

/-- A cache that has just been installed is backed by any record. -/
theorem empty (settings : Settings) (noted : K → Option V → Moment → Prop) :
    (Bounded.empty settings : Bounded K V).Backed settings noted where
  presentTtl_eq := rfl
  absentTtl_eq := rfl
  noted_of_mem := by intro p hp; cases hp
  ttl_of_mem := by intro p hp; cases hp

/-- A record may grow. -/
theorem mono (h : c.Backed settings noted)
    (hsub : ∀ key value moment, noted key value moment → other key value moment) :
    c.Backed settings other where
  presentTtl_eq := h.presentTtl_eq
  absentTtl_eq := h.absentTtl_eq
  noted_of_mem p hp := hsub _ _ _ (h.noted_of_mem p hp)
  ttl_of_mem := h.ttl_of_mem

theorem ttlFor_eq (h : c.Backed settings noted) (value : Option V) :
    c.ttlFor value = settings.lifetime value := by
  unfold Bounded.ttlFor Settings.lifetime
  rw [h.presentTtl_eq, h.absentTtl_eq]

end Backed

variable [DecidableEq K]

/-- A live entry is one of the entries, and it has not expired. -/
theorem mem_of_live? {c : Bounded K V} {now : Moment} {key : K} {e : Entry V}
    (h : c.live? now key = some e) : (key, e) ∈ c.entries ∧ e.isExpired now = false := by
  obtain ⟨hlookup, halive⟩ := Option.filter_eq_some_iff.mp h
  refine ⟨?_, by simpa using halive⟩
  obtain ⟨before, after, hentries, -⟩ := List.lookup_eq_some_iff.mp hlookup
  rw [hentries]
  simp

theorem live?_of_peek_hit {c : Bounded K V} {now : Moment} {key : K} {value : V}
    (h : c.peek now key = .hit value) :
    ∃ e, c.live? now key = some e ∧ e.value = some value := by
  unfold peek at h
  cases hlive : c.live? now key with
  | none =>
      rw [hlive] at h
      cases h
  | some e =>
      rw [hlive] at h
      cases hvalue : e.value with
      | none => simp [hvalue] at h
      | some v =>
          obtain rfl : v = value := by simpa [hvalue] using h
          exact ⟨e, rfl, hvalue⟩

theorem live?_of_peek_knownAbsent {c : Bounded K V} {now : Moment} {key : K}
    (h : c.peek now key = .knownAbsent) :
    ∃ e, c.live? now key = some e ∧ e.value = none := by
  unfold peek at h
  cases hlive : c.live? now key with
  | none =>
      rw [hlive] at h
      cases h
  | some e =>
      rw [hlive] at h
      cases hvalue : e.value with
      | none => exact ⟨e, rfl, hvalue⟩
      | some v => simp [hvalue] at h

theorem peek_eq_miss_iff {c : Bounded K V} {now : Moment} {key : K} :
    c.peek now key = .miss ↔ c.live? now key = none := by
  unfold peek
  cases c.live? now key with
  | none => simp
  | some e => cases hvalue : e.value <;> simp [hvalue]

/-- The entries after a put were there before, or the put has brought them because the
cache knew nothing of the key. -/
theorem mem_entries_put {c : Bounded K V} {now : Moment} {key : K} {value : Option V}
    {p : K × Entry V} (h : p ∈ (c.put now key value).2.entries) :
    p ∈ c.entries ∨
      (c.peek now key = .miss ∧ p = (key, ⟨value, now, c.ttlFor value⟩)) := by
  unfold put at h
  cases hlive : c.live? now key with
  | some e =>
      rw [hlive] at h
      exact Or.inl h
  | none =>
      -- what is dropped for the new entry only makes the old part shorter
      rw [hlive] at h
      rcases List.mem_append.mp h with hold | hnew
      · have hkept : p ∈ (c.prune now).entries := mem_of_mem_makeRoom hold
        exact Or.inl (List.mem_filter.mp hkept).1
      · exact Or.inr ⟨peek_eq_miss_iff.mpr hlive, by simpa using hnew⟩

theorem lifetimes_put (c : Bounded K V) (now : Moment) (key : K) (value : Option V) :
    (c.put now key value).2.presentTtl = c.presentTtl ∧
      (c.put now key value).2.absentTtl = c.absentTtl := by
  unfold put
  split
  · exact ⟨rfl, rfl⟩
  · exact lifetimes_makeRoom (c.prune now)

namespace Backed

variable {c : Bounded K V} {settings : Settings} {noted : K → Option V → Moment → Prop}

/-- Lookups change no entry. -/
theorem get (h : c.Backed settings noted) (now : Moment) (key : K) :
    (c.get now key).2.Backed settings noted where
  presentTtl_eq := h.presentTtl_eq
  absentTtl_eq := h.absentTtl_eq
  noted_of_mem := h.noted_of_mem
  ttl_of_mem := h.ttl_of_mem

/-- A put keeps a cache backed if the record notes it; it need not where the cache
knows the key already. -/
theorem put (h : c.Backed settings noted) {now : Moment} {key : K} {value : Option V}
    (hnoted : c.peek now key = .miss → noted key value now) :
    (c.put now key value).2.Backed settings noted where
  presentTtl_eq := (lifetimes_put c now key value).1.trans h.presentTtl_eq
  absentTtl_eq := (lifetimes_put c now key value).2.trans h.absentTtl_eq
  noted_of_mem p hp := by
    rcases mem_entries_put hp with hold | ⟨hmiss, rfl⟩
    · exact h.noted_of_mem p hold
    · exact hnoted hmiss
  ttl_of_mem p hp := by
    rcases mem_entries_put hp with hold | ⟨-, rfl⟩
    · exact h.ttl_of_mem p hold
    · exact h.ttlFor_eq value

/-- A live entry of a backed cache was put within its lifetime. -/
theorem noted_of_live? (h : c.Backed settings noted) {now : Moment} {key : K} {e : Entry V}
    (hlive : c.live? now key = some e) :
    noted key e.value e.insertedAt ∧
      now - e.insertedAt <
        (settings.lifetime e.value).nanoseconds := by
  obtain ⟨hmem, halive⟩ := mem_of_live? hlive
  refine ⟨h.noted_of_mem _ hmem, ?_⟩
  rw [← h.ttl_of_mem _ hmem]
  exact (Entry.isExpired_eq_false_iff now e).mp halive

/-- What a backed cache gives was put under its key within the lifetime of values. -/
theorem noted_of_hit (h : c.Backed settings noted) {now : Moment} {key : K} {value : V}
    (hhit : c.peek now key = .hit value) :
    ∃ moment, noted key (some value) moment ∧
      now - moment < settings.presentTtl.nanoseconds := by
  obtain ⟨e, hlive, hvalue⟩ := live?_of_peek_hit hhit
  have hnoted := h.noted_of_live? hlive
  rw [hvalue] at hnoted
  exact ⟨e.insertedAt, hnoted⟩

/-- What a backed cache knows to be absent was put so within the lifetime of such
knowledge. -/
theorem noted_of_knownAbsent (h : c.Backed settings noted) {now : Moment} {key : K}
    (habsent : c.peek now key = .knownAbsent) :
    ∃ moment, noted key none moment ∧
      now - moment < settings.absentTtl.nanoseconds := by
  obtain ⟨e, hlive, hvalue⟩ := live?_of_peek_knownAbsent habsent
  have hnoted := h.noted_of_live? hlive
  rw [hvalue] at hnoted
  exact ⟨e.insertedAt, hnoted⟩

end Backed
end Bounded

namespace Slot

variable {K V : Type}

/-- A slot whose cache, if it is there, is backed. -/
def Backed (s : Slot K V) (settings : Settings) (noted : K → Option V → Moment → Prop) : Prop :=
  ∀ c, s.cache = some c → c.Backed settings noted

namespace Backed

variable {s : Slot K V} {settings : Settings} {noted other : K → Option V → Moment → Prop}

theorem of_none (h : s.cache = none) : s.Backed settings noted := by
  intro c hc
  rw [h] at hc
  cases hc

theorem install (s : Slot K V) (settings : Settings) (noted : K → Option V → Moment → Prop) :
    (s.install settings).Backed settings noted := by
  intro c hc
  obtain rfl := Option.some.inj hc
  exact Bounded.Backed.empty settings noted

theorem mono (h : s.Backed settings noted)
    (hsub : ∀ key value moment, noted key value moment → other key value moment) :
    s.Backed settings other :=
  fun c hc => (h c hc).mono hsub

variable [DecidableEq K]

theorem get (h : s.Backed settings noted) (now : Moment) (key : K) :
    (s.get now key).2.Backed settings noted := by
  unfold Slot.get
  cases hcache : s.cache with
  | none => exact of_none hcache
  | some c =>
      intro c' hc'
      obtain rfl := Option.some.inj hc'
      exact (h c hcache).get now key

/-- A put keeps a slot backed if the record notes it; it need not unless a lookup finds
the key missing. -/
theorem put (h : s.Backed settings noted) {now : Moment} {key : K} {value : Option V}
    (hnoted : (s.get now key).1 = .ok .miss → noted key value now) :
    (s.put now key value).2.Backed settings noted := by
  unfold Slot.put
  unfold Slot.get at hnoted
  cases hcache : s.cache with
  | none => exact of_none hcache
  | some c =>
      rw [hcache] at hnoted
      intro c' hc'
      obtain rfl := Option.some.inj hc'
      exact (h c hcache).put fun hmiss => hnoted (by simp [Bounded.get, hmiss])

theorem noted_of_hit (h : s.Backed settings noted) {now : Moment} {key : K} {value : V}
    (hhit : (s.get now key).1 = .ok (.hit value)) :
    ∃ moment, noted key (some value) moment ∧
      now - moment < settings.presentTtl.nanoseconds := by
  unfold Slot.get at hhit
  cases hcache : s.cache with
  | none =>
      rw [hcache] at hhit
      cases hhit
  | some c =>
      rw [hcache] at hhit
      exact (h c hcache).noted_of_hit (Except.ok.inj hhit)

theorem noted_of_knownAbsent (h : s.Backed settings noted) {now : Moment} {key : K}
    (habsent : (s.get now key).1 = .ok .knownAbsent) :
    ∃ moment, noted key none moment ∧
      now - moment < settings.absentTtl.nanoseconds := by
  unfold Slot.get at habsent
  cases hcache : s.cache with
  | none =>
      rw [hcache] at habsent
      cases habsent
  | some c =>
      rw [hcache] at habsent
      exact (h c hcache).noted_of_knownAbsent (Except.ok.inj habsent)

end Backed

variable [DecidableEq K]

/-- Lookups and puts neither bring a cache nor take it away. -/
@[simp] theorem isInitialized_get (s : Slot K V) (now : Moment) (key : K) :
    (s.get now key).2.isInitialized = s.isInitialized := by
  unfold Slot.get isInitialized
  cases hcache : s.cache <;> simp [hcache]

@[simp] theorem isInitialized_put (s : Slot K V) (now : Moment) (key : K) (value : Option V) :
    (s.put now key value).2.isInitialized = s.isInitialized := by
  unfold Slot.put isInitialized
  cases hcache : s.cache <;> simp [hcache]

/-- Looking a key up fails only where there is no cache. -/
theorem get_of_isInitialized_false {s : Slot K V} (h : s.isInitialized = false) (now : Moment)
    (key : K) : s.get now key = (.error ⟨s.name⟩, s) := by
  have hcache : s.cache = none := by simpa [isInitialized] using h
  unfold get
  rw [hcache]

theorem isInitialized_of_get_error {s : Slot K V} {now : Moment} {key : K} {e : Uninitialized}
    (h : (s.get now key).1 = .error e) : (s.get now key).2.isInitialized = false := by
  rw [isInitialized_get]
  unfold get at h
  unfold isInitialized
  cases hcache : s.cache with
  | none => rfl
  | some c =>
      rw [hcache] at h
      cases h

/-- A put changes nothing unless a lookup finds the key missing. -/
theorem put_eq_self {s : Slot K V} {now : Moment} {key : K} (value : Option V)
    (h : (s.get now key).1 ≠ .ok .miss) : (s.put now key value).2 = s := by
  obtain ⟨name, cache⟩ := s
  cases cache with
  | none => rfl
  | some c =>
      cases hlive : c.live? now key with
      | none => exact absurd (congrArg Except.ok (Bounded.peek_eq_miss_iff.mpr hlive)) h
      | some e =>
          have hput : (c.put now key value).2 = c := by
            unfold Bounded.put
            rw [hlive]
          show (⟨name, some (c.put now key value).2⟩ : Slot K V) = _
          rw [hput]

end Slot
end Cache
end PatronGateway
