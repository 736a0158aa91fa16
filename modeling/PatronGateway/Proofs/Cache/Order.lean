import PatronGateway.Proofs.Cache.Run

/-!
# How the entries of a cache stand

The entries of a cache stand in the order in which they were inserted.  That is so only
because a new entry never takes the place of an old one of its key: an old one that has
expired is pruned before the new one is put at the end, and an old one that is alive keeps
the new one out.

* `WellFormed` is the invariant: on top of `Regular`, the entries are ordered by the moments
  of their insertion, none of which lies ahead, and each lives as long as the settings say.
* `exists_others_of_inserts` says what stands beside an entry that has just been inserted.
* `run_wellFormed` puts that together for every run of an empty cache.
-/

namespace PatronGateway
namespace Cache

variable {K V : Type} [DecidableEq K]

namespace Timed

/-- What every reachable cache is like at the moment that it is. -/
structure WellFormed (settings : Settings) (s : Timed K V) : Prop where
  regular : s.cache.Regular settings
  ordered : s.cache.entries.Pairwise fun p q => p.2.insertedAt ≤ q.2.insertedAt
  past : ∀ p ∈ s.cache.entries, p.2.insertedAt ≤ s.now
  ttl_eq : ∀ p ∈ s.cache.entries, p.2.ttl = settings.lifetime p.2.value

namespace WellFormed

variable {settings : Settings} {s : Timed K V}

omit [DecidableEq K] in
theorem start (settings : Settings) (now : Moment) :
    (start settings now : Timed K V).WellFormed settings where
  regular := Bounded.Regular.empty settings
  ordered := List.Pairwise.nil
  past p hp := by cases hp
  ttl_eq p hp := by cases hp

/-- Beside an entry that has just been inserted stand live entries of other keys, which have
been there before. -/
theorem exists_others_of_inserts (h : s.WellFormed settings) {key : K} {value : Option V}
    (hinserts : s.cache.Inserts s.now key value) :
    ∃ others, (s.step (.put key value)).cache.entries =
        others ++ [(key, ⟨value, s.now, settings.lifetime value⟩)] ∧
      others.Sublist s.cache.entries ∧
      ∀ p ∈ others, p.1 ≠ key ∧ p.2.isExpired s.now = false := by
  have hmiss := Bounded.inserts_iff.mp hinserts
  obtain ⟨others, hsub, hothers, hentries⟩ :=
    Bounded.exists_others_of_miss h.regular.keys_nodup hmiss value
  rw [h.regular.ttlFor_eq value] at hentries
  refine ⟨others, hentries, hsub.trans List.filter_sublist, fun p hp => ⟨hothers p hp, ?_⟩⟩
  obtain ⟨-, hlives⟩ := List.mem_filter.mp (hsub.subset hp)
  rw [Entry.isExpired_eq_not_lives, hlives]
  rfl

/-- A put that finds a live entry of its key changes nothing. -/
theorem put_of_alive (h : s.WellFormed settings) {p : K × Entry V}
    (hmem : p ∈ s.cache.entries) (halive : p.2.isExpired s.now = false) (value : Option V) :
    s.step (.put p.1 value) = s := by
  have hlives : p.2.lives s.now = true := by
    simpa [Entry.isExpired_eq_not_lives] using halive
  have hlive := (Bounded.live?_eq_some_iff h.regular.keys_nodup).mpr ⟨hmem, hlives⟩
  show { s with cache := (s.cache.put s.now p.1 value).2 } = s
  rw [Bounded.put_of_live? hlive]

/-- A put keeps the order, for no entry is younger than the moment that it is. -/
theorem put (h : s.WellFormed settings) (key : K) (value : Option V) :
    (s.step (.put key value)).WellFormed settings := by
  cases hlive : s.cache.live? s.now key with
  | some e =>
      obtain ⟨hmem, halive⟩ := Bounded.mem_of_live? hlive
      rw [h.put_of_alive hmem halive value]
      exact h
  | none =>
      obtain ⟨others, hentries, hsub, -⟩ :=
        h.exists_others_of_inserts (Bounded.inserts_iff.mpr hlive)
      refine ⟨h.regular.put s.now key value, ?_, ?_, ?_⟩
      · rw [hentries]
        refine List.pairwise_append.mpr ⟨h.ordered.sublist hsub, List.pairwise_singleton _ _, ?_⟩
        intro p hp q hq
        rw [List.mem_singleton.mp hq]
        exact h.past p (hsub.subset hp)
      · intro p hp
        rw [hentries] at hp
        rcases List.mem_append.mp hp with hold | hnew
        · exact h.past p (hsub.subset hold)
        · rw [List.mem_singleton.mp hnew]
          exact Nat.le_refl s.now
      · intro p hp
        rw [hentries] at hp
        rcases List.mem_append.mp hp with hold | hnew
        · exact h.ttl_eq p (hsub.subset hold)
        · rw [List.mem_singleton.mp hnew]

theorem step (h : s.WellFormed settings) (u : Use K V) : (s.step u).WellFormed settings := by
  cases u with
  | put key value => exact h.put key value
  | get key => exact ⟨h.regular.get s.now key, h.ordered, h.past, h.ttl_eq⟩
  | clear =>
      refine ⟨h.regular.clear, List.Pairwise.nil, ?_, ?_⟩
      · intro p hp
        cases hp
      · intro p hp
        cases hp
  | advance nanoseconds =>
      exact ⟨h.regular, h.ordered, fun p hp => Nat.le_trans (h.past p hp) (Nat.le_add_right _ _),
        h.ttl_eq⟩

theorem run (h : s.WellFormed settings) (uses : List (Use K V)) :
    (s.run uses).WellFormed settings := by
  induction uses generalizing s with
  | nil => exact h
  | cons u rest ih => exact ih (h.step u)

end WellFormed

/-- What the entries of a cache are like, whatever the cache has gone through, for every
capacity and both lifetimes, zero included.  Keys are distinct, there are not too many
entries, they are ordered by the moments of their insertion, none of which lies ahead, and
each has the lifetime that goes with its value.  An entry that has just been inserted is the
last one and the only one of its key, and no other one has expired.  A put that finds a live
entry of its key, and every lookup, leaves the entries as they are. -/
theorem run_wellFormed (settings : Settings) (now : Moment) (uses : List (Use K V)) :
    let s := (start settings now).run uses
    (s.cache.entries.map Prod.fst).Nodup ∧
    s.cache.entries.length ≤ max settings.capacity 1 ∧
    s.cache.entries.Pairwise (fun p q => p.2.insertedAt ≤ q.2.insertedAt) ∧
    (∀ p ∈ s.cache.entries, p.2.insertedAt ≤ s.now) ∧
    (∀ p ∈ s.cache.entries,
      p.2.ttl = if p.2.value.isSome then settings.presentTtl else settings.absentTtl) ∧
    (∀ key value, s.cache.Inserts s.now key value →
      ∃ others, (s.step (.put key value)).cache.entries =
          others ++ [(key, ⟨value, s.now, settings.lifetime value⟩)] ∧
        others.Sublist s.cache.entries ∧
        ∀ p ∈ others, p.1 ≠ key ∧ p.2.isExpired s.now = false) ∧
    (∀ p ∈ s.cache.entries, p.2.isExpired s.now = false →
      ∀ value, (s.step (.put p.1 value)).cache.entries = s.cache.entries) ∧
    ∀ key, (s.step (.get key)).cache.entries = s.cache.entries := by
  intro s
  have h : s.WellFormed settings := (WellFormed.start settings now).run uses
  refine ⟨h.regular.keys_nodup, ?_, h.ordered, h.past, h.ttl_eq, ?_, ?_, ?_⟩
  · rw [← h.regular.capacity_eq]
    exact h.regular.length_le
  · exact fun key value hinserts => h.exists_others_of_inserts hinserts
  · intro p hmem halive value
    rw [h.put_of_alive hmem halive value]
  · exact fun key => rfl

end Timed
end Cache
end PatronGateway
