import PatronGateway.Proofs.Cache.Order

/-!
# What a cache counts

An entry comes into a cache by a put that inserts, and it leaves the cache in one of three
ways: it is found to have expired when another one is inserted, it is the oldest one and gives
way, or the cache is cleared.  The counters of a cache count just that, and what is looked up.

* `arrivals` and `departures` are the entries that a use brings in and sends away, and `Due`
  says when an entry may leave for which cause.
* `Balanced` is the invariant: whatever has come in is still there or has left, and the counters
  say how often each has happened.  `Balanced.step` keeps it over a use.
* `entries_and_counts_conserved` puts that together for every run of an empty cache.
-/

namespace PatronGateway
namespace Cache

/-- Why an entry leaves a cache. -/
inductive Cause where
  | expiry
  | eviction
  | clearing
  deriving DecidableEq, Repr

/-- An entry leaves a cache. -/
structure Departure (K V : Type) where
  cause : Cause
  entry : K × Entry V

/-- Whether a use looks something up. -/
def Use.isGet {K V : Type} : Use K V → Bool
  | .get _ => true
  | _ => false

/-- All departures have one of three causes. -/
theorem length_eq_countP_cause {K V : Type} (left : List (Departure K V)) :
    left.length = left.countP (fun d => d.cause = .eviction) +
      left.countP (fun d => d.cause = .expiry) + left.countP (fun d => d.cause = .clearing) := by
  induction left with
  | nil => rfl
  | cons d rest ih =>
      simp only [List.length_cons, List.countP_cons, ih]
      cases d.cause <;> simp <;> omega

/-- All entries that leave for one cause are counted for it. -/
theorem countP_cause_map {K V : Type} (cause cause' : Cause) (ps : List (K × Entry V)) :
    (ps.map (Departure.mk cause)).countP (fun d => d.cause = cause') =
      if cause = cause' then ps.length else 0 := by
  rw [List.countP_map]
  split
  next hsame => exact List.countP_eq_length.mpr fun p _ => by simpa using hsame
  next hother => exact List.countP_eq_zero.mpr fun p _ => by simpa using hother

/-- A lookup counts as one, and as nothing else. -/
theorem Counters.record_spec {V : Type} (c : Counters) (found : Lookup V) :
    (c.record found).insertions = c.insertions ∧ (c.record found).evictions = c.evictions ∧
      (c.record found).expirations = c.expirations ∧
      (c.record found).hits + (c.record found).absentHits + (c.record found).misses =
        c.hits + c.absentHits + c.misses + 1 := by
  cases found with
  | hit value => exact ⟨rfl, rfl, rfl, by simp only [record]; omega⟩
  | knownAbsent => exact ⟨rfl, rfl, rfl, by simp only [record]; omega⟩
  | miss => exact ⟨rfl, rfl, rfl, by simp only [record]; omega⟩

theorem map_entry_map {K V : Type} (cause : Cause) (ps : List (K × Entry V)) :
    (ps.map (Departure.mk cause)).map Departure.entry = ps := by
  simp [Function.comp_def]

/-- What comes in stands behind what stays, and what goes stands behind what has left. -/
theorem move_perm {α : Type} (kept gone left : List α) (new : α) :
    (kept ++ gone ++ left ++ [new]).Perm (kept ++ [new] ++ (left ++ gone)) := by
  simp only [List.append_assoc]
  refine List.Perm.append_left kept ?_
  calc gone ++ (left ++ [new])
      |>.Perm (left ++ [new] ++ gone) := List.perm_append_comm
    _ |>.Perm ([new] ++ left ++ gone) := List.perm_append_comm.append_right gone
    _ = [new] ++ (left ++ gone) := List.append_assoc _ _ _

namespace Bounded

variable {K V : Type}

/-- The entries that have expired. -/
def dead (c : Bounded K V) (now : Moment) : List (K × Entry V) :=
  c.entries.filter fun p => p.2.isExpired now

/-- The entries that have not expired. -/
def alive (c : Bounded K V) (now : Moment) : List (K × Entry V) :=
  c.entries.filter fun p => !p.2.isExpired now

/-- The entry that gives way to a new one: the oldest live one, if the live ones fill the
cache. -/
def crowdedOut (c : Bounded K V) (now : Moment) : List (K × Entry V) :=
  if (c.alive now).length < c.capacity then [] else (c.alive now).take 1

theorem dead_append_alive_perm (c : Bounded K V) (now : Moment) :
    (c.dead now ++ c.alive now).Perm c.entries :=
  List.filter_append_perm _ _

theorem length_alive_add_dead (c : Bounded K V) (now : Moment) :
    (c.alive now).length + (c.dead now).length = c.entries.length := by
  have hlength := (c.dead_append_alive_perm now).length_eq
  rw [List.length_append] at hlength
  omega

/-- What makes room drops is counted as evicted. -/
theorem makeRoom_eq (c : Bounded K V) :
    let given := if c.entries.length < c.capacity then [] else c.entries.take 1
    c.makeRoom.counters =
      { c.counters with evictions := c.counters.evictions + given.length } ∧
    c.entries = given ++ c.makeRoom.entries := by
  unfold makeRoom
  split
  next hroom => simp
  next hfull => cases hentries : c.entries <;> simp [hentries]

/-- In a cache that does not hold too many entries, one gives way only if all of them are alive
and fill the cache, and it is the first of them. -/
theorem entries_of_mem_crowdedOut {c : Bounded K V} {now : Moment} {p : K × Entry V}
    (hle : c.entries.length ≤ c.capacity) (h : p ∈ c.crowdedOut now) :
    ∃ others, c.entries = p :: others ∧ c.entries.length = c.capacity ∧
      ∀ q ∈ c.entries, q.2.isExpired now = false := by
  unfold crowdedOut at h
  split at h
  next hroom => cases h
  next hfull =>
      have halive : (c.alive now).length ≤ c.entries.length := List.length_filter_le _ _
      have hlength : (c.alive now).length = c.entries.length := by omega
      have hall : ∀ q ∈ c.entries, q.2.isExpired now = false := by
        simpa using List.length_filter_eq_length_iff.mp hlength
      have hsame : c.alive now = c.entries := List.filter_eq_self.mpr (by simpa using hall)
      rw [hsame] at h
      cases hentries : c.entries with
      | nil =>
          rw [hentries] at h
          cases h
      | cons first others =>
          rw [hentries] at h
          obtain rfl : p = first := by simpa using h
          rw [← hentries]
          exact ⟨others, hentries, by omega, hall⟩

variable [DecidableEq K]

/-- A put that inserts counts itself, the entries that have expired and the one that gives
way. -/
theorem counters_put_of_miss {c : Bounded K V} {now : Moment} {key : K}
    (h : c.live? now key = none) (value : Option V) :
    (c.put now key value).2.counters =
      { hits := c.counters.hits
        absentHits := c.counters.absentHits
        misses := c.counters.misses
        insertions := c.counters.insertions + 1
        evictions := c.counters.evictions + (c.crowdedOut now).length
        expirations := c.counters.expirations + (c.dead now).length } := by
  have hcounters : (c.put now key value).2.counters =
      { (c.prune now).makeRoom.counters with
        insertions := (c.prune now).makeRoom.counters.insertions + 1 } := by
    unfold put
    rw [h]
    rfl
  have hpruned : (c.prune now).counters =
      { c.counters with expirations := c.counters.expirations + (c.dead now).length } := by
    have hlength := c.length_alive_add_dead now
    have hdead : c.entries.length - (c.alive now).length = (c.dead now).length := by omega
    rw [← hdead]
    rfl
  rw [hcounters, (makeRoom_eq (c.prune now)).1, hpruned]
  rfl

/-- The entries before a put that inserts are those that have expired, the one that gives way
and those that stay, behind which the new one stands. -/
theorem entries_put_perm_of_miss {c : Bounded K V} {now : Moment} {key : K}
    (h : c.live? now key = none) (value : Option V) :
    ∃ kept, c.entries.Perm (kept ++ (c.dead now ++ c.crowdedOut now)) ∧
      (c.put now key value).2.entries = kept ++ [(key, (c.put now key value).1)] := by
  refine ⟨(c.prune now).makeRoom.entries, ?_, ?_⟩
  · have halive : c.alive now = c.crowdedOut now ++ (c.prune now).makeRoom.entries :=
      (makeRoom_eq (c.prune now)).2
    calc c.entries
        |>.Perm (c.dead now ++ c.alive now) := (c.dead_append_alive_perm now).symm
      _ = c.dead now ++ c.crowdedOut now ++ (c.prune now).makeRoom.entries := by
          rw [halive, List.append_assoc]
      _ |>.Perm ((c.prune now).makeRoom.entries ++ (c.dead now ++ c.crowdedOut now)) :=
          List.perm_append_comm
  · unfold put
    rw [h]
    rfl

end Bounded

namespace Timed

variable {K V : Type} [DecidableEq K]

/-- What comes of each use of a run, one behind the other. -/
def collect {α : Type} (f : Timed K V → Use K V → List α) : Timed K V → List (Use K V) → List α
  | _, [] => []
  | s, u :: rest => f s u ++ collect f (s.step u) rest

/-- Whatever a run comes to have has come of one of its uses. -/
theorem mem_collect_iff {α : Type} {f : Timed K V → Use K V → List α} {x : α} {s : Timed K V}
    {uses : List (Use K V)} :
    x ∈ collect f s uses ↔
      ∃ early u late, uses = early ++ u :: late ∧ x ∈ f (s.run early) u := by
  induction uses generalizing s with
  | nil => simp [collect]
  | cons first rest ih =>
      unfold collect
      rw [List.mem_append, ih]
      constructor
      · rintro (hfirst | ⟨early, u, late, rfl, hx⟩)
        · exact ⟨[], first, rest, rfl, hfirst⟩
        · exact ⟨first :: early, u, late, rfl, hx⟩
      · rintro ⟨early, u, late, huses, hx⟩
        cases early with
        | nil =>
            obtain ⟨rfl, rfl⟩ := List.cons.inj huses
            exact Or.inl hx
        | cons _ early =>
            obtain ⟨rfl, rfl⟩ := List.cons.inj huses
            exact Or.inr ⟨early, u, late, rfl, hx⟩

/-- The entry that a use brings in, if it is a put that inserts. -/
def arrivals (s : Timed K V) : Use K V → List (K × Entry V)
  | .put key value =>
    if s.cache.Inserts s.now key value then [(key, (s.cache.put s.now key value).1)] else []
  | .get _ => []
  | .clear => []
  | .advance _ => []

/-- The entries that a use sends away. -/
def departures (s : Timed K V) : Use K V → List (Departure K V)
  | .put key value =>
    if s.cache.Inserts s.now key value then
      (s.cache.dead s.now).map (Departure.mk .expiry) ++
        (s.cache.crowdedOut s.now).map (Departure.mk .eviction)
    else []
  | .get _ => []
  | .clear => s.cache.entries.map (Departure.mk .clearing)
  | .advance _ => []

theorem arrivals_put_of_miss {s : Timed K V} {key : K} (value : Option V)
    (h : s.cache.live? s.now key = none) :
    s.arrivals (.put key value) = [(key, (s.cache.put s.now key value).1)] :=
  if_pos (Bounded.inserts_iff.mpr h)

theorem departures_put_of_miss {s : Timed K V} {key : K} (value : Option V)
    (h : s.cache.live? s.now key = none) :
    s.departures (.put key value) =
      (s.cache.dead s.now).map (Departure.mk .expiry) ++
        (s.cache.crowdedOut s.now).map (Departure.mk .eviction) :=
  if_pos (Bounded.inserts_iff.mpr h)

/-- A put that finds a live entry brings nothing in and sends nothing away. -/
theorem moves_put_of_live? {s : Timed K V} {key : K} {e : Entry V} (value : Option V)
    (h : s.cache.live? s.now key = some e) :
    s.step (.put key value) = s ∧ s.arrivals (.put key value) = [] ∧
      s.departures (.put key value) = [] := by
  have hstays : ¬ s.cache.Inserts s.now key value := by
    rw [Bounded.inserts_iff, h]
    simp
  refine ⟨?_, if_neg hstays, if_neg hstays⟩
  show { s with cache := (s.cache.put s.now key value).2 } = s
  rw [Bounded.put_of_live? h]

/-- When an entry may leave, and for which cause: at a put, if it has expired, or if it is the
oldest of entries that fill the cache and have not expired; and when the cache is cleared. -/
inductive Due (s : Timed K V) : Use K V → Departure K V → Prop
  | expiry {key : K} {value : Option V} {p : K × Entry V} (hmem : p ∈ s.cache.entries)
      (hexpired : p.2.isExpired s.now = true) : Due s (.put key value) ⟨.expiry, p⟩
  | eviction {key : K} {value : Option V} {oldest : K × Entry V} {others : List (K × Entry V)}
      (hentries : s.cache.entries = oldest :: others)
      (hfull : s.cache.entries.length = s.cache.capacity)
      (halive : ∀ p ∈ s.cache.entries, p.2.isExpired s.now = false)
      (holdest : ∀ p ∈ others, oldest.2.insertedAt ≤ p.2.insertedAt) :
      Due s (.put key value) ⟨.eviction, oldest⟩
  | clearing {p : K × Entry V} (hmem : p ∈ s.cache.entries) : Due s .clear ⟨.clearing, p⟩

/-- Every entry that leaves is due. -/
theorem WellFormed.due_of_mem_departures {settings : Settings} {s : Timed K V}
    (h : s.WellFormed settings) {u : Use K V} {d : Departure K V} (hd : d ∈ s.departures u) :
    s.Due u d := by
  cases u with
  | put key value =>
      cases hlive : s.cache.live? s.now key with
      | some e =>
          rw [(moves_put_of_live? value hlive).2.2] at hd
          cases hd
      | none =>
          rw [departures_put_of_miss value hlive] at hd
          rcases List.mem_append.mp hd with hdead | hout
          · obtain ⟨p, hp, rfl⟩ := List.mem_map.mp hdead
            obtain ⟨hmem, hexpired⟩ := List.mem_filter.mp hp
            exact .expiry hmem hexpired
          · obtain ⟨p, hp, rfl⟩ := List.mem_map.mp hout
            obtain ⟨others, hentries, hfull, halive⟩ :=
              Bounded.entries_of_mem_crowdedOut h.regular.length_le hp
            have hordered := h.ordered
            rw [hentries] at hordered
            exact .eviction hentries hfull halive (List.pairwise_cons.mp hordered).1
  | get key => cases hd
  | clear =>
      obtain ⟨p, hp, rfl⟩ := List.mem_map.mp hd
      exact .clearing hp
  | advance nanoseconds => cases hd

/-- What has come in is there or has left, and the counters say how often each has happened. -/
structure Balanced (s : Timed K V) (arrived : List (K × Entry V)) (left : List (Departure K V))
    (gets : Nat) : Prop where
  perm : arrived.Perm (s.cache.entries ++ left.map Departure.entry)
  insertions_eq : s.cache.counters.insertions = arrived.length
  evictions_eq : s.cache.counters.evictions = left.countP fun d => d.cause = .eviction
  expirations_eq : s.cache.counters.expirations = left.countP fun d => d.cause = .expiry
  gets_eq : s.cache.counters.hits + s.cache.counters.absentHits + s.cache.counters.misses = gets

namespace Balanced

variable {s : Timed K V} {arrived : List (K × Entry V)} {left : List (Departure K V)} {gets : Nat}

omit [DecidableEq K] in
theorem start (settings : Settings) (now : Moment) :
    (start settings now : Timed K V).Balanced [] [] 0 :=
  ⟨List.Perm.refl [], rfl, rfl, rfl, rfl⟩

/-- A put that inserts brings one entry in and sends away those that have expired and the one
that gives way. -/
theorem put_of_miss (h : s.Balanced arrived left gets) {key : K} (value : Option V)
    (hmiss : s.cache.live? s.now key = none) :
    (s.step (.put key value)).Balanced (arrived ++ s.arrivals (.put key value))
      (left ++ s.departures (.put key value)) gets := by
  obtain ⟨kept, hold, hnew⟩ := Bounded.entries_put_perm_of_miss hmiss value
  have hcounters := Bounded.counters_put_of_miss hmiss value
  rw [arrivals_put_of_miss value hmiss, departures_put_of_miss value hmiss]
  constructor
  · show (arrived ++ _).Perm ((s.cache.put s.now key value).2.entries ++ _)
    rw [hnew, List.map_append, List.map_append, map_entry_map, map_entry_map]
    refine List.Perm.trans (List.Perm.append_right _ ?_) (move_perm kept _ _ _)
    exact h.perm.trans (hold.append_right _)
  · show (s.cache.put s.now key value).2.counters.insertions = _
    rw [hcounters, List.length_append, ← h.insertions_eq]
    rfl
  · show (s.cache.put s.now key value).2.counters.evictions = _
    rw [hcounters, List.countP_append, List.countP_append, countP_cause_map, countP_cause_map,
      ← h.evictions_eq]
    simp
  · show (s.cache.put s.now key value).2.counters.expirations = _
    rw [hcounters, List.countP_append, List.countP_append, countP_cause_map, countP_cause_map,
      ← h.expirations_eq]
    simp
  · show (s.cache.put s.now key value).2.counters.hits +
      (s.cache.put s.now key value).2.counters.absentHits +
      (s.cache.put s.now key value).2.counters.misses = gets
    rw [hcounters]
    exact h.gets_eq

theorem step (h : s.Balanced arrived left gets) (u : Use K V) :
    (s.step u).Balanced (arrived ++ s.arrivals u) (left ++ s.departures u)
      (gets + if u.isGet then 1 else 0) := by
  cases u with
  | put key value =>
      cases hlive : s.cache.live? s.now key with
      | none => exact h.put_of_miss value hlive
      | some e =>
          obtain ⟨hsame, harrivals, hdepartures⟩ := moves_put_of_live? value hlive
          rw [hsame, harrivals, hdepartures, List.append_nil, List.append_nil]
          exact h
  | get key =>
      obtain ⟨hinsertions, hevictions, hexpirations, hgets⟩ :=
        s.cache.counters.record_spec (s.cache.peek s.now key)
      simp only [arrivals, departures, List.append_nil]
      exact ⟨h.perm, hinsertions.trans h.insertions_eq, hevictions.trans h.evictions_eq,
        hexpirations.trans h.expirations_eq, hgets.trans (congrArg (· + 1) h.gets_eq)⟩
  | clear =>
      simp only [arrivals, departures, List.append_nil]
      refine ⟨?_, h.insertions_eq, ?_, ?_, h.gets_eq⟩
      · rw [List.map_append, map_entry_map]
        exact h.perm.trans List.perm_append_comm
      · rw [List.countP_append, countP_cause_map, if_neg (by decide)]
        exact h.evictions_eq
      · rw [List.countP_append, countP_cause_map, if_neg (by decide)]
        exact h.expirations_eq
  | advance nanoseconds =>
      simp only [arrivals, departures, List.append_nil]
      exact ⟨h.perm, h.insertions_eq, h.evictions_eq, h.expirations_eq, h.gets_eq⟩

/-- A run keeps the balance. -/
theorem run (h : s.Balanced arrived left gets) (uses : List (Use K V)) :
    (s.run uses).Balanced (arrived ++ collect arrivals s uses) (left ++ collect departures s uses)
      (gets + uses.countP Use.isGet) := by
  induction uses generalizing s arrived left gets with
  | nil =>
      simp only [collect, List.append_nil, List.countP_nil]
      exact h
  | cons u rest ih =>
      have hrest := ih (h.step u)
      unfold collect
      rw [← List.append_assoc, ← List.append_assoc, List.countP_cons, Nat.add_comm (rest.countP _),
        ← Nat.add_assoc]
      exact hrest

end Balanced

/-- A put gives a live entry of its key and changes nothing, counters included, or it inserts
because all entries of its key have expired. -/
theorem WellFormed.put_cases {settings : Settings} {s : Timed K V} (h : s.WellFormed settings)
    (key : K) (value : Option V) :
    (∃ e, (key, e) ∈ s.cache.entries ∧ e.isExpired s.now = false ∧
      s.cache.put s.now key value = (e, s.cache)) ∨
    (s.cache.Inserts s.now key value ∧
      ∀ e, (key, e) ∈ s.cache.entries → e.isExpired s.now = true) := by
  cases hlive : s.cache.live? s.now key with
  | some e =>
      obtain ⟨hmem, halive⟩ := Bounded.mem_of_live? hlive
      exact Or.inl ⟨e, hmem, halive, Bounded.put_of_live? hlive value⟩
  | none =>
      refine Or.inr ⟨Bounded.inserts_iff.mpr hlive, fun e hmem => ?_⟩
      have hdead := (Bounded.live?_eq_none_iff h.regular.keys_nodup).mp hlive e hmem
      rw [Entry.isExpired_eq_not_lives, hdead]
      rfl

/-- Nothing is lost and nothing is counted twice, whatever a cache has gone through, for every
capacity and both lifetimes, zero included.  The entries that have come in are those that are
there and those that have left, and the insertions are counted accordingly; all lookups are
counted by their outcome.  What is counted as expired or evicted has left for that cause, and
was due: it had expired, or it was the oldest in a cache full of entries that had not.  A put
that finds a live entry gives just that and counts nothing. -/
theorem entries_and_counts_conserved (settings : Settings) (now : Moment)
    (uses : List (Use K V)) :
    let s := (start settings now).run uses
    let size := s.cache.stats.size
    let counters := s.cache.stats.counters
    let arrived := collect arrivals (start settings now) uses
    let left := collect departures (start settings now) uses
    arrived.Perm (s.cache.entries ++ left.map Departure.entry) ∧
    counters.insertions = arrived.length ∧
    counters.insertions = size + counters.evictions + counters.expirations +
      left.countP (fun d => d.cause = .clearing) ∧
    counters.hits + counters.absentHits + counters.misses = uses.countP Use.isGet ∧
    counters.evictions = left.countP (fun d => d.cause = .eviction) ∧
    counters.expirations = left.countP (fun d => d.cause = .expiry) ∧
    (∀ d ∈ left, ∃ early u late,
      uses = early ++ u :: late ∧ ((start settings now).run early).Due u d) ∧
    ∀ key value,
      (∃ e, (key, e) ∈ s.cache.entries ∧ e.isExpired s.now = false ∧
        s.cache.put s.now key value = (e, s.cache)) ∨
      (s.cache.Inserts s.now key value ∧
        ∀ e, (key, e) ∈ s.cache.entries → e.isExpired s.now = true) := by
  intro s size counters arrived left
  have hbalanced : s.Balanced arrived left (uses.countP Use.isGet) := by
    simpa using (Balanced.start settings now).run uses
  have hwell : ∀ early : List (Use K V), ((start settings now).run early).WellFormed settings :=
    fun early => (WellFormed.start settings now).run early
  refine ⟨hbalanced.perm, hbalanced.insertions_eq, ?_, hbalanced.gets_eq, hbalanced.evictions_eq,
    hbalanced.expirations_eq, ?_, (hwell uses).put_cases⟩
  · have harrived := hbalanced.perm.length_eq
    have hcauses := length_eq_countP_cause left
    rw [← hbalanced.insertions_eq, List.length_append, List.length_map, hcauses,
      ← hbalanced.evictions_eq, ← hbalanced.expirations_eq, ← Nat.add_assoc,
      ← Nat.add_assoc] at harrived
    exact harrived
  · intro d hd
    obtain ⟨early, u, late, huses, hd⟩ := mem_collect_iff.mp hd
    exact ⟨early, u, late, huses, (hwell early).due_of_mem_departures hd⟩

end Timed
end Cache
end PatronGateway
