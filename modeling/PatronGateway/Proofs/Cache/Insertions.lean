import PatronGateway.Proofs.Cache.Run

/-!
# A cache is determined by what has been inserted

The puts that insert, since the cache was cleared last, make up a list: the *insertions*
of a run.  Everything that a cache will ever say can be read off that list, the capacity
and the clock.  An insertion still answers for its key as long as its own lifetime has not
passed and it has not given way, and it gives way when, at a later insertion, it and those
after it that are alive then already fill the cache.

* `Outlasts` says that an insertion has not given way, and `Answers` that it answers.
* `Mirrors` is the invariant: whatever is alive among the entries is alive among the last
  insertions, which are the ones that have not given way, and the other way round.
* `get_and_put_iff_answers` is the exact characterisation of lookups and puts.
-/

namespace PatronGateway
namespace Cache

open Time (Span)

variable {K V : Type}

/-- Insertion `i` has not given way to a later one: at each of those, fewer insertions from
`i` on were alive than the cache has room for. -/
def Outlasts (capacity : Nat) (log : List (K × Entry V)) (i : Nat) : Prop :=
  ∀ j p, i < j → log[j]? = some p →
    ((log.take j).drop i).countP (fun q => q.2.lives p.2.insertedAt) < capacity

/-- Insertion `i` of a log answers for a key at a moment, with an entry. -/
structure Answers (settings : Settings) (log : List (K × Entry V)) (now : Moment) (key : K)
    (e : Entry V) (i : Nat) : Prop where
  logged : log[i]? = some (key, e)
  lives : now - e.insertedAt < e.ttl.nanoseconds
  outlasts : Outlasts (max settings.capacity 1) log i

/-- The last insertion has given way to none. -/
theorem outlasts_last (capacity : Nat) (log : List (K × Entry V)) (p : K × Entry V) :
    Outlasts capacity (log ++ [p]) log.length := by
  intro j q hj hq
  have hlt : j < (log ++ [p]).length := (List.getElem?_eq_some_iff.mp hq).1
  rw [List.length_append, List.length_singleton] at hlt
  omega

/-- An insertion outlasts one more if it and those after it leave room for that one. -/
theorem outlasts_append_iff (capacity : Nat) {log : List (K × Entry V)} (p : K × Entry V)
    {i : Nat} (hi : i < log.length) :
    Outlasts capacity (log ++ [p]) i ↔
      Outlasts capacity log i ∧
        (log.drop i).countP (fun q => q.2.lives p.2.insertedAt) < capacity := by
  constructor
  · intro h
    refine ⟨?_, ?_⟩
    · intro j q hij hq
      have hj : j < log.length := (List.getElem?_eq_some_iff.mp hq).1
      have hold := h j q hij (by rw [List.getElem?_append_left hj, hq])
      rwa [List.take_append_of_le_length (Nat.le_of_lt hj)] at hold
    · have hnew := h log.length p hi (by simp)
      rwa [List.take_left] at hnew
  · rintro ⟨hold, hnew⟩ j q hij hq
    rcases Nat.lt_or_ge j log.length with hj | hj
    · rw [List.getElem?_append_left hj] at hq
      rw [List.take_append_of_le_length (Nat.le_of_lt hj)]
      exact hold j q hij hq
    · have hlt : j < (log ++ [p]).length := (List.getElem?_eq_some_iff.mp hq).1
      rw [List.length_append, List.length_singleton] at hlt
      obtain rfl : j = log.length := by omega
      obtain rfl : p = q := by simpa using hq
      rwa [List.take_left]

section

variable {α : Type} {alive : α → Bool} {gone kept rest : List α} {x : α} {capacity : Nat}

/-- The fewer of a list are left, the fewer of those are alive. -/
theorem countP_drop_le (alive : α → Bool) (log : List α) {i j : Nat} (h : i ≤ j) :
    (log.drop j).countP alive ≤ (log.drop i).countP alive :=
  (List.drop_sublist_drop_left log h).countP_le

theorem countP_drop_lt_of_room (h : kept.countP alive < capacity) {i : Nat}
    (hi : gone.length ≤ i) : ((gone ++ kept).drop i).countP alive < capacity := by
  have hle := countP_drop_le alive (gone ++ kept) hi
  rw [List.drop_left] at hle
  exact Nat.lt_of_le_of_lt hle h

/-- Where those from some one on just fill the capacity, there is room after it only. -/
theorem countP_drop_lt_iff_of_full (hx : alive x = true)
    (hfull : rest.countP alive + 1 = capacity) {i : Nat} :
    ((gone ++ x :: rest).drop i).countP alive < capacity ↔ gone.length < i := by
  constructor
  · intro hroom
    by_contra hlt
    have hle := countP_drop_le alive (gone ++ x :: rest) (Nat.not_lt.mp hlt)
    rw [List.drop_left, List.countP_cons_of_pos hx] at hle
    omega
  · intro hi
    have hsplit : gone ++ x :: rest = (gone ++ [x]) ++ rest := by simp
    have hlength : (gone ++ [x]).length ≤ i := by
      rw [List.length_append, List.length_singleton]
      exact hi
    rw [hsplit]
    exact countP_drop_lt_of_room (by omega) hlength

/-- A list can be cut where those alive leave room for one more: nowhere new if they do so
anyhow, and else after the first of them. -/
theorem exists_cut (gone : List α) (hpos : 0 < capacity)
    (hle : (kept.filter alive).length ≤ capacity) :
    ∃ gone' kept', gone' ++ kept' = gone ++ kept ∧ kept'.Sublist kept ∧
      (∀ i, (gone.length ≤ i ∧ ((gone ++ kept).drop i).countP alive < capacity) ↔
        gone'.length ≤ i) ∧
      (if (kept.filter alive).length < capacity then kept.filter alive
        else (kept.filter alive).tail) = kept'.filter alive := by
  by_cases hroom : (kept.filter alive).length < capacity
  · rw [if_pos hroom]
    refine ⟨gone, kept, rfl, List.Sublist.refl kept, fun i => ?_, rfl⟩
    rw [← List.countP_eq_length_filter] at hroom
    exact ⟨fun h => h.1, fun hi => ⟨hi, countP_drop_lt_of_room hroom hi⟩⟩
  · rw [if_neg hroom]
    cases hfilter : kept.filter alive with
    | nil =>
        rw [hfilter] at hroom
        exact absurd hpos hroom
    | cons oldest younger =>
        obtain ⟨dead, rest, rfl, -, holdest, hrest⟩ := List.filter_eq_cons_iff.mp hfilter
        have hfull : rest.countP alive + 1 = capacity := by
          rw [hfilter, List.length_cons] at hroom hle
          rw [List.countP_eq_length_filter, hrest]
          omega
        refine ⟨gone ++ dead ++ [oldest], rest, by simp, ?_, fun i => ?_, hrest.symm⟩
        · exact (List.sublist_cons_self oldest rest).trans (List.sublist_append_right dead _)
        · rw [← List.append_assoc, countP_drop_lt_iff_of_full holdest hfull]
          simp only [List.length_append, List.length_singleton]
          omega

end

namespace Timed

variable [DecidableEq K]

/-- What a use does to the log of insertions: a put that inserts is noted with its value,
its moment and the lifetime that the settings give to such a value. -/
def note (settings : Settings) (s : Timed K V) (log : List (K × Entry V)) :
    Use K V → List (K × Entry V)
  | .put key value =>
    if s.cache.Inserts s.now key value then
      log ++ [(key, ⟨value, s.now, settings.lifetime value⟩)]
    else log
  | .clear => []
  | .get _ => log
  | .advance _ => log

theorem note_put_of_miss (settings : Settings) {s : Timed K V} (log : List (K × Entry V))
    {key : K} (value : Option V) (h : s.cache.live? s.now key = none) :
    s.note settings log (.put key value) =
      log ++ [(key, ⟨value, s.now, settings.lifetime value⟩)] :=
  if_pos (Bounded.inserts_iff.mpr h)

theorem note_put_of_live? (settings : Settings) {s : Timed K V} (log : List (K × Entry V))
    {key : K} {e : Entry V} (value : Option V) (h : s.cache.live? s.now key = some e) :
    s.note settings log (.put key value) = log := by
  refine if_neg ?_
  rw [Bounded.inserts_iff, h]
  simp

/-- The log after some uses. -/
def noteAll (settings : Settings) : Timed K V → List (K × Entry V) → List (Use K V) →
    List (K × Entry V)
  | _, log, [] => log
  | s, log, u :: rest => noteAll settings (s.step u) (s.note settings log u) rest

/-- The insertions of a run of an empty cache, since it was cleared last. -/
def insertions (settings : Settings) (now : Moment) (uses : List (Use K V)) :
    List (K × Entry V) :=
  (start settings now).noteAll settings [] uses

/-- A cache that mirrors a log: the insertions that have given way are the first ones, and
among the others are alive just those that are alive among the entries, now and ever
after. -/
structure Mirrors (settings : Settings) (s : Timed K V) (gone kept : List (K × Entry V)) :
    Prop where
  regular : s.cache.Regular settings
  outlasts_iff : ∀ i, i < (gone ++ kept).length →
    (Outlasts (max settings.capacity 1) (gone ++ kept) i ↔ gone.length ≤ i)
  alive_eq : ∀ moment, s.now ≤ moment →
    s.cache.entries.filter (fun p => p.2.lives moment) =
      kept.filter fun p => p.2.lives moment
  apart : kept.Pairwise fun p q => p.1 = q.1 → p.2.lives q.2.insertedAt = false
  past : ∀ p ∈ kept, p.2.insertedAt ≤ s.now

namespace Mirrors

variable {settings : Settings} {s : Timed K V} {gone kept : List (K × Entry V)}

omit [DecidableEq K] in
theorem start (settings : Settings) (now : Moment) :
    (start settings now : Timed K V).Mirrors settings [] [] where
  regular := Bounded.Regular.empty settings
  outlasts_iff i hi := by cases hi
  alive_eq _ _ := rfl
  apart := List.Pairwise.nil
  past p hp := by cases hp

/-- The entry of a key that is alive is the one of an insertion that is kept. -/
theorem live?_eq_some_iff (h : s.Mirrors settings gone kept) {key : K} {e : Entry V} :
    s.cache.live? s.now key = some e ↔ (key, e) ∈ kept ∧ e.lives s.now = true := by
  have hfilter := h.alive_eq s.now (Nat.le_refl _)
  rw [Bounded.live?_eq_some_iff h.regular.keys_nodup]
  calc (key, e) ∈ s.cache.entries ∧ e.lives s.now = true
      ↔ (key, e) ∈ s.cache.entries.filter fun p => p.2.lives s.now := by simp
    _ ↔ (key, e) ∈ kept ∧ e.lives s.now = true := by rw [hfilter]; simp

/-- The insertions that answer for a key are its live entry. -/
theorem exists_answers_iff (h : s.Mirrors settings gone kept) {key : K} {e : Entry V} :
    (∃ i, Answers settings (gone ++ kept) s.now key e i) ↔
      s.cache.live? s.now key = some e := by
  rw [h.live?_eq_some_iff]
  constructor
  · rintro ⟨i, hlogged, hlives, houtlasts⟩
    have hi : i < (gone ++ kept).length := (List.getElem?_eq_some_iff.mp hlogged).1
    have hkept : gone.length ≤ i := (h.outlasts_iff i hi).mp houtlasts
    rw [List.getElem?_append_right hkept] at hlogged
    exact ⟨List.mem_of_getElem? hlogged, Entry.lives_iff.mpr hlives⟩
  · rintro ⟨hmem, hlives⟩
    obtain ⟨i, hi⟩ := List.mem_iff_getElem?.mp hmem
    have hlogged : (gone ++ kept)[gone.length + i]? = some (key, e) := by
      rw [List.getElem?_append_right (Nat.le_add_right _ _), Nat.add_sub_cancel_left, hi]
    refine ⟨gone.length + i, hlogged, Entry.lives_iff.mp hlives, ?_⟩
    exact (h.outlasts_iff _ (List.getElem?_eq_some_iff.mp hlogged).1).mpr (Nat.le_add_right _ _)

omit [DecidableEq K] in
/-- No two insertions answer for one key. -/
theorem answers_unique (h : s.Mirrors settings gone kept) {key : K} {e e' : Entry V}
    {i j : Nat} (hi : Answers settings (gone ++ kept) s.now key e i)
    (hj : Answers settings (gone ++ kept) s.now key e' j) : i = j := by
  -- of two of them the earlier one would have been found at the later one
  have hlt : ∀ {e e' : Entry V} {i j : Nat}, Answers settings (gone ++ kept) s.now key e i →
      Answers settings (gone ++ kept) s.now key e' j → ¬ i < j := by
    intro e e' i j hi hj hij
    have hkept : gone.length ≤ i :=
      (h.outlasts_iff i (List.getElem?_eq_some_iff.mp hi.logged).1).mp hi.outlasts
    have hlogged := hi.logged
    have hlogged' := hj.logged
    rw [List.getElem?_append_right hkept] at hlogged
    rw [List.getElem?_append_right (Nat.le_trans hkept (Nat.le_of_lt hij))] at hlogged'
    obtain ⟨hlength, hget⟩ := List.getElem?_eq_some_iff.mp hlogged
    obtain ⟨hlength', hget'⟩ := List.getElem?_eq_some_iff.mp hlogged'
    have hdead := List.pairwise_iff_getElem.mp h.apart _ _ hlength hlength' (by omega)
    rw [hget, hget'] at hdead
    have hpast := h.past (key, e') (List.mem_of_getElem? hlogged')
    have halive := Entry.lives_of_le hpast (Entry.lives_iff.mpr hi.lives)
    rw [hdead rfl] at halive
    cases halive
  rcases Nat.lt_trichotomy i j with hij | hij | hij
  · exact (hlt hi hj hij).elim
  · exact hij
  · exact (hlt hj hi hij).elim

/-- Some time later a cache mirrors the same log. -/
theorem advance (h : s.Mirrors settings gone kept) (nanoseconds : Nat) :
    (s.step (.advance nanoseconds)).Mirrors settings gone kept where
  regular := h.regular
  outlasts_iff := h.outlasts_iff
  alive_eq moment hmoment := h.alive_eq moment (Nat.le_trans (Nat.le_add_right _ _) hmoment)
  apart := h.apart
  past p hp := Nat.le_trans (h.past p hp) (Nat.le_add_right _ _)

/-- A put that inserts lets go of some insertions and adds one. -/
theorem put_of_miss (h : s.Mirrors settings gone kept) {key : K} (value : Option V)
    (hmiss : s.cache.live? s.now key = none) :
    ∃ gone' kept', gone' ++ kept' =
        gone ++ kept ++ [(key, ⟨value, s.now, settings.lifetime value⟩)] ∧
      (s.step (.put key value)).Mirrors settings gone' kept' := by
  have hfilter := h.alive_eq s.now (Nat.le_refl _)
  have hle : (kept.filter fun p => p.2.lives s.now).length ≤ s.cache.capacity := by
    rw [← hfilter]
    exact Nat.le_trans (List.length_filter_le _ _) h.regular.length_le
  obtain ⟨gone', kept', hlog, hsub, hcut, halive⟩ :=
    exists_cut gone h.regular.capacity_pos hle
  set new : K × Entry V := (key, ⟨value, s.now, settings.lifetime value⟩) with hnew
  have hentries : (s.step (.put key value)).cache.entries =
      (kept'.filter fun p => p.2.lives s.now) ++ [new] := by
    show (s.cache.put s.now key value).2.entries = _
    rw [Bounded.entries_put_of_miss hmiss, hfilter, h.regular.ttlFor_eq value, ← halive]
  refine ⟨gone', kept' ++ [new], by rw [← List.append_assoc, hlog], ?_⟩
  constructor
  · exact regular_step h.regular (.put key value)
  · -- an old insertion outlasts the new one just if it lies behind the cut
    intro i hi
    rw [← List.append_assoc, hlog] at hi ⊢
    have hlength := congrArg List.length hlog
    rw [List.length_append] at hlength
    rw [List.length_append, List.length_singleton] at hi
    rcases Nat.lt_or_ge i (gone ++ kept).length with hold | hlast
    · rw [outlasts_append_iff _ new hold, h.outlasts_iff i hold, ← h.regular.capacity_eq]
      exact hcut i
    · obtain rfl : i = (gone ++ kept).length := by omega
      exact iff_of_true (outlasts_last _ _ new) (by omega)
  · -- what has been pruned is dead at every later moment too
    intro moment hmoment
    have hlater : ∀ p : K × Entry V, p.2.lives moment = true → p.2.lives s.now = true :=
      fun p hp => Entry.lives_of_le hmoment hp
    rw [hentries, List.filter_append, List.filter_append, List.filter_filter]
    congr 1
    refine List.filter_congr fun p _ => ?_
    cases hp : p.2.lives moment with
    | true => simp [hlater p hp]
    | false => simp
  · -- an insertion of the same key has died before, or the put would have found it
    refine List.pairwise_append.mpr ⟨h.apart.sublist hsub, List.pairwise_singleton _ _, ?_⟩
    intro p hp q hq hkey
    obtain rfl := List.mem_singleton.mp hq
    obtain ⟨key', e⟩ := p
    obtain rfl : key' = key := hkey
    by_contra hlives
    have hfound := h.live?_eq_some_iff.mpr ⟨hsub.subset hp, by simpa [hnew] using hlives⟩
    rw [hmiss] at hfound
    cases hfound
  · intro p hp
    rcases List.mem_append.mp hp with hold | hlast
    · exact h.past p (hsub.subset hold)
    · rw [List.mem_singleton.mp hlast]
      exact Nat.le_refl s.now

/-- A use leaves a cache that mirrors the log with its note. -/
theorem step (h : s.Mirrors settings gone kept) (u : Use K V) :
    ∃ gone' kept', gone' ++ kept' = s.note settings (gone ++ kept) u ∧
      (s.step u).Mirrors settings gone' kept' := by
  cases u with
  | put key value =>
      cases hlive : s.cache.live? s.now key with
      | none =>
          rw [note_put_of_miss settings _ value hlive]
          exact h.put_of_miss value hlive
      | some e =>
          refine ⟨gone, kept, (note_put_of_live? settings _ value hlive).symm, ?_⟩
          have hsame : s.step (.put key value) = s := by
            show { s with cache := (s.cache.put s.now key value).2 } = s
            rw [Bounded.put_of_live? hlive]
          rw [hsame]
          exact h
  | get key =>
      refine ⟨gone, kept, rfl, ?_⟩
      exact ⟨h.regular.get s.now key, h.outlasts_iff, h.alive_eq, h.apart, h.past⟩
  | clear =>
      refine ⟨[], [], rfl, h.regular.clear, ?_, ?_, List.Pairwise.nil, ?_⟩
      · intro i hi
        cases hi
      · intro moment hmoment
        rfl
      · intro p hp
        cases hp
  | advance nanoseconds => exact ⟨gone, kept, rfl, h.advance nanoseconds⟩

/-- A run leaves a cache that mirrors the log with all its notes. -/
theorem run (h : s.Mirrors settings gone kept) (uses : List (Use K V)) :
    ∃ gone' kept', gone' ++ kept' = s.noteAll settings (gone ++ kept) uses ∧
      (s.run uses).Mirrors settings gone' kept' := by
  induction uses generalizing s gone kept with
  | nil => exact ⟨gone, kept, rfl, h⟩
  | cons u rest ih =>
      obtain ⟨gone', kept', hlog, hstep⟩ := h.step u
      obtain ⟨gone'', kept'', hlog', hrun⟩ := ih hstep
      refine ⟨gone'', kept'', ?_, hrun⟩
      rw [hlog', hlog]
      rfl

end Mirrors

/-- What a cache says and does is determined by its insertions, for every capacity and both
lifetimes, zero included, and every run.  A lookup gives a value, or that there is none, if
an insertion with that value, or without one, answers for the key; no two insertions answer
for one key, and if none does, the lookup finds nothing.  A put inserts where a lookup finds
nothing, and elsewhere gives the entry of the insertion that answers and changes nothing. -/
theorem get_and_put_iff_answers (settings : Settings) (now : Moment) (uses : List (Use K V))
    (key : K) :
    let s := (start settings now).run uses
    let answers := Answers settings (insertions settings now uses) s.now key
    (∀ value, (s.cache.get s.now key).1 = .hit value ↔
      ∃ i e, answers e i ∧ e.value = some value) ∧
    ((s.cache.get s.now key).1 = .knownAbsent ↔ ∃ i e, answers e i ∧ e.value = none) ∧
    ((s.cache.get s.now key).1 = .miss ↔ ¬ ∃ i e, answers e i) ∧
    (∀ i j e e', answers e i → answers e' j → i = j) ∧
    (∀ value, s.cache.Inserts s.now key value ↔ (s.cache.get s.now key).1 = .miss) ∧
    (∀ value i e, answers e i → s.cache.put s.now key value = (e, s.cache)) := by
  obtain ⟨gone, kept, hlog, hmirrors⟩ := (Mirrors.start settings now).run uses
  have hinsertions : insertions settings now uses = gone ++ kept := hlog.symm
  rw [hinsertions]
  intro s answers
  have hanswers : ∀ e, (∃ i, answers e i) ↔ s.cache.live? s.now key = some e :=
    fun e => hmirrors.exists_answers_iff
  have hlive : ∀ P : Entry V → Prop, (∃ i e, answers e i ∧ P e) ↔
      ∃ e, s.cache.live? s.now key = some e ∧ P e := by
    intro P
    constructor
    · rintro ⟨i, e, hi, hP⟩
      exact ⟨e, (hanswers e).mp ⟨i, hi⟩, hP⟩
    · rintro ⟨e, he, hP⟩
      obtain ⟨i, hi⟩ := (hanswers e).mpr he
      exact ⟨i, e, hi, hP⟩
  refine ⟨?_, ?_, ?_, ?_, ?_, ?_⟩
  · intro value
    rw [hlive]
    exact Bounded.peek_eq_hit_iff
  · rw [hlive]
    exact Bounded.peek_eq_knownAbsent_iff
  · have hnone : (¬ ∃ i e, answers e i) ↔ s.cache.live? s.now key = none := by
      rw [Option.eq_none_iff_forall_ne_some, exists_comm, not_exists]
      exact forall_congr' fun e => not_congr (hanswers e)
    rw [hnone]
    exact Bounded.peek_eq_miss_iff
  · exact fun i j e e' hi hj => hmirrors.answers_unique hi hj
  · intro value
    rw [Bounded.inserts_iff]
    exact Bounded.peek_eq_miss_iff.symm
  · intro value i e hi
    exact Bounded.put_of_live? ((hanswers e).mp ⟨i, hi⟩) value

end Timed
end Cache
end PatronGateway
