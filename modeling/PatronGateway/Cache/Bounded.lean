import PatronGateway.Cache.Settings

/-!
# A bounded cache with lifetimes

Entries stand in the order of their insertion and never change.  Looking a key
up counts but changes no entry.  Putting a value under a key that has a live
entry leaves that entry; otherwise the expired entries are dropped, the oldest
entry gives way if there is still no room, and the new entry goes to the end.

The moments are nanoseconds on a clock that the caller reads, so that a lifetime is
compared with an age as it is, without rounding either.
-/

namespace PatronGateway
namespace Cache

open Time (Span)

/-- A moment on the clock, in nanoseconds. -/
abbrev Moment := Nat

/-- A value or the knowledge that there is none, since when and for how long. -/
structure Entry (V : Type) where
  value : Option V
  insertedAt : Moment
  ttl : Span
  deriving DecidableEq, Repr

namespace Entry

/-- Whether an entry says that there is no value. -/
def isAbsent (e : Entry V) : Bool := e.value.isNone

/-- How long an entry has been there. -/
def age (now : Moment) (e : Entry V) : Span :=
  ⟨now - e.insertedAt⟩

/-- An entry has expired once it has reached its lifetime. -/
def isExpired (now : Moment) (e : Entry V) : Bool :=
  e.ttl.nanoseconds ≤ (e.age now).nanoseconds

end Entry

/-- What a cache knows about a key. -/
inductive Lookup (V : Type) where
  | hit (value : V)
  | knownAbsent
  | miss
  deriving DecidableEq, Repr

/-- How often things have happened to a cache. -/
structure Counters where
  hits : Nat := 0
  absentHits : Nat := 0
  misses : Nat := 0
  insertions : Nat := 0
  evictions : Nat := 0
  expirations : Nat := 0
  deriving DecidableEq, Repr, Inhabited

/-- Counts the outcome of a lookup. -/
def Counters.record (c : Counters) : Lookup V → Counters
  | .hit _ => { c with hits := c.hits + 1 }
  | .knownAbsent => { c with absentHits := c.absentHits + 1 }
  | .miss => { c with misses := c.misses + 1 }

/-- A cache: its entries from the oldest to the youngest, and its counters. -/
structure Bounded (K V : Type) where
  capacity : Nat
  presentTtl : Span
  absentTtl : Span
  entries : List (K × Entry V)
  counters : Counters

namespace Bounded

variable {K V : Type} [DecidableEq K]

/-- An empty cache, which holds at least one entry. -/
def empty (s : Settings) : Bounded K V where
  capacity := max s.capacity 1
  presentTtl := s.presentTtl
  absentTtl := s.absentTtl
  entries := []
  counters := {}

/-- The entry of a key, expired or not. -/
def entry? (c : Bounded K V) (key : K) : Option (Entry V) :=
  c.entries.lookup key

/-- The entry of a key, unless it has expired. -/
def live? (c : Bounded K V) (now : Moment) (key : K) : Option (Entry V) :=
  (c.entry? key).filter fun e => !e.isExpired now

/-- What the cache knows about a key. -/
def peek (c : Bounded K V) (now : Moment) (key : K) : Lookup V :=
  match c.live? now key with
  | some e => match e.value with
    | some v => .hit v
    | none => .knownAbsent
  | none => .miss

/-- Looks a key up and counts the outcome. -/
def get (c : Bounded K V) (now : Moment) (key : K) : Lookup V × Bounded K V :=
  let r := c.peek now key
  (r, { c with counters := c.counters.record r })

/-- Drops the expired entries. -/
def prune (c : Bounded K V) (now : Moment) : Bounded K V :=
  let kept := c.entries.filter fun e => !e.2.isExpired now
  { c with
    entries := kept
    counters := { c.counters with
      expirations := c.counters.expirations + (c.entries.length - kept.length) } }

/-- Makes room for one entry by dropping the oldest if the cache is full. -/
def makeRoom (c : Bounded K V) : Bounded K V :=
  if c.entries.length < c.capacity then c
  else match c.entries with
    | [] => c
    | _ :: rest =>
      { c with
        entries := rest
        counters := { c.counters with evictions := c.counters.evictions + 1 } }

/-- The lifetime of a new entry. -/
def ttlFor (c : Bounded K V) (value : Option V) : Span :=
  if value.isSome then c.presentTtl else c.absentTtl

/-- Puts an entry at the end. -/
def insert (c : Bounded K V) (key : K) (e : Entry V) : Bounded K V :=
  { c with
    entries := c.entries ++ [(key, e)]
    counters := { c.counters with insertions := c.counters.insertions + 1 } }

/-- Puts a value, or the knowledge that there is none, under a key, and returns
the entry that the key now has. -/
def put (c : Bounded K V) (now : Moment) (key : K) (value : Option V) :
    Entry V × Bounded K V :=
  match c.live? now key with
  | some e => (e, c)
  | none =>
    let e : Entry V := ⟨value, now, c.ttlFor value⟩
    (e, ((c.prune now).makeRoom).insert key e)

/-- Drops all entries; the counters stay. -/
def clear (c : Bounded K V) : Bounded K V :=
  { c with entries := [] }

/-- The number of entries, expired ones included. -/
def size (c : Bounded K V) : Nat := c.entries.length

end Bounded

/-- A summary of what has happened to a cache. -/
structure Stats where
  size : Nat
  capacity : Nat
  counters : Counters
  deriving DecidableEq, Repr

/-- The summary of a cache. -/
def Bounded.stats (c : Bounded K V) : Stats where
  size := c.entries.length
  capacity := c.capacity
  counters := c.counters

end Cache
end PatronGateway
