import PatronGateway.Cache.Bounded

/-!
# A cache that may not be there yet

A `Slot` has a name and holds a cache once it has been initialized.  Until then
every use is refused with an error that names the slot.  Initializing a slot
again drops the cache that it held.
-/

namespace PatronGateway
namespace Cache

/-- A named place for a cache. -/
structure Slot (K V : Type) where
  name : String
  cache : Option (Bounded K V)

/-- The cache of a slot is not there. -/
structure Uninitialized where
  name : String
  deriving DecidableEq, Repr

/-- The wording of the error. -/
def Uninitialized.message (e : Uninitialized) : String :=
  e.name ++ " cache is not initialized"

namespace Slot

variable {K V : Type} [DecidableEq K]

/-- A slot without a cache. -/
def vacant (name : String) : Slot K V := ⟨name, none⟩

/-- Gives the slot an empty cache. -/
def install (s : Slot K V) (settings : Settings) : Slot K V :=
  { s with cache := some (Bounded.empty settings) }

/-- A slot with an empty cache. -/
def fresh (name : String) (settings : Settings) : Slot K V :=
  (vacant name).install settings

/-- Whether the slot holds a cache. -/
def isInitialized (s : Slot K V) : Bool := s.cache.isSome

/-- Looks a key up. -/
def get (s : Slot K V) (now : Moment) (key : K) : Except Uninitialized (Lookup V) × Slot K V :=
  match s.cache with
  | some c => let (r, c) := c.get now key; (.ok r, { s with cache := some c })
  | none => (.error ⟨s.name⟩, s)

/-- Puts a value, or the knowledge that there is none, under a key. -/
def put (s : Slot K V) (now : Moment) (key : K) (value : Option V) :
    Except Uninitialized (Entry V) × Slot K V :=
  match s.cache with
  | some c => let (e, c) := c.put now key value; (.ok e, { s with cache := some c })
  | none => (.error ⟨s.name⟩, s)

/-- The summary of the cache, if it is there. -/
def stats? (s : Slot K V) : Option Stats := s.cache.map Bounded.stats

end Slot

/-- The internal ids of patrons, by tenant and external id; an absent entry says
that the tenant has no such patron. -/
abbrev IdentitySlot := Slot String String

/-- The key of a patron: the length of the tenant's name in bytes keeps the
tenant and the external id apart. -/
def identityKey (tenant externalId : String) : String :=
  String.ofList (Text.decimal tenant.utf8ByteSize) ++ ":" ++ tenant ++ externalId

namespace IdentitySlot

/-- The name of the slot for patrons. -/
def name : String := "identity"

/-- Looks a patron up. -/
def get (s : IdentitySlot) (now : Moment) (tenant externalId : String) :
    Except Uninitialized (Lookup String) × IdentitySlot :=
  Slot.get s now (identityKey tenant externalId)

/-- Puts the internal id of a patron, or the knowledge that there is none. -/
def put (s : IdentitySlot) (now : Moment) (tenant externalId : String) (id : Option String) :
    Except Uninitialized (Entry String) × IdentitySlot :=
  Slot.put s now (identityKey tenant externalId) id

end IdentitySlot

/-- The documents of signing keys, by realm. -/
abbrev KeySlot := Slot String String

/-- The name of the slot for signing keys. -/
def KeySlot.name : String := "public-key"

end Cache
end PatronGateway
