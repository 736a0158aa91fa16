import PatronGateway.Config.Form
import PatronGateway.Json.Reader
import PatronGateway.Json.Writer

/-!
# Settings of a cache

How many entries a cache holds, and how long an entry lives: one lifetime for
values that are present, another for the knowledge that a value is absent.
-/

namespace PatronGateway
namespace Cache

open Json (Document)
open Time (Span)
open Config (Form)

/-- The capacity and the two lifetimes of a cache. -/
structure Settings where
  capacity : Nat
  presentTtl : Span
  absentTtl : Span
  deriving DecidableEq, Repr

namespace Settings

/-- What a setting is where nothing is said about it. -/
def default : Settings where
  capacity := 1000
  presentTtl := Span.ofSeconds 3600
  absentTtl := Span.ofSeconds 30

instance : Inhabited Settings := ⟨default⟩

/-- What makes settings unusable. -/
inductive Fault where
  | capacity
  | presentTtl
  | absentTtl
  deriving DecidableEq, Repr

/-- The wording of a fault. -/
def Fault.message : Fault → String
  | .capacity => "capacity must be > 0"
  | .presentTtl => "present_ttl must be > 0"
  | .absentTtl => "absent_ttl must be > 0"

/-- The first fault of settings, if they have any. -/
def fault? (s : Settings) : Option Fault :=
  if s.capacity = 0 then some .capacity
  else if s.presentTtl = .zero then some .presentTtl
  else if s.absentTtl = .zero then some .absentTtl
  else none

/-- The settings that are written in some form. -/
def read? {σ : Type} [Config.Form σ] (s : σ) : Option Settings := do
  match ← Form.fields? ["capacity", "present_ttl", "absent_ttl"] s with
  | [capacity, presentTtl, absentTtl] => do
    return {
      capacity := ← Form.field? default.capacity Form.natural? capacity
      presentTtl := ← Form.field? default.presentTtl Form.span? presentTtl
      absentTtl := ← Form.field? default.absentTtl Form.span? absentTtl }
  | _ => none

/-- The JSON document that writes settings. -/
def toDocument (s : Settings) : Document :=
  .record [("capacity", .ofNat s.capacity),
    ("present_ttl", .ofString s.presentTtl.write),
    ("absent_ttl", .ofString s.absentTtl.write)]

end Settings
end Cache
end PatronGateway
