import PatronGateway.Json.Record
import PatronGateway.Time.Span

/-!
# Forms of settings

Settings are records with named fields, each of which has a default.  They may
be written in more than one form, strictly typed as in a JSON document or
loosely as in a file that people edit; a `Form` says how the parts of a form are
read, so that a record of settings needs only one reader for all of them.
-/

namespace PatronGateway
namespace Config

/-- A form in which settings are written: what the named fields of a record were
given, and what a part is as a text, a natural number below `2 ^ 64`, a truth
value or a part that may be missing. -/
class Form (σ : Type) where
  fields? : List String → σ → Option (List (Option σ))
  text? : σ → Option String
  natural? : σ → Option Nat
  truth? : σ → Option Bool
  isNothing : σ → Bool

namespace Form

/-- Reads a field that stands for its default where it was given nothing. -/
def field? {σ α : Type} (default : α) (read : σ → Option α) (given : Option σ) : Option α :=
  (given.map read).getD (some default)

/-- A span of time, written as a text. -/
def span? {σ : Type} [Form σ] (s : σ) : Option Time.Span :=
  (text? s).bind Time.Span.read?

/-- Reads a part that may be nothing. -/
def optional? {σ α : Type} [Form σ] (read : σ → Option α) (s : σ) : Option (Option α) :=
  if isNothing s then some none else (read s).map some

end Form

instance : Form Json.Document where
  fields? := Json.Document.fields?
  text? := Json.Document.string?
  natural? := Json.Document.natural?
  truth? := Json.Document.bool?
  isNothing
    | .null => true
    | _ => false

end Config
end PatronGateway
