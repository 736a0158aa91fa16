import PatronGateway.Json.Reader
import PatronGateway.Json.Record
import PatronGateway.Json.Writer
import PatronGateway.Text.Base64Url
import PatronGateway.Text.Blank
import PatronGateway.Text.Split

/-!
# API keys

A key names the tenant for which a request is made, and the user that it was
issued to, together with a salt.  It is written as a JSON object of the three in
base64url without padding.  Padding and blanks around a key are ignored when it
is read, and a key without a tenant is refused.
-/

namespace PatronGateway
namespace Access

open Json (Document)

/-- An API key. -/
structure ApiKey where
  salt : String
  tenant : String
  username : String
  deriving DecidableEq, Repr

namespace ApiKey

/-- What is wrong with the text of a key. -/
inductive Flaw where
  | notBase64
  | notJson
  | emptyTenant
  | other (detail : String)
  deriving DecidableEq, Repr

/-- The wording of a flaw. -/
def Flaw.message : Flaw → String
  | notBase64 => "not base64url"
  | notJson => "not an object with s, t and u"
  | emptyTenant => "tenant is empty"
  | other detail => detail

/-- Why a request has no key. -/
inductive Error where
  | missing
  | malformed (flaw : Flaw)
  deriving DecidableEq, Repr

/-- The wording of an error. -/
def Error.message : Error → String
  | missing => "Missing API key"
  | malformed f => "Malformed API key: " ++ f.message

/-- The key that a JSON document writes. -/
def ofDocument? (d : Document) : Option ApiKey := do
  match ← d.fields? ["s", "t", "u"] with
  | [s, t, u] => do
    return {
      salt := ← Document.required? Document.string? s
      tenant := ← Document.required? Document.string? t
      username := ← Document.required? Document.string? u }
  | _ => none

/-- The JSON document that writes a key. -/
def toDocument (k : ApiKey) : Document :=
  .record [("s", .ofString k.salt), ("t", .ofString k.tenant), ("u", .ofString k.username)]

/-- The text of a key. -/
def encode (k : ApiKey) : String :=
  String.ofList (Text.Base64Url.encode (Text.Utf8.encode k.toDocument.write))

/-- The digits in a text: what is left without blanks and padding. -/
def bare (raw : String) : List Char :=
  Text.dropTrailing (· == '=') (Text.trim raw).toList

/-- Reads the text of a key. -/
def decode (raw : String) : Except Error ApiKey :=
  match Text.Base64Url.decode? (bare raw) with
  | none => .error (.malformed .notBase64)
  | some bytes =>
    match (Document.readBytes? bytes).bind ofDocument? with
    | none => .error (.malformed .notJson)
    | some k => if Text.isBlank k.tenant then .error (.malformed .emptyTenant) else .ok k

end ApiKey
end Access
end PatronGateway
