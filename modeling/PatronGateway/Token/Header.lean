import PatronGateway.Text.Split
import PatronGateway.Token.KeySet
import PatronGateway.Token.Error

/-!
# The header of a token

A token has three parts with dots between them: a header, a payload and a
signature, each in base64url.  What is signed is the text of the first two.  The
header names the algorithm and, usually, the id of the key.
-/

namespace PatronGateway
namespace Token

open Json (Document)

/-- A token, cut at its last two dots. -/
structure Parts where
  header : List Char
  payload : List Char
  signature : List Char
  deriving DecidableEq, Repr

namespace Parts

/-- Cuts a token. -/
def ofToken? (token : String) : Option Parts := do
  let (message, signature) ← Text.splitLast? '.' token.toList
  let (header, payload) ← Text.splitLast? '.' message
  return ⟨header, payload, signature⟩

/-- What is signed. -/
def message (p : Parts) : Bytes :=
  (p.header ++ '.' :: p.payload).flatMap String.utf8EncodeChar

end Parts

/-- What the header of a token says. -/
structure Header where
  algorithm : Algorithm
  keyId : Option String
  deriving DecidableEq, Repr

namespace Header

/-- The names of the optional fields that hold strings. -/
def textNames : List String :=
  ["kid", "typ", "cty", "jku", "x5u", "x5t", "x5t#S256", "enc", "zip", "url", "nonce"]

/-- The names of all fields that have a meaning. -/
def knownNames : List String := textNames ++ ["alg", "jwk", "x5c", "crit"]

/-- Whether all other members are strings. -/
def othersAreStrings : Document → Bool
  | .object members => members.all fun m =>
    match m.1 with
    | some name => knownNames.contains name || m.2.string?.isSome
    | none => false
  | _ => false

/-- The header that a JSON object writes. -/
def ofDocument? (d : Document) : Option Header := do
  let _ ← d.value?
  let texts ← (← d.objectFields? textNames).mapM (optionalPart? Document.string?)
  match ← d.objectFields? ["alg", "jwk", "x5c", "crit"] with
  | [alg, jwk, x5c, crit] => do
    let algorithm ← (← Document.required? Document.caseName? alg) |> Algorithm.ofName?
    let _ ← optionalPart? Key.ofDocument? jwk
    let _ ← [x5c, crit].mapM (optionalPart? strings?)
    if othersAreStrings d then return ⟨algorithm, texts.headD none⟩ else none
  | _ => none

/-- Reads the header of a token. -/
def ofParts (p : Parts) : Except Flaw Header :=
  match Text.Base64Url.decode? p.header with
  | none => .error .base64
  | some bytes =>
    match (Document.readBytes? bytes).bind ofDocument? with
    | none => .error .json
    | some h => .ok h

end Header
end Token
end PatronGateway
