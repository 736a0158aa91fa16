import PatronGateway.Json.Record
import PatronGateway.Json.Reader
import PatronGateway.Json.Value
import PatronGateway.Text.Base64Url
import PatronGateway.Token.Algorithm

/-!
# Key sets

A key set is a JSON document that lists signing keys.  A key may have an id and
may name the algorithm that it is meant for.  One key of a shape that is not
known spoils the whole set.
-/

namespace PatronGateway
namespace Token

open Json (Document)

/-- The parts of a key as they are written. -/
inductive Material where
  | secret (k : String)
  | rsa (n e : String)
  | curve (x y : String)
  | edwards (x : String)
  deriving DecidableEq, Repr

/-- A signing key. -/
structure Key where
  id : Option String
  algorithm : Option String
  material : Material
  deriving DecidableEq, Repr

/-- A key set. -/
abbrev KeySet := List Key

/-- A part that may be missing or null. -/
def optionalPart? (read : Document → Option α) (d : Option Document) : Option (Option α) :=
  Document.withDefault? none (Document.optional? read) d

/-- A list of strings. -/
def strings? (d : Document) : Option (List String) := Document.listOf? Document.string? d

/-- The names of the curves. -/
def curveNames : List String := ["P-256", "P-384", "P-521", "Ed25519"]

/-- The name of a curve. -/
def curveName? (d : Document) : Option String :=
  d.caseName?.filter curveNames.contains

namespace Material

/-- Reads two strings of an object. -/
def pair? (d : Document) (a b : String) : Option (String × String) := do
  match ← d.objectFields? ["kty", a, b] with
  | [_, x, y] => do
    return (← Document.required? Document.string? x, ← Document.required? Document.string? y)
  | _ => none

/-- Reads the curve of an object. -/
def curveOf? (d : Document) : Option String := do
  match ← d.objectFields? ["crv"] with
  | [crv] => Document.required? curveName? crv
  | _ => none

/-- The parts of a key that a JSON object writes. -/
def ofDocument? (d : Document) : Option Material := do
  match ← d.objectFields? ["kty"] with
  | [kty] => do
    match ← Document.required? Document.caseName? kty with
    | "EC" => do
      let _ ← curveOf? d
      let (x, y) ← pair? d "x" "y"
      return curve x y
    | "RSA" => do
      let (n, e) ← pair? d "n" "e"
      return rsa n e
    | "oct" => do
      match ← d.objectFields? ["k"] with
      | [k] => do return secret (← Document.required? Document.string? k)
      | _ => none
    | "OKP" => do
      let _ ← curveOf? d
      match ← d.objectFields? ["x"] with
      | [x] => do return edwards (← Document.required? Document.string? x)
      | _ => none
    | _ => none
  | _ => none

/-- The bytes of a part. -/
def part? (s : String) : Option Bytes := Text.Base64Url.decode? s.toList

/-- The key that the parts make up. -/
def key? : Material → Option VerifyingKey
  | secret k => do return .secret (← part? k)
  | rsa n e => do return .rsa (← part? n) (← part? e)
  | curve x y => do return .curve ((← part? x) ++ (← part? y))
  | edwards x => do return .edwards ((← part? x).take 32)

end Material

namespace Key

/-- The names of the fields that every key may have. -/
def commonNames : List String :=
  ["kid", "alg", "use", "key_ops", "x5u", "x5c", "x5t", "x5t#S256"]

/-- The key that a JSON object writes. -/
def ofDocument? (d : Document) : Option Key := do
  match ← d.objectFields? commonNames with
  | [kid, alg, use, operations, x5u, x5c, x5t, x5t256] => do
    let id ← optionalPart? Document.string? kid
    let algorithm ← optionalPart? Document.looseCaseName? alg
    let _ ← [use, x5u, x5t, x5t256].mapM (optionalPart? Document.string?)
    let _ ← [operations, x5c].mapM (optionalPart? strings?)
    let _ ← d.meaning?
    return ⟨id, algorithm, ← Material.ofDocument? d⟩
  | _ => none

/-- The algorithm that the key is meant for, if it is one for public keys. -/
def expectedAlgorithm? (k : Key) : Option Algorithm :=
  (k.algorithm.bind Algorithm.ofName?).filter fun a => a.family ≠ .secret

end Key

namespace KeySet

/-- How deep a key stands inside the document of its set. -/
def keyDepth : Nat := 2

/-- The key set that a JSON document writes. -/
def ofDocument? (d : Document) : Option KeySet := do
  match ← d.fields? ["keys"] with
  | [keys] => do
    let items ← Document.required? (Document.listOf? some) keys
    if items.all fun k => k.depth + keyDepth < Document.depthLimit then
      items.mapM Key.ofDocument?
    else none
  | _ => none

/-- The key set of a text. -/
def read? (text : String) : Option KeySet := (Document.read? text).bind ofDocument?

/-- The first key with an id. -/
def find? (keys : KeySet) (id : String) : Option Key :=
  List.find? (fun k => k.id == some id) keys

end KeySet
end Token
end PatronGateway
