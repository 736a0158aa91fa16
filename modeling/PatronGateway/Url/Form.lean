import PatronGateway.Text.Split
import PatronGateway.Url.Percent

/-!
# Form-encoded pairs

A query lists pairs of a name and a value: `name=value` joined by `&`, with a
plus sign for a blank and percent triples for most of what is neither a letter
nor a digit.  Reading takes what there is: empty pieces are skipped, a piece
without an equals sign has an empty value, and undecodable bytes become U+FFFD.
-/

namespace PatronGateway
namespace Url

/-- What stands for itself in a form: letters, digits and four marks. -/
def isFormChar (c : Char) : Bool :=
  c.isAlphanum || c ∈ ['*', '-', '.', '_']

/-- A byte of a name or a value. -/
def formByte (b : UInt8) : List Char :=
  if b = 0x20 then ['+']
  else percentByte (fun c => !isFormChar c) b

/-- A name or a value. -/
def formText (s : String) : List Char :=
  (Text.Utf8.encode s).flatMap formByte

/-- A pair. -/
def formPair (p : String × String) : List Char :=
  formText p.1 ++ '=' :: formText p.2

/-- Pairs with `&` between them. -/
def formEncode : List (String × String) → List Char
  | [] => []
  | [p] => formPair p
  | p :: rest => formPair p ++ '&' :: formEncode rest

/-- Reads a name or a value. -/
def formDecodeText (bs : Bytes) : String :=
  Text.Utf8.decodeLossy (percentDecode (bs.map fun b => if b = 0x2B then 0x20 else b))

/-- Reads a pair. -/
def formDecodePair (bs : Bytes) : String × String :=
  match Text.splitFirst? 0x3D bs with
  | some (name, value) => (formDecodeText name, formDecodeText value)
  | none => (formDecodeText bs, "")

/-- Reads pairs. -/
def formDecode (query : String) : List (String × String) :=
  ((Text.splitOn 0x26 (Text.Utf8.encode query)).filter fun piece => !piece.isEmpty).map
    formDecodePair

end Url
end PatronGateway
