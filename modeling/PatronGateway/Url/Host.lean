import PatronGateway.Net.Address
import PatronGateway.Url.Percent
import PatronGateway.Url.Domain

/-!
# Hosts

The host of a URL is a domain name, an IPv4 or an IPv6 address, or, for schemes
that are not special, any text without the characters that delimit a host.
Domain names are kept in lower case and in ASCII, addresses by their value.
-/

namespace PatronGateway
namespace Url

/-- Why a text is no URL. -/
inductive Error where
  | noBase
  | opaqueBase
  | emptyHost
  | invalidPort
  | invalidDomain
  | invalidHostCharacter
  | invalidIpv4
  | invalidIpv6
  deriving DecidableEq, Repr

/-- The wording of an error. -/
def Error.message : Error → String
  | noBase => "relative URL without a base"
  | opaqueBase => "relative URL with a cannot-be-a-base base"
  | emptyHost => "empty host"
  | invalidPort => "invalid port number"
  | invalidDomain => "invalid international domain name"
  | invalidHostCharacter => "invalid domain character"
  | invalidIpv4 => "invalid IPv4 address"
  | invalidIpv6 => "invalid IPv6 address"

/-- The host of a URL. -/
inductive Host where
  | name (text : List Char)
  | ipv4 (address : Nat)
  | ipv6 (pieces : List Nat)
  deriving DecidableEq, Repr

namespace Host

/-- What no host may hold. -/
def forbiddenClass : CharClass := fun c =>
  c ∈ ['\x00', '\t', '\n', '\r', ' ', '#', '/', ':', '<', '>', '?', '@', '[', '\\', ']', '^', '|']

/-- What no domain name may hold. -/
def forbiddenDomainClass : CharClass := fun c =>
  forbiddenClass c || isControl c || c == '%'

/-- Reads a part of an IPv4 address: decimal, octal behind `0`, hexadecimal
behind `0x`. -/
def ipv4Number? : List Char → Option Nat
  | [] => none
  | ['0'] => some 0
  | '0' :: 'x' :: rest | '0' :: 'X' :: rest => if rest.isEmpty then some 0 else Text.digitsIn? 16 rest
  | '0' :: rest => Text.digitsIn? 8 rest
  | cs => Text.digitsIn? 10 cs

/-- The labels of a name, without an empty one at the end. -/
def labels (cs : List Char) : List (List Char) :=
  let parts := Text.splitOn '.' cs
  if parts.getLast? = some [] then parts.dropLast else parts

/-- Whether the last label of a name is a number. -/
def endsInNumber (cs : List Char) : Bool :=
  match (labels cs).getLast? with
  | some last =>
    (!last.isEmpty && last.all fun c => (Text.Digit.ofChar? c).isSome) || (ipv4Number? last).isSome
  | none => false

/-- Reads an IPv4 address; its last part fills what the others leave. -/
def ipv4? (cs : List Char) : Except Error Host :=
  match (labels cs).mapM ipv4Number? with
  | some numbers =>
    let leading := numbers.dropLast
    let last := numbers.getLast?.getD 0
    if numbers.isEmpty ∨ 4 < numbers.length ∨ !leading.all (· < 256) ∨
        256 ^ (4 - leading.length) ≤ last then
      .error .invalidIpv4
    else
      let shifted := leading.zipIdx.map fun p => p.1 * 256 ^ (3 - p.2)
      .ok (.ipv4 (shifted.foldl (· + ·) last))
  | none => .error .invalidIpv4

/-- The ASCII form of a domain name, if nothing in it is forbidden. -/
def domainName? (cs : List Char) : Option (List Char) :=
  (Domain.toAscii? cs).filter fun ascii => !ascii.any forbiddenDomainClass

/-- Reads an IPv6 address without its brackets. -/
def ipv6? (cs : List Char) : Except Error Host :=
  match Net.pieces? cs with
  | some ps => .ok (.ipv6 ps)
  | none => .error .invalidIpv6

/-- Takes the brackets away from an IPv6 address. -/
def bracketed? : List Char → Option (Except Error (List Char))
  | '[' :: rest =>
    if rest.getLast? = some ']' then some (.ok rest.dropLast) else some (.error .invalidIpv6)
  | _ => none

/-- Reads the host of a special scheme. -/
def special? (cs : List Char) : Except Error Host :=
  match bracketed? cs with
  | some (.ok inner) => ipv6? inner
  | some (.error e) => .error e
  | none =>
    match (Text.Utf8.decode? (percentDecodeText cs)).bind fun s => domainName? s.toList with
    | none => .error .invalidDomain
    | some [] => .error .emptyHost
    | some ascii => if endsInNumber ascii then ipv4? ascii else .ok (.name ascii)

/-- Reads the host of a scheme that is not special. -/
def plain? (cs : List Char) : Except Error Host :=
  match bracketed? cs with
  | some (.ok inner) => ipv6? inner
  | some (.error e) => .error e
  | none =>
    if cs.any forbiddenClass then .error .invalidHostCharacter
    else .ok (.name (percentEncode isControl cs))

/-- The text of a host. -/
def toChars : Host → List Char
  | name text => text
  | ipv4 n => Net.octetsText [n / 256 ^ 3, n / 256 ^ 2 % 256, n / 256 % 256, n % 256]
  | ipv6 pieces => '[' :: Net.piecesText pieces ++ [']']

end Host
end Url
end PatronGateway
