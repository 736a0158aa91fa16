import PatronGateway.Http.Message
import PatronGateway.Http.Network
import PatronGateway.Text.Blank

/-!
# Messages on a connection

How requests and responses are written as bytes, one message for each connection,
and how they are read.  A message has a head, lines up to an empty one, and a body,
whose end is told by a length, by chunks, or by the end of the connection.

A reader of a message is given all bytes that have come so far, and tells whether
they make a message, need more, or never will make one.
-/

namespace PatronGateway
namespace Http

/-- What the bytes make that have come so far. -/
inductive Received (α : Type) where
  | complete (message : α)
  | partly
  | malformed

/-- The head of a message: its first line and its fields. -/
structure Head where
  first : String
  fields : Headers
  deriving DecidableEq, Repr

/-- How the end of a body is told. -/
inductive Framing where
  | length (count : Nat)
  | chunks
  | connection
  deriving DecidableEq, Repr

/-- The end of a line. -/
def lineBreak : Bytes :=
  [13, 10]

/-- Cuts bytes at the first occurrence of some others. -/
def cutAt? (mark : Bytes) (seen : Bytes) : Bytes → Option (Bytes × Bytes)
  | [] => none
  | b :: rest =>
    match Text.dropLead? mark (b :: rest) with
    | some behind => some (seen.reverse, behind)
    | none => cutAt? mark (b :: seen) rest

/-- The lines of a head. -/
def headLines (bs : Bytes) : List String :=
  (Text.splitOn 10 bs).map fun line =>
    Text.Utf8.decodeLossy (Text.dropTrailing (· == 13) line)

/-- Reads a field. -/
def field? (line : String) : Option (String × String) :=
  match Text.splitFirst? ':' line.toList with
  | some ([], _) | none => none
  | some (name, value) =>
    some (String.ofList (name.map Char.toLower), Text.trim (String.ofList value))

/-- Takes a head from the front, if all of it is there. -/
def Head.take? (bs : Bytes) : Option (Option Head × Bytes) :=
  (cutAt? (lineBreak ++ lineBreak) [] bs).map fun p =>
    match headLines p.1 with
    | [] => (none, p.2)
    | first :: lines => ((lines.mapM field?).map fun fields => ⟨first, fields⟩, p.2)

/-- How the end of a body is told, where the fields say something about it. -/
def framing? (fields : Headers) : Option Framing :=
  match fields.first? "transfer-encoding" with
  | some coding => if coding.toLower == "chunked" then some .chunks else none
  | none =>
    (fields.first? "content-length").bind fun text =>
      (Text.natural? text.toList).map .length

/-- The number of bytes of a chunk, by its first line. -/
def chunkSize? (line : Bytes) : Option Nat :=
  let digits := (Text.Utf8.decodeLossy line).toList.takeWhile (· != ';')
  Text.digitsIn? 16 (Text.trimRight digits)

/-- Reads chunks; the fuel bounds their number. -/
def takeChunks : Nat → Bytes → Received Bytes
  | 0, _ => .partly
  | fuel + 1, bs =>
    match cutAt? lineBreak [] bs with
    | none => .partly
    | some (line, rest) =>
      match chunkSize? line with
      | none => .malformed
      | some 0 => .complete []
      | some size =>
        if rest.length < size + 2 then .partly
        else
          match takeChunks fuel (rest.drop (size + 2)) with
          | .complete more => .complete (rest.take size ++ more)
          | .partly => .partly
          | .malformed => .malformed

/-- Reads a body from what has come so far behind the head. -/
def takeBody (framing : Framing) (closed : Bool) (bs : Bytes) : Received Bytes :=
  match framing with
  | .length n => if bs.length < n then .partly else .complete (bs.take n)
  | .chunks => takeChunks (bs.length + 1) bs
  | .connection => if closed then .complete bs else .partly

/-- Reads a request. -/
def Request.receive (bs : Bytes) : Received Request :=
  match Head.take? bs with
  | none => .partly
  | some (none, _) => .malformed
  | some (some head, rest) =>
    match (Text.splitOn ' ' head.first.toList).map String.ofList with
    | [method, target, _] =>
      match takeBody ((framing? head.fields).getD (.length 0)) false rest with
      | .complete body => .complete ⟨method, Target.ofUri target, head.fields, body⟩
      | .partly => .partly
      | .malformed => .malformed
    | _ => .malformed

/-- The lines of fields. -/
def fieldLines (fields : Headers) : String :=
  String.join (fields.map fun h => h.1 ++ ": " ++ h.2 ++ "\r\n")

/-- Writes a message after which the connection is closed. -/
def writeMessage (first : String) (fields : Headers) (body : Bytes) : Bytes :=
  Text.Utf8.encode (first ++ "\r\n" ++ fieldLines (fields.set "connection" "close") ++ "\r\n") ++
    body

/-- Writes a response to a request of a method. -/
def Response.toWire (r : Response) (method : String) : Bytes :=
  let fields := if (r.headers.first? "content-length").isSome then r.headers
    else r.headers.set "content-length" (toString r.body.length)
  writeMessage ("HTTP/1.1 " ++ toString r.status ++ " ") fields
    (if method == "HEAD" then [] else r.body)

/-- The host and the port of a URL as a request names them. -/
def hostField (u : Url) : String :=
  let port := match u.port with
    | some n => ':' :: Text.decimal n
    | none => []
  String.ofList (((u.host.map Url.Host.toChars).getD []) ++ port)

/-- The name or the address of the host of a URL, without brackets. -/
def hostName (u : Url) : String :=
  let cs := (u.host.map Url.Host.toChars).getD []
  String.ofList (cs.filter fun c => c != '[' && c != ']')

/-- The path and the query of a URL as a request names them. -/
def targetText (u : Url) : String :=
  let path := u.path.toChars
  let query := match u.query with
    | some q => '?' :: q
    | none => []
  String.ofList ((if path.isEmpty then ['/'] else path) ++ query)

/-- Writes a request. -/
def Outgoing.toWire (o : Outgoing) : Bytes :=
  let length := if o.method == "GET" && o.body.isEmpty then []
    else [("content-length", toString o.body.length)]
  writeMessage (o.method ++ " " ++ targetText o.url ++ " HTTP/1.1")
    (("host", hostField o.url) :: o.headers ++ length) o.body

/-- The status in the first line of a response. -/
def status? (first : String) : Option Nat :=
  match Text.splitOn ' ' first.toList with
  | _ :: code :: _ => (Text.natural? code).filter fun n => 100 ≤ n ∧ n < 1000
  | _ => none

/-- The answer with a head and a body that may be cut off. -/
def replyOf (head : Head) (status delay : Nat) (chunked : Bool) (missing : Nat) (body : Bytes) :
    Reply where
  status := status
  contentType := (head.fields.first? "content-type").map Text.Utf8.encode
  location := head.fields.first? "location"
  body := body
  chunked := chunked
  missing := missing
  delay := delay

/-- The answer whose body stops at the end of the connection. -/
def cutReply (head : Head) (status delay : Nat) (framing : Framing) (rest : Bytes) : Reply :=
  match framing with
  | .length n => replyOf head status delay false (n - rest.length) rest
  | .chunks => replyOf head status delay true 1 []
  | .connection => replyOf head status delay true 0 rest

/-- Reads the answer to a request, after a number of nanoseconds. -/
def Reply.receive (delay : Nat) (closed : Bool) (bs : Bytes) : Received Reply :=
  match Head.take? bs with
  | none => if closed then .malformed else .partly
  | some (none, _) => .malformed
  | some (some head, rest) =>
    match status? head.first with
    | none => .malformed
    | some status =>
      let framing := if hasNoBody status then .length 0
        else (framing? head.fields).getD .connection
      match takeBody framing closed rest with
      | .complete body => .complete (replyOf head status delay (framing != .length body.length) 0 body)
      | .partly => if closed then .complete (cutReply head status delay framing rest) else .partly
      | .malformed => .malformed

end Http
end PatronGateway
