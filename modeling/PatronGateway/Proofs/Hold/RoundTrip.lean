import PatronGateway.Hold.Payload
import PatronGateway.Proofs.Json.Record
import PatronGateway.Proofs.Json.RoundTrip
import PatronGateway.Proofs.Time.Rfc3339

/-!
# What a cancellation reads and writes

Requests, stored holds and payloads are kept as JSON.  Whatever text gives such a value, the value
can be written, and what is written for it gives the value again; the text itself need not come
back, since it may have blanks, members that nobody reads, other escapes, or fields in a row.  A
date is the only part that might have no written form.

* `Format` joins the reader and the writer of a type, and `Format.RoundTrips` says what is asked of
  a value.
* `Request.ofDocument?_toDocument` and its siblings are the round trips of documents; the module on
  JSON takes them to texts, and the one on RFC 3339 supplies the dates.
* `read_values_round_trip` is the statement about everything that was read, and about the payloads
  that are made from it.
-/

namespace PatronGateway
namespace Hold

open Json (Document)
open Time (Instant)

/-- How the values of a type are kept as JSON: how they are read and written, and which of them
have a written form. -/
structure Format (α : Type) where
  read : Document → Option α
  write : α → Document
  HasForm : α → Prop

namespace Format

variable {α : Type} (f : Format α)

/-- The value that a text gives. -/
def ofText? (text : String) : Option α :=
  (Document.read? text).bind f.read

/-- The value that a message body gives. -/
def ofBody? (body : Bytes) : Option α :=
  (Document.readBytes? body).bind f.read

/-- The text of a value. -/
def toText (v : α) : String :=
  (f.write v).write

/-- Some text gives the value, or some message body does. -/
def IsRead (v : α) : Prop :=
  (∃ text, f.ofText? text = some v) ∨ ∃ body, f.ofBody? body = some v

/-- A value can be written, its text gives the value again, as a text and as a message body, and
what comes back is written as the same text. -/
structure RoundTrips (v : α) : Prop where
  has_form : f.HasForm v
  read_text : f.ofText? (f.toText v) = some v
  read_body : f.ofBody? (Text.Utf8.encode (f.toText v)) = some v
  write_again : (f.ofText? (f.toText v)).map f.toText = some (f.toText v)

variable {f} {v : α}

/-- Documents are read back, so it is enough that the document of a value gives the value. -/
theorem roundTrips_of_read_write (hform : f.HasForm v) (hproper : (f.write v).IsProper)
    (hread : f.read (f.write v) = some v) : f.RoundTrips v := by
  have htext : f.ofText? (f.toText v) = some v := by
    unfold ofText? toText
    rw [Document.read?_write hproper]
    exact hread
  refine ⟨hform, htext, ?_, ?_⟩
  · unfold ofBody?
    rw [Document.readBytes?_encode]
    exact htext
  · rw [htext, Option.map_some]

/-- What was read, in whatever way, was read from a document. -/
theorem IsRead.exists_document (h : f.IsRead v) : ∃ d, f.read d = some v := by
  obtain ⟨text, htext⟩ | ⟨body, hbody⟩ := h
  · obtain ⟨d, -, hd⟩ := Option.bind_eq_some_iff.mp htext
    exact ⟨d, hd⟩
  · obtain ⟨d, -, hd⟩ := Option.bind_eq_some_iff.mp hbody
    exact ⟨d, hd⟩

end Format

/-! ## Fields -/

section Fields

theorem lookup_optionalMember (name key : String) (value : Option String) :
    (optionalMember name value).lookup key =
      if key == name then value.map Document.ofString else none := by
  cases value with
  | none => simp [optionalMember]
  | some s =>
      unfold optionalMember
      rw [List.lookup_cons]
      cases key == name <;> rfl

theorem isProper_of_mem_optionalMember {name : String} {value : Option String} :
    ∀ m ∈ optionalMember name value, m.2.IsProper := by
  intro m hm
  cases value with
  | none => cases hm
  | some s =>
      rw [List.mem_singleton.mp hm]
      exact Document.isProper_ofString s

theorem withDefault?_ofString (default s : String) :
    Document.withDefault? default Document.string? (some (.ofString s)) = some s := rfl

theorem required?_ofString (s : String) :
    Document.required? Document.string? (some (.ofString s)) = some s := rfl

theorem instant?_ofString {t : Instant} (h : t.IsValid) :
    instant? (.ofString t.write) = some t := by
  have hstring (s : String) : (Document.ofString s).string? = some s := rfl
  unfold instant?
  rw [hstring, Option.bind_some, Instant.read?_write h]

/-- An instant that may be missing is read back. -/
theorem optionalInstant_ofString {value : Option Instant} (h : ∀ t, value = some t → t.IsValid) :
    Document.withDefault? none (Document.optional? instant?)
      ((value.map Instant.write).map Document.ofString) = some value := by
  rw [Option.map_map]
  exact Document.withDefault?_optional?_map fun t ht =>
    ⟨Document.ofString_ne_null _, instant?_ofString (h t ht)⟩

theorem isValid_of_instant? {d : Document} {t : Instant} (h : instant? d = some t) :
    t.IsValid := by
  obtain ⟨s, -, hs⟩ := Option.bind_eq_some_iff.mp h
  exact Instant.isValid_of_read? hs

theorem isValid_of_optionalInstant {o : Option Document} {t : Instant}
    (h : Document.withDefault? none (Document.optional? instant?) o = some (some t)) :
    t.IsValid := by
  cases o with
  | none => cases h
  | some d =>
      change Document.optional? instant? d = some (some t) at h
      unfold Document.optional? at h
      split at h
      · cases h
      · obtain ⟨t', ht', hsome⟩ := Option.map_eq_some_iff.mp h
        rw [← Option.some.inj hsome]
        exact isValid_of_instant? ht'

end Fields

namespace Request

/-- The date of a request, if it has one, lies where dates can be written. -/
def HasForm (r : Request) : Prop := ∀ t, r.canceledDate = some t → t.IsValid

/-- How requests are kept. -/
def format : Format Request := ⟨ofDocument?, toDocument, HasForm⟩

/-- What the fields of a request are given when it is read back. -/
theorem fields?_toDocument (r : Request) :
    r.toDocument.fields? fieldNames = some [some (.ofString r.holdId),
      some (.ofString r.cancellationReasonId), some (.ofString r.canceledByUserId),
      r.additionalInformation.map .ofString,
      (r.canceledDate.map Instant.write).map .ofString] := by
  obtain ⟨holdId, reason, user, information, date⟩ := r
  unfold toDocument
  rw [Document.fields?_record]
  · simp [fieldNames, List.lookup_cons, List.lookup_append, lookup_optionalMember]
  · cases information <;> cases date <;> simp [optionalMember]

theorem ofDocument?_toDocument {r : Request} (h : r.HasForm) :
    ofDocument? r.toDocument = some r := by
  unfold ofDocument?
  rw [fields?_toDocument]
  simp only [Option.bind_eq_bind, Option.bind_some, withDefault?_ofString, Document.optionalText_ofString,
    optionalInstant_ofString h]
  rfl

theorem hasForm_of_ofDocument? {d : Document} {r : Request} (h : ofDocument? d = some r) :
    r.HasForm := by
  obtain ⟨fields, -, hfields⟩ := Option.bind_eq_some_iff.mp h
  split at hfields
  · obtain ⟨holdId, -, hrest⟩ := Option.bind_eq_some_iff.mp hfields
    obtain ⟨reason, -, hrest⟩ := Option.bind_eq_some_iff.mp hrest
    obtain ⟨user, -, hrest⟩ := Option.bind_eq_some_iff.mp hrest
    obtain ⟨information, -, hrest⟩ := Option.bind_eq_some_iff.mp hrest
    obtain ⟨date, hdate, hrest⟩ := Option.bind_eq_some_iff.mp hrest
    intro t ht
    rw [← Option.some.inj hrest] at ht
    dsimp only at ht
    rw [ht] at hdate
    exact isValid_of_optionalInstant hdate
  · cases hfields

theorem isProper_toDocument (r : Request) : r.toDocument.IsProper := by
  refine Document.isProper_record ?_
  simp only [List.forall_mem_append, List.forall_mem_cons, Document.isProper_ofString, true_and]
  exact ⟨⟨nofun, isProper_of_mem_optionalMember⟩, isProper_of_mem_optionalMember⟩

/-- A request whose date has a written form is read back. -/
theorem roundTrips {r : Request} (h : r.HasForm) : format.RoundTrips r :=
  Format.roundTrips_of_read_write h r.isProper_toDocument (ofDocument?_toDocument h)

end Request

namespace Record

/-- How stored holds are kept; none of them has a date that is more than a text. -/
def format : Format Record := ⟨ofDocument?, toDocument, fun _ => True⟩

theorem fields?_toDocument (r : Record) :
    r.toDocument.fields? ["id", "pickupServicePointId", "requestDate"] = some [
      some (.ofString r.id), r.pickupServicePointId.map .ofString,
      some (.ofString r.requestDate)] := by
  obtain ⟨id, pickup, date⟩ := r
  unfold toDocument
  rw [Document.fields?_record]
  · simp [List.lookup_cons, List.lookup_append, lookup_optionalMember]
  · cases pickup <;> simp [optionalMember]

theorem ofDocument?_toDocument (r : Record) : ofDocument? r.toDocument = some r := by
  unfold ofDocument?
  rw [fields?_toDocument]
  simp only [Option.bind_eq_bind, Option.bind_some, required?_ofString, Document.optionalText_ofString]
  rfl

theorem isProper_toDocument (r : Record) : r.toDocument.IsProper := by
  refine Document.isProper_record ?_
  simp only [List.forall_mem_append, List.forall_mem_cons, Document.isProper_ofString, true_and]
  exact ⟨⟨nofun, isProper_of_mem_optionalMember⟩, nofun⟩

/-- Every stored hold is read back. -/
theorem roundTrips (r : Record) : format.RoundTrips r :=
  Format.roundTrips_of_read_write trivial r.isProper_toDocument r.ofDocument?_toDocument

end Record

namespace Payload

/-- The date of a payload lies where dates can be written. -/
def HasForm (p : Payload) : Prop := p.canceledDate.IsValid

/-- How payloads are kept. -/
def format : Format Payload := ⟨ofDocument?, toDocument, HasForm⟩

theorem fields?_toDocument (p : Payload) :
    p.toDocument.fields? fieldNames = some [some (.ofString p.requestId),
      p.pickupLocationId.map .ofString, some (.ofString p.requestDate),
      some (.ofString p.cancellationReasonId), some (.ofString p.canceledByUserId),
      p.additionalInformation.map .ofString, some (.ofString p.canceledDate.write)] := by
  obtain ⟨id, pickup, requestDate, reason, user, information, date⟩ := p
  unfold toDocument
  rw [Document.fields?_record]
  · simp [fieldNames, List.lookup_cons, List.lookup_append, lookup_optionalMember]
  · cases pickup <;> cases information <;> simp [optionalMember]

theorem ofDocument?_toDocument {p : Payload} (h : p.HasForm) :
    ofDocument? p.toDocument = some p := by
  have hdate : Document.required? instant? (some (.ofString p.canceledDate.write)) =
      some p.canceledDate := by
    unfold Document.required?
    rw [Option.bind_some, instant?_ofString h]
  unfold ofDocument?
  rw [fields?_toDocument]
  simp only [Option.bind_eq_bind, Option.bind_some, required?_ofString, Document.optionalText_ofString,
    hdate]
  rfl

theorem hasForm_of_ofDocument? {d : Document} {p : Payload} (h : ofDocument? d = some p) :
    p.HasForm := by
  obtain ⟨fields, -, hfields⟩ := Option.bind_eq_some_iff.mp h
  split at hfields
  · obtain ⟨id, -, hrest⟩ := Option.bind_eq_some_iff.mp hfields
    obtain ⟨pickup, -, hrest⟩ := Option.bind_eq_some_iff.mp hrest
    obtain ⟨requestDate, -, hrest⟩ := Option.bind_eq_some_iff.mp hrest
    obtain ⟨reason, -, hrest⟩ := Option.bind_eq_some_iff.mp hrest
    obtain ⟨user, -, hrest⟩ := Option.bind_eq_some_iff.mp hrest
    obtain ⟨information, -, hrest⟩ := Option.bind_eq_some_iff.mp hrest
    obtain ⟨date, hdate, hrest⟩ := Option.bind_eq_some_iff.mp hrest
    obtain ⟨d, -, hd⟩ := Option.bind_eq_some_iff.mp hdate
    rw [← Option.some.inj hrest]
    exact isValid_of_instant? hd
  · cases hfields

theorem isProper_toDocument (p : Payload) : p.toDocument.IsProper := by
  refine Document.isProper_record ?_
  simp only [List.forall_mem_append, List.forall_mem_cons, Document.isProper_ofString, true_and]
  exact ⟨⟨⟨⟨nofun, isProper_of_mem_optionalMember⟩, nofun⟩, isProper_of_mem_optionalMember⟩,
    nofun⟩

/-- A payload whose date has a written form is read back. -/
theorem roundTrips {p : Payload} (h : p.HasForm) : format.RoundTrips p :=
  Format.roundTrips_of_read_write h p.isProper_toDocument (ofDocument?_toDocument h)

/-- A payload is dated as its request is, or now. -/
theorem hasForm_merge (hold : Record) {request : Request} {now : Instant}
    (hrequest : request.HasForm) (hnow : now.IsValid) : (merge hold request now).HasForm := by
  unfold HasForm merge
  dsimp only
  cases hdate : request.canceledDate with
  | none => exact hnow
  | some t => exact hrequest t hdate

end Payload

/-- Whatever a text or a message body gives can be written and is read back, be it a request, a
stored hold or a payload.  So is a payload that joins a stored hold and a request that were read,
at any instant of the years up to 9999, in UTC or with an offset. -/
theorem read_values_round_trip :
    (∀ request, Request.format.IsRead request → Request.format.RoundTrips request) ∧
    (∀ hold, Record.format.IsRead hold → Record.format.RoundTrips hold) ∧
    (∀ payload, Payload.format.IsRead payload → Payload.format.RoundTrips payload) ∧
    ∀ hold request (now : Instant), Record.format.IsRead hold → Request.format.IsRead request →
      now.IsValid → Payload.format.RoundTrips (Payload.merge hold request now) := by
  refine ⟨fun request h => ?_, fun hold _ => hold.roundTrips, fun payload h => ?_,
    fun hold request now _ h hnow => ?_⟩
  · obtain ⟨d, hd⟩ := h.exists_document
    exact Request.roundTrips (Request.hasForm_of_ofDocument? hd)
  · obtain ⟨d, hd⟩ := h.exists_document
    exact Payload.roundTrips (Payload.hasForm_of_ofDocument? hd)
  · obtain ⟨d, hd⟩ := h.exists_document
    exact Payload.roundTrips (Payload.hasForm_merge hold (Request.hasForm_of_ofDocument? hd) hnow)

/-- A request with an escape and a leap second, and a stored hold whose fields stand in a row. -/
theorem read_values_round_trip_leap_second :
    let hold : Record := ⟨"8a8f", none, "2024-02-10T09:30:00.000+0000"⟩
    let request : Request :=
      ⟨"é\n", "", "", none, some ⟨2016, 12, 31, 15, 59, 59, 999999999, -480⟩⟩
    let now : Instant := ⟨2030, 1, 1, 0, 0, 0, 0, 0⟩
    Record.format.ofText? "[\"8a8f\", null, \"2024-02-10T09:30:00.000+0000\"]" = some hold ∧
    Request.format.ofText?
        "\x7b\"holdId\": \"\\u00e9\\n\", \"canceledDate\": \"2016-12-31T15:59:60.5-08:00\"\x7d" =
      some request ∧
    Request.format.RoundTrips request ∧
    Payload.format.RoundTrips (Payload.merge hold request now) := by
  intro hold request now
  have hhold : Record.format.ofText? "[\"8a8f\", null, \"2024-02-10T09:30:00.000+0000\"]" =
      some hold := by decide +kernel
  have hrequest : Request.format.ofText?
      "\x7b\"holdId\": \"\\u00e9\\n\", \"canceledDate\": \"2016-12-31T15:59:60.5-08:00\"\x7d" =
      some request := by decide +kernel
  have hnow : now.IsValid := by decide
  obtain ⟨hrequests, -, -, hmerged⟩ := read_values_round_trip
  exact ⟨hhold, hrequest, hrequests request (.inl ⟨_, hrequest⟩),
    hmerged hold request now (.inl ⟨_, hhold⟩) (.inl ⟨_, hrequest⟩) hnow⟩

end Hold
end PatronGateway
