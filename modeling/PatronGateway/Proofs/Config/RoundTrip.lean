import PatronGateway.Proofs.Json.Number
import PatronGateway.Proofs.Json.Record
import PatronGateway.Proofs.Time.Span
import PatronGateway.Token.KeySource

/-!
# Settings are read back

The settings of a cache and those of the identity provider are written as JSON, the spans of time
among them as texts.  Reading gives the same settings again, with any numbers of 64 bits and any
spans of less than `2 ^ 64` seconds.

* `WritesSpan` says how a span stands in a document.
* `Cache.Settings.read?_toDocument` and its sibling are the round trips of documents; the module on
  JSON takes them to texts, and the one on spans supplies the lifetimes and the timeout.
* `settings_round_trip` is the statement about both kinds of settings.
-/

namespace PatronGateway

open Json (Document)
open Time (Span)

namespace Config

/-- A document writes a span: as the text of the span, which is read without leaving 64 bits. -/
def WritesSpan (s : Span) (d : Document) : Prop :=
  ∃ text, d = .ofString text ∧ s.IsWrittenAs text ∧ Span.read? text = some s

theorem writesSpan_write {s : Span} (h : s.seconds < 2 ^ 64) :
    WritesSpan s (.ofString s.write) :=
  ⟨s.write, rfl, s.isWrittenAs_write, Span.read?_write h⟩

/-- A span that was given to a field is read from it. -/
theorem field?_span {s : Span} (h : s.seconds < 2 ^ 64) (default : Span) :
    Form.field? default Form.span? (some (Document.ofString s.write)) = some s :=
  Span.read?_write h

theorem field?_natural {n : Nat} (h : n < 2 ^ 64) (default : Nat) :
    Form.field? default Form.natural? (some (Document.ofNat n)) = some n :=
  Document.natural?_ofNat h

theorem field?_text (s default : String) :
    Form.field? default Form.text? (some (Document.ofString s)) = some s := rfl

end Config

open Config (Form WritesSpan)

namespace Cache.Settings

/-- Settings with numbers of 64 bits: the capacity, and the seconds of both lifetimes. -/
structure Fits (s : Settings) : Prop where
  capacity_lt : s.capacity < 2 ^ 64
  presentTtl_lt : s.presentTtl.seconds < 2 ^ 64
  absentTtl_lt : s.absentTtl.seconds < 2 ^ 64

variable (s : Settings)

theorem fields?_toDocument :
    Form.fields? ["capacity", "present_ttl", "absent_ttl"] s.toDocument = some [
      some (.ofNat s.capacity), some (.ofString s.presentTtl.write),
      some (.ofString s.absentTtl.write)] := by
  change s.toDocument.fields? _ = _
  unfold toDocument
  rw [Document.fields?_record]
  · simp [List.lookup_cons]
  · simp

theorem isProper_toDocument : s.toDocument.IsProper := by
  refine Document.isProper_record ?_
  simp only [List.forall_mem_cons, Document.isProper_ofString, Document.isProper_ofNat, true_and]
  exact nofun

variable {s}

theorem read?_toDocument (h : s.Fits) : read? s.toDocument = some s := by
  unfold read?
  rw [fields?_toDocument]
  simp only [Option.bind_eq_bind, Option.bind_some, Config.field?_natural h.capacity_lt,
    Config.field?_span h.presentTtl_lt, Config.field?_span h.absentTtl_lt]
  rfl

end Cache.Settings

namespace Token.SourceSettings

/-- Settings with numbers of 64 bits: the seconds of the timeout, and the size. -/
structure Fits (s : SourceSettings) : Prop where
  requestTimeout_lt : s.requestTimeout.seconds < 2 ^ 64
  maxResponseSize_lt : s.maxResponseSize < 2 ^ 64

variable (s : SourceSettings)

theorem fields?_toDocument :
    Form.fields? ["url", "request_timeout", "max_response_size"] s.toDocument = some [
      some (.ofString s.url), some (.ofString s.requestTimeout.write),
      some (.ofNat s.maxResponseSize)] := by
  change s.toDocument.fields? _ = _
  unfold toDocument
  rw [Document.fields?_record]
  · simp [List.lookup_cons]
  · simp

theorem isProper_toDocument : s.toDocument.IsProper := by
  refine Document.isProper_record ?_
  simp only [List.forall_mem_cons, Document.isProper_ofString, Document.isProper_ofNat, true_and]
  exact nofun

variable {s}

theorem read?_toDocument (h : s.Fits) : read? s.toDocument = some s := by
  unfold read?
  rw [fields?_toDocument]
  simp only [Option.bind_eq_bind, Option.bind_some, Config.field?_text,
    Config.field?_span h.requestTimeout_lt, Config.field?_natural h.maxResponseSize_lt]
  rfl

end Token.SourceSettings

namespace Config

/-- What is written for the settings of a cache, or for those of the identity provider, is read as
these settings, and each span of time stands in it as its text. -/
theorem settings_round_trip :
    (∀ s : Cache.Settings, s.Fits → ∃ d, Document.read? s.toDocument.write = some d ∧
      Cache.Settings.read? d = some s ∧
      ∃ present absent, WritesSpan s.presentTtl present ∧ WritesSpan s.absentTtl absent ∧
        d = .record [("capacity", .ofNat s.capacity), ("present_ttl", present),
          ("absent_ttl", absent)]) ∧
    ∀ s : Token.SourceSettings, s.Fits → ∃ d, Document.read? s.toDocument.write = some d ∧
      Token.SourceSettings.read? d = some s ∧
      ∃ timeout, WritesSpan s.requestTimeout timeout ∧
        d = .record [("url", .ofString s.url), ("request_timeout", timeout),
          ("max_response_size", .ofNat s.maxResponseSize)] := by
  refine ⟨fun s h => ?_, fun s h => ?_⟩
  · exact ⟨s.toDocument, Document.read?_write s.isProper_toDocument,
      Cache.Settings.read?_toDocument h, _, _, writesSpan_write h.presentTtl_lt,
      writesSpan_write h.absentTtl_lt, rfl⟩
  · exact ⟨s.toDocument, Document.read?_write s.isProper_toDocument,
      Token.SourceSettings.read?_toDocument h, _, writesSpan_write h.requestTimeout_lt, rfl⟩

/-- The largest capacity with the longest lifetime and none at all, and a timeout in which every
unit has a share. -/
theorem settings_round_trip_longest :
    let cache : Cache.Settings := ⟨18446744073709551615, ⟨18446744073709551615999999999⟩, .zero⟩
    let source : Token.SourceSettings := ⟨"http://[::1]/\"é", ⟨34277676001001001⟩, 0⟩
    (cache.Fits ∧ source.Fits) ∧
    (cache.presentTtl.write = "584542046090years 7months 15days 17h 5m 3s 999ms 999us 999ns" ∧
      cache.absentTtl.write = "0s" ∧
      source.requestTimeout.write = "1year 1month 1day 1h 1m 1ms 1us 1ns") ∧
    (Document.read? cache.toDocument.write).bind Cache.Settings.read? = some cache ∧
    (Document.read? source.toDocument.write).bind Token.SourceSettings.read? = some source := by
  intro cache source
  have hcache : cache.Fits := by constructor <;> decide
  have hsource : source.Fits := by constructor <;> decide
  obtain ⟨hcaches, hsources⟩ := settings_round_trip
  obtain ⟨d, hd, hread, -⟩ := hcaches cache hcache
  obtain ⟨e, he, hread', -⟩ := hsources source hsource
  refine ⟨⟨hcache, hsource⟩, ⟨by decide +kernel, by decide +kernel, by decide +kernel⟩, ?_, ?_⟩
  · rw [hd]
    exact hread
  · rw [he]
    exact hread'

end Config
end PatronGateway
