import Mathlib.Data.Bool.AllAny
import PatronGateway.Proofs.Backend.Endpoint
import PatronGateway.Proofs.Hold.Validation

/-!
# Which hold is addressed

The text of a hold id that has been found valid goes into two URLs as it came, not as the UUID
that has been read from it.  What is a UUID is no dot segment and holds no tab and no line break,
so it is one segment in both of them, from which just this text is read back.

* `isPlain_of_isUuid` says so of every spelling, and `isPlain_of_isIdChar` of the ids of patrons
  that are plain words.
* `validated_hold_is_addressed` puts the validation and the two URLs together.
-/

namespace PatronGateway
namespace Hold

open Backend (Client)
open Backend.Client (IsStep Operation foundHold)
open Http (Network Outgoing)
open Url (IsPlain percentEncode slashed specialSegmentClass)

section Segments

/-- A spelling of a UUID leads down by its whole name. -/
theorem isPlain_of_isUuid {value : String} (h : IsUuid value) : IsPlain value := by
  obtain ⟨u, hu⟩ := h
  have hlength := hu.length_le
  refine ⟨?_, ?_, ?_⟩
  · rintro rfl
    exact absurd hlength (by decide)
  · rintro rfl
    exact absurd hlength (by decide)
  · rw [List.any_eq_false]
    intro c hc hdropped
    have hink := hu.isInk hc
    have hblank : ∀ d ∈ ['\t', '\n', '\r'], d.toNat ≤ 0x20 :=
      List.all_iff_forall_prop.mp (by decide)
    have hmem : c ∈ ['\t', '\n', '\r'] := by
      unfold Url.isDropped at hdropped
      simpa [or_assoc] using hdropped
    exact absurd (hblank c hmem) (Nat.not_le.mpr hink.1)

/-- The characters of plain words. -/
def isIdChar (c : Char) : Bool := c.isAlphanum || c == '-' || c == '_'

/-- The characters of plain words stand for themselves in a segment. -/
theorem plain_of_isIdChar {c : Char} (h : isIdChar c = true) :
    c.toNat < 0x80 ∧ specialSegmentClass c = false ∧ Url.isDropped c = false ∧ c ≠ '.' := by
  have hascii : c.toNat < 0x80 := by
    unfold isIdChar at h
    simp only [Bool.or_eq_true, beq_iff_eq] at h
    rcases h with (halphanum | rfl) | rfl
    · change ((decide (65 ≤ c.val ∧ c.val ≤ 90) || (97 ≤ c.val && c.val ≤ 122)) ||
        (48 ≤ c.val && c.val ≤ 57)) = true at halphanum
      simp only [Bool.or_eq_true, Bool.and_eq_true, decide_eq_true_eq,
        UInt32.le_iff_toNat_le] at halphanum
      change ((65 ≤ c.toNat ∧ c.toNat ≤ 90) ∨ (97 ≤ c.toNat ∧ c.toNat ≤ 122)) ∨
        (48 ≤ c.toNat ∧ c.toNat ≤ 57) at halphanum
      omega
    · decide
    · decide
  have hall : ∀ n < 0x80, isIdChar (Char.ofNat n) = true →
      specialSegmentClass (Char.ofNat n) = false ∧ Url.isDropped (Char.ofNat n) = false ∧
        Char.ofNat n ≠ '.' := by
    decide +kernel
  have hself := hall c.toNat hascii
  rw [Char.ofNat_toNat] at hself
  exact ⟨hascii, hself h⟩

/-- A plain word leads down by its whole name, which is written as it is. -/
theorem isPlain_of_isIdChar {id : String} (h : ∀ c ∈ id.toList, isIdChar c = true) :
    IsPlain id ∧ percentEncode specialSegmentClass id.toList = id.toList := by
  have hplain := fun c hc => plain_of_isIdChar (h c hc)
  refine ⟨⟨?_, ?_, ?_⟩, Url.percentEncode_eq_self fun c hc => ⟨(hplain c hc).1, (hplain c hc).2.1⟩⟩
  · rintro rfl
    exact (hplain '.' (by decide)).2.2.2 rfl
  · rintro rfl
    exact (hplain '.' (by decide)).2.2.2 rfl
  · rw [List.any_eq_false]
    intro c hc
    rw [(hplain c hc).2.2.1]
    decide

end Segments

section Requests

variable {address : String} {token : Option String} {timeout : Time.Span} {c : Client}
  {holdId : String}

/-- The segment that a text is written as. -/
def segmentOf (value : String) : List Char := percentEncode specialSegmentClass value.toList

/-- The segment of a UUID is no dot segment, and its text is read back. -/
theorem isStep_segmentOf (h : IsUuid holdId) : IsStep (segmentOf holdId) := by
  obtain ⟨hdot, hdots, -⟩ := isPlain_of_isUuid h
  exact Client.isStep_percentEncode (fun hsame => hdot (String.toList_inj.mp hsame))
    fun hsame => hdots (String.toList_inj.mp hsame)

/-- A hold is read from the URL with its id in one segment. -/
theorem fetchHold_of_isUuid (hbuild : Client.build address token timeout = .ok c)
    (hweb : Http.isWebScheme c.base.scheme = true) (h : IsUuid holdId) (n : Network)
    (tenant : String) :
    ∃ o : Outgoing, c.fetchHold n tenant holdId =
        ((c.send n o).1.bind foundHold, (c.send n o).2) ∧
      o.method = "GET" ∧ o.url = c.urlOf (c.base.stem ++
        slashed ["circulation".toList, "requests".toList, segmentOf holdId]) := by
  have hplain : ∀ s ∈ ["circulation", "requests", holdId], IsPlain s := by
    simpa using ⟨by decide, by decide, isPlain_of_isUuid h⟩
  have hwords : segmentOf "circulation" = "circulation".toList ∧
      segmentOf "requests" = "requests".toList := by decide
  have hendpoint : c.endpoint (Operation.fetchHold holdId).path =
      .ok (c.urlOf (c.base.stem ++
        slashed [segmentOf "circulation", segmentOf "requests", segmentOf holdId])) :=
    Client.endpoint_of_plain hbuild hweb "circulation" _ (by decide) hplain
  rw [hwords.1, hwords.2] at hendpoint
  have hfetch := c.fetchHold_eq_ask n tenant holdId
  rw [Client.ask_of_endpoint hendpoint] at hfetch
  exact ⟨_, hfetch, rfl, rfl⟩

/-- A cancellation is submitted to the URL with the ids of the patron and of the hold in one
segment each. -/
theorem submit_of_isUuid (hbuild : Client.build address token timeout = .ok c)
    (hweb : Http.isWebScheme c.base.scheme = true) (h : IsUuid holdId) {patronId : String}
    (hpatron : ∀ ch ∈ patronId.toList, isIdChar ch = true) (n : Network) (tenant : String)
    (payload : Payload) :
    ∃ o : Outgoing, c.submit n tenant patronId holdId payload = c.send n o ∧
      o.method = "POST" ∧ o.url = c.urlOf (c.base.stem ++ slashed ["patron".toList,
        "account".toList, patronId.toList, "hold".toList, segmentOf holdId, "cancel".toList]) := by
  obtain ⟨hplainId, hid⟩ := isPlain_of_isIdChar hpatron
  have hplain : ∀ s ∈ ["patron", "account", patronId, "hold", holdId, "cancel"], IsPlain s := by
    simpa using ⟨by decide, by decide, hplainId, by decide, isPlain_of_isUuid h, by decide⟩
  have hwords : segmentOf "patron" = "patron".toList ∧ segmentOf "account" = "account".toList ∧
      segmentOf "hold" = "hold".toList ∧ segmentOf "cancel" = "cancel".toList := by decide
  have hendpoint : c.endpoint (Operation.submit patronId holdId payload).path =
      .ok (c.urlOf (c.base.stem ++ slashed [segmentOf "patron", segmentOf "account",
        segmentOf patronId, segmentOf "hold", segmentOf holdId, segmentOf "cancel"])) :=
    Client.endpoint_of_plain hbuild hweb "patron" _ (by decide) hplain
  rw [hwords.1, hwords.2.1, hwords.2.2.1, hwords.2.2.2, segmentOf.eq_def patronId, hid] at hendpoint
  exact ⟨_, Client.ask_of_endpoint hendpoint n tenant, rfl, rfl⟩

end Requests

/-- A hold id that is valid is the hold that is addressed.  A request is valid for the hold id of
a path if and only if the four ids are UUIDs, in any of their spellings, and the hold is the same;
so it stays valid however these are spelled, and otherwise it has its first fault.  Whenever it is
valid, the hold is read and the cancellation is submitted below the path of the base, whatever the
address on the web, with the text of the path in one segment, from which it is read back; a patron
id that is a plain word is a segment as it stands. -/
theorem validated_hold_is_addressed (r : Request) (holdId : String) :
    (r.validate holdId = .ok () ↔
      IsUuid holdId ∧ IsUuid r.holdId ∧ IsUuid r.cancellationReasonId ∧
        IsUuid r.canceledByUserId ∧ SameUuid holdId r.holdId) ∧
    (∀ (r' : Request) (holdId' : String), Respelled holdId holdId' →
      Respelled r.holdId r'.holdId →
      Respelled r.cancellationReasonId r'.cancellationReasonId →
      Respelled r.canceledByUserId r'.canceledByUserId →
      (r.validate holdId = .ok () ↔ r'.validate holdId' = .ok ())) ∧
    (∀ f, r.validate holdId = .error f ↔ r.FirstFault holdId f) ∧
    (r.validate holdId = .ok () → ∀ (address : String) (token : Option String)
      (timeout : Time.Span) (c : Client), Client.build address token timeout = .ok c →
      Http.isWebScheme c.base.scheme = true → ∃ segment,
        IsStep segment ∧ Url.percentDecodeText segment = Text.Utf8.encode holdId ∧
        (∀ n tenant, ∃ o : Outgoing, c.fetchHold n tenant holdId =
            ((c.send n o).1.bind foundHold, (c.send n o).2) ∧
          o.method = "GET" ∧ o.url = { c.base with path := .rooted (c.base.stem ++
            slashed ["circulation".toList, "requests".toList, segment]) }) ∧
        ∀ n tenant patronId payload, patronId ≠ "" →
          (∀ ch ∈ patronId.toList, isIdChar ch = true) →
          ∃ o : Outgoing, c.submit n tenant patronId holdId payload = c.send n o ∧
            o.method = "POST" ∧ o.url = { c.base with path := .rooted (c.base.stem ++
              slashed ["patron".toList, "account".toList, patronId.toList, "hold".toList, segment,
                "cancel".toList]) }) := by
  refine ⟨?_, fun r' holdId' hpath hhold hreason huser => ?_, fun f => ?_, fun hvalid => ?_⟩
  · rw [Request.validate_eq_ok_iff]
    unfold Request.Accepted Request.idFields
    simp [and_assoc]
  · exact Request.validate_respelled hpath hhold hreason huser
  · exact Request.validate_eq_error_iff
  · intro address token timeout c hbuild hweb
    obtain ⟨hall, -⟩ := Request.validate_eq_ok_iff.mp hvalid
    have huuid : IsUuid holdId := hall ("path holdId", holdId) List.mem_cons_self
    refine ⟨segmentOf holdId, isStep_segmentOf huuid, Url.percentDecodeText_percentEncode rfl _,
      fetchHold_of_isUuid hbuild hweb huuid, ?_⟩
    intro n tenant patronId payload _ hpatron
    exact submit_of_isUuid hbuild hweb huuid hpatron n tenant payload

/-- A hold in braces and capitals, and a request that spells it with digits alone. -/
theorem validated_hold_is_addressed_braced :
    let holdId := "\x7bA0000000-0000-0000-0000-00000000000F\x7d"
    let r : Request := ⟨"a000000000000000000000000000000f",
      "URN:UUID:00000000-0000-0000-0000-000000000001",
      "00000000-0000-0000-0000-000000000002", none, none⟩
    r.validate holdId = .ok () ∧ SameUuid holdId r.holdId ∧
    ∃ (segment : List Char) (o : Outgoing),
      Url.percentDecodeText segment = Text.Utf8.encode holdId ∧
      Client.loopback.fetchHold Client.divertingNetwork "diku" holdId =
        ((Client.loopback.send Client.divertingNetwork o).1.bind foundHold,
          (Client.loopback.send Client.divertingNetwork o).2) ∧
      o.url.path = .rooted (slashed ["circulation".toList, "requests".toList, segment]) := by
  intro holdId r
  have hvalid : r.validate holdId = .ok () := by
    have hresult : (r.validate holdId).toOption = some () := by decide +kernel
    cases hcheck : r.validate holdId with
    | error f =>
        rw [hcheck] at hresult
        cases hresult
    | ok _ => rfl
  obtain ⟨haccepted, -, -, haddressed⟩ := validated_hold_is_addressed r holdId
  obtain ⟨-, -, -, -, hsame⟩ := haccepted.mp hvalid
  obtain ⟨segment, -, hread, hfetch, -⟩ := haddressed hvalid "http://[::1]:9130" (some "secret")
    (Time.Span.ofSeconds 10) Client.loopback rfl rfl
  obtain ⟨o, hsent, -, hurl⟩ := hfetch Client.divertingNetwork "diku"
  refine ⟨hvalid, hsame, segment, o, hread, hsent, ?_⟩
  rw [hurl]
  rfl

end Hold
end PatronGateway
