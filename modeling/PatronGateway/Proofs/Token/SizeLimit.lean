import PatronGateway.Proofs.Backend.Reply
import PatronGateway.Proofs.Http.Charset
import PatronGateway.Proofs.Token.Certs

/-!
# The limit on the size of a document

The size of an answer is compared with the limit twice: as a declared length before the body is
read, and as the length of the text afterwards.  The first comparison counts the bytes that are
sent; the second one counts bytes of UTF-8, and is all that an answer in chunks meets with, since
it declares no length.  A body in UTF-16, or one behind a byte order mark, can therefore be larger
than the limit and be taken, and one in a charset that is replaced can be of any size.  Of the
charsets that go by tables of several bytes nothing is said but that the text is measured.

* `document_of_succeeds` says which whole, successful answers are taken.
* `Answered.fetch_eq` and `answered_of_fetch` say that a document is that of the answer to the
  request for it.
* `fetch_keeps_size_limit` is about all answers, and `fetch_exceeds_size_limit` about one that is
  too large.
-/

namespace PatronGateway
namespace Http
namespace Reply

/-- An answer is successful, and nothing of its body is missing. -/
structure Succeeds (r : Reply) : Prop where
  status_ge : 200 ≤ r.status
  status_lt : r.status < 300
  whole : r.IsWhole

/-- The charset of the content type. -/
def charset (r : Reply) : Charset := Charset.ofContentType (r.contentType.bind readable?)

/-- The text of the body, in the charset of the content type. -/
def text (t : Charset.Tables) (r : Reply) : String :=
  bodyText t (r.contentType.bind readable?) r.deliver.body

/-- The body has no mark at its front, and is in a charset in which each byte counts. -/
def HasBytewiseBody (r : Reply) : Prop :=
  Charset.mark? r.deliver.body = none ∧ r.charset.IsBytewise

/-- The body has a mark at its front, or is in a charset in which each byte counts or each unit
of two. -/
def HasUnitwiseBody (r : Reply) : Prop :=
  Charset.mark? r.deliver.body = none → r.charset.IsUnitwise

variable {t : Charset.Tables} {r : Reply}

/-- A whole answer declares the length of its body, unless it comes in chunks; and even then if it
cannot have a body. -/
theorem declared_deliver (hwhole : r.IsWhole) :
    (r.chunked = false ∨ r.deliver.body = []) ∧
        r.deliver.declared = some r.deliver.body.length ∨
      r.chunked = true ∧ r.deliver.declared = none := by
  unfold IsWhole at hwhole
  unfold deliver at hwhole ⊢
  split
  · exact Or.inl ⟨Or.inr rfl, rfl⟩
  · rename_i hbody
    rw [if_neg hbody] at hwhole
    have hmissing : r.missing = 0 := by simpa using hwhole
    dsimp only
    cases r.chunked with
    | true => exact Or.inr ⟨rfl, rfl⟩
    | false =>
        refine Or.inl ⟨Or.inl rfl, ?_⟩
        rw [hmissing]
        rfl

/-- The body is not larger than a limit to its text, if each byte counts; and it is not larger than
twice the limit and a mark, if each unit does. -/
theorem length_body_le {limit : Nat} (htext : (r.text t).utf8ByteSize ≤ limit) :
    (r.HasBytewiseBody → r.deliver.body.length ≤ limit) ∧
      (r.HasUnitwiseBody → r.deliver.body.length ≤ 2 * limit + 3) := by
  constructor
  · rintro ⟨hmark, hbytewise⟩
    exact Nat.le_trans (length_le_bodyText_of_bytewise hmark hbytewise) htext
  · intro hunitwise
    have hsize : r.deliver.body.length ≤ 2 * (r.text t).utf8ByteSize + 3 :=
      length_le_bodyText hunitwise
    omega

end Reply
end Http

namespace Token
namespace KeySource

open Http (Network Reply Charset)
open Text.Utf8 (encode)

section

variable {t : Charset.Tables} {limit : Nat} {realm : String} {r : Reply}

/-- The declared length is within the limit if the body is, or if there is none. -/
theorem declaredWithin_deliver_iff (hwhole : r.IsWhole) :
    declaredWithin limit r.deliver.declared = true ↔
      r.chunked = true ∨ r.deliver.body.length ≤ limit := by
  obtain ⟨hcounted, hdeclared⟩ | ⟨hchunked, hdeclared⟩ := r.declared_deliver hwhole
  · rw [hdeclared]
    -- in chunks a length is declared only where the status leaves no room for a body
    constructor
    · exact fun hwithin => Or.inr (of_decide_eq_true hwithin)
    · rintro (hchunked | hlength)
      · obtain hplain | hempty := hcounted
        · rw [hchunked] at hplain
          cases hplain
        · rw [hempty]
          exact decide_eq_true (Nat.zero_le limit)
      · exact decide_eq_true hlength
  · rw [hdeclared]
    exact iff_of_true rfl (Or.inl hchunked)

/-- A whole, successful answer gives a document if the size of its text is within the limit and,
unless it comes in chunks, that of its body is, too. -/
theorem document_of_succeeds (h : r.Succeeds) :
    document t limit realm r.deliver =
      if (r.chunked = true ∨ r.deliver.body.length ≤ limit) ∧ (r.text t).utf8ByteSize ≤ limit then
        .ok (r.text t)
      else .error (.tooLarge limit) := by
  obtain ⟨hge, hlt, hwhole⟩ := h
  have hcomplete : r.deliver.complete = true := hwhole
  have hdeclared : declaredWithin limit r.deliver.declared = true ↔
      r.chunked = true ∨ r.deliver.body.length ≤ limit := declaredWithin_deliver_iff hwhole
  unfold document
  rw [Reply.status_deliver, if_neg (by omega), if_neg (by omega), hcomplete,
    Reply.contentType_deliver]
  by_cases hwithin : declaredWithin limit r.deliver.declared = true
  · rw [hwithin]
    change (if limit < (r.text t).utf8ByteSize then _ else _) = _
    by_cases hsize : (r.text t).utf8ByteSize ≤ limit
    · rw [if_neg (by omega), if_pos ⟨hdeclared.mp hwithin, hsize⟩]
      rfl
    · rw [if_pos (by omega), if_neg fun hboth => hsize hboth.2]
  · rw [if_pos (by simpa using hwithin), if_neg fun hboth => hwithin (hdeclared.mpr hboth.1)]

theorem succeeds_of_document {text : String} (h : document t limit realm r.deliver = .ok text) :
    r.Succeeds := by
  unfold document at h
  rw [Reply.status_deliver] at h
  split at h
  · cases h
  split at h
  · cases h
  rename_i hstatus
  split at h
  · cases h
  split at h
  · cases h
  rename_i hcomplete
  have hwhole : r.deliver.complete = true := by simpa using hcomplete
  exact ⟨by omega, by omega, hwhole⟩

/-- Just the whole, successful answers within the limit give a document, which is their text. -/
theorem document_eq_ok_iff {text : String} :
    document t limit realm r.deliver = .ok text ↔
      r.Succeeds ∧ text = r.text t ∧ (r.chunked = true ∨ r.deliver.body.length ≤ limit) ∧
        (r.text t).utf8ByteSize ≤ limit := by
  constructor
  · intro h
    have hsucceeds := succeeds_of_document h
    rw [document_of_succeeds hsucceeds] at h
    split at h
    · rename_i hwithin
      exact ⟨hsucceeds, (Except.ok.inj h).symm, hwithin⟩
    · cases h
  · rintro ⟨hsucceeds, rfl, hwithin⟩
    rw [document_of_succeeds hsucceeds, if_pos hwithin]

/-- What has been taken is within the limit if its length was declared or each byte counts. -/
theorem length_body_le_of_document {text : String}
    (h : document t limit realm r.deliver = .ok text)
    (hcounted : r.chunked = false ∨ r.HasBytewiseBody) : r.deliver.body.length ≤ limit := by
  obtain ⟨-, -, hbody, hsize⟩ := document_eq_ok_iff.mp h
  obtain hplain | hbytewise := hcounted
  · exact hbody.resolve_left (by simp [hplain])
  · exact (Reply.length_body_le hsize).1 hbytewise

/-- A text in UTF-8 is taken if its bytes are within the limit, and otherwise it is too large. -/
theorem document_of_encode {text : String} (h : r.Succeeds) (hbody : r.deliver.body = encode text)
    (hmark : Charset.mark? r.deliver.body = none)
    (hcharset : r.charset = .utf8) :
    document t limit realm r.deliver =
      if r.deliver.body.length ≤ limit then .ok text else .error (.tooLarge limit) := by
  have htext : r.text t = text := by
    unfold Reply.text
    rw [hbody] at hmark ⊢
    exact Http.bodyText_encode hmark hcharset
  have hsize : text.utf8ByteSize = r.deliver.body.length := by
    rw [hbody, Text.Utf8.length_encode]
  rw [document_of_succeeds h, htext, hsize]
  by_cases hwithin : r.deliver.body.length ≤ limit
  · rw [if_pos ⟨Or.inr hwithin, hwithin⟩, if_pos hwithin]
  · rw [if_neg fun hboth => hwithin hboth.2, if_neg hwithin]

/-- In chunks, a body that is replaced is taken however large it is. -/
theorem document_of_replacement (h : r.Succeeds) (hchunked : r.chunked = true)
    (hmark : Charset.mark? r.deliver.body = none) (hcharset : r.charset = .replacement)
    (hbody : r.deliver.body ≠ []) (hlimit : 3 ≤ limit) :
    document t limit realm r.deliver = .ok "\uFFFD" := by
  have htext : r.text t = "\uFFFD" := Http.bodyText_of_replacement hmark hcharset hbody
  have hsize : "\uFFFD".utf8ByteSize = 3 := by decide
  rw [document_of_succeeds h, htext, hsize, if_pos ⟨Or.inl hchunked, hlimit⟩]

end

/-- The request for the keys of a realm is answered, be it after redirects. -/
def Answered (s : KeySource) (n : Network) (realm : String) (r : Reply) (m : Network) : Prop :=
  ∃ url, s.certsUrl realm = .ok url ∧
    Network.Answers s.settings.requestTimeout n ⟨"GET", url, [("accept", "application/json")], []⟩
      r m

section

variable {s : KeySource} {n m : Network} {realm : String} {r : Reply}

theorem Answered.fetch_eq (h : s.Answered n realm r m) :
    s.fetch n realm = (document s.tables s.settings.maxResponseSize realm r.deliver, m) := by
  obtain ⟨url, hurl, hanswers⟩ := h
  have hsend := Network.send_eq_ok_iff.mpr ⟨r, hanswers, rfl⟩
  unfold fetch
  rw [hurl]
  dsimp only
  rw [hsend]

/-- There is no document without an answer. -/
theorem answered_of_fetch {text : String} (h : s.fetch n realm = (.ok text, m)) :
    ∃ r, s.Answered n realm r m := by
  unfold fetch at h
  cases hurl : s.certsUrl realm with
  | error e =>
      rw [hurl] at h
      cases h
  | ok url =>
      rw [hurl] at h
      dsimp only at h
      cases hsend : n.send s.settings.requestTimeout
          ⟨"GET", url, [("accept", "application/json")], []⟩ with
      | mk result after =>
          rw [hsend] at h
          cases result with
          | error e => cases h
          | ok d =>
              obtain ⟨-, rfl⟩ := Prod.mk.inj h
              obtain ⟨r, hanswers, -⟩ := Network.send_eq_ok_iff.mp hsend
              exact ⟨r, url, hurl, hanswers⟩

end

/-- Every document comes from an answer to the request for it.  An answer gives a document just if
it is successful and whole, the size of its text is within the limit and, unless it comes in chunks,
so is that of its body; the document is that text.  The body of an answer that has given one is not
larger than the limit if its length has been declared, or if it has no mark and is in a charset in
which each byte counts; with a mark or in UTF-16 it has at most twice the limit and three bytes.
For a body in chunks that is replaced by one character there is no bound.  And a text in UTF-8
without a mark is the document if its bytes are within the limit, and too large otherwise, whether
its length is declared or not. -/
theorem fetch_keeps_size_limit (s : KeySource) (n : Network) (realm : String) :
    (∀ text m, s.fetch n realm = (.ok text, m) → ∃ r, s.Answered n realm r m) ∧
    ∀ r m, s.Answered n realm r m →
      (∀ text, s.fetch n realm = (.ok text, m) ↔
        r.Succeeds ∧ text = r.text s.tables ∧
        (r.chunked = true ∨ r.deliver.body.length ≤ s.settings.maxResponseSize) ∧
        (r.text s.tables).utf8ByteSize ≤ s.settings.maxResponseSize) ∧
      (∀ text, s.fetch n realm = (.ok text, m) →
        (r.chunked = false ∨ r.HasBytewiseBody →
          r.deliver.body.length ≤ s.settings.maxResponseSize) ∧
        (r.HasUnitwiseBody →
          r.deliver.body.length ≤ 2 * s.settings.maxResponseSize + 3)) ∧
      (r.Succeeds → r.chunked = true → Charset.mark? r.deliver.body = none →
        r.charset = .replacement → r.deliver.body ≠ [] → 3 ≤ s.settings.maxResponseSize →
        s.fetch n realm = (.ok "\uFFFD", m)) ∧
      (∀ text, r.Succeeds → r.deliver.body = encode text →
        Charset.mark? r.deliver.body = none → r.charset = .utf8 →
        s.fetch n realm =
          (if r.deliver.body.length ≤ s.settings.maxResponseSize then .ok text
            else .error (.tooLarge s.settings.maxResponseSize), m)) := by
  refine ⟨fun text m => answered_of_fetch, fun r m hanswered => ?_⟩
  have hdocument (text : String) : s.fetch n realm = (.ok text, m) ↔
      document s.tables s.settings.maxResponseSize realm r.deliver = .ok text := by
    rw [hanswered.fetch_eq]
    exact ⟨fun h => congrArg Prod.fst h, fun h => by rw [h]⟩
  refine ⟨fun text => ?_, fun text h => ?_,
    fun hsucceeds hchunked hmark hcharset hbody hlimit => ?_,
    fun text hsucceeds hbody hmark hcharset => ?_⟩
  · rw [hdocument, document_eq_ok_iff]
  · have htaken := (hdocument text).mp h
    obtain ⟨-, -, -, hsize⟩ := document_eq_ok_iff.mp htaken
    exact ⟨length_body_le_of_document htaken, (Reply.length_body_le hsize).2⟩
  · exact (hdocument _).mpr
      (document_of_replacement hsucceeds hchunked hmark hcharset hbody hlimit)
  · rw [hanswered.fetch_eq, document_of_encode hsucceeds hbody hmark hcharset]

/-- A key set without keys. -/
def emptyKeySet : String := "\x7b\"keys\":[]\x7d"

/-- An answer in chunks. -/
def inChunks (contentType : String) (body : Bytes) : Reply :=
  ⟨200, some (encode contentType), none, body, true, 0, 0⟩

/-- A network with one answer. -/
def answering (r : Reply) : Network := ⟨fun _ => true, [.reply r], [], 0⟩

/-- The source for the settings of `loopback`, with a limit. -/
def limited (limit : Nat) : KeySource :=
  { loopback with settings := { loopbackSettings with maxResponseSize := limit } }

theorem answered_inChunks (limit : Nat) (contentType : String) (body : Bytes) :
    ∃ m, (limited limit).Answered (answering (inChunks contentType body)) "diku"
      (inChunks contentType body) m := by
  have hurl := certsUrl_eq (s := limited limit) rfl ⟨_, rfl⟩ rfl "diku"
  have hheaders : ([("accept", "application/json")].all fun h => Http.isValue h.2) = true := by
    decide
  have hsendable : Http.isSendable { loopback.base with
      path := .rooted (realmPath loopback.stem (Url.Turn.ofSegment "diku") ++
        Url.slashed certsEnding) }.withoutUserinfo = true := by
    decide +kernel
  exact ⟨_, _, hurl, rfl, hheaders, rfl, hsendable,
    .here rfl rfl (Nat.zero_le _) rfl⟩

/-- The key set without keys is taken in chunks where the limit is its size, and is too large where
the limit is one byte less; in a charset that is replaced it is taken there, too. -/
theorem fetch_keeps_size_limit_inChunks :
    emptyKeySet.utf8ByteSize = 11 ∧
    ((limited 11).fetch (answering (inChunks "application/json" (encode emptyKeySet))) "diku").1 =
      .ok emptyKeySet ∧
    ((limited 10).fetch (answering (inChunks "application/json" (encode emptyKeySet))) "diku").1 =
      .error (.tooLarge 10) ∧
    ((limited 10).fetch (answering
      (inChunks "application/json; charset=iso-2022-kr" (encode emptyKeySet))) "diku").1 =
      .ok "\uFFFD" := by
  have hsucceeds (contentType : String) :
      (inChunks contentType (encode emptyKeySet)).Succeeds :=
    ⟨Nat.le_refl 200, (by decide : 200 < 300), rfl⟩
  have hcharset : (inChunks "application/json" (encode emptyKeySet)).charset = .utf8 := by
    decide +kernel
  have htaken (limit : Nat) : ((limited limit).fetch
      (answering (inChunks "application/json" (encode emptyKeySet))) "diku").1 =
        if (encode emptyKeySet).length ≤ limit then .ok emptyKeySet
        else .error (.tooLarge limit) := by
    obtain ⟨m, hanswered⟩ :=
      answered_inChunks limit "application/json" (encode emptyKeySet)
    obtain ⟨-, -, -, hfetch⟩ := (fetch_keeps_size_limit (limited limit) _ "diku").2 _ m hanswered
    rw [hfetch emptyKeySet (hsucceeds _) rfl rfl hcharset]
    rfl
  have hreplaced : (inChunks "application/json; charset=iso-2022-kr"
      (encode emptyKeySet)).charset = .replacement := by
    decide +kernel
  obtain ⟨m, hanswered⟩ :=
    answered_inChunks 10 "application/json; charset=iso-2022-kr" (encode emptyKeySet)
  obtain ⟨-, -, hfetch, -⟩ := (fetch_keeps_size_limit (limited 10) _ "diku").2 _ m hanswered
  exact ⟨by decide, htaken 11, htaken 10,
    congrArg Prod.fst (hfetch (hsucceeds _) rfl rfl hreplaced (by decide) (by decide))⟩

/-- Not every document stays within the limit: in UTF-16 a body has twice as many bytes as its
text, and in chunks only the text is measured. -/
theorem fetch_exceeds_size_limit :
    ¬ ∀ (s : KeySource) (n m : Network) (realm : String) (r : Reply) (text : String),
      s.Answered n realm r m → (s.fetch n realm).1 = .ok text →
        r.deliver.body.length ≤ s.settings.maxResponseSize := by
  intro hlimit
  have hbody : ((encode emptyKeySet).flatMap fun b => [b, 0]).length = 22 := by decide
  obtain ⟨m, hanswered⟩ := answered_inChunks 11 "application/json; charset=utf-16le"
    ((encode emptyKeySet).flatMap fun b => [b, 0])
  have hdocument : document .blank 11 "diku" (inChunks "application/json; charset=utf-16le"
      ((encode emptyKeySet).flatMap fun b => [b, 0])).deliver = .ok emptyKeySet := by
    decide +kernel
  have hshort := hlimit _ _ m "diku" _ emptyKeySet hanswered (by
    rw [hanswered.fetch_eq]
    exact hdocument)
  change ((encode emptyKeySet).flatMap fun b => [b, 0]).length ≤ 11 at hshort
  omega

end KeySource
end Token
end PatronGateway
