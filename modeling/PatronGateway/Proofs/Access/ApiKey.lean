import Mathlib.Data.List.TakeWhile
import PatronGateway.Access.Locate
import PatronGateway.Proofs.Json.Record
import PatronGateway.Proofs.Json.RoundTrip
import PatronGateway.Proofs.Text.Base64Url
import PatronGateway.Proofs.Url.Spelling

/-!
# API keys are read back

A key is written as JSON, in UTF-8, in base64url, and a request may put it into a form and into a
header field.  Each of these comes undone by itself.  What is left is what people add to a key:
padding at its end, and white space around it; none of that can be taken for a part of the key,
since no digit is blank or a sign of equality.

* `Dresses` says which texts are a key with such additions, and `decode_of_dresses` what they give.
* `encode_inj` says that keys are told apart by their texts.
* `key_round_trip` is the statement about keys and the requests that carry them.
-/

namespace PatronGateway
namespace Text

variable {p : Char → Bool} {before inner after : List Char}

/-- What is dropped at the end is no more than what follows. -/
theorem dropTrailing_append (hinner : ∀ c ∈ inner, p c = false) (hafter : ∀ c ∈ after, p c = true) :
    dropTrailing p (inner ++ after) = inner := by
  have hall : ∀ c ∈ after.reverse, p c = true := fun c hc => hafter c (List.mem_reverse.mp hc)
  have hnone : inner.reverse.dropWhile p = inner.reverse := by
    rw [List.dropWhile_eq_self_iff]
    intro hlength
    simpa using hinner _ (List.mem_reverse.mp (List.getElem_mem hlength))
  unfold dropTrailing
  rw [List.reverse_append, List.dropWhile_append_of_pos hall, hnone, List.reverse_reverse]

/-- Blanks around a text without blanks are trimmed away. -/
theorem trim_of_surrounded (hbefore : before.all isBlankChar = true)
    (hinner : ∀ c ∈ inner, isBlankChar c = false) (hafter : after.all isBlankChar = true) :
    trim (String.ofList (before ++ inner ++ after)) = String.ofList inner := by
  have hleft : trimLeft (before ++ inner ++ after) = (inner ++ after).dropWhile isBlankChar := by
    unfold trimLeft
    rw [List.append_assoc, List.dropWhile_append_of_pos (List.all_eq_true.mp hbefore)]
  have hright : trimRight ((inner ++ after).dropWhile isBlankChar) = inner := by
    cases inner with
    | nil =>
        rw [List.nil_append, List.dropWhile_eq_nil_iff.mpr (List.all_eq_true.mp hafter)]
        rfl
    | cons c inner =>
        rw [List.cons_append, List.dropWhile_cons_of_neg (by simp [hinner c])]
        exact dropTrailing_append hinner (List.all_eq_true.mp hafter)
  unfold trim
  rw [String.toList_ofList, hleft, hright]

end Text

namespace Access
namespace ApiKey

open Json (Document)

/-! ## The document of a key -/

theorem ofDocument?_toDocument (k : ApiKey) : ofDocument? k.toDocument = some k := by
  have hfields : k.toDocument.fields? ["s", "t", "u"] = some [some (.ofString k.salt),
      some (.ofString k.tenant), some (.ofString k.username)] := by
    unfold toDocument
    rw [Document.fields?_record (by simp)]
    simp [List.lookup_cons]
  unfold ofDocument?
  rw [hfields]
  rfl

theorem isProper_toDocument (k : ApiKey) : k.toDocument.IsProper := by
  refine Document.isProper_record ?_
  simp [Document.isProper_ofString]

/-- The bytes that the text of a key stands for give the key. -/
theorem readBytes?_toDocument (k : ApiKey) :
    (Document.readBytes? (Text.Utf8.encode k.toDocument.write)).bind ofDocument? = some k := by
  rw [Document.readBytes?_encode, Document.read?_write k.isProper_toDocument, Option.bind_some,
    ofDocument?_toDocument]

/-! ## The text of a key -/

/-- A text is that of a key with padding at the end and white space around it. -/
def Dresses (k : ApiKey) (raw : String) : Prop :=
  ∃ (before after : List Char) (padding : Nat),
    before.all Text.isBlankChar = true ∧ after.all Text.isBlankChar = true ∧
    raw = String.ofList (before ++ (k.encode.toList ++ List.replicate padding '=') ++ after)

theorem dresses_encode (k : ApiKey) : k.Dresses k.encode :=
  ⟨[], [], 0, rfl, rfl, by simp⟩

/-- What is added to a key is found again. -/
theorem bare_of_dresses {k : ApiKey} {raw : String} (h : k.Dresses raw) :
    bare raw = k.encode.toList := by
  have hdigit : ∀ d : Text.Base64Url.Sextet, Text.isBlankChar (Text.Base64Url.toChar d) = false ∧
      (Text.Base64Url.toChar d == '=') = false := by
    decide
  have hkey : ∀ c ∈ k.encode.toList, Text.isBlankChar c = false ∧ (c == '=') = false := by
    unfold encode
    rw [String.toList_ofList]
    exact Text.Base64Url.forall_mem_encode hdigit _
  obtain ⟨before, after, padding, hbefore, hafter, rfl⟩ := h
  have hinner : ∀ c ∈ k.encode.toList ++ List.replicate padding '=',
      Text.isBlankChar c = false := by
    intro c hc
    rcases List.mem_append.mp hc with hc | hc
    · exact (hkey c hc).1
    · rw [(List.mem_replicate.mp hc).2]
      rfl
  have hpadding : ∀ c ∈ List.replicate padding '=', (c == '=') = true := fun c hc => by
    rw [(List.mem_replicate.mp hc).2]
    rfl
  unfold bare
  rw [Text.trim_of_surrounded hbefore hinner hafter, String.toList_ofList,
    Text.dropTrailing_append (fun c hc => (hkey c hc).2) hpadding]

/-- The text of a key gives the key, if it has a tenant. -/
theorem decode_of_dresses {k : ApiKey} {raw : String} (h : k.Dresses raw) :
    decode raw =
      if Text.isBlank k.tenant then .error (.malformed .emptyTenant) else .ok k := by
  have hbytes : Text.Base64Url.decode? (bare raw) =
      some (Text.Utf8.encode k.toDocument.write) := by
    rw [bare_of_dresses h]
    unfold encode
    rw [String.toList_ofList, Text.Base64Url.decode?_encode]
  unfold decode
  rw [hbytes]
  dsimp only
  rw [readBytes?_toDocument]

/-- Keys are told apart by their texts, whether they have a tenant or not. -/
theorem encode_inj {k k' : ApiKey} (h : k.encode = k'.encode) : k = k' := by
  have hchars := String.ofList_injective h
  have hbytes : some (Text.Utf8.encode k.toDocument.write) =
      some (Text.Utf8.encode k'.toDocument.write) := by
    rw [← Text.Base64Url.decode?_encode, hchars, Text.Base64Url.decode?_encode]
  have hkeys := congrArg
    (fun bytes : Option Bytes => bytes.bind fun bs => (Document.readBytes? bs).bind ofDocument?)
    hbytes
  simp only [Option.bind_some, readBytes?_toDocument] at hkeys
  exact Option.some.inj hkeys

/-! ## Requests -/

section Requests

variable {target : Http.Target} {headers : Http.Headers} {k : ApiKey} {raw : String}

/-- No blank text gives a key. -/
theorem not_isBlank_of_decode (h : decode raw = .ok k) : Text.isBlank raw = false := by
  refine Bool.eq_false_iff.mpr fun hblank => ?_
  have hall : ∀ c ∈ raw.toList, Text.isBlankChar c = true := List.all_eq_true.mp hblank
  have hbare : bare raw = [] := by
    have htrim : Text.trim raw = String.ofList [] := by
      have htext : Text.trim (String.ofList (raw.toList ++ [] ++ [])) = String.ofList [] :=
        Text.trim_of_surrounded hblank (by simp) rfl
      simpa using htext
    unfold bare
    rw [htrim]
    rfl
  unfold decode at h
  rw [hbare] at h
  cases h

/-- A request has the key of the text that it gives. -/
theorem ofRequest_of_given (hgiven : given? target headers = some raw)
    (hkey : decode raw = .ok k) : ofRequest target headers = .ok k := by
  unfold ofRequest
  rw [hgiven]
  dsimp only
  rw [if_neg (by simp [not_isBlank_of_decode hkey]), hkey]

/-- The first parameter of the right name is what a request gives, whatever its header fields
are. -/
theorem given?_of_givesFirst {path query : String}
    (h : Url.GivesFirst parameter raw (Text.Utf8.encode query)) :
    given? ⟨path, some query⟩ headers = some raw := by
  have hequals : 0x3D ∉ Text.Utf8.encode parameter := by decide
  unfold given?
  rw [Option.map_some, Option.bind_some, Url.lookup_of_givesFirst hequals h]

/-- Without such a parameter, a request gives the key of its header field. -/
theorem given?_of_header
    (hquery : ∀ query, target.query = some query → ∀ p ∈ Url.formDecode query, p.1 ≠ parameter)
    (hheader : headers.first? header = some k.encode) :
    given? target headers = some k.encode := by
  have hnone : (target.query.map Url.formDecode).bind (·.lookup parameter) = none := by
    cases hq : target.query with
    | none => rfl
    | some query =>
        rw [Option.map_some, Option.bind_some, List.lookup_eq_none_iff]
        intro p hp
        exact bne_iff_ne.mpr (Ne.symm (hquery query hq p hp))
  have hreadable : (Text.Utf8.encode k.encode).all Http.isReadableByte = true :=
    List.all_eq_true.mpr (Text.Base64Url.isReadableByte_of_mem_encode _)
  have htext : headers.text? header = some k.encode := by
    unfold Http.Headers.text?
    rw [hheader]
    exact Option.filter_some_pos hreadable
  unfold given?
  rw [hnone]
  exact htext

end Requests

/-- Keys are read back, whatever characters they are made of.  A key with a tenant is read from its
text with any padding and any white space around it, from a request whose first parameter of the
right name spells such a text, and from a request that has its text in the header field and has no
such parameter.  A key without a tenant is refused for that.  Different keys have different texts.
-/
theorem key_round_trip (k : ApiKey) :
    (Text.isBlank k.tenant = false →
      (∀ raw, k.Dresses raw → decode raw = .ok k) ∧
      (∀ raw path query headers, k.Dresses raw →
        Url.GivesFirst parameter raw (Text.Utf8.encode query) →
        ofRequest ⟨path, some query⟩ headers = .ok k) ∧
      ∀ (target : Http.Target) (headers : Http.Headers),
        (∀ query, target.query = some query → ∀ p ∈ Url.formDecode query, p.1 ≠ parameter) →
        headers.first? header = some k.encode → ofRequest target headers = .ok k) ∧
    (Text.isBlank k.tenant = true → ∃ e, decode k.encode = .error e ∧
      e.message = "Malformed API key: tenant is empty") ∧
    ∀ k' : ApiKey, k.encode = k'.encode → k = k' := by
  refine ⟨fun htenant => ?_, fun hblank => ?_, fun k' => encode_inj⟩
  · have hread : ∀ raw, k.Dresses raw → decode raw = .ok k := by
      intro raw hraw
      rw [decode_of_dresses hraw, if_neg (by simp [htenant])]
    refine ⟨hread, ?_, ?_⟩
    · intro raw path query headers hraw hquery
      exact ofRequest_of_given (given?_of_givesFirst hquery) (hread raw hraw)
    · intro target headers hquery hheader
      exact ofRequest_of_given (given?_of_header hquery hheader) (hread _ k.dresses_encode)
  · refine ⟨_, (decode_of_dresses k.dresses_encode).trans (if_pos hblank), rfl⟩

/-- A key with characters that JSON escapes and that UTF-8 writes with several bytes. -/
def accented : ApiKey := ⟨"\"\n", "é diku", "𝄞"⟩

/-- The key of `accented` with padding and white space. -/
def dressedText : String := "\t" ++ accented.encode ++ "==\u3000"

theorem dresses_dressedText : accented.Dresses dressedText := by
  refine ⟨['\t'], ['\u3000'], 2, rfl, rfl, ?_⟩
  rw [← String.toList_inj]
  simp [dressedText, List.replicate]

/-- A query that gives a text behind another parameter, with a name that is spelled with a triple,
and before a parameter of the same name. -/
def spelledQuery (raw : String) : String :=
  "x=1&%61pikey=" ++ String.ofList (Url.formText raw) ++ "&apikey=other"

theorem givesFirst_spelledQuery (raw : String) :
    Url.GivesFirst parameter raw (Text.Utf8.encode (spelledQuery raw)) := by
  have hbytes : Text.Utf8.encode (spelledQuery raw) = Text.Utf8.encode "x=1" ++ 0x26 ::
      (Text.Utf8.encode "%61pikey" ++ 0x3D ::
        (Url.formText raw).flatMap String.utf8EncodeChar ++ Text.Utf8.encode "&apikey=other") := by
    have hlead : Text.Utf8.encode "x=1&%61pikey=" =
        Text.Utf8.encode "x=1" ++ 0x26 :: (Text.Utf8.encode "%61pikey" ++ [0x3D]) := by decide
    unfold spelledQuery
    rw [Text.Utf8.encode_append, Text.Utf8.encode_append,
      Text.Utf8.encode_ofList (Url.formText raw), hlead]
    simp
  have hhigh : Url.nibbleOfByte? 0x36 = some 6 := by decide
  have hlow : Url.nibbleOfByte? 0x31 = some 1 := by decide
  have hplain : Url.FormSpells (Text.Utf8.encode "pikey") (Text.Utf8.encode "pikey") :=
    Url.formSpells_self (by decide +kernel)
  have hname : Url.FormSpells (Text.Utf8.encode "%61pikey") (Text.Utf8.encode parameter) :=
    .triple hhigh hlow hplain
  rw [hbytes]
  exact .behind (by decide) (by decide)
    (.here hname (Url.formSpells_formText raw) (Or.inr ⟨Text.Utf8.encode "apikey=other", rfl⟩))

/-- A key in a query, behind and before other parameters, and in a header field; and one without a
tenant. -/
theorem key_round_trip_accented :
    decode dressedText = .ok accented ∧
    ofRequest ⟨"/", some (spelledQuery dressedText)⟩ [(header, "other")] = .ok accented ∧
    ofRequest ⟨"/", some "x=1"⟩ [(header, accented.encode)] = .ok accented ∧
    ∃ e, decode (ApiKey.encode ⟨"s", "\u3000", "u"⟩) = .error e ∧
      e.message = "Malformed API key: tenant is empty" := by
  obtain ⟨hread, -, -⟩ := key_round_trip accented
  obtain ⟨hdecode, hquery, hheader⟩ := hread (by decide)
  obtain ⟨-, hblank, -⟩ := key_round_trip ⟨"s", "\u3000", "u"⟩
  refine ⟨hdecode _ dresses_dressedText, ?_, ?_, hblank (by decide)⟩
  · exact hquery _ "/" _ _ dresses_dressedText (givesFirst_spelledQuery _)
  · refine hheader ⟨"/", some "x=1"⟩ [(header, accented.encode)] ?_ (by simp [Http.Headers.first?])
    intro query hq
    obtain rfl := Option.some.inj hq
    decide

end ApiKey
end Access
end PatronGateway
