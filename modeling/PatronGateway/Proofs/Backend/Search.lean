import Mathlib.Data.Bool.AllAny
import PatronGateway.Proofs.Backend.Endpoint
import PatronGateway.Proofs.Url.Form

/-!
# What a lookup asks for

A lookup asks the backend for the users with one external id.  The id is quoted as a term of the
search language, in which a backslash takes the meaning away from the character behind it, and the
search is form-encoded into the query of a URL.  Neither of the two lets anything out: what is
quoted ends at the closing quote and holds no wildcard, and the pairs are read back.

* `Unescaped` says what it is for a character to keep its meaning, by the number of backslashes
  right before it, and `IsTermFor` what it is to be a quoted term for a value.
* `isTermFor_quoteTerm` is about the quoting of every value.
* `lookup_asks_for_one_id` is about the request.
-/

namespace PatronGateway
namespace Backend
namespace Client

open Http (Network Outgoing)
open Time (Span)

/-- How many backslashes a text ends with. -/
def backslashRun (cs : List Char) : Nat := (cs.reverse.takeWhile (· == '\\')).length

/-- What follows a text is not escaped by it: each of the backslashes at its end escapes another
one or is escaped by it. -/
def Unescaped (before : List Char) : Prop := backslashRun before % 2 = 0

/-- Takes one backslash away before each character that it escapes. -/
def unescape : List Char → List Char
  | '\\' :: c :: rest => c :: unescape rest
  | c :: rest => c :: unescape rest
  | [] => []

/-- What stands between the quotes of a term, without its escapes. -/
def unquote (term : List Char) : List Char := unescape term.tail.dropLast

/-- A text is one quoted term that matches one value. -/
structure IsTermFor (term : List Char) (value : String) : Prop where
  /-- It begins with a quote and ends with one that is not escaped. -/
  framed : ∃ inner, term = '"' :: (inner ++ ['"']) ∧ Unescaped ('"' :: inner)
  /-- These two are the only quotes that are not escaped, and no wildcard or anchor is. -/
  bare : ∀ before c after, term = before ++ c :: after → Unescaped before →
    c ∈ ['"', '*', '?', '^'] → c = '"' ∧ (before = [] ∨ after = [])
  /-- The value is read back. -/
  reads : unquote term = value.toList

section Escaping

variable {before cs : List Char} {c : Char}

theorem backslashRun_concat (before : List Char) (c : Char) :
    backslashRun (before ++ [c]) = if c = '\\' then backslashRun before + 1 else 0 := by
  unfold backslashRun
  rw [List.reverse_append, List.reverse_singleton, List.singleton_append, List.takeWhile_cons]
  by_cases hc : c = '\\' <;> simp [hc]

/-- A character that is no backslash escapes nothing. -/
theorem unescaped_concat (before : List Char) (hc : c ≠ '\\') : Unescaped (before ++ [c]) := by
  unfold Unescaped
  rw [backslashRun_concat, if_neg hc]

/-- Behind an escaped character nothing is escaped any more, be it a backslash itself. -/
theorem unescaped_escape (h : Unescaped before) (c : Char) :
    Unescaped (before ++ ['\\', c]) := by
  have hpair : before ++ ['\\', c] = before ++ ['\\'] ++ [c] := by simp
  unfold Unescaped at h ⊢
  rw [hpair, backslashRun_concat, backslashRun_concat]
  split
  · simp only [if_true]
    omega
  · rfl

/-- The character behind one more backslash is escaped. -/
theorem not_unescaped_backslash (h : Unescaped before) : ¬ Unescaped (before ++ ['\\']) := by
  unfold Unescaped at h ⊢
  rw [backslashRun_concat, if_pos rfl]
  omega

theorem escapeTerm_cons_of_mark (hc : isSearchMark c = true) :
    escapeTerm (c :: cs) = '\\' :: c :: escapeTerm cs := by
  simp [escapeTerm, hc]

theorem escapeTerm_cons_of_plain (hc : isSearchMark c = false) :
    escapeTerm (c :: cs) = c :: escapeTerm cs := by
  simp [escapeTerm, hc]

theorem ne_backslash_of_plain (hc : isSearchMark c = false) : c ≠ '\\' := by
  rintro rfl
  exact absurd hc (by decide)

/-- Every escape that a term begins ends in it. -/
theorem unescaped_append_escapeTerm (h : Unescaped before) (cs : List Char) :
    Unescaped (before ++ escapeTerm cs) := by
  induction cs generalizing before with
  | nil => simpa [escapeTerm] using h
  | cons c cs ih =>
      cases hc : isSearchMark c with
      | true =>
          rw [escapeTerm_cons_of_mark hc]
          simpa using ih (unescaped_escape h c)
      | false =>
          rw [escapeTerm_cons_of_plain hc]
          simpa using ih (unescaped_concat before (ne_backslash_of_plain hc))

/-- The only character with a meaning that is not escaped is the backslash that escapes. -/
theorem eq_backslash_of_unescaped {lead after : List Char} (hlead : Unescaped lead)
    (h : escapeTerm cs = before ++ c :: after) (hbare : Unescaped (lead ++ before))
    (hmark : isSearchMark c = true) : c = '\\' := by
  induction cs generalizing lead before with
  | nil => simp [escapeTerm] at h
  | cons d cs ih =>
      cases hd : isSearchMark d with
      | true =>
          rw [escapeTerm_cons_of_mark hd] at h
          match before with
          | [] => exact (List.cons.inj h).1.symm
          | [b] =>
              -- behind the backslash stands what it escapes
              obtain ⟨rfl, -⟩ := List.cons.inj h
              exact absurd hbare (not_unescaped_backslash hlead)
          | b :: b' :: before =>
              simp only [List.cons_append, List.cons.injEq] at h
              obtain ⟨rfl, rfl, hrest⟩ := h
              exact ih (unescaped_escape hlead d) hrest (by simpa using hbare)
      | false =>
          rw [escapeTerm_cons_of_plain hd] at h
          cases before with
          | nil =>
              rw [(List.cons.inj h).1, hmark] at hd
              cases hd
          | cons b before =>
              obtain ⟨rfl, hrest⟩ := List.cons.inj h
              exact ih (unescaped_concat lead (ne_backslash_of_plain hd)) hrest
                (by simpa using hbare)

/-- What is escaped is read back. -/
theorem unescape_escapeTerm (cs : List Char) : unescape (escapeTerm cs) = cs := by
  induction cs with
  | nil => rfl
  | cons c cs ih =>
      cases hc : isSearchMark c with
      | true => rw [escapeTerm_cons_of_mark hc, unescape, ih]
      | false =>
          rw [escapeTerm_cons_of_plain hc, unescape, ih]
          intro d rest hslash
          exact absurd hslash (ne_backslash_of_plain hc)

end Escaping

/-- The opening quote escapes nothing. -/
theorem unescaped_quote : Unescaped ['"'] := rfl

/-- Every value is quoted as one term that matches it. -/
theorem isTermFor_quoteTerm (value : String) : IsTermFor (quoteTerm value) value where
  framed := ⟨escapeTerm value.toList, rfl, unescaped_append_escapeTerm unescaped_quote value.toList⟩
  bare before c after hterm hbare hmark := by
    have hmarks : ∀ d ∈ ['"', '*', '?', '^'], isSearchMark d = true :=
      List.all_iff_forall_prop.mp (by decide)
    have hne : c ≠ '\\' := by
      rintro rfl
      exact absurd hmark (by decide)
    unfold quoteTerm at hterm
    cases before with
    | nil => exact ⟨(List.cons.inj hterm).1.symm, Or.inl rfl⟩
    | cons q before =>
        simp only [List.cons_append, List.cons.injEq] at hterm
        obtain ⟨rfl, hterm⟩ := hterm
        rcases List.eq_nil_or_concat after with rfl | ⟨after, last, rfl⟩
        · obtain ⟨-, hlast⟩ := List.append_inj' hterm rfl
          exact ⟨(List.cons.inj hlast).1.symm, Or.inr rfl⟩
        · -- what is left stands between the quotes
          have hinner : escapeTerm value.toList ++ ['"'] = before ++ c :: after ++ [last] := by
            simpa using hterm
          obtain ⟨hinner, -⟩ := List.append_inj' hinner rfl
          exact absurd (eq_backslash_of_unescaped unescaped_quote hinner hbare
            (hmarks c hmark)) hne
  reads := by
    have hinner : (quoteTerm value).tail.dropLast = escapeTerm value.toList := by
      simp [quoteTerm]
    unfold unquote
    rw [hinner, unescape_escapeTerm]

/-- A term matches one value. -/
theorem IsTermFor.value_eq {term : List Char} {value value' : String} (h : IsTermFor term value)
    (h' : IsTermFor term value') : value = value' :=
  String.toList_inj.mp (h.reads.symm.trans h'.reads)

/-- The pairs that are added to a URL without a query are read back. -/
theorem query_addQuery {u : Url} (h : u.query = none ∨ u.query = some [])
    (pairs : List (String × String)) : ∃ query, (addQuery u pairs).query = some query ∧
      Url.formDecode (String.ofList query) = pairs := by
  refine ⟨Url.formEncode pairs, ?_, Url.formDecode_formEncode pairs⟩
  unfold addQuery
  rcases h with h | h <;> rw [h]

/-- What a lookup asks the backend for, if the address of the backend has no query.  The request
asks for the users whose external id matches one term, and for one of them; the term is quoted,
so that nothing in the id closes it or has a meaning of its own, and matches just the id.  So
lookups of different ids never make the same request. -/
theorem lookup_asks_for_one_id {address : String} {token : Option String} {timeout : Span}
    {c : Client} (hbuild : build address token timeout = .ok c)
    (hquery : c.base.query = none ∨ c.base.query = some []) (tenant : String) :
    ∃ request : String → Outgoing,
      (∀ n externalId, c.lookup n tenant externalId =
        ((c.send n (request externalId)).1.bind foundUser,
          (c.send n (request externalId)).2)) ∧
      (∀ externalId, ∃ query, (request externalId).url.query = some query ∧
        Url.formDecode (String.ofList query) =
          [("query", "externalSystemId==" ++ String.ofList (quoteTerm externalId)),
            ("limit", "1")] ∧
        IsTermFor (quoteTerm externalId) externalId) ∧
      ∀ externalId externalId', (request externalId).url.query = (request externalId').url.query →
        externalId = externalId' := by
  obtain ⟨path, hendpoint⟩ := exists_endpoint hbuild ["users"]
  have hasks (externalId : String) :=
    query_addQuery (u := c.urlOf path) hquery (userQuery externalId)
  refine ⟨fun externalId => (Operation.lookup externalId).outgoing c tenant (c.urlOf path),
    ?_, ?_, ?_⟩
  · intro n externalId
    rw [lookup_eq_ask, ask_of_endpoint hendpoint]
  · intro externalId
    obtain ⟨query, hurl, hpairs⟩ := hasks externalId
    exact ⟨query, hurl, hpairs, isTermFor_quoteTerm externalId⟩
  · intro externalId externalId' hsame
    obtain ⟨query, hurl, hpairs⟩ := hasks externalId
    obtain ⟨query', hurl', hpairs'⟩ := hasks externalId'
    have hqueries : (addQuery (c.urlOf path) (userQuery externalId)).query =
        (addQuery (c.urlOf path) (userQuery externalId')).query := hsame
    rw [hurl, hurl'] at hqueries
    obtain rfl := Option.some.inj hqueries
    obtain ⟨hsearch, -⟩ := List.cons.inj (hpairs.symm.trans hpairs')
    have hsearch := (Prod.mk.inj hsearch).2
    have hterm : quoteTerm externalId = quoteTerm externalId' := by
      simpa [← String.toList_inj] using hsearch
    have hvalue := isTermFor_quoteTerm externalId
    rw [hterm] at hvalue
    exact hvalue.value_eq (isTermFor_quoteTerm externalId')

/-- An id that tries to close the term and to ask for everybody. -/
theorem lookup_asks_for_one_id_quoted :
    build "http://[::1]:9130" (some "secret") (Span.ofSeconds 10) = .ok loopback ∧
    loopback.base.query = none ∧
    ∃ (o : Outgoing) (query : List Char),
      loopback.lookup divertingNetwork "diku" "a\\\" or x=*" =
        ((loopback.send divertingNetwork o).1.bind foundUser,
          (loopback.send divertingNetwork o).2) ∧
      o.url.query = some query ∧
      Url.formDecode (String.ofList query) =
        [("query", "externalSystemId==\"a\\\\\\\" or x=\\*\""), ("limit", "1")] ∧
      IsTermFor (quoteTerm "a\\\" or x=*") "a\\\" or x=*" := by
  have hbuild : build "http://[::1]:9130" (some "secret") (Span.ofSeconds 10) = .ok loopback :=
    rfl
  obtain ⟨request, hsent, hasks, -⟩ := lookup_asks_for_one_id hbuild (Or.inl rfl) "diku"
  obtain ⟨query, hquery, hpairs, hterm⟩ := hasks "a\\\" or x=*"
  exact ⟨hbuild, rfl, _, query, hsent divertingNetwork _, hquery, hpairs, hterm⟩

end Client
end Backend
end PatronGateway
