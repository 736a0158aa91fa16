import PatronGateway.Proofs.Backend.Search
import PatronGateway.Proofs.Gateway.PatronPath
import PatronGateway.Proofs.Gateway.Serving

/-!
# The query of an account

Of the query of a client, the parameters of an account are passed on, each with the value that it
has last.  The key of the client stands in the same query, and is known by the value that it has
first; it is none of the parameters of an account, so it is not passed on, in whatever way it is
spelled.

* `Picks` says which pairs are picked from a query, and `Picks.eq` that this leaves no choice.
* `State.account_request_has_last_values` is about the request that is passed on.
* `State.account_request_depends_on_first_key` is about queries that agree in the last value of
  every name and still make different requests.
-/

namespace PatronGateway
namespace Gateway

open Access (ApiKey)
open Backend (Client Forward)
open Http (Network Outgoing Request)
open Patron (RequestError)

/-- The parameters of a query. -/
def parametersOf (query : Option String) : List (String × String) :=
  (query.map Url.formDecode).getD []

/-- The value that a name has last among some parameters. -/
def LastValue (given : List (String × String)) (name value : String) : Prop :=
  ∃ before after, given = before ++ (name, value) :: after ∧ ∀ p ∈ after, p.1 ≠ name

theorem lookup_reverse_eq_some_iff {given : List (String × String)} {name value : String} :
    given.reverse.lookup name = some value ↔ LastValue given name value := by
  rw [List.lookup_eq_some_iff]
  constructor
  · rintro ⟨front, back, hgiven, hfront⟩
    refine ⟨back.reverse, front.reverse, ?_, ?_⟩
    · rw [← List.reverse_reverse given, hgiven]
      simp
    · intro p hp
      exact (bne_iff_ne.mp (hfront p (List.mem_reverse.mp hp))).symm
  · rintro ⟨before, after, rfl, hafter⟩
    refine ⟨after.reverse, before.reverse, by simp, ?_⟩
    intro p hp
    exact bne_iff_ne.mpr (hafter p (List.mem_reverse.mp hp)).symm

/-- What is picked from some parameters by a row of names: of each name that is given its last
value, in the order of the row. -/
structure Picks (names : List String) (given picked : List (String × String)) : Prop where
  in_order : (picked.map Prod.fst).Sublist names
  mem_iff : ∀ name value, (name, value) ∈ picked ↔ name ∈ names ∧ LastValue given name value

namespace Picks

variable {names : List String} {given given' picked picked' : List (String × String)}

/-- What is picked stands in the order of the row. -/
theorem pairwise (h : Picks names given picked) (hnodup : names.Nodup) :
    picked.Pairwise fun p q => names.idxOf p.1 < names.idxOf q.1 := by
  have hrow : names.Pairwise fun name name' => names.idxOf name < names.idxOf name' := by
    rw [List.pairwise_iff_getElem]
    intro i j hi hj hlt
    rw [hnodup.idxOf_getElem i hi, hnodup.idxOf_getElem j hj]
    exact hlt
  have hnames := hrow.sublist h.in_order
  rw [List.pairwise_map] at hnames
  exact hnames

/-- A row of different names leaves no choice. -/
theorem unique (h : Picks names given picked) (h' : Picks names given picked')
    (hnodup : names.Nodup) : picked = picked' := by
  have hperm : picked.Perm picked' := by
    rw [List.perm_ext_iff_of_nodup ((h.pairwise hnodup).imp fun hlt heq => by simp [heq] at hlt)
      ((h'.pairwise hnodup).imp fun hlt heq => by simp [heq] at hlt)]
    rintro ⟨name, value⟩
    rw [h.mem_iff, h'.mem_iff]
  refine hperm.eq_of_pairwise ?_ (h.pairwise hnodup) (h'.pairwise hnodup)
  intro p q _ _ hlt hgt
  exact absurd hgt (Nat.lt_asymm hlt)

/-- What is picked depends on nothing but the last values of the names. -/
theorem congr (h : Picks names given picked)
    (hsame : ∀ name ∈ names, ∀ value, LastValue given name value ↔ LastValue given' name value) :
    Picks names given' picked where
  in_order := h.in_order
  mem_iff name value := by
    rw [h.mem_iff]
    exact and_congr_right fun hmem => hsame name hmem value

end Picks

/-! ## The query that is passed on -/

/-- The parameters of an account are picked from the query. -/
theorem picks_accountQuery (query : Option String) :
    Picks accountParameters (parametersOf query) (accountQuery query) := by
  unfold accountQuery
  change Picks _ _ (accountParameters.filterMap fun name =>
    ((parametersOf query).reverse.lookup name).map fun value => (name, value))
  generalize accountParameters = names
  constructor
  · induction names with
    | nil => exact List.Sublist.slnil
    | cons name names ih =>
        cases hvalue : (parametersOf query).reverse.lookup name with
        | none =>
            rw [List.filterMap_cons_none (by rw [hvalue]; rfl)]
            exact ih.cons name
        | some value =>
            rw [List.filterMap_cons_some (by rw [hvalue]; rfl), List.map_cons]
            exact ih.cons_cons name
  · intro name value
    simp only [List.mem_filterMap, Option.map_eq_some_iff, lookup_reverse_eq_some_iff]
    constructor
    · rintro ⟨name', hmem, value', hlast, hpair⟩
      cases hpair
      exact ⟨hmem, hlast⟩
    · rintro ⟨hmem, hlast⟩
      exact ⟨name, hmem, value, hlast, rfl⟩

theorem nodup_accountParameters : accountParameters.Nodup := by decide

/-- Queries with the same last values of the parameters of an account are passed on alike. -/
theorem accountQuery_eq {query query' : Option String}
    (hsame : ∀ name ∈ accountParameters, ∀ value,
      LastValue (parametersOf query) name value ↔ LastValue (parametersOf query') name value) :
    accountQuery query' = accountQuery query :=
  (picks_accountQuery query').unique ((picks_accountQuery query).congr hsame)
    nodup_accountParameters

/-- The key of a request is given by the first parameter of its name, if there is one. -/
theorem given?_eq (target : Http.Target) (headers : Http.Headers) :
    ApiKey.given? target headers =
      match (parametersOf target.query).lookup ApiKey.parameter with
      | some raw => some raw
      | none => headers.text? ApiKey.header := by
  unfold ApiKey.given? parametersOf
  cases target.query <;> rfl

namespace State

section

variable {s : State} {n : Network} {r : Request} {query : Option String}

/-- A request with another query, in which the first key is the same, passes the gate alike. -/
theorem authenticate_withQuery
    (hkey : (parametersOf query).lookup ApiKey.parameter =
      (parametersOf r.target.query).lookup ApiKey.parameter) :
    s.authenticate n { r with target := ⟨r.target.path, query⟩ } = s.authenticate n r := by
  have hgiven : ApiKey.ofRequest ⟨r.target.path, query⟩ r.headers =
      ApiKey.ofRequest r.target r.headers := by
    unfold ApiKey.ofRequest
    rw [given?_eq, given?_eq, hkey]
  unfold authenticate
  rw [hgiven]

/-- At an endpoint, nothing is asked of the query but the parameters of an account. -/
theorem serveTenant_withQuery (tenant : String) (e : Endpoint) (values : List String)
    (hquery : accountQuery query = accountQuery r.target.query) :
    s.serveTenant n tenant { r with target := ⟨r.target.path, query⟩ } e values =
      s.serveTenant n tenant r e values := by
  unfold serveTenant
  dsimp only
  rw [hquery]

/-- A request with another query is served alike if the first key is the same and so are the last
values of the parameters of an account. -/
theorem serve_withQuery (freshId : String)
    (hkey : (parametersOf query).lookup ApiKey.parameter =
      (parametersOf r.target.query).lookup ApiKey.parameter)
    (hsame : ∀ name ∈ accountParameters, ∀ value,
      LastValue (parametersOf r.target.query) name value ↔
        LastValue (parametersOf query) name value) :
    s.serve n freshId { r with target := ⟨r.target.path, query⟩ } = s.serve n freshId r := by
  have hprivate (route : Option Route) :
      s.servePrivate n { r with target := ⟨r.target.path, query⟩ } route =
        s.servePrivate n r route := by
    unfold servePrivate serveRoute
    rw [authenticate_withQuery hkey]
    simp only [serveTenant_withQuery _ _ _ (accountQuery_eq hsame)]
  unfold serve serveOn
  dsimp only
  rw [hprivate]

/-- A request that reads goes to the URL of its path, with the pairs as its query. -/
theorem exists_passedOn_get (c : Client) (tenant : String) (path : List String)
    (pairs : List (String × String)) {u : Url} (hquery : u.query = none ∨ u.query = some []) :
    ∃ query, c.passedOn tenant ((Forward.get path).withQuery pairs) u =
        ⟨"GET", { u with query := query }, c.headers tenant, []⟩ ∧
      Url.formDecode (String.ofList (query.getD [])) = pairs := by
  cases pairs with
  | nil =>
      refine ⟨u.query, rfl, ?_⟩
      rcases hquery with hnone | hempty
      · rw [hnone]
        rfl
      · rw [hempty]
        rfl
  | cons p pairs =>
      obtain ⟨query, hadded, hpairs⟩ := Client.query_addQuery hquery (p :: pairs)
      refine ⟨some query, ?_, hpairs⟩
      rw [← hadded]
      rfl

variable {key : ApiKey} {patron id : String}

/-- A request asks for the account of a patron; it is let in, and the patron is found. -/
structure FindsAccount (s : State) (n : Network) (r : Request) (key : ApiKey)
    (patron id : String) : Prop where
  method_eq : r.method = "GET"
  route_eq : ∃ raw, Route.ofPath? r.target.path = some ⟨.account, [Route.patron raw]⟩ ∧
    Route.values ⟨.account, [Route.patron raw]⟩ = .ok [patron]
  key_eq : (s.authenticate n r).1 = .ok key
  id_eq : ((s.authenticate n r).2.1.resolve (s.authenticate n r).2.2 key.tenant patron).1 = .ok id

/-- Such a request is passed on, and its outcome is the response. -/
theorem FindsAccount.serve_eq (h : s.FindsAccount n r key patron id) (freshId : String) :
    let asked := s.services.client.ask
      ((s.authenticate n r).2.1.resolve (s.authenticate n r).2.2 key.tenant patron).2.2 key.tenant
      (.forward ((Forward.get ["patron", "account", id]).withQuery
        (accountQuery r.target.query)))
    (s.serve n freshId r).2.2 = asked.2 ∧
      Wraps "GET" (answered (asked.1.mapError RequestError.ofBackend))
        (s.serve n freshId r).1 := by
  obtain ⟨hmethod, ⟨raw, hroute, hvalues⟩, hkey, hid⟩ := h
  have htakes : Endpoint.account.takes r.method = true := by
    rw [hmethod]
    rfl
  obtain ⟨hnetwork, hwraps⟩ := serve_of_admitted freshId hkey hroute rfl (by simp [hmethod])
  obtain ⟨hresponse, hafter⟩ := @serveRoute_of_fits (s.authenticate n r).2.1
    (s.authenticate n r).2.2 key.tenant r _ _ htakes hvalues (by simp [Endpoint.readsBody])
  rw [hmethod, hresponse] at hwraps
  rw [hnetwork, hafter, ← (s.authenticate_spec n r).1]
  obtain ⟨hsame, hgiven⟩ := @passOn_of_ok _ _ _ _ (fun id =>
    (Forward.get ["patron", "account", id]).withQuery (accountQuery r.target.query)) id hid
  exact ⟨hsame, hgiven ▸ hwraps⟩

/-- What is passed on for an account.  For every query of a client, there is one request whose
sending makes both what happens on the network and the response; if anything arrives, it arrives
first.  Its query reads back as the parameters of an account that the client gives, in their own
order and each with the value that it has last.  There is nothing else in it; in particular there
is no key, however it is spelled.  A client that gives its parameters in another way makes the same
request, as long as each of them has the same last value and the first key is the same. -/
theorem account_request_has_last_values {address : String} {token : Option String}
    {timeout : Time.Span} (freshId : String)
    (hbuild : Client.build address token timeout = .ok s.services.client)
    (hbase : s.services.client.base.query = none ∨ s.services.client.base.query = some [])
    (hfinds : s.FindsAccount n r key patron id) :
    let c := s.services.client
    let m := ((s.authenticate n r).2.1.resolve (s.authenticate n r).2.2 key.tenant patron).2.2
    (∃ u query pairs, c.endpoint ["patron", "account", id] = .ok u ∧
      Url.formDecode (String.ofList (query.getD [])) = pairs ∧
      Picks accountParameters (parametersOf r.target.query) pairs ∧
      (∀ p ∈ pairs, p.1 ≠ ApiKey.parameter) ∧
      let o : Outgoing := ⟨"GET", { u with query := query }, c.headers key.tenant, []⟩
      (s.serve n freshId r).2.2 = (c.send m o).2 ∧
      Wraps "GET" (answered ((c.send m o).1.mapError RequestError.ofBackend))
        (s.serve n freshId r).1 ∧
      ∀ first, ((s.serve n freshId r).2.2.arrivedSince m).head? = some first →
        first = { o with url := o.url.withoutUserinfo }) ∧
    ∀ query, (parametersOf query).lookup ApiKey.parameter =
        (parametersOf r.target.query).lookup ApiKey.parameter →
      (∀ name ∈ accountParameters, ∀ value,
        LastValue (parametersOf r.target.query) name value ↔
          LastValue (parametersOf query) name value) →
      s.serve n freshId { r with target := ⟨r.target.path, query⟩ } = s.serve n freshId r := by
  intro c m
  refine ⟨?_, fun query => serve_withQuery freshId⟩
  obtain ⟨path, hendpoint⟩ := Client.exists_endpoint hbuild ["patron", "account", id]
  obtain ⟨query, hpassed, hpairs⟩ := exists_passedOn_get c key.tenant ["patron", "account", id]
    (accountQuery r.target.query) (u := c.urlOf path) hbase
  obtain ⟨hsent, hwraps⟩ := hfinds.serve_eq freshId
  have hasked : c.ask m key.tenant (.forward ((Forward.get ["patron", "account", id]).withQuery
      (accountQuery r.target.query))) =
        c.send m ⟨"GET", { c.urlOf path with query := query }, c.headers key.tenant, []⟩ := by
    rw [← hpassed, Client.ask_of_endpoint hendpoint]
    rfl
  rw [hasked] at hsent hwraps
  have hpicks := picks_accountQuery r.target.query
  refine ⟨_, query, _, hendpoint, hpairs, hpicks, ?_, hsent, hwraps, ?_⟩
  · intro p hp hname
    have hmem : p.1 ∈ accountParameters := hpicks.in_order.subset (List.mem_map_of_mem hp)
    rw [hname] at hmem
    exact absurd hmem (by decide)
  · intro first hfirst
    rw [hsent] at hfirst
    exact Client.eq_of_head?_send hfirst

end

/-- A request for an account with some query. -/
def queried (query : String) : Request :=
  ⟨"GET", ⟨"/patron/account/1", some query⟩, [], []⟩

/-- A gateway without tokens asks for a key alone, and finds the patron that the network names. -/
theorem findsAccount_queried {query tenant : String}
    (hkey : (ApiKey.ofRequest (queried query).target (queried query).headers).toOption.map
      (·.tenant) = some tenant)
    (hid : ((loopbackStart Client.loopback).resolve namingNetwork tenant "1").1.toOption.map
      (·.toList) = some ['u']) :
    ∃ key, key.tenant = tenant ∧
      (loopbackStart Client.loopback).authenticate namingNetwork (queried query) =
        (.ok key, loopbackStart Client.loopback, namingNetwork) ∧
      (loopbackStart Client.loopback).FindsAccount namingNetwork (queried query) key "1" "u" := by
  obtain ⟨key, hread, rfl⟩ := Token.ok_of_toOption hkey
  obtain ⟨_, hresolved, hname⟩ := Token.ok_of_toOption hid
  obtain rfl := String.toList_inj.mp (hname.trans (show ['u'] = "u".toList from rfl))
  have hgate : (loopbackStart Client.loopback).authenticate namingNetwork (queried query) =
      (.ok key, loopbackStart Client.loopback, namingNetwork) := by
    unfold authenticate
    rw [hread]
    rfl
  have hroute : Route.ofPath? "/patron/account/1" = some ⟨.account, [Route.patron ['1']]⟩ := by
    decide +kernel
  exact ⟨key, rfl, hgate, rfl, ⟨['1'], hroute, rfl⟩, by rw [hgate], by rw [hgate, hresolved]⟩

/-- A parameter of an account that is given twice, in two spellings, one that is given without a
value, one that is not known and has bytes that are no text, and a second key. -/
def repeatedQuery : String :=
  "apikey=eyJzIjoieCIsInQiOiJkaWt1IiwidSI6InUifQ&limit=1&x=%FF&offset&sortBy=a+b&%6Cimit=2" ++
    "&%61pikey="

/-- What is passed on of such a query. -/
theorem account_request_has_last_values_repeated :
    let s := loopbackStart Client.loopback
    let r := queried repeatedQuery
    let m := (s.resolve namingNetwork "diku" "1").2.2
    ∃ key u query, s.FindsAccount namingNetwork r key "1" "u" ∧
      s.services.client.endpoint ["patron", "account", "u"] = .ok u ∧
      Url.formDecode (String.ofList (query.getD [])) =
        [("sortBy", "a b"), ("offset", ""), ("limit", "2")] ∧
      let o : Outgoing :=
        ⟨"GET", { u with query := query }, s.services.client.headers "diku", []⟩
      (s.serve namingNetwork "1" r).2.2 = (s.services.client.send m o).2 ∧
      Wraps "GET" (answered ((s.services.client.send m o).1.mapError RequestError.ofBackend))
        (s.serve namingNetwork "1" r).1 := by
  obtain ⟨key, htenant, hgate, hfinds⟩ := @findsAccount_queried repeatedQuery "diku"
    (by decide +kernel) (by decide +kernel)
  have hpicked : accountQuery (queried repeatedQuery).target.query =
      [("sortBy", "a b"), ("offset", ""), ("limit", "2")] := by decide +kernel
  have hbuild : Client.build "http://[::1]:9130" (some "secret") (Time.Span.ofSeconds 10) =
    .ok (loopbackStart Client.loopback).services.client := rfl
  have hbase : (loopbackStart Client.loopback).services.client.base.query = none := rfl
  dsimp only
  -- nothing is to be computed any more
  generalize loopbackStart Client.loopback = s at hgate hfinds hbuild hbase ⊢
  generalize queried repeatedQuery = r at hgate hfinds hpicked ⊢
  have hserve := account_request_has_last_values "1" hbuild (Or.inl hbase) hfinds
  rw [hgate, htenant] at hserve
  obtain ⟨⟨u, query, pairs, hendpoint, hpairs, hpicks, -, hsent, hwraps, -⟩, -⟩ := hserve
  refine ⟨key, u, query, hfinds, hendpoint, ?_, hsent, hwraps⟩
  rw [hpairs, hpicks.unique (picks_accountQuery _) nodup_accountParameters, hpicked]

/-- Keys for two tenants, and a third one that is none. -/
def ordered : String :=
  "apikey=eyJzIjoieCIsInQiOiJkaWt1IiwidSI6InUifQ" ++
    "&apikey=eyJzIjoieCIsInQiOiJkZW1vIiwidSI6InUifQ&apikey=last"

/-- The same with the two keys in the other order. -/
def reordered : String :=
  "apikey=eyJzIjoieCIsInQiOiJkZW1vIiwidSI6InUifQ" ++
    "&apikey=eyJzIjoieCIsInQiOiJkaWt1IiwidSI6InUifQ&apikey=last"

theorem formDecode_ordered : Url.formDecode ordered =
    [("apikey", "eyJzIjoieCIsInQiOiJkaWt1IiwidSI6InUifQ"),
      ("apikey", "eyJzIjoieCIsInQiOiJkZW1vIiwidSI6InUifQ"), ("apikey", "last")] := by
  decide +kernel

theorem formDecode_reordered : Url.formDecode reordered =
    [("apikey", "eyJzIjoieCIsInQiOiJkZW1vIiwidSI6InUifQ"),
      ("apikey", "eyJzIjoieCIsInQiOiJkaWt1IiwidSI6InUifQ"), ("apikey", "last")] := by
  decide +kernel

/-- Two queries with the same parameters in another order, which agree in the last value of every
name, need not make the same request: the key that counts is the first one. -/
theorem account_request_depends_on_first_key :
    ¬ ∀ (s : State) (n : Network) (freshId patron id id' query query' : String)
      (key key' : ApiKey), s.FindsAccount n (queried query) key patron id →
      s.FindsAccount n (queried query') key' patron id' →
      (Url.formDecode query).Perm (Url.formDecode query') →
      (∀ name value, LastValue (Url.formDecode query) name value ↔
        LastValue (Url.formDecode query') name value) →
      (s.serve n freshId (queried query)).2.2.arrived.getLast? =
        (s.serve n freshId (queried query')).2.2.arrived.getLast? := by
  intro hsame
  obtain ⟨key, -, -, hfinds⟩ := @findsAccount_queried ordered "diku" (by decide +kernel)
    (by decide +kernel)
  obtain ⟨key', -, -, hfinds'⟩ := @findsAccount_queried reordered "demo" (by decide +kernel)
    (by decide +kernel)
  have hperm : (Url.formDecode ordered).Perm (Url.formDecode reordered) := by
    rw [formDecode_ordered, formDecode_reordered]
    exact List.Perm.swap _ _ _
  have hlast (name value : String) : LastValue (Url.formDecode ordered) name value ↔
      LastValue (Url.formDecode reordered) name value := by
    rw [← lookup_reverse_eq_some_iff, ← lookup_reverse_eq_some_iff, formDecode_ordered,
      formDecode_reordered]
    cases hname : name == "apikey" <;> simp [List.lookup_cons, hname]
  have hrequests := congrArg (Option.map fun o => o.headers.values Client.tenantHeader)
    (hsame (loopbackStart Client.loopback) namingNetwork "1" "1" "u" "u" ordered reordered key key'
      hfinds hfinds' hperm hlast)
  have hdiffer : ((loopbackStart Client.loopback).serve namingNetwork "1"
      (queried ordered)).2.2.arrived.getLast?.map
        (fun o => o.headers.values Client.tenantHeader) ≠
      ((loopbackStart Client.loopback).serve namingNetwork "1"
        (queried reordered)).2.2.arrived.getLast?.map
        fun o => o.headers.values Client.tenantHeader := by
    decide +kernel
  exact hdiffer hrequests

end State
end Gateway
end PatronGateway
