import PatronGateway.Proofs.Backend.Endpoint
import PatronGateway.Proofs.Gateway.Calls
import PatronGateway.Proofs.Gateway.World
import PatronGateway.Proofs.Text.Split

/-!
# The path of a patron at the backend

Renewing a loan and placing a hold are passed on below the path of the patron's account.  The id
of the item or of the instance comes from the client and may be any text.  Wherever it leads, the
account is not left: an id that goes up leaves the segment before it, which says what kind of
object it is, and no id ends the path or makes a dot segment that somebody else could follow.

* `objectPath` is the row of segments behind the account, by the turn that the id takes, and
  `foldl_pushSegment_object` says that adding the segments comes to it.
* `accountPath_isPrefix_iff` says that a path lies below the accounts of one name only.
* `State.object_request_stays_in_account` is the statement about the requests of the gateway, and
  `State.object_request_misses_double_slash` is about the one base whose path is not kept.
-/

namespace PatronGateway
namespace Backend
namespace Client

open Url (IsPlain Rooted Turn isDrive percentEncode pushSegment slashed
  specialSegmentClass trunk webRules withoutDropped)

/-- The segment of a patron. -/
def patronSegment (id : String) : List Char :=
  percentEncode specialSegmentClass (withoutDropped id.toList)

/-- The path of a patron's account, with a slash at its end. -/
def accountPath (c : Client) (id : String) : List Char :=
  c.base.stem ++ "/patron/account/".toList ++ patronSegment id ++ ['/']

/-- The segments behind the account for an act on an object of some kind, by the turn that the id
of the object takes. -/
def objectPath (kind act : String) : Turn → List (List Char)
  | .stay => [kind.toList, act.toList]
  | .up => [[], act.toList]
  | .down name => [kind.toList, percentEncode specialSegmentClass name, act.toList]

/-- A word that is a segment as it stands. -/
def IsWord (word : String) : Prop :=
  IsPlain word ∧ percentEncode specialSegmentClass word.toList = word.toList ∧
    isDrive word.toList = false

instance (word : String) : Decidable (IsWord word) :=
  inferInstanceAs (Decidable (_ ∧ _ ∧ _))

section Steps

variable {name : List Char} {kind act word : String}

theorem IsWord.isStep (h : IsWord word) : IsStep word.toList := by
  obtain ⟨⟨hdot, hdots, -⟩, hplain, -⟩ := h
  rw [← hplain]
  exact isStep_percentEncode (fun h => hdot (String.toList_inj.mp h))
    fun h => hdots (String.toList_inj.mp h)

/-- A segment that leads down leads to a name that is no dot segment. -/
theorem isStep_of_down {segment : String} (h : Turn.ofSegment segment = .down name) :
    IsStep (percentEncode specialSegmentClass name) := by
  unfold Turn.ofSegment at h
  split at h
  · cases h
  · split at h
    · cases h
    next hdots =>
      split at h
      · cases h
        exact isStep_percentEncode (by decide) (by decide)
      next hdot =>
        obtain rfl := Turn.down.inj h
        exact isStep_percentEncode hdot hdots

/-- Wherever the id of an object leads, the segments are all steps. -/
theorem isStep_of_mem_objectPath (hkind : IsWord kind) (hact : IsWord act) (object : String)
    {segment : List Char} (h : segment ∈ objectPath kind act (Turn.ofSegment object)) :
    IsStep segment := by
  cases hturn : Turn.ofSegment object with
  | stay =>
      rw [hturn] at h
      simp only [objectPath, List.mem_cons, List.not_mem_nil, or_false] at h
      rcases h with rfl | rfl
      · exact hkind.isStep
      · exact hact.isStep
  | up =>
      rw [hturn] at h
      simp only [objectPath, List.mem_cons, List.not_mem_nil, or_false] at h
      rcases h with rfl | rfl
      · have hempty : ([] : List Char) ≠ ['.'] ∧ ([] : List Char) ≠ ['.', '.'] := by decide
        exact isStep_percentEncode hempty.1 hempty.2
      · exact hact.isStep
  | down name =>
      rw [hturn] at h
      simp only [objectPath, List.mem_cons, List.not_mem_nil, or_false] at h
      rcases h with rfl | rfl | rfl
      · exact hkind.isStep
      · exact isStep_of_down hturn
      · exact hact.isStep

end Steps

section Adding

variable {path : List Char} {kind act : String}

/-- A word is added behind a path that has segments already. -/
theorem pushSegment_of_word (h : Rooted path) (hlong : 2 ≤ path.length) (hact : IsWord act) :
    pushSegment webRules path act = path ++ '/' :: act.toList := by
  rw [Url.pushSegment_of_plain h hact.1, Url.trunk_of_two_le hlong, hact.2.1]

/-- An object that leads up takes the kind away, and leaves the slash before it. -/
theorem pushSegment_of_up (h : Rooted path) (hkind : IsWord kind) {object : String}
    (hobject : Turn.ofSegment object = .up) (hlong : 2 ≤ path.length) :
    pushSegment webRules (path ++ '/' :: kind.toList) object = path ++ ['/'] := by
  rw [Url.pushSegment_eq (h.append _), hobject]
  dsimp only
  rw [Url.trunk_of_two_le (by rw [List.length_append]; omega),
    Url.ascend_append path hkind.isStep.slash_not_mem hkind.2.2]

/-- What the kind, the id and the act are added to a path as. -/
theorem foldl_pushSegment_object (h : Rooted path) (hlong : 2 ≤ path.length) (hkind : IsWord kind)
    (hact : IsWord act) (object : String) :
    [kind, object, act].foldl (pushSegment webRules) path =
      path ++ slashed (objectPath kind act (Turn.ofSegment object)) := by
  have hlonger (ending : List Char) : 2 ≤ (path ++ ending).length := by
    rw [List.length_append]
    omega
  rw [List.foldl_cons, List.foldl_cons, List.foldl_cons, List.foldl_nil,
    pushSegment_of_word h hlong hkind]
  cases hturn : Turn.ofSegment object with
  | stay =>
      rw [Url.pushSegment_eq (h.append _), hturn]
      dsimp only
      rw [pushSegment_of_word (h.append _) (hlonger _) hact]
      simp [objectPath, slashed]
  | up =>
      rw [pushSegment_of_up h hkind hturn hlong,
        pushSegment_of_word (h.append _) (hlonger _) hact]
      simp [objectPath, slashed]
  | down name =>
      rw [Url.pushSegment_eq (h.append _), hturn]
      dsimp only
      rw [Url.trunk_of_two_le (hlonger _), List.append_assoc,
        pushSegment_of_word (h.append _) (hlonger _) hact]
      simp [objectPath, slashed]

/-- What the segments of an account are added to a path as, if the patron is no dot segment. -/
theorem foldl_pushSegment_account (h : Rooted path) {id : String}
    (hdot : withoutDropped id.toList ≠ ['.']) (hdots : withoutDropped id.toList ≠ ['.', '.']) :
    ["patron", "account", id].foldl (pushSegment webRules) path =
      trunk path ++ "/patron/account/".toList ++ patronSegment id := by
  have hturn : Turn.ofSegment id = .down (withoutDropped id.toList) := by
    unfold Turn.ofSegment
    rw [if_neg, if_neg hdots, if_neg hdot]
    rintro (rfl | rfl)
    · exact hdot (by decide)
    · exact hdots (by decide)
  have haccount := Url.foldl_pushSegment_of_plain h "patron" ["account"] (by decide) (by decide)
  have hrooted := Url.rooted_foldl_pushSegment h ["patron", "account"]
  have hsplit : ["patron", "account", id] = ["patron", "account"] ++ [id] := rfl
  rw [haccount] at hrooted
  rw [hsplit, List.foldl_append, haccount, List.foldl_cons, List.foldl_nil,
    Url.pushSegment_eq hrooted, hturn]
  dsimp only
  rw [Url.trunk_of_two_le (by simp [slashed]; omega)]
  have hescaped : slashed (["patron", "account"].map fun s =>
      percentEncode specialSegmentClass s.toList) = "/patron/account".toList := by decide
  rw [hescaped]
  simp [patronSegment]

/-- The URL for an act on an object of a patron. -/
theorem endpoint_object {address : String} {token : Option String} {timeout : Time.Span}
    {c : Client} (hbuild : build address token timeout = .ok c)
    (hweb : Http.isWebScheme c.base.scheme = true) {id : String}
    (hdot : withoutDropped id.toList ≠ ['.']) (hdots : withoutDropped id.toList ≠ ['.', '.'])
    (hkind : IsWord kind) (hact : IsWord act) (object : String) :
    c.endpoint ["patron", "account", id, kind, object, act] =
      .ok (c.urlOf (c.base.stem ++ "/patron/account/".toList ++ patronSegment id ++
        slashed (objectPath kind act (Turn.ofSegment object)))) := by
  obtain ⟨path, hrooted, hstem, hendpoint⟩ := endpoint_eq hbuild hweb
  have hsplit : ["patron", "account", id, kind, object, act] =
      ["patron", "account", id] ++ [kind, object, act] := rfl
  have haccount := foldl_pushSegment_account hrooted hdot hdots
  have hlonger := Url.rooted_foldl_pushSegment hrooted ["patron", "account", id]
  rw [haccount] at hlonger
  rw [hendpoint, hsplit, List.foldl_append, haccount,
    foldl_pushSegment_object hlonger (by simp; omega) hkind hact, hstem]

end Adding

/-- Steps with slashes between them are divided at these slashes. -/
theorem splitOn_slashed {first : List Char} {rest : List (List Char)}
    (h : ∀ segment ∈ first :: rest, IsStep segment) :
    Text.splitOn '/' (first ++ slashed rest) = first :: rest := by
  induction rest generalizing first with
  | nil =>
      rw [slashed, List.flatMap_nil, List.append_nil]
      exact Text.splitOn_of_not_mem (h first List.mem_cons_self).slash_not_mem
  | cons next rest ih =>
      rw [slashed, List.flatMap_cons, List.cons_append, ← slashed,
        Text.splitOn_append (h first List.mem_cons_self).slash_not_mem,
        ih fun segment hmem => h segment (List.mem_cons_of_mem _ hmem)]

/-- A path below the account of a patron lies below no account of another name. -/
theorem accountPath_isPrefix_iff {c : Client} {id id' : String} {inner : List Char} :
    c.accountPath id' <+: c.accountPath id ++ inner ↔
      withoutDropped id'.toList = withoutDropped id.toList := by
  constructor
  · rintro ⟨rest, hrest⟩
    have hsegments : patronSegment id' ++ '/' :: rest = patronSegment id ++ '/' :: inner := by
      have hpaths : c.base.stem ++ "/patron/account/".toList ++ (patronSegment id' ++ '/' :: rest) =
          c.base.stem ++ "/patron/account/".toList ++ (patronSegment id ++ '/' :: inner) := by
        simpa [accountPath] using hrest
      exact List.append_cancel_left hpaths
    have hfree (id : String) : '/' ∉ patronSegment id := fun hmem =>
      absurd (Url.endsAuthority_of_mem_percentEncode hmem) (by decide)
    have hcut : Text.splitFirst? '/' (patronSegment id ++ '/' :: inner) =
        some (patronSegment id', rest) :=
      Text.splitFirst?_eq_some_iff.mpr ⟨hsegments.symm, hfree id'⟩
    have hcut' : Text.splitFirst? '/' (patronSegment id ++ '/' :: inner) =
        some (patronSegment id, inner) :=
      Text.splitFirst?_eq_some_iff.mpr ⟨rfl, hfree id⟩
    obtain ⟨hsegment, -⟩ := Prod.mk.inj (Option.some.inj (hcut.symm.trans hcut'))
    exact Url.percentEncode_inj rfl hsegment
  · intro hsame
    have hpath : c.accountPath id' = c.accountPath id := by
      unfold accountPath patronSegment
      rw [hsame]
    rw [hpath]
    exact List.prefix_append _ _

end Client
end Backend

namespace Gateway

open Backend (Client Forward)
open Backend.Client (IsStep IsWord Operation objectPath patronSegment)
open Http (Network Outgoing Request)
open Patron (RequestError)
open Url (Turn slashed withoutDropped)

/-- The endpoints at which a patron acts on an item or an instance, with the words for the kind
of object and for the act. -/
inductive Endpoint.ActsOn : Endpoint → String → String → Prop
  | itemRenewal : ActsOn .itemRenewal "item" "renew"
  | itemHold : ActsOn .itemHold "item" "hold"
  | instanceHold : ActsOn .instanceHold "instance" "hold"

/-- The words are segments as they stand. -/
theorem Endpoint.ActsOn.isWord {e : Endpoint} {kind act : String} (h : e.ActsOn kind act) :
    IsWord kind ∧ IsWord act := by
  cases h <;> decide

namespace State

variable {s : State} {n : Network} {tenant patron id kind act : String} {e : Endpoint}

/-- An act on an object is passed on below the account of the patron, without a query, and its
outcome is the response. -/
theorem serveTenant_of_actsOn (h : e.ActsOn kind act)
    (hid : (s.resolve n tenant patron).1 = .ok id) (r : Request) (object : String) :
    ∃ body,
      let asked := s.services.client.ask (s.resolve n tenant patron).2.2 tenant
        (.forward (.post ["patron", "account", id, kind, object, act] body))
      (s.serveTenant n tenant r e [patron, object]).2.2 = asked.2 ∧
        responseOf (s.serveTenant n tenant r e [patron, object]).1 =
          answered (asked.1.mapError RequestError.ofBackend) := by
  cases h with
  | itemRenewal => exact ⟨none, passOn_of_ok hid⟩
  | itemHold => exact ⟨some r.body, passOn_of_ok hid⟩
  | instanceHold => exact ⟨some r.body, passOn_of_ok hid⟩

/-- The request that is passed on without a query goes to the URL of its path. -/
theorem url_outgoing_post (c : Client) (tenant : String) (path : List String)
    (body : Option Bytes) (u : Url) :
    ((Operation.forward (.post path body)).outgoing c tenant u).url = u ∧
      ((Operation.forward (.post path body)).outgoing c tenant u).method = "POST" := by
  show (c.passedOn tenant (.post path body) u).url = u ∧
    (c.passedOn tenant (.post path body) u).method = "POST"
  match body with
  | none => exact ⟨rfl, rfl⟩
  | some [] => exact ⟨rfl, rfl⟩
  | some (b :: bs) => exact ⟨rfl, rfl⟩

/-- An act on an object never leaves the account of its patron.  For every address on the web,
every id of the object and every patron that is no dot segment without its tabs and line breaks,
there is one request whose sending makes both what happens on the network and the response; if
anything arrives, it arrives first.  Its URL is the one of the base with another path, so it has
the scheme, the host, the port, the query and the fragment of the base.  The path is below the
account: behind it, there are only segments that end neither the path nor each other and that
nobody follows up.  So the URL lies below the account of no patron with another name. -/
theorem object_request_stays_in_account {address : String} {token : Option String}
    {timeout : Time.Span} (hbuild : Client.build address token timeout = .ok s.services.client)
    (hweb : Http.isWebScheme s.services.client.base.scheme = true)
    (hact : e.ActsOn kind act) (hid : (s.resolve n tenant patron).1 = .ok id)
    (hdot : withoutDropped id.toList ≠ ['.']) (hdots : withoutDropped id.toList ≠ ['.', '.'])
    (r : Request) (object : String) :
    let c := s.services.client
    let m := (s.resolve n tenant patron).2.2
    let served := s.serveTenant n tenant r e [patron, object]
    ∃ o inner,
      served.2.2 = (c.send m o).2 ∧
      responseOf served.1 = answered ((c.send m o).1.mapError RequestError.ofBackend) ∧
      (∀ first, (served.2.2.arrivedSince m).head? = some first →
        first = { o with url := o.url.withoutUserinfo }) ∧
      o.method = "POST" ∧
      o.url = { c.base with path := .rooted (c.accountPath id ++ inner) } ∧
      (∀ segment ∈ patronSegment id :: Text.splitOn '/' inner, IsStep segment) ∧
      ∀ id', c.accountPath id' <+: c.accountPath id ++ inner →
        withoutDropped id'.toList = withoutDropped id.toList := by
  intro c m served
  obtain ⟨hkind, hword⟩ := hact.isWord
  obtain ⟨body, hserved, hresponse⟩ := serveTenant_of_actsOn hact hid r object
  have hendpoint := Client.endpoint_object hbuild hweb hdot hdots hkind hword object
  have hsteps : ∀ segment ∈ objectPath kind act (Turn.ofSegment object), IsStep segment :=
    fun segment => Client.isStep_of_mem_objectPath hkind hword object
  obtain ⟨first, rest, hpath⟩ : ∃ first rest,
      objectPath kind act (Turn.ofSegment object) = first :: rest := by
    cases Turn.ofSegment object <;> exact ⟨_, _, rfl⟩
  rw [hpath] at hendpoint hsteps
  obtain ⟨hurl, hmethod⟩ := url_outgoing_post c tenant
    ["patron", "account", id, kind, object, act] body
    (c.urlOf (c.base.stem ++ "/patron/account/".toList ++ patronSegment id ++
      slashed (first :: rest)))
  rw [Client.ask_of_endpoint hendpoint] at hserved hresponse
  refine ⟨_, first ++ slashed rest, hserved, hresponse, fun o ho => ?_, hmethod,
    hurl.trans ?_, ?_, ?_⟩
  · rw [show served.2.2 = _ from hserved] at ho
    exact Client.eq_of_head?_send ho
  · unfold Client.urlOf Client.accountPath
    simp [slashed]
  · rw [Client.splitOn_slashed hsteps]
    intro segment hmem
    rcases List.mem_cons.mp hmem with rfl | hmem
    · exact Client.isStep_percentEncode hdot hdots
    · exact hsteps segment hmem
  · exact fun id' => Client.accountPath_isPrefix_iff.mp

/-- A gateway before its first request, with a client of the backend. -/
def loopbackStart (client : Client) : State := (World.guarded ⟨client, none, 1000⟩).state

/-- A network that names the patron that is looked up first. -/
def namingNetwork : Network :=
  ⟨fun _ => true, [World.jsonReply "\x7b\"users\":[\x7b\"id\":\"u\"\x7d]\x7d"], [], 0⟩

/-- An id that leads up once its tab is dropped. -/
theorem object_request_stays_in_account_loopback :
    let s := loopbackStart Client.loopback
    let c := s.services.client
    Client.build "http://[::1]:9130" (some "secret") (Time.Span.ofSeconds 10) = .ok c ∧
    Http.isWebScheme c.base.scheme = true ∧ Endpoint.itemRenewal.ActsOn "item" "renew" ∧
    (s.resolve namingNetwork "diku" "1").1 = .ok "u" ∧
    ∃ o inner,
      (s.serveTenant namingNetwork "diku" ⟨"POST", ⟨"/", none⟩, [], []⟩ .itemRenewal
        ["1", ".\t."]).2.2 = (c.send (s.resolve namingNetwork "diku" "1").2.2 o).2 ∧
      responseOf (s.serveTenant namingNetwork "diku" ⟨"POST", ⟨"/", none⟩, [], []⟩ .itemRenewal
        ["1", ".\t."]).1 = answered ((c.send (s.resolve namingNetwork "diku" "1").2.2 o).1.mapError
          RequestError.ofBackend) ∧
      o.url = { c.base with path := .rooted ("/patron/account/u/".toList ++ inner) } ∧
      ∀ segment ∈ Text.splitOn '/' inner, IsStep segment := by
  intro s c
  have hbuild : Client.build "http://[::1]:9130" (some "secret") (Time.Span.ofSeconds 10) =
    .ok c := rfl
  have hfound : (s.resolve namingNetwork "diku" "1").1.toOption.map (·.toList) =
      some ['u'] := by decide +kernel
  obtain ⟨_, hid, hname⟩ := Token.ok_of_toOption hfound
  obtain rfl := String.toList_inj.mp (hname.trans (show ['u'] = "u".toList from rfl))
  obtain ⟨o, inner, hsent, hresponse, -, -, hurl, hsteps, -⟩ :=
    object_request_stays_in_account hbuild rfl .itemRenewal hid (by decide) (by decide)
      ⟨"POST", ⟨"/", none⟩, [], []⟩ ".\t."
  refine ⟨hbuild, rfl, .itemRenewal, hid, o, inner, hsent, hresponse, hurl, ?_⟩
  exact fun segment hmem => hsteps segment (List.mem_cons_of_mem _ hmem)

/-- A backend whose address ends with two slashes. -/
def doubleSlash : Client where
  base := { Client.loopback.base with path := .rooted ['/', '/'] }
  token := none
  timeout := Time.Span.ofSeconds 10

/-- One address does not keep its path less the slash at the end: where the path is two slashes,
neither is left of it. -/
theorem object_request_misses_double_slash :
    ¬ ∀ (address : String) (token : Option String) (timeout : Time.Span) (s : State) (n : Network)
      (tenant patron object id kind act : String) (r : Request) (e : Endpoint) (o : Outgoing),
      Client.build address token timeout = .ok s.services.client →
      Http.isWebScheme s.services.client.base.scheme = true → e.ActsOn kind act →
      (s.resolve n tenant patron).1 = .ok id →
      withoutDropped id.toList ≠ ['.'] → withoutDropped id.toList ≠ ['.', '.'] →
      ((s.serveTenant n tenant r e [patron, object]).2.2.arrivedSince
        (s.resolve n tenant patron).2.2).head? = some o →
      Url.withoutLastSlash s.services.client.base.path.toChars ++ "/patron/account/".toList ++
        patronSegment id ++ ['/'] <+: o.url.path.toChars := by
  intro hkeeps
  have hfound : ((loopbackStart doubleSlash).resolve namingNetwork "diku" "1").1.toOption.map
      (·.toList) = some ['u'] := by decide +kernel
  obtain ⟨_, hid, hname⟩ := Token.ok_of_toOption hfound
  obtain rfl := String.toList_inj.mp (hname.trans (show ['u'] = "u".toList from rfl))
  have hrequest : ((((loopbackStart doubleSlash).serveTenant namingNetwork "diku"
      ⟨"POST", ⟨"/", none⟩, [], []⟩ .itemRenewal ["1", "i"]).2.2.arrivedSince
      ((loopbackStart doubleSlash).resolve namingNetwork "diku" "1").2.2).head?.map
        fun o => o.url.path.toChars) = some "/patron/account/u/item/i/renew".toList := by
    decide +kernel
  obtain ⟨o, ho, hpath⟩ := Option.map_eq_some_iff.mp hrequest
  have hbegins := hkeeps "http://[::1]:9130//" none (Time.Span.ofSeconds 10)
    (loopbackStart doubleSlash) namingNetwork "diku" "1" "i" "u" "item" "renew" _ .itemRenewal o
    rfl rfl .itemRenewal hid (by decide) (by decide) ho
  rw [hpath] at hbegins
  exact absurd hbegins (by decide)

end State
end Gateway
end PatronGateway
