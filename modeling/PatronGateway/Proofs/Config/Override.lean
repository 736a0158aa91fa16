import PatronGateway.Proofs.Config.Overlay

/-!
# Texts that variables set

Five settings are free texts, and each has a variable of its own.  What the variable holds is not
always what arrives: it is taken for a value first and printed again.  Apart from that it counts
whatever a file says, and nothing else changes, except where a list gives a whole part: there the
variable makes a table of it, and the list is lost.

* `IsPart` and `IsTextOf` say how a part of the configuration is read, and how a text stands in it;
  four parts and five texts are of this kind.
* `TextSetting` are the five settings; `get_of_overrides` and `read?_of_overrides` say what they
  become when trees differ in their members.
* `override_is_printed` is the statement about loading.
-/

namespace PatronGateway
namespace Config

open Variables (arrival guess Stays IsWord)

/-! ## Parts of a configuration -/

/-- Whether a tree is a list. -/
def Tree.isList : Tree → Bool
  | .list _ => true
  | _ => false

section Parts

variable {σ : Type} {read : Tree → Option σ} {default : σ}

/-- A part is read from a table or a list, and nothing makes its default. -/
structure IsPart (read : Tree → Option σ) (default : σ) : Prop where
  read_empty : read (.table []) = some default
  kind : ∀ t x, read t = some x → (∃ ms, t = .table ms) ∨ t.isList

theorem IsPart.of_fields? {names : List String} {rest : List (Option Tree) → Option σ}
    (hread : ∀ t, read t = (Tree.fields? names t).bind rest)
    (hempty : read (.table []) = some default) : IsPart read default := by
  refine ⟨hempty, fun t x hx => ?_⟩
  rw [hread] at hx
  cases t with
  | table ms => exact .inl ⟨ms, rfl⟩
  | list ts => exact .inr rfl
  | nothing => cases hx
  | truth b => cases hx
  | integer i => cases hx
  | real d => cases hx
  | text s => cases hx

theorem read_of_lookup {ts : List (String × Tree)} {name : String} {u : Tree} {x : σ}
    (hlookup : ts.lookup name = some u)
    (hx : Form.field? default read (ts.lookup name) = some x) : read u = some x := by
  rw [hlookup] at hx
  exact hx

/-- What a table with the members of a part is read as. -/
theorem IsPart.read_members (h : IsPart read default) {t : Tree} {name : String} {x : σ}
    (hx : Form.field? default read (t.members.lookup name) = some x) :
    read (.table (t.memberOf name).members) =
      some (if (t.memberOf name).isList then default else x) := by
  unfold Tree.memberOf
  cases hlookup : t.members.lookup name with
  | none =>
      rw [hlookup] at hx
      obtain rfl := Option.some.inj hx
      exact h.read_empty
  | some u =>
      rw [hlookup] at hx
      change read u = some x at hx
      change read (.table u.members) = some (if u.isList then default else x)
      obtain ⟨ms, rfl⟩ | hlist := h.kind u x hx
      · exact hx
      · -- a list has no members, so that nothing of it is left
        rw [if_pos hlist]
        cases u <;> first | exact h.read_empty | cases hlist

/-- A text of a part: it is read from the member of a name, and nothing else depends on it. -/
structure IsTextOf (read : Tree → Option σ) (key : String) (get : σ → Option String)
    (put : String → σ → σ) : Prop where
  get_eq : ∀ {ms x u text}, ms.lookup key = some u → u.text? = some text →
    read (.table ms) = some x → get x = some text
  read_put : ∀ {ms ms' x u text}, ms'.lookup key = some u → u.text? = some text →
    (∀ name ≠ key, ms'.lookup name = ms.lookup name) → read (.table ms) = some x →
    read (.table ms') = some (put text x)

theorem optional?_text? {u : Tree} {text : String} (h : u.text? = some text) :
    Form.optional? Form.text? u = some (some text) := by
  have hnothing : Form.isNothing u = false := by cases u <;> first | rfl | cases h
  unfold Form.optional?
  rw [hnothing, if_neg Bool.false_ne_true]
  exact congrArg (Option.map some) h

end Parts

section Readers

variable {ms : List (String × Tree)}

theorem Server.read?_table_iff {x : Server} :
    read? (Tree.table ms) = some x ↔
      Form.field? default.host Form.text? (ms.lookup "host") = some x.host ∧
      Form.field? default.port port? (ms.lookup "port") = some x.port ∧
      Form.field? default.bodyLimit Form.natural? (ms.lookup "body_limit_bytes") =
        some x.bodyLimit := by
  change ((Form.field? default.host Form.text? (ms.lookup "host")).bind _) = _ ↔ _
  simp only [Option.bind_eq_bind, Option.bind_eq_some_iff]
  constructor
  · rintro ⟨host, hhost, port, hport, limit, hlimit, hx⟩
    cases hx
    exact ⟨hhost, hport, hlimit⟩
  · rintro ⟨hhost, hport, hlimit⟩
    exact ⟨_, hhost, _, hport, _, hlimit, rfl⟩

theorem Okapi.read?_table_iff {x : Okapi} :
    read? (Tree.table ms) = some x ↔
      Form.field? default.url Form.text? (ms.lookup "url") = some x.url ∧
      Form.field? none (Form.optional? Form.text?) (ms.lookup "token") = some x.token ∧
      Form.field? default.requestTimeout Form.span? (ms.lookup "request_timeout") =
        some x.requestTimeout := by
  change ((Form.field? default.url Form.text? (ms.lookup "url")).bind _) = _ ↔ _
  simp only [Option.bind_eq_bind, Option.bind_eq_some_iff]
  constructor
  · rintro ⟨url, hurl, token, htoken, timeout, htimeout, hx⟩
    cases hx
    exact ⟨hurl, htoken, htimeout⟩
  · rintro ⟨hurl, htoken, htimeout⟩
    exact ⟨_, hurl, _, htoken, _, htimeout, rfl⟩

theorem Source.read?_table_iff {x : Token.SourceSettings} :
    Token.SourceSettings.read? (Tree.table ms) = some x ↔
      Form.field? Token.SourceSettings.default.url Form.text? (ms.lookup "url") = some x.url ∧
      Form.field? Token.SourceSettings.default.requestTimeout Form.span?
        (ms.lookup "request_timeout") = some x.requestTimeout ∧
      Form.field? Token.SourceSettings.default.maxResponseSize Form.natural?
        (ms.lookup "max_response_size") = some x.maxResponseSize := by
  change ((Form.field? Token.SourceSettings.default.url Form.text? (ms.lookup "url")).bind _) = _ ↔ _
  simp only [Option.bind_eq_bind, Option.bind_eq_some_iff]
  constructor
  · rintro ⟨url, hurl, timeout, htimeout, size, hsize, hx⟩
    cases hx
    exact ⟨hurl, htimeout, hsize⟩
  · rintro ⟨hurl, htimeout, hsize⟩
    exact ⟨_, hurl, _, htimeout, _, hsize, rfl⟩

theorem Auth.read?_table_iff {x : Auth} :
    read? (Tree.table ms) = some x ↔
      Form.field? default.enabled Form.truth? (ms.lookup "enabled") = some x.enabled ∧
      Form.field? none (Form.optional? Form.text?) (ms.lookup "issuer_template") =
        some x.issuerTemplate := by
  change ((Form.field? default.enabled Form.truth? (ms.lookup "enabled")).bind _) = _ ↔ _
  simp only [Option.bind_eq_bind, Option.bind_eq_some_iff]
  constructor
  · rintro ⟨enabled, henabled, issuer, hissuer, hx⟩
    cases hx
    exact ⟨henabled, hissuer⟩
  · rintro ⟨henabled, hissuer⟩
    exact ⟨_, henabled, _, hissuer, rfl⟩

theorem read?_table_iff {c : Config} :
    read? (Tree.table ms) = some c ↔
      Form.field? default.server Server.read? (ms.lookup "server") = some c.server ∧
      Form.field? default.okapi Okapi.read? (ms.lookup "okapi") = some c.okapi ∧
      Form.field? default.keycloak Token.SourceSettings.read? (ms.lookup "keycloak") =
        some c.keycloak ∧
      Form.field? default.auth Auth.read? (ms.lookup "auth") = some c.auth ∧
      Form.field? default.cache Caches.read? (ms.lookup "cache") = some c.cache ∧
      Form.field? default.logging Logging.read? (ms.lookup "logging") = some c.logging := by
  change ((Form.field? default.server Server.read? (ms.lookup "server")).bind _) = _ ↔ _
  simp only [Option.bind_eq_bind, Option.bind_eq_some_iff]
  constructor
  · rintro ⟨server, hserver, okapi, hokapi, keycloak, hkeycloak, auth, hauth, cache, hcache,
      logging, hlogging, hc⟩
    cases hc
    exact ⟨hserver, hokapi, hkeycloak, hauth, hcache, hlogging⟩
  · rintro ⟨hserver, hokapi, hkeycloak, hauth, hcache, hlogging⟩
    exact ⟨_, hserver, _, hokapi, _, hkeycloak, _, hauth, _, hcache, _, hlogging, rfl⟩

end Readers

theorem Server.isPart : IsPart Server.read? Server.default :=
  .of_fields? (fun _ => rfl) rfl

theorem Okapi.isPart : IsPart Okapi.read? Okapi.default :=
  .of_fields? (fun _ => rfl) rfl

theorem Source.isPart : IsPart Token.SourceSettings.read? Token.SourceSettings.default :=
  .of_fields? (fun _ => rfl) rfl

theorem Auth.isPart : IsPart Auth.read? Auth.default :=
  .of_fields? (fun _ => rfl) rfl

theorem Server.isTextOf_host :
    IsTextOf Server.read? "host" (fun x => some x.host) fun text x => { x with host := text } where
  get_eq hkey htext hread := by
    obtain ⟨hhost, -, -⟩ := read?_table_iff.mp hread
    rw [hkey] at hhost
    exact hhost.symm.trans htext
  read_put hkey htext hothers hread := by
    obtain ⟨-, hport, hlimit⟩ := read?_table_iff.mp hread
    rw [← hothers "port" (by decide)] at hport
    rw [← hothers "body_limit_bytes" (by decide)] at hlimit
    exact read?_table_iff.mpr ⟨by rw [hkey]; exact htext, hport, hlimit⟩

theorem Okapi.isTextOf_url :
    IsTextOf Okapi.read? "url" (fun x => some x.url) fun text x => { x with url := text } where
  get_eq hkey htext hread := by
    obtain ⟨hurl, -, -⟩ := read?_table_iff.mp hread
    rw [hkey] at hurl
    exact hurl.symm.trans htext
  read_put hkey htext hothers hread := by
    obtain ⟨-, htoken, htimeout⟩ := read?_table_iff.mp hread
    rw [← hothers "token" (by decide)] at htoken
    rw [← hothers "request_timeout" (by decide)] at htimeout
    exact read?_table_iff.mpr ⟨by rw [hkey]; exact htext, htoken, htimeout⟩

theorem Okapi.isTextOf_token :
    IsTextOf Okapi.read? "token" Okapi.token fun text x => { x with token := some text } where
  get_eq hkey htext hread := by
    obtain ⟨-, htoken, -⟩ := read?_table_iff.mp hread
    rw [hkey] at htoken
    exact Option.some.inj (htoken.symm.trans (optional?_text? htext))
  read_put hkey htext hothers hread := by
    obtain ⟨hurl, -, htimeout⟩ := read?_table_iff.mp hread
    rw [← hothers "url" (by decide)] at hurl
    rw [← hothers "request_timeout" (by decide)] at htimeout
    exact read?_table_iff.mpr ⟨hurl, by rw [hkey]; exact optional?_text? htext, htimeout⟩

theorem Source.isTextOf_url :
    IsTextOf Token.SourceSettings.read? "url" (fun x => some x.url)
      fun text x => { x with url := text } where
  get_eq hkey htext hread := by
    obtain ⟨hurl, -, -⟩ := read?_table_iff.mp hread
    rw [hkey] at hurl
    exact hurl.symm.trans htext
  read_put hkey htext hothers hread := by
    obtain ⟨-, htimeout, hsize⟩ := read?_table_iff.mp hread
    rw [← hothers "request_timeout" (by decide)] at htimeout
    rw [← hothers "max_response_size" (by decide)] at hsize
    exact read?_table_iff.mpr ⟨by rw [hkey]; exact htext, htimeout, hsize⟩

theorem Auth.isTextOf_issuerTemplate :
    IsTextOf Auth.read? "issuer_template" Auth.issuerTemplate
      fun text x => { x with issuerTemplate := some text } where
  get_eq hkey htext hread := by
    obtain ⟨-, hissuer⟩ := read?_table_iff.mp hread
    rw [hkey] at hissuer
    exact Option.some.inj (hissuer.symm.trans (optional?_text? htext))
  read_put hkey htext hothers hread := by
    obtain ⟨henabled, -⟩ := read?_table_iff.mp hread
    rw [← hothers "enabled" (by decide)] at henabled
    exact read?_table_iff.mpr ⟨henabled, by rw [hkey]; exact optional?_text? htext⟩

/-! ## Five settings -/

/-- The settings that are free texts. -/
inductive TextSetting where
  | host
  | okapiUrl
  | okapiToken
  | keycloakUrl
  | issuerTemplate
  deriving DecidableEq, Repr

namespace TextSetting

/-- The part of the configuration that a setting belongs to. -/
def part : TextSetting → String
  | host => "server"
  | okapiUrl => "okapi"
  | okapiToken => "okapi"
  | keycloakUrl => "keycloak"
  | issuerTemplate => "auth"

/-- The name of a setting in its part. -/
def key : TextSetting → String
  | host => "host"
  | okapiUrl => "url"
  | okapiToken => "token"
  | keycloakUrl => "url"
  | issuerTemplate => "issuer_template"

/-- The variable that sets it. -/
def variableName : TextSetting → String
  | host => "PATRON_EDGE__SERVER__HOST"
  | okapiUrl => "PATRON_EDGE__OKAPI__URL"
  | okapiToken => "PATRON_EDGE__OKAPI__TOKEN"
  | keycloakUrl => "PATRON_EDGE__KEYCLOAK__URL"
  | issuerTemplate => "PATRON_EDGE__AUTH__ISSUER_TEMPLATE"

/-- The text of a setting, if it has one. -/
def get : TextSetting → Config → Option String
  | host, c => some c.server.host
  | okapiUrl, c => some c.okapi.url
  | okapiToken, c => c.okapi.token
  | keycloakUrl, c => some c.keycloak.url
  | issuerTemplate, c => c.auth.issuerTemplate

/-- A configuration with another text for a setting. -/
def put : TextSetting → String → Config → Config
  | host, text, c => { c with server := { c.server with host := text } }
  | okapiUrl, text, c => { c with okapi := { c.okapi with url := text } }
  | okapiToken, text, c => { c with okapi := { c.okapi with token := some text } }
  | keycloakUrl, text, c => { c with keycloak := { c.keycloak with url := text } }
  | issuerTemplate, text, c => { c with auth := { c.auth with issuerTemplate := some text } }

/-- A configuration in which the part of a setting has its defaults, if a list gave it. -/
def forgetList : TextSetting → Bool → Config → Config
  | host, listed, c => { c with server := if listed then .default else c.server }
  | okapiUrl, listed, c => { c with okapi := if listed then .default else c.okapi }
  | okapiToken, listed, c => { c with okapi := if listed then .default else c.okapi }
  | keycloakUrl, listed, c => { c with keycloak := if listed then .default else c.keycloak }
  | issuerTemplate, listed, c => { c with auth := if listed then .default else c.auth }

variable (s : TextSetting)

/-- The variable leads to the setting. -/
theorem path_eq : ∃ path, Variables.pathText? s.variableName = some path ∧
    Path.ofText path = ⟨s.part, [.member s.key]⟩ := by
  cases s <;> exact ⟨_, rfl, by decide +kernel⟩

variable {s} {t t' u : Tree} {text : String} {c c' : Config}

/-- The setting is what the tree has for it. -/
theorem get_of_overrides (h : Overrides s.part s.key u t t') (htext : u.text? = some text)
    (ht' : ∃ ts, t' = .table ts) (hread : read? t' = some c') : s.get c' = some text := by
  obtain ⟨ts, rfl⟩ := ht'
  obtain ⟨ms, hpart, hkey, -⟩ := h.part
  obtain ⟨hserver, hokapi, hkeycloak, hauth, -, -⟩ := read?_table_iff.mp hread
  cases s with
  | host => exact Server.isTextOf_host.get_eq hkey htext (read_of_lookup hpart hserver)
  | okapiUrl => exact Okapi.isTextOf_url.get_eq hkey htext (read_of_lookup hpart hokapi)
  | okapiToken => exact Okapi.isTextOf_token.get_eq hkey htext (read_of_lookup hpart hokapi)
  | keycloakUrl => exact Source.isTextOf_url.get_eq hkey htext (read_of_lookup hpart hkeycloak)
  | issuerTemplate =>
      exact Auth.isTextOf_issuerTemplate.get_eq hkey htext (read_of_lookup hpart hauth)

section Fields

variable {σ : Type} {read : Tree → Option σ} {default x : σ} {get : σ → Option String}
  {put : String → σ → σ}

theorem field?_part (h : Overrides s.part s.key u t t') (htext : u.text? = some text)
    (hset : IsTextOf read s.key get put) (hpart : IsPart read default)
    (hread : Form.field? default read (t.members.lookup s.part) = some x) :
    Form.field? default read (t'.members.lookup s.part) =
      some (put text (if (t.memberOf s.part).isList then default else x)) := by
  obtain ⟨ms, hlookup, hkey, hrest⟩ := h.part
  rw [hlookup]
  exact hset.read_put hkey htext hrest (hpart.read_members hread)

theorem field?_other (h : Overrides s.part s.key u t t') (name : String) (hname : name ≠ s.part)
    (hread : Form.field? default read (t.members.lookup name) = some x) :
    Form.field? default read (t'.members.lookup name) = some x := by
  rw [h.others name hname]
  exact hread

end Fields

/-- Everything else is what it was, where no list gave the part. -/
theorem read?_of_overrides (h : Overrides s.part s.key u t t') (htext : u.text? = some text)
    (ht : ∃ ts, t = .table ts) (ht' : ∃ ts, t' = .table ts) (hread : read? t = some c) :
    read? t' = some (s.put text (s.forgetList (t.memberOf s.part).isList c)) := by
  obtain ⟨ts, rfl⟩ := ht
  obtain ⟨ts', rfl⟩ := ht'
  obtain ⟨hserver, hokapi, hkeycloak, hauth, hcache, hlogging⟩ := read?_table_iff.mp hread
  cases s with
  | host =>
      exact read?_table_iff.mpr
        ⟨field?_part h htext Server.isTextOf_host Server.isPart hserver,
          field?_other h "okapi" (by decide) hokapi,
          field?_other h "keycloak" (by decide) hkeycloak,
          field?_other h "auth" (by decide) hauth,
          field?_other h "cache" (by decide) hcache,
          field?_other h "logging" (by decide) hlogging⟩
  | okapiUrl =>
      exact read?_table_iff.mpr
        ⟨field?_other h "server" (by decide) hserver,
          field?_part h htext Okapi.isTextOf_url Okapi.isPart hokapi,
          field?_other h "keycloak" (by decide) hkeycloak,
          field?_other h "auth" (by decide) hauth,
          field?_other h "cache" (by decide) hcache,
          field?_other h "logging" (by decide) hlogging⟩
  | okapiToken =>
      exact read?_table_iff.mpr
        ⟨field?_other h "server" (by decide) hserver,
          field?_part h htext Okapi.isTextOf_token Okapi.isPart hokapi,
          field?_other h "keycloak" (by decide) hkeycloak,
          field?_other h "auth" (by decide) hauth,
          field?_other h "cache" (by decide) hcache,
          field?_other h "logging" (by decide) hlogging⟩
  | keycloakUrl =>
      exact read?_table_iff.mpr
        ⟨field?_other h "server" (by decide) hserver,
          field?_other h "okapi" (by decide) hokapi,
          field?_part h htext Source.isTextOf_url Source.isPart hkeycloak,
          field?_other h "auth" (by decide) hauth,
          field?_other h "cache" (by decide) hcache,
          field?_other h "logging" (by decide) hlogging⟩
  | issuerTemplate =>
      exact read?_table_iff.mpr
        ⟨field?_other h "server" (by decide) hserver,
          field?_other h "okapi" (by decide) hokapi,
          field?_other h "keycloak" (by decide) hkeycloak,
          field?_part h htext Auth.isTextOf_issuerTemplate Auth.isPart hauth,
          field?_other h "cache" (by decide) hcache,
          field?_other h "logging" (by decide) hlogging⟩

end TextSetting

/-! ## Loading -/

theorem ofTree_eq_ok_iff {t : Tree} {c : Config} :
    ofTree t = .ok c ↔ read? t = some c ∧ c.fault? = none := by
  unfold ofTree
  constructor
  · intro h
    split at h
    · cases h
    · next c₀ hread =>
        split at h
        · cases h
        · next hfault =>
            cases h
            exact ⟨hread, hfault⟩
  · rintro ⟨hread, hfault⟩
    rw [hread]
    dsimp only
    rw [hfault]

/-- Whether the file and the variables give a part of the configuration as a list. -/
def givesList (d : Directory) (vs : Variables) (path : Option String) (part : String) : Bool :=
  match fileSettings d (path.getD defaultPath) with
  | .ok file => ((gather file vs).memberOf part).isList
  | .error _ => false

/-- The text of a variable arrives as it is printed after it was taken for something, whatever the
file says, and nothing else changes, unless a list gave the part of the setting. -/
theorem override_is_printed (s : TextSetting) (v : String) (d : Directory) (path : Option String)
    {vs₁ vs₂ : Variables} (hothers : ∀ w ∈ vs₁ ++ vs₂, Variables.Spares w s.part s.key) :
    (∀ c', load d (vs₁ ++ (s.variableName, v) :: vs₂) path = .ok c' →
      s.get c' = some (arrival v) ∧ (s.get c' = some v ↔ Stays v)) ∧
    (¬ IsWord v → (∃ c ∈ v.toList, c ∉ numberChars) → Stays v) ∧
    ∀ c, load d (vs₁ ++ vs₂) path = .ok c →
      ∀ c', load d (vs₁ ++ (s.variableName, v) :: vs₂) path = .ok c' ↔
        c' = s.put (arrival v) (s.forgetList (givesList d (vs₁ ++ vs₂) path s.part) c) ∧
          c'.fault? = none := by
  obtain ⟨name, hname, hpath⟩ := s.path_eq
  obtain ⟨htext, hvalue⟩ := Variables.guess_spec v
  cases hfile : fileSettings d (path.getD defaultPath) with
  | error e =>
      have hload (vs : Variables) (c : Config) : load d vs path ≠ .ok c := by
        unfold load
        rw [hfile]
        exact nofun
      exact ⟨fun c' h => absurd h (hload _ c'), Variables.stays_of_mem,
        fun c h => absurd h (hload _ c)⟩
  | ok file =>
      have hload (vs : Variables) : load d vs path = ofTree (gather file vs) := by
        unfold load
        rw [hfile]
      have hlist : givesList d (vs₁ ++ vs₂) path s.part =
          ((gather file (vs₁ ++ vs₂)).memberOf s.part).isList := by
        unfold givesList
        rw [hfile]
      have hdiffer : Overrides s.part s.key (guess v) (gather file (vs₁ ++ vs₂))
          (gather file (vs₁ ++ (s.variableName, v) :: vs₂)) :=
        overrides_gather hname hpath hvalue hothers file
      rw [hload, hload, hlist]
      refine ⟨fun c' h => ?_, Variables.stays_of_mem, fun c h c' => ?_⟩
      · obtain ⟨hread, -⟩ := ofTree_eq_ok_iff.mp h
        have hget := TextSetting.get_of_overrides hdiffer htext (exists_table_gather file _) hread
        refine ⟨hget, ?_⟩
        rw [hget, Option.some.injEq]
        exact Variables.arrival_eq_self_iff v
      · obtain ⟨hread, -⟩ := ofTree_eq_ok_iff.mp h
        have hread' := TextSetting.read?_of_overrides hdiffer htext (exists_table_gather file _)
          (exists_table_gather file _) hread
        rw [ofTree_eq_ok_iff, hread', Option.some.injEq]
        exact and_congr_left' eq_comm

/-- Over a file with a token, and between a variable that sets nothing and one for the URL, a token
with leading zeros loses them. -/
theorem override_is_printed_zeros :
    let s := TextSetting.okapiToken
    let d : Directory := [("patron-edge.toml", "[okapi]\ntoken = \"old\"\n")]
    let before : Variables := [("HOME", "/root")]
    let after : Variables := [("PATRON_EDGE__OKAPI__URL", "http://[::1]")]
    let c := s.put "old" (TextSetting.okapiUrl.put "http://[::1]" default)
    (∀ w ∈ before ++ after, Variables.Spares w s.part s.key) ∧
    load d (before ++ after) none = .ok c ∧
    load d (before ++ (s.variableName, "00123") :: after) none = .ok (s.put "123" c) ∧
    ¬ Stays "00123" := by
  intro s d before after c
  have hhome : Variables.pathText? "HOME" = none := by decide +kernel
  have hurl : Variables.pathText? "PATRON_EDGE__OKAPI__URL" = some "okapi.url" := by decide +kernel
  have hspares : ∀ w ∈ before ++ after, Variables.Spares w s.part s.key := by
    intro w hw path hpath
    obtain rfl | rfl : w = ("HOME", "/root") ∨ w = ("PATRON_EDGE__OKAPI__URL", "http://[::1]") := by
      simpa [before, after] using hw
    · rw [hhome] at hpath
      cases hpath
    · obtain rfl := Option.some.inj (hurl.symm.trans hpath)
      exact fun _ => ⟨"url", [], by decide +kernel, by decide⟩
  have hbefore : load d (before ++ after) none = .ok c := by decide +kernel
  have hlist : givesList d (before ++ after) none s.part = false := by decide +kernel
  have harrival : arrival "00123" = "123" := by decide +kernel
  obtain ⟨hget, -, hload⟩ := override_is_printed s "00123" d none hspares
  rw [harrival, hlist] at hload
  have hafter := (hload c hbefore (s.put "123" c)).mpr ⟨rfl, by decide +kernel⟩
  have hstays := (hget _ hafter).2
  exact ⟨hspares, hbefore, hafter, fun h => absurd (hstays.mpr h) (by decide)⟩

/-- A token with leading zeros does not arrive, and it resets the URL that a list gave. -/
theorem override_changes_token :
    let token := TextSetting.okapiToken
    let listed : Directory := [("patron-edge.toml", "okapi = [\"http://[::1]\"]\n")]
    load [] [(token.variableName, "00123")] none = .ok (token.put "123" default) ∧
    load listed [] none = .ok (TextSetting.okapiUrl.put "http://[::1]" default) ∧
    load listed [(token.variableName, "secret")] none = .ok (token.put "secret" default) := by
  decide +kernel

end Config
end PatronGateway
