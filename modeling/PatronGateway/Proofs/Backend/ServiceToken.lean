import PatronGateway.Proofs.Backend.Operation

/-!
# Where the service token goes

The service token is sent with every request of the client, and redirects keep it.  So
it goes to the backend first, and from there exactly where the answers send it.

* `serviceToken_goes_along_redirects` describes the way of the token: it stays with the
  backend if and only if no redirect that is followed leads away.
* `serviceToken_leaves_backend` is a script of answers by which another host gets the
  token.
-/

namespace PatronGateway
namespace Backend
namespace Client

open Http (Network Outgoing Reaction redirectTarget?)
open Time (Span)

/-- A client is built for the URL that its address writes. -/
theorem base_of_build {address : String} {token : Option String} {timeout : Span} {c : Client}
    (h : build address token timeout = .ok c) :
    Url.read address = .ok c.base ∧ c.token = token := by
  unfold build at h
  cases hread : Url.read address with
  | error e =>
      rw [hread] at h
      cases h
  | ok base =>
      rw [hread] at h
      dsimp only at h
      split at h
      · cases h
        exact ⟨rfl, rfl⟩
      · cases h

/-- A client with a token sends it with every request. -/
theorem token_perform {c : Client} {n : Network} {tenant token : String}
    {operation : Operation} {o : Outgoing} (hc : c.token = some token)
    (ho : o ∈ (c.perform n tenant operation).arrivedSince n) :
    o.headers.values tokenHeader = [token] := by
  rw [values_perform ho (by decide)]
  unfold headers
  rw [hc]
  rfl

/-- The requests of an operation all stay where the backend is, if and only if none of
the redirects that are followed leads away. -/
theorem origin_perform_iff (c : Client) (n : Network) (tenant : String) (operation : Operation) :
    (∀ o ∈ (c.perform n tenant operation).arrivedSince n, o.url.origin = c.base.origin) ↔
      ∀ i before r target, ((c.perform n tenant operation).arrivedSince n)[i]? = some before →
        i + 1 < ((c.perform n tenant operation).arrivedSince n).length →
        n.reactionTo i = .reply r → redirectTarget? before r = some target →
        target.origin = c.base.origin := by
  obtain ⟨first, horigin, -, -, htrail⟩ := c.perform_trail n tenant operation
  generalize (c.perform n tenant operation).arrivedSince n = sent at htrail
  constructor
  · intro hstay i before r target hbefore hlength hreaction hpoints
    obtain ⟨r', hreaction', hpoints'⟩ :=
      htrail.redirected hbefore (List.getElem?_eq_getElem hlength)
    obtain rfl : r' = r := Reaction.reply.inj (hreaction'.symm.trans hreaction)
    obtain rfl : sent[i + 1].url = target := Option.some.inj (hpoints'.symm.trans hpoints)
    exact hstay _ (List.getElem_mem hlength)
  · intro hfollowed o ho
    obtain ⟨i, hi, rfl⟩ := List.mem_iff_getElem.mp ho
    cases i with
    | zero =>
        have hfirst : sent.head? = some sent[0] := by
          rw [List.head?_eq_getElem?, List.getElem?_eq_getElem hi]
        rw [htrail.head?_eq hfirst, horigin]
    | succ i =>
        have hbefore : sent[i]? = some sent[i] := List.getElem?_eq_getElem (by omega)
        obtain ⟨r, hreaction, hpoints⟩ :=
          htrail.redirected hbefore (List.getElem?_eq_getElem hi)
        exact hfollowed i _ r _ hbefore hi hreaction hpoints

/-- The way of the service token, whatever is asked of the client and whatever the
network answers.  Every request bears the token.  The first one goes to the scheme, the
host and the port of the configured address, and every other one to the place that the
redirect answering the request before it points to.  So the token stays with the backend
if and only if no redirect that is followed leads away. -/
theorem serviceToken_goes_along_redirects {address token : String} {timeout : Span}
    {base : Url} {c : Client} (hread : Url.read address = .ok base)
    (hbuild : build address (some token) timeout = .ok c)
    (n : Network) (tenant : String) (operation : Operation) :
    let sent := (c.perform n tenant operation).arrivedSince n
    (∀ o ∈ sent, o.headers.values tokenHeader = [token]) ∧
    (∀ o, sent.head? = some o → o.url.origin = base.origin) ∧
    (∀ i before after, sent[i]? = some before → sent[i + 1]? = some after →
      ∃ r, n.reactionTo i = .reply r ∧ redirectTarget? before r = some after.url) ∧
    ((∀ o ∈ sent, o.url.origin = base.origin) ↔
      ∀ i before r target, sent[i]? = some before → i + 1 < sent.length →
        n.reactionTo i = .reply r → redirectTarget? before r = some target →
        target.origin = base.origin) := by
  obtain ⟨hbase, htoken⟩ := base_of_build hbuild
  obtain rfl : c.base = base := Except.ok.inj (hbase.symm.trans hread)
  obtain ⟨first, horigin, -, -, htrail⟩ := c.perform_trail n tenant operation
  refine ⟨fun o ho => token_perform htoken ho, ?_, ?_, c.origin_perform_iff n tenant operation⟩
  · intro o ho
    rw [htrail.head?_eq ho, horigin]
  · intro i before after hbefore hafter
    exact htrail.redirected hbefore hafter

/-- A backend whose address is written with a port of its own. -/
def loopback : Client where
  base :=
    { scheme := "http".toList, username := [], password := none,
      host := some (.ipv6 [0, 0, 0, 0, 0, 0, 0, 1]), port := some 9130, guarded := false,
      path := .rooted ['/'], query := none, fragment := none }
  token := some "secret"
  timeout := Span.ofSeconds 10

/-- A network that answers the first request with a redirect to another host. -/
def divertingNetwork : Network :=
  ⟨fun _ => true, [.reply ⟨302, none, some "http://[::2]/users", [], false, 0, 0⟩], [], 0⟩

theorem serviceToken_goes_along_redirects_loopback :
    Url.read "http://[::1]:9130" = .ok loopback.base ∧
    build "http://[::1]:9130" (some "secret") (Span.ofSeconds 10) = .ok loopback ∧
    let sent := (loopback.perform divertingNetwork "diku" (.lookup "1")).arrivedSince
      divertingNetwork
    (∀ o ∈ sent, o.headers.values tokenHeader = ["secret"]) ∧
    (∀ o, sent.head? = some o → o.url.origin = loopback.base.origin) := by
  have hread : Url.read "http://[::1]:9130" = .ok loopback.base := rfl
  have hbuild : build "http://[::1]:9130" (some "secret") (Span.ofSeconds 10) = .ok loopback :=
    rfl
  obtain ⟨htoken, hfirst, -, -⟩ := serviceToken_goes_along_redirects hread hbuild
    divertingNetwork "diku" (.lookup "1")
  exact ⟨hread, hbuild, htoken, hfirst⟩

/-- The token does not always stay with the backend: a redirect takes it to another
host. -/
theorem serviceToken_leaves_backend :
    ¬ ∀ (address token : String) (timeout : Span) (base : Url) (c : Client),
      Url.read address = .ok base → build address (some token) timeout = .ok c →
      ∀ (n : Network) (tenant : String) (operation : Operation),
        ∀ o ∈ (c.perform n tenant operation).arrivedSince n,
          o.headers.values tokenHeader ≠ [] → o.url.origin = base.origin := by
  intro hstays
  have hleak : ∃ o ∈ (loopback.perform divertingNetwork "diku" (.lookup "1")).arrivedSince
      divertingNetwork,
      o.headers.values tokenHeader ≠ [] ∧ o.url.origin ≠ loopback.base.origin := by
    decide +kernel
  obtain ⟨o, ho, htoken, haway⟩ := hleak
  exact haway (hstays "http://[::1]:9130" "secret" (Span.ofSeconds 10) loopback.base loopback
    rfl rfl divertingNetwork "diku" (.lookup "1") o ho htoken)

end Client
end Backend
end PatronGateway
