import Cutroom.Proofs.Web.Addressed
import Cutroom.Web.Client

/-! What sending a request does to a client (`Client.send_spec`): nothing but the network changes, and the requests that
    arrive are the one that was asked for and those to which the responses have led from there. -/

namespace Cutroom
namespace Url

/-- What parameters add to an address depends on its query only. --/
theorem withParameters_eq (query : Option String) (parameters : List (String × String)) :
    ∃ query', ∀ u : Url, u.query = query → u.withParameters parameters = { u with query := query' } := by
  unfold withParameters
  cases hempty : parameters.isEmpty
  · cases query with
    | none => exact ⟨_, fun u hu => by simp only [hu, Bool.false_eq_true, if_false]; rfl⟩
    | some q => exact ⟨_, fun u hu => by simp only [hu, Bool.false_eq_true, if_false]; rfl⟩
  · refine ⟨query, fun u hu => ?_⟩
    subst hu
    rfl

/-- Without its user, an address has the same scheme and target. --/
theorem withoutAccount_same (u : Url) (parameters : List (String × String)) :
    (u.withoutAccount.withParameters parameters).scheme = u.scheme ∧
      (u.withoutAccount.withParameters parameters).target = (u.withParameters parameters).target := by
  obtain ⟨query, hquery⟩ := withParameters_eq u.query parameters
  rw [hquery u rfl]
  unfold withoutAccount
  split
  · rw [hquery { u with user := "", password := none } rfl]
    exact ⟨rfl, rfl⟩
  · rw [hquery u rfl]
    exact ⟨rfl, rfl⟩

/-- Requests go to pages only. --/
theorem page?_of_takesRequests {s : String} {u : Url} {parameters : List (String × String)} (hu : ofText? s = some u)
    (htakes : (u.withoutAccount.withParameters parameters).takesRequests = true) : page? s = some u := by
  have hscheme : (u.scheme = "http" || u.scheme = "https") = true := by
    simp only [takesRequests, isPage, (u.withoutAccount_same _).1, Bool.and_eq_true] at htakes
    exact htakes.1
  rw [page?, hu, Option.filter_some, if_pos hscheme]

end Url

/-! ### Trips -/

/-- The requests that are sent for one, in order. Each one behind the first is what the response to the one before it
    leads to; the last one may not arrive. --/
inductive Request.Trip : Request → List Request → Prop where
  | lost (r : Request) : Trip r []
  | arrived (r : Request) : Trip r [r]
  | led {r next : Request} {response : Response} {more : List Request} (onward : r.onward? response = some next)
      (rest : Trip next more) : Trip r (r :: more)

/-- A code that may lead elsewhere. --/
def Response.LeadsOn (r : Response) : Prop := 300 ≤ r.status ∧ r.status < 400

theorem Request.leadsOn_of_onward? {r next : Request} {response : Response} (h : r.onward? response = some next) :
    response.LeadsOn := by
  obtain ⟨again, hagain, -⟩ := Option.bind_eq_some_iff.mp h
  unfold Request.again? at hagain
  unfold Response.LeadsOn
  split at hagain
  · omega
  · split at hagain
    · omega
    · cases hagain

namespace Network

/-- The response to the last of so many requests, none where the server hung up or nothing was sent. --/
def last? (n : Network) : Nat → Option Response
  | 0 => none
  | k + 1 => (n.responses.getD k none).bind Response.received?

/-- The network when some more requests have arrived. --/
def behind (n : Network) (trip : List Request) : Network :=
  { n with responses := n.responses.drop trip.length, requests := n.requests ++ trip }

theorem behind_nil (n : Network) : n.behind [] = n := by
  simp only [behind, List.length_nil, List.drop_zero, List.append_nil]

theorem behind_cons (n : Network) (r : Request) (trip : List Request) :
    (n.behind [r]).behind trip = n.behind (r :: trip) := by
  simp only [behind, List.length_cons, List.length_nil, List.drop_drop, List.append_assoc, List.singleton_append,
    Nat.zero_add, Nat.add_comm 1]

theorem last?_behind (n : Network) (r : Request) (k : Nat) : (n.behind [r]).last? (k + 1) = n.last? (k + 2) := by
  simp only [last?, behind, List.length_singleton, List.getD_eq_getElem?_getD, List.getElem?_drop, Nat.add_comm 1]

theorem deliver_eq (n : Network) (r : Request) :
    n.deliver r = if n.reached r.address then (n.last? 1, n.behind [r]) else (none, n) := by
  simp only [deliver, last?, behind, List.headD_eq_head?_getD, List.head?_eq_getElem?, List.getD_eq_getElem?_getD,
    List.length_singleton]

/-- What has come of a request: the response to the last of the requests that were sent for it is the answer, if there
    is one; if there is none, that response has led on, or none has come. --/
structure Comes (n : Network) (r : Request) (trip : List Request) (outcome : Except ExchangeError Response × Network) :
    Prop where
  along : r.Trip trip
  network : outcome.2 = n.behind trip
  answer : ∀ response, outcome.1 = .ok response → n.last? trip.length = some response
  failure : ∀ e, outcome.1 = .error e → ∀ response, n.last? trip.length = some response → response.LeadsOn

theorem Comes.lost {n : Network} {r : Request} {e : ExchangeError} : n.Comes r [] (.error e, n) :=
  ⟨.lost r, n.behind_nil.symm, nofun, fun _ _ _ hlast => by cases hlast⟩

theorem Comes.led {n : Network} {r next : Request} {response : Response} {trip : List Request}
    {outcome : Except ExchangeError Response × Network} (hfirst : n.last? 1 = some response)
    (honward : r.onward? response = some next) (h : (n.behind [r]).Comes next trip outcome) :
    n.Comes r (r :: trip) outcome where
  along := .led honward h.along
  network := h.network.trans (n.behind_cons r trip)
  answer last hlast := by
    have hanswer := h.answer last hlast
    cases trip with
    | nil => cases hanswer
    | cons r' trip => exact (n.last?_behind r trip.length).symm.trans hanswer
  failure e he last hlast := by
    cases trip with
    | nil =>
      obtain rfl : response = last := Option.some.inj (hfirst.symm.trans hlast)
      exact Request.leadsOn_of_onward? honward
    | cons r' trip => exact h.failure e he last ((n.last?_behind r trip.length).trans hlast)

/-- A request that has arrived. --/
theorem Comes.arrived {n : Network} {r : Request} {answer : Except ExchangeError Response}
    (hok : ∀ response, answer = .ok response → n.last? 1 = some response)
    (herror : ∀ e, answer = .error e → ∀ response, n.last? 1 = some response → response.LeadsOn) :
    n.Comes r [r] (answer, n.behind [r]) :=
  ⟨.arrived r, rfl, hok, herror⟩

theorem deliver_cases (n : Network) (r : Request) :
    n.deliver r = (none, n) ∨ (n.deliver r = (none, n.behind [r]) ∧ n.last? 1 = none) ∨
      ∃ response, n.deliver r = (some response, n.behind [r]) ∧ n.last? 1 = some response := by
  rw [deliver_eq]
  cases n.reached r.address with
  | false => exact .inl rfl
  | true =>
    cases hlast : n.last? 1 with
    | none => exact .inr (.inl ⟨rfl, rfl⟩)
    | some response => exact .inr (.inr ⟨response, rfl, rfl⟩)

/-- Wherever the responses lead, each request behind the first is sent because of the one before it. --/
theorem follow_comes (hops : Nat) (n : Network) (r : Request) : ∃ trip, n.Comes r trip (follow hops n r) := by
  have hdelivers := n.deliver_cases r
  fun_induction follow hops n r with
  | case1 hops n r n' hdeliver =>
    rcases hdelivers with hd | ⟨hd, hlast⟩ | ⟨response, hd, hlast⟩ <;> cases hd.symm.trans hdeliver
    · exact ⟨[], .lost⟩
    · exact ⟨[r], .arrived nofun fun _ _ _ hsome => by cases hlast.symm.trans hsome⟩
  | case2 hops n r response n' hdeliver hstays =>
    rcases hdelivers with hd | ⟨hd, hlast⟩ | ⟨response, hd, hlast⟩ <;> cases hd.symm.trans hdeliver
    exact ⟨[r], .arrived (fun last hanswer => Except.ok.inj hanswer ▸ hlast) nofun⟩
  | case3 n r response n' hdeliver next honward =>
    rcases hdelivers with hd | ⟨hd, hlast⟩ | ⟨response, hd, hlast⟩ <;> cases hd.symm.trans hdeliver
    refine ⟨[r], .arrived nofun fun _ _ last hsome => ?_⟩
    cases hlast.symm.trans hsome
    exact Request.leadsOn_of_onward? honward
  | case4 n r response n' hdeliver next honward hops hpage ih =>
    rcases hdelivers with hd | ⟨hd, hlast⟩ | ⟨response, hd, hlast⟩ <;> cases hd.symm.trans hdeliver
    obtain ⟨trip, hcomes⟩ := ih ((n.behind [r]).deliver_cases next)
    exact ⟨r :: trip, hcomes.led hlast honward⟩
  | case5 n r response n' hdeliver next honward hops hpage =>
    rcases hdelivers with hd | ⟨hd, hlast⟩ | ⟨response, hd, hlast⟩ <;> cases hd.symm.trans hdeliver
    exact ⟨[r], .led hlast honward .lost⟩

/-- Where a request arrives and the response names no other place, that response is the answer. --/
theorem send_direct {n : Network} {r : Request} (hreached : n.reached r.address = true)
    (hstays : ∀ response ∈ n.last? 1, response.location = none) :
    n.send r = ((n.last? 1).elim (.error (.hungUp r.address)) .ok, n.behind [r]) := by
  unfold send patience follow
  rw [deliver_eq, if_pos hreached]
  cases hlast : n.last? 1 with
  | none => rfl
  | some response =>
    have honward : r.onward? response = none := by
      simp only [Request.onward?, hstays response hlast, Option.bind_eq_bind, Option.bind_none, Option.bind_fun_none]
    simp only [honward, Option.elim_some]

end Network

namespace Client

variable {c : Client} {d : Draft} {r : Request}

/-- The request of a draft can be sent, to this address before the parameters. --/
structure Sendable (c : Client) (d : Draft) (u : Url) : Prop where
  read : Url.ofText? (c.url d.path) = some u
  host : u.hostName?.isNone = false
  signs : (d.signed && !c.canSign) = false
  takes : (c.asked d u).address.takesRequests = true

theorem request_eq_ok_iff : c.request d = .ok r ↔ ∃ u, c.Sendable d u ∧ c.asked d u = r := by
  constructor
  · intro h
    unfold request at h
    split at h
    · cases h
    · rename_i u hread
      split at h
      · cases h
      · rename_i hhost
        split at h
        · cases h
        · rename_i hsigns
          split at h <;> cases h
          rename_i htakes
          exact ⟨u, ⟨hread, eq_false_of_ne_true hhost, eq_false_of_ne_true hsigns, htakes⟩, rfl⟩
  · rintro ⟨u, ⟨hread, hhost, hsigns, htakes⟩, rfl⟩
    simp only [request, hread, hhost, hsigns, htakes, Bool.false_eq_true, if_false, if_true]

/-- What sending does: nothing, or what comes of the one request of the draft. --/
theorem send_cases (c : Client) (d : Draft) :
    (∃ e, c.request d = .error e ∧ c.send d = (.error e, c)) ∨
      ∃ r, c.request d = .ok r ∧
        c.send d = ((c.network.send r).1, { c with network := (c.network.send r).2 }) := by
  unfold send
  cases h : c.request d with
  | error e => exact .inl ⟨e, rfl, rfl⟩
  | ok r => exact .inr ⟨r, rfl, rfl⟩

/-- Sending a request changes the network only. There the request has arrived, unless it got lost, and behind it those to
    which the responses have led. --/
theorem send_spec (c : Client) (d : Draft) :
    ∃ trip, (c.send d).2 = { c with network := c.network.behind trip } ∧
      (trip = [] ∨ ∃ r, c.request d = .ok r ∧ r.Trip trip) := by
  rcases c.send_cases d with ⟨e, -, hsend⟩ | ⟨r, hr, hsend⟩
  · exact ⟨[], by rw [hsend, c.network.behind_nil], .inl rfl⟩
  · obtain ⟨trip, hcomes⟩ := c.network.follow_comes Network.patience r
    exact ⟨trip, by rw [hsend, ← hcomes.network]; rfl, .inr ⟨r, hr, hcomes.along⟩⟩

end Client

/-- A request whose response is decoded is sent like any other. --/
theorem Client.fetch_client {α : Type} (c : Client) (kind : String → JobError) (d : Draft)
    (read : Response → Except JobError α) : (c.fetch kind d read).2 = (c.send d).2 := by
  unfold Client.fetch
  rcases c.send d with ⟨answer, c'⟩
  rfl

theorem Client.history_client (c : Client) : c.history.2 = (c.send (.get "/jobs/history")).2 := by
  unfold Client.history
  rcases c.send (.get "/jobs/history") with ⟨answer, c'⟩
  dsimp only
  split
  · split <;> rfl
  · rfl

end Cutroom
