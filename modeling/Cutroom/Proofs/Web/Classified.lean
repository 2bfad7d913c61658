import Cutroom.Proofs.Json.Encoded
import Cutroom.Proofs.Web.Bodies
import Cutroom.Proofs.Web.Sent

/-! What the calls of a client make of the responses (`Client.calls_classified`). A call succeeds if its request does and
    the body of the response holds what the call is after. All else is a failure of the kind that belongs to the call,
    whether no request was sent, no response came, the service refused, or the body broke off or could not be read; only
    a body that is read and lacks the one field that matters is told apart. -/

namespace Cutroom
open Json (Decodes IsList)
namespace Client

variable {α β : Type} {c behind : Client} {kind : String → JobError}

/-! ### Responses -/

/-- The response to the last request of a call, which leaves the client `behind`; none where no request has arrived or the
    server hung up. --/
def reply? (c behind : Client) : Option Response :=
  c.network.last? (behind.network.requests.length - c.network.requests.length)

/-- The request of a call succeeds, with this response. --/
structure Accepts (c behind : Client) (r : Response) : Prop where
  reply : c.reply? behind = some r
  least : 200 ≤ r.status
  most : r.status < 300

/-- The request of a call succeeds, and this is taken from the body of the response, all of which has come. --/
def Takes (c behind : Client) (take : ByteArray → Option α) (a : α) : Prop :=
  ∃ r bytes, c.Accepts behind r ∧ r.body = some bytes ∧ take bytes = some a

/-- The request of a call succeeds, and the body of the response is a document that says this. --/
def Reads (c behind : Client) (P : Json → α → Prop) (a : α) : Prop :=
  ∃ r bytes v, c.Accepts behind r ∧ r.body = some bytes ∧ Json.readBytes? bytes = some v ∧ P v a

theorem Accepts.unique {r s : Response} (hr : c.Accepts behind r) (hs : c.Accepts behind s) : r = s :=
  Option.some.inj (hr.reply.symm.trans hs.reply)

theorem Takes.unique {take : ByteArray → Option α} {a b : α} (ha : c.Takes behind take a) (hb : c.Takes behind take b) :
    a = b := by
  obtain ⟨r, bytes, hr, hbytes, ha⟩ := ha
  obtain ⟨s, bytes', hs, hbytes', hb⟩ := hb
  obtain rfl := hr.unique hs
  obtain rfl := Option.some.inj (hbytes.symm.trans hbytes')
  exact Option.some.inj (ha.symm.trans hb)

theorem takes_iff_reads {decode : Json → Option α} {P : Json → α → Prop} (h : Decodes decode P) {a : α} :
    c.Takes behind (fun bytes => (Json.readBytes? bytes).bind decode) a ↔ c.Reads behind P a := by
  simp only [Takes, Reads, Option.bind_eq_some_iff, h _ _, exists_and_left]

theorem Reads.unique {decode : Json → Option α} {P : Json → α → Prop} (h : Decodes decode P) {a b : α}
    (ha : c.Reads behind P a) (hb : c.Reads behind P b) : a = b :=
  ((takes_iff_reads h).mpr ha).unique ((takes_iff_reads h).mpr hb)

/-- The token of the client behind a call has no part in the response. --/
theorem Reads.with_token {P : Json → α → Prop} {a : α} (h : c.Reads behind P a) (token : Option String) :
    c.Reads { behind with token := token } P a := by
  obtain ⟨r, bytes, v, ⟨hreply, hleast, hmost⟩, ha⟩ := h
  exact ⟨r, bytes, v, ⟨hreply, hleast, hmost⟩, ha⟩

theorem Reads.exists_iff {decode : Json → Option α} {P : Json → α → Prop} (hdecode : Decodes decode P) {a : α}
    (h : c.Reads behind P a) {Q : α → Prop} : (∃ b, c.Reads behind P b ∧ Q b) ↔ Q a := by
  constructor
  · rintro ⟨b, hb, hQ⟩
    rw [h.unique hdecode hb]
    exact hQ
  · exact fun hQ => ⟨a, h, hQ⟩

theorem reply?_self (c : Client) : c.reply? c = none := by
  rw [reply?, Nat.sub_self]
  rfl

theorem reply?_behind (c : Client) (trip : List Request) :
    c.reply? { c with network := c.network.behind trip } = c.network.last? trip.length := by
  simp only [reply?, Network.behind, List.length_append, Nat.add_sub_cancel_left]

/-- What is sent brings the response to the last request, or fails where that response is none or leads on. --/
theorem send_reply (c : Client) (d : Draft) :
    (∀ r, (c.send d).1 = .ok r → c.reply? (c.send d).2 = some r) ∧
      ∀ e, (c.send d).1 = .error e → ∀ r, c.reply? (c.send d).2 = some r → r.LeadsOn := by
  rcases c.send_cases d with ⟨e, -, hsend⟩ | ⟨r, -, hsend⟩
  · rw [hsend]
    refine ⟨nofun, fun _ _ r hr => ?_⟩
    cases c.reply?_self.symm.trans hr
  · obtain ⟨trip, hcomes⟩ := c.network.follow_comes Network.patience r
    have hnetwork : (c.network.send r).2 = c.network.behind trip := hcomes.network
    rw [hsend, hnetwork, reply?_behind]
    exact ⟨hcomes.answer, hcomes.failure⟩

/-- A request to a path arrives: the path gives an address to which requests can be sent, which is reached, and the token
    can be sent where it has to go along. --/
structure Reaches (c : Client) (signed : Bool) (path : String) (parameters : List (String × String)) (u : Url) :
    Prop where
  read : Url.ofText? (c.url path) = some u
  host : u.hostName?.isNone = false
  signs : (signed && !c.canSign) = false
  takes : (u.withoutAccount.withParameters parameters).takesRequests = true
  reached : c.network.reached (u.withoutAccount.withParameters parameters) = true

/-- The request of a call, to this path, is answered by the next response where it arrives, unless that response leads
    elsewhere. --/
def Hears (c behind : Client) (signed : Bool) (path : String) (parameters : List (String × String)) : Prop :=
  ∀ u, c.Reaches signed path parameters u → (∀ r ∈ c.network.last? 1, r.location = none) →
    c.reply? behind = c.network.last? 1

theorem send_hears (c : Client) (d : Draft) : c.Hears (c.send d).2 d.signed d.path d.parameters := by
  intro u h hstays
  have hrequest : c.request d = .ok (c.asked d u) :=
    request_eq_ok_iff.mpr ⟨u, ⟨h.read, h.host, h.signs, h.takes⟩, rfl⟩
  have hreached : c.network.reached (c.asked d u).address = true := h.reached
  have hsend : (c.send d).2 = { c with network := c.network.behind [c.asked d u] } := by
    rw [send, hrequest]
    simp only [Network.send_direct hreached hstays]
  rw [hsend, reply?_behind]
  rfl

theorem isSuccess_iff {r : Response} : r.isSuccess = true ↔ 200 ≤ r.status ∧ r.status < 300 := by
  simp [Response.isSuccess]

/-! ### Calls -/

/-- A call reads the response of a request that succeeds, and fails in its own way where none does. --/
theorem fetch_cases (c : Client) (kind : String → JobError) (d : Draft) (read : Response → Except JobError α) :
    (∃ r, c.Accepts (c.fetch kind d read).2 r ∧ (c.fetch kind d read).1 = read r) ∨
      (∀ r, ¬ c.Accepts (c.fetch kind d read).2 r) ∧ ∃ reason, (c.fetch kind d read).1 = .error (kind reason) := by
  obtain ⟨hok, herror⟩ := c.send_reply d
  unfold fetch
  generalize c.send d = sent at hok herror ⊢
  obtain ⟨answer, behind⟩ := sent
  cases answer with
  | error e =>
    refine .inr ⟨fun r hr => ?_, e.message, rfl⟩
    have hled := (herror e rfl r hr.reply).1
    have hmost := hr.most
    omega
  | ok r =>
    have hreply : c.reply? behind = some r := hok r rfl
    cases hsuccess : r.isSuccess with
    | true =>
      obtain ⟨hleast, hmost⟩ := isSuccess_iff.mp hsuccess
      refine .inl ⟨r, ⟨hreply, hleast, hmost⟩, ?_⟩
      simp only [succeeded, hsuccess, if_true]
      rfl
    | false =>
      refine .inr ⟨fun s hs => ?_, refusal r, ?_⟩
      · obtain rfl : r = s := Option.some.inj (hreply.symm.trans hs.reply)
        have htrue := isSuccess_iff.mpr ⟨hs.least, hs.most⟩
        rw [hsuccess] at htrue
        cases htrue
      · simp only [succeeded, hsuccess, Bool.false_eq_true, if_false]
        rfl

theorem fetch_hears (c : Client) (kind : String → JobError) (d : Draft) (read : Response → Except JobError α) :
    c.Hears (c.fetch kind d read).2 d.signed d.path d.parameters := by
  rw [c.fetch_client kind d read]
  exact c.send_hears d

/-- An outcome is a success with what it should be, or a failure of one kind. --/
structure Classifies (outcome : Except JobError α) (kind : String → JobError) (P : α → Prop) : Prop where
  ok : ∀ a, outcome = .ok a ↔ P a
  error : ∀ e, outcome = .error e → ∃ reason, e = kind reason

theorem classifies_ok {P : α → Prop} {a : α} (h : ∀ b, a = b ↔ P b) : Classifies (.ok a) kind P where
  ok b := Iff.trans ⟨Except.ok.inj, congrArg _⟩ (h b)
  error := nofun

theorem classifies_error {P : α → Prop} {reason : String} (h : ∀ b, ¬ P b) : Classifies (.error (kind reason)) kind P where
  ok b := ⟨nofun, fun hb => absurd hb (h b)⟩
  error _ he := ⟨reason, (Except.error.inj he).symm⟩

theorem Classifies.cases {outcome : Except JobError α} {P : α → Prop} (h : Classifies outcome kind P) :
    (∃ a, outcome = .ok a ∧ P a) ∨ (∃ reason, outcome = .error (kind reason)) ∧ ∀ a, ¬ P a := by
  cases outcome with
  | ok a => exact .inl ⟨a, rfl, (h.ok a).mp rfl⟩
  | error e =>
    obtain ⟨reason, rfl⟩ := h.error e rfl
    refine .inr ⟨⟨reason, rfl⟩, fun a ha => ?_⟩
    cases (h.ok a).mpr ha

/-- Calls that take something from the body. --/
theorem fetch_taken (c : Client) (kind : String → JobError) (d : Draft) (take : ByteArray → Option α) :
    Classifies (c.fetch kind d (taken kind take)).1 kind (c.Takes (c.fetch kind d (taken kind take)).2 take) := by
  rcases c.fetch_cases kind d (taken kind take) with ⟨r, hr, hread⟩ | ⟨hnone, reason, herror⟩
  · rw [hread]
    unfold taken
    cases ha : r.body.bind take with
    | some a =>
      obtain ⟨bytes, hbytes, htake⟩ := Option.bind_eq_some_iff.mp ha
      have htakes : c.Takes _ take a := ⟨r, bytes, hr, hbytes, htake⟩
      exact classifies_ok fun b => ⟨fun hab => hab ▸ htakes, fun hb => htakes.unique hb⟩
    | none =>
      refine classifies_error fun b => ?_
      rintro ⟨s, bytes, hs, hbytes, hb⟩
      rw [hr.unique hs, hbytes, Option.bind_some, hb] at ha
      cases ha
  · rw [herror]
    exact classifies_error fun b ⟨r, _, hr, _⟩ => hnone r hr

/-- Calls that decode the response. --/
theorem fetch_decoded (c : Client) (kind : String → JobError) (d : Draft) {decode : Json → Option α}
    {P : Json → α → Prop} (h : Decodes decode P) :
    Classifies (c.fetch kind d (decoded kind decode)).1 kind (c.Reads (c.fetch kind d (decoded kind decode)).2 P) := by
  have htaken := c.fetch_taken kind d fun bytes => (Json.readBytes? bytes).bind decode
  exact ⟨fun a => (htaken.ok a).trans (takes_iff_reads h), htaken.error⟩

/-- Calls for which it is enough that the request succeeds. --/
theorem fetch_done (c : Client) (kind : String → JobError) (d : Draft) :
    Classifies (c.fetch kind d fun _ => .ok ()).1 kind fun _ => ∃ r, c.Accepts (c.fetch kind d fun _ => .ok ()).2 r := by
  rcases c.fetch_cases kind d fun _ => .ok () with ⟨r, hr, hread⟩ | ⟨hnone, reason, herror⟩
  · rw [hread]
    exact classifies_ok fun _ => ⟨fun _ => ⟨r, hr⟩, fun _ => rfl⟩
  · rw [herror]
    exact classifies_error fun _ ⟨r, hr⟩ => hnone r hr

theorem fetch_bind (c : Client) (kind : String → JobError) (d : Draft) (read : Response → Except JobError α)
    (f : α → Except JobError β) :
    c.fetch kind d (fun r => (read r).bind f) = ((c.fetch kind d read).1.bind f, (c.fetch kind d read).2) := by
  unfold fetch
  generalize c.send d = sent
  obtain ⟨answer, behind⟩ := sent
  dsimp only
  cases succeeded kind answer <;> rfl

/-! ### History -/

/-- The service does not know the request for all jobs. --/
def Unknown (r : Response) : Prop := r.status = 404 ∨ r.status = 405

/-- A service that does not know the request has no jobs; else this call decodes its response like others. --/
theorem history_cases (c : Client) :
    (∃ r, c.reply? c.history.2 = some r ∧ Unknown r ∧ c.history.1 = .ok []) ∨
      (∀ r, c.reply? c.history.2 = some r → ¬ Unknown r) ∧
        c.history = c.fetch .history (.get "/jobs/history") (decoded .history (Json.list? JobSummary.ofJson?)) := by
  obtain ⟨hok, herror⟩ := c.send_reply (.get "/jobs/history")
  unfold history fetch
  generalize c.send (.get "/jobs/history") = sent at hok herror ⊢
  obtain ⟨answer, behind⟩ := sent
  cases answer with
  | error e =>
    refine .inr ⟨fun r hr hunknown => ?_, rfl⟩
    have hled := (herror e rfl r hr).2
    rcases hunknown with hstatus | hstatus <;> omega
  | ok r =>
    have hsome : c.reply? behind = some r := hok r rfl
    dsimp only
    split
    · rename_i hunknown
      exact .inl ⟨r, hsome, hunknown, rfl⟩
    · rename_i hknown
      refine .inr ⟨fun s hs => ?_, rfl⟩
      obtain rfl : r = s := Option.some.inj (hsome.symm.trans hs)
      exact hknown

theorem history_classifies (c : Client) :
    Classifies c.history.1 .history fun jobs =>
      (∃ r, c.reply? c.history.2 = some r ∧ (r.status = 404 ∨ r.status = 405) ∧ jobs = []) ∨
        c.Reads c.history.2 (IsList JobSummary.IsIn) jobs := by
  rcases c.history_cases with ⟨r, hr, hunknown, hnone⟩ | ⟨hknown, hfetch⟩
  · rw [hnone]
    refine classifies_ok fun jobs => ⟨fun hjobs => .inl ⟨r, hr, hunknown, hjobs.symm⟩, ?_⟩
    rintro (⟨-, -, -, hjobs⟩ | ⟨s, -, -, hs, -⟩)
    · exact hjobs.symm
    · obtain rfl : r = s := Option.some.inj (hr.symm.trans hs.reply)
      have hmost := hs.most
      rcases hunknown with hstatus | hstatus <;> omega
  · have hdecoded := c.fetch_decoded .history (.get "/jobs/history") JobSummary.decodes.list
    rw [← hfetch] at hdecoded
    refine ⟨fun jobs => (hdecoded.ok jobs).trans ⟨.inr, ?_⟩, hdecoded.error⟩
    rintro (⟨r, hr, hunknown, -⟩ | hreads)
    · exact absurd hunknown (hknown r hr)
    · exact hreads

/-! ### Uploads -/

/-- An upload judges the reply that it reads. --/
theorem upload_cases (c : Client) (file : UploadFile) :
    (∃ reply, c.Reads (c.upload file).2 UploadReply.IsIn reply ∧ (c.upload file).1 = reply.receipt) ∨
      (∀ reply, ¬ c.Reads (c.upload file).2 UploadReply.IsIn reply) ∧
        ∃ reason, (c.upload file).1 = .error (.upload reason) := by
  unfold upload
  split
  · refine .inr ⟨fun reply ⟨r, _, _, hr, _⟩ => ?_, _, rfl⟩
    cases c.reply?_self.symm.trans hr.reply
  · dsimp only
    generalize Draft.post _ _ _ = d
    rw [fetch_bind]
    rcases (c.fetch_decoded .upload d UploadReply.decodes).cases with ⟨reply, hok, hreply⟩ | ⟨⟨reason, herror⟩, hnone⟩
    · rw [hok]
      exact .inl ⟨reply, hreply, rfl⟩
    · rw [herror]
      exact .inr ⟨hnone, reason, rfl⟩

theorem receipt_ok_iff {reply : UploadReply} :
    (∃ receipt, reply.receipt = .ok receipt) ↔ reply.error = none ∧ reply.job.isSome = true := by
  unfold UploadReply.receipt
  cases reply.error <;> cases reply.job <;> simp

theorem receipt_missing_iff {reply : UploadReply} :
    reply.receipt = .error (.missing "job_id") ↔ reply.error = none ∧ reply.job = none := by
  unfold UploadReply.receipt
  cases reply.error <;> cases reply.job <;> simp

theorem receipt_error {reply : UploadReply} {e : JobError} (h : reply.receipt = .error e) :
    e = .missing "job_id" ∨ ∃ reason, e = .upload reason := by
  unfold UploadReply.receipt at h
  split at h <;> cases h
  · exact .inr ⟨_, rfl⟩
  · exact .inl rfl

/-- A length that cannot be does not come into a receipt. --/
theorem receipt_duration {reply : UploadReply} {receipt : Receipt} (h : reply.receipt = .ok receipt) {d : Seconds}
    (hd : receipt.duration = some d) : d.isFinite = true ∧ 0.0 ≤ d := by
  unfold UploadReply.receipt at h
  split at h <;> cases h
  have hkept := (Option.filter_eq_some_iff.mp hd).2
  rw [Bool.and_eq_true, decide_eq_true_iff] at hkept
  exact hkept

theorem upload_classifies (c : Client) (file : UploadFile) :
    ((∃ receipt, (c.upload file).1 = .ok receipt) ↔ ∃ reply,
      c.Reads (c.upload file).2 UploadReply.IsIn reply ∧ reply.error = none ∧ reply.job.isSome = true) ∧
    (∀ receipt d, (c.upload file).1 = .ok receipt → receipt.duration = some d → d.isFinite = true ∧ 0.0 ≤ d) ∧
    ((c.upload file).1 = .error (.missing "job_id") ↔ ∃ reply,
      c.Reads (c.upload file).2 UploadReply.IsIn reply ∧ reply.error = none ∧ reply.job = none) ∧
    ∀ e, (c.upload file).1 = .error e → e = .missing "job_id" ∨ ∃ reason, e = .upload reason := by
  rcases c.upload_cases file with ⟨reply, hreply, hcall⟩ | ⟨hnone, reason, hcall⟩
  · rw [hcall, hreply.exists_iff UploadReply.decodes, hreply.exists_iff UploadReply.decodes]
    exact ⟨receipt_ok_iff, fun _ _ h => receipt_duration h, receipt_missing_iff, fun _ => receipt_error⟩
  · rw [hcall]
    refine ⟨⟨nofun, fun ⟨reply, hreply, _⟩ => absurd hreply (hnone reply)⟩, nofun,
      ⟨nofun, fun ⟨reply, hreply, _⟩ => absurd hreply (hnone reply)⟩, fun e he => .inr ⟨reason, ?_⟩⟩
    exact (Except.error.inj he).symm

/-! ### Logins -/

/-- A login keeps the token that it reads, and the one that the client has where it reads none. --/
theorem login_cases (c : Client) (credentials : Credentials) :
    (∃ token, c.Reads (c.login credentials).2 TokenIsIn (some token) ∧ (c.login credentials).1 = .ok token ∧
        (c.login credentials).2.token = some token) ∨
      c.Reads (c.login credentials).2 TokenIsIn none ∧ (c.login credentials).1 = .error (.missing "access_token") ∧
        (c.login credentials).2.token = c.token ∨
      (∀ token, ¬ c.Reads (c.login credentials).2 TokenIsIn token) ∧
        (∃ reason, (c.login credentials).1 = .error (.auth reason)) ∧ (c.login credentials).2.token = c.token := by
  unfold login
  generalize unsigned (.postJson "/auth/login" credentials.toJson) = d
  obtain ⟨trip, hsend, -⟩ := c.send_spec d
  rw [← c.fetch_client .auth d (decoded .auth tokenOf?)] at hsend
  have hread := c.fetch_decoded .auth d token_decodes
  generalize c.fetch .auth d (decoded .auth tokenOf?) = read at hread hsend ⊢
  obtain ⟨outcome, behind⟩ := read
  have hkept : behind.token = c.token := by
    have hbehind : behind = { c with network := c.network.behind trip } := hsend
    rw [hbehind]
  rcases hread.cases with ⟨token, hok, htoken⟩ | ⟨⟨reason, herror⟩, hnone⟩
  · obtain rfl : outcome = .ok token := hok
    cases token with
    | some token => exact .inl ⟨token, htoken.with_token (some token), rfl, rfl⟩
    | none => exact .inr (.inl ⟨htoken, rfl, hkept⟩)
  · obtain rfl : outcome = .error (.auth reason) := herror
    exact .inr (.inr ⟨hnone, ⟨reason, rfl⟩, hkept⟩)

theorem login_classifies (c : Client) (credentials : Credentials) :
    (∀ token, (c.login credentials).1 = .ok token ↔ c.Reads (c.login credentials).2 TokenIsIn (some token)) ∧
    (∀ token, (c.login credentials).1 = .ok token → (c.login credentials).2.token = some token) ∧
    ((c.login credentials).1 = .error (.missing "access_token") ↔ c.Reads (c.login credentials).2 TokenIsIn none) ∧
    ∀ e, (c.login credentials).1 = .error e →
      (c.login credentials).2.token = c.token ∧ (e = .missing "access_token" ∨ ∃ reason, e = .auth reason) := by
  rcases c.login_cases credentials with ⟨token, htoken, hok, hkept⟩ | ⟨htoken, herror, hkept⟩ |
    ⟨hnone, ⟨reason, herror⟩, hkept⟩
  · rw [hok]
    refine ⟨fun other => ⟨fun h => ?_, fun h => ?_⟩, fun other h => ?_, ⟨nofun, fun h => ?_⟩, nofun⟩
    · cases h
      exact htoken
    · cases htoken.unique token_decodes h
      rfl
    · cases h
      exact hkept
    · cases htoken.unique token_decodes h
  · rw [herror]
    refine ⟨fun other => ⟨nofun, fun h => ?_⟩, nofun, ⟨fun _ => htoken, fun _ => rfl⟩, fun e he => ⟨hkept, .inl ?_⟩⟩
    · cases htoken.unique token_decodes h
    · exact (Except.error.inj he).symm
  · rw [herror]
    refine ⟨fun other => ⟨nofun, fun h => absurd h (hnone _)⟩, nofun, ⟨nofun, fun h => absurd h (hnone _)⟩,
      fun e he => ⟨hkept, .inr ⟨reason, ?_⟩⟩⟩
    exact (Except.error.inj he).symm

/-! ### All calls -/

theorem upload_hears (c : Client) {file : UploadFile} {type : String} (htype : MediaType.normal? file.type = some type) :
    c.Hears (c.upload file).2 true "/jobs/upload" [] := by
  unfold upload
  rw [htype]
  exact c.fetch_hears .upload _ _

theorem history_hears (c : Client) : c.Hears c.history.2 true "/jobs/history" [] := by
  rw [c.history_client]
  exact c.send_hears _

theorem download_classifies (c : Client) (job : JobId) (options : Option ExportOptions) :
    Classifies (c.download job options).1 .export
      fun bytes => ∃ r, c.Accepts (c.download job options).2 r ∧ r.body = some bytes := by
  have htaken := c.fetch_taken .export
    { Draft.get (jobPath job "/download") with parameters := (options.map ExportOptions.query).getD [] } some
  refine ⟨fun bytes => (htaken.ok bytes).trans ⟨?_, ?_⟩, htaken.error⟩
  · rintro ⟨r, _, hr, hbody, ⟨⟩⟩
    exact ⟨r, hr, hbody⟩
  · rintro ⟨r, hr, hbody⟩
    exact ⟨r, bytes, hr, hbody, rfl⟩

theorem login_hears (c : Client) (credentials : Credentials) :
    c.Hears (c.login credentials).2 false "/auth/login" [] := by
  have hfetch := c.fetch_hears .auth (unsigned (.postJson "/auth/login" credentials.toJson)) (decoded .auth tokenOf?)
  unfold login
  generalize c.fetch .auth (unsigned (.postJson "/auth/login" credentials.toJson)) (decoded .auth tokenOf?) = read
    at hfetch ⊢
  obtain ⟨e | _ | token, behind⟩ := read <;> exact hfetch

/-- Every outcome is classified by the call that made it, whatever the service responds and whatever token the client
    has. An upload succeeds if and only if its request does and the reply has no error and names a job, and then no
    length comes with it that cannot be; a reply with an error is a failed upload, whether or not it names a job. A
    prompt, a report, a video and an account are had if and only if the request succeeds, and the report can be read.
    A service that does not know the request for all jobs has none. A login keeps the token that it is given, and
    leaves the one that the client has where it fails. --/
theorem calls_classified (c : Client) :
    (∀ file : UploadFile,
      (∀ type, MediaType.normal? file.type = some type → c.Hears (c.upload file).2 true "/jobs/upload" []) ∧
      ((∃ receipt, (c.upload file).1 = .ok receipt) ↔ ∃ reply,
        c.Reads (c.upload file).2 UploadReply.IsIn reply ∧ reply.error = none ∧ reply.job.isSome = true) ∧
      (∀ receipt d, (c.upload file).1 = .ok receipt → receipt.duration = some d → d.isFinite = true ∧ 0.0 ≤ d) ∧
      ((c.upload file).1 = .error (.missing "job_id") ↔ ∃ reply,
        c.Reads (c.upload file).2 UploadReply.IsIn reply ∧ reply.error = none ∧ reply.job = none) ∧
      ∀ e, (c.upload file).1 = .error e → e = .missing "job_id" ∨ ∃ reason, e = .upload reason) ∧
    (∀ job text, c.Hears (c.submitPrompt job text).2 true (jobPath job "/prompt") [] ∧
      Classifies (c.submitPrompt job text).1 .prompt fun _ => ∃ r, c.Accepts (c.submitPrompt job text).2 r) ∧
    (∀ job, c.Hears (c.status job).2 true (jobPath job "") [] ∧
      Classifies (c.status job).1 .poll (c.Reads (c.status job).2 StatusReport.IsIn)) ∧
    (∀ job options,
      c.Hears (c.download job options).2 true (jobPath job "/download") ((options.map ExportOptions.query).getD []) ∧
      Classifies (c.download job options).1 .export
        fun bytes => ∃ r, c.Accepts (c.download job options).2 r ∧ r.body = some bytes) ∧
    (∀ credentials, c.Hears (c.register credentials).2 false "/auth/register" [] ∧
      Classifies (c.register credentials).1 .auth fun _ => ∃ r, c.Accepts (c.register credentials).2 r) ∧
    (c.Hears c.history.2 true "/jobs/history" [] ∧
      Classifies c.history.1 .history fun jobs =>
        (∃ r, c.reply? c.history.2 = some r ∧ (r.status = 404 ∨ r.status = 405) ∧ jobs = []) ∨
          c.Reads c.history.2 (IsList JobSummary.IsIn) jobs) ∧
    ∀ credentials,
      c.Hears (c.login credentials).2 false "/auth/login" [] ∧
      (∀ token, (c.login credentials).1 = .ok token ↔ c.Reads (c.login credentials).2 TokenIsIn (some token)) ∧
      (∀ token, (c.login credentials).1 = .ok token → (c.login credentials).2.token = some token) ∧
      ((c.login credentials).1 = .error (.missing "access_token") ↔ c.Reads (c.login credentials).2 TokenIsIn none) ∧
      ∀ e, (c.login credentials).1 = .error e →
        (c.login credentials).2.token = c.token ∧ (e = .missing "access_token" ∨ ∃ reason, e = .auth reason) := by
  refine ⟨fun file => ⟨fun type htype => c.upload_hears htype, c.upload_classifies file⟩, fun job text => ?prompt,
    fun job => ?status, fun job options => ?download, fun credentials => ?register,
    ⟨c.history_hears, c.history_classifies⟩,
    fun credentials => ⟨c.login_hears credentials, c.login_classifies credentials⟩⟩
  case prompt => exact ⟨c.fetch_hears .prompt _ _, c.fetch_done .prompt _⟩
  case status => exact ⟨c.fetch_hears .poll _ _, c.fetch_decoded .poll _ StatusReport.decodes⟩
  case download => exact ⟨c.fetch_hears .export _ _, c.download_classifies job options⟩
  case register => exact ⟨c.fetch_hears .auth _ _, c.fetch_done .auth _⟩

/-- A login that is answered, by a service that names the token among other things. --/
theorem calls_classified_of_login :
    let answer : Response := .whole 200 "\x7b\"user\":7,\"access_token\":\"tok\"\x7d".toUTF8
    let c : Client := ⟨"http://h", some "old", "b", .ofServer "h" [some answer]⟩
    (c.login ⟨"a", "b"⟩).1 = .ok "tok" ∧ (c.login ⟨"a", "b"⟩).2.token = some "tok" := by
  intro answer c
  obtain ⟨-, -, -, -, -, -, hlogin⟩ := c.calls_classified
  obtain ⟨hhears, hok, hkept, -⟩ := hlogin ⟨"a", "b"⟩
  let u : Url := ⟨"http", "", none, some (.named "h"), none, "/auth/login", none, none⟩
  have hreaches : c.Reaches false "/auth/login" [] u := by
    constructor <;> decide +kernel
  have hreply := hhears u hreaches fun r hr => by cases hr; rfl
  have hread : Json.readBytes? "\x7b\"user\":7,\"access_token\":\"tok\"\x7d".toUTF8 =
      some (.object [("user", .integer 7), ("access_token", .string "tok")]) :=
    (Json.readBytes?_toUTF8 _).trans (by rfl)
  have htoken : TokenIsIn (.object [("user", .integer 7), ("access_token", .string "tok")]) (some "tok") :=
    ⟨.given (.string "tok"), .object (.cons (.given rfl) .nil), .given nofun rfl⟩
  have hreads : c.Reads (c.login ⟨"a", "b"⟩).2 TokenIsIn (some "tok") :=
    ⟨answer, _, _, ⟨hreply, by decide, by decide⟩, rfl, hread, htoken⟩
  have hlogged := (hok "tok").mpr hreads
  exact ⟨hlogged, hkept "tok" hlogged⟩

/-- A reply with an error is a failed upload, even where it names no job. --/
example :
    let reply : Response := .whole 200 "\x7b\"error\":\"disk full\"\x7d".toUTF8
    let c : Client := ⟨"http://h", none, "b", .ofServer "h" [some reply]⟩
    (match (c.upload ⟨"a.mp4", ByteArray.empty, "video/mp4"⟩).1 with
      | .error e => e.message
      | .ok _ => "") = "upload failed: disk full" := by
  decide +kernel

end Client
end Cutroom
