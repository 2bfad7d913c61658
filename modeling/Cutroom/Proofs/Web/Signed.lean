import Cutroom.Proofs.Text.Normal
import Cutroom.Proofs.Web.Addressed
import Cutroom.Proofs.Web.Sent
import Mathlib.Data.List.Chain

/-! How requests are signed (`Client.send_signing`). A request carries what the address of the service gives away, which does
    not depend on where the request goes, and behind it the token of the client, if requests of its kind are signed. What
    a response leads to is signed like the request that it answers, unless it goes to another endpoint. -/

namespace Cutroom
namespace Url

/-! ### The user that an address names -/

/-- What is left of a text in front of a slash. --/
def tidied (b : List Char) : List Char :=
  (b.dropWhile fun c => c.toNat ≤ 0x20).filter fun c => c != '\t' && c != '\n' && c != '\r'

theorem tidied_subset (b : List Char) : tidied b ⊆ b :=
  fun _ hc => (List.dropWhile_sublist _).subset (List.mem_filter.mp hc).1

theorem tidied_slash (b word : List Char)
    (hword : (word.all fun c => c != '\t' && c != '\n' && c != '\r') = true) :
    tidied (b ++ '/' :: word) = tidied b ++ '/' :: word := by
  have hkept : ('/' :: word).filter (fun c => c != '\t' && c != '\n' && c != '\r') = '/' :: word :=
    List.filter_eq_self.mpr (List.forall_mem_cons.mpr ⟨rfl, List.all_eq_true.mp hword⟩)
  rw [tidied, dropWhile_append_cons (by decide), List.filter_append, hkept]
  rfl

theorem cleaned_behind (b r : List Char) : ∃ r', r' ⊆ r ∧ cleaned (b ++ '/' :: r) = tidied b ++ '/' :: r' := by
  let blank (c : Char) : Bool := c.toNat ≤ 0x20
  let keeps (c : Char) : Bool := c != '\t' && c != '\n' && c != '\r'
  refine ⟨((r.reverse.dropWhile blank).reverse).filter keeps, fun c hc => ?_, ?_⟩
  · exact List.mem_reverse.mp
      ((List.dropWhile_sublist _).subset (List.mem_reverse.mp (List.mem_filter.mp hc).1))
  · have hreverse : ((b.dropWhile blank) ++ '/' :: r).reverse = r.reverse ++ '/' :: (b.dropWhile blank).reverse := by
      simp
    show ((((b ++ '/' :: r).dropWhile blank).reverse.dropWhile blank).reverse).filter keeps = _
    rw [dropWhile_append_cons (by decide), hreverse, dropWhile_append_cons (by decide)]
    simp [tidied, blank, keeps]

theorem userOf?_of_notMem {k : Kind} {cs : List Char} (h : '@' ∉ (cs.span fun c => !endsAuthority k c).1) :
    userOf? k cs = some ([], none, cs) := by
  unfold userOf?
  generalize cs.span (fun c => !endsAuthority k c) = cut at h ⊢
  obtain ⟨authority, path⟩ := cut
  have hkeeps : ∀ c ∈ authority.reverse, (c != '@') = true :=
    fun c hc => bne_iff_ne.mpr fun hat => h (hat ▸ List.mem_reverse.mp hc)
  simp only [List.span_eq_takeWhile_dropWhile, List.dropWhile_eq_nil_iff.mpr hkeeps]

theorem account?_of_notMem {k : Kind} {scheme : String} {cs : List Char} {u : Url}
    (hat : '@' ∉ (cs.span fun c => !endsAuthority k c).1) (h : ofAuthority? k scheme cs = some u) :
    u.account? = none := by
  rw [ofAuthority?_eq, userOf?_of_notMem hat, Option.bind_some] at h
  obtain ⟨host, -, h⟩ := Option.bind_eq_some_iff.mp h
  split at h
  · cases h
  · obtain ⟨s, -, rfl⟩ := Option.map_eq_some_iff.mp h
    rfl

/-- The user and the password that a page names, if there is a page. --/
def pageAccount? (s : String) : Option (String × Option String) := (page? s).bind account?

/-- A word of letters, such as the paths of requests start with. --/
structure IsWord (word : List Char) : Prop where
  letters : ∀ c ∈ word, c.isAlpha = true
  ne_nil : word ≠ []

theorem IsWord.ne {word : List Char} (h : IsWord word) (mark : Char) (hmark : mark.isAlpha = false) :
    ∀ c ∈ word, c ≠ mark := by
  rintro c hc rfl
  rw [h.letters c hc] at hmark
  cases hmark

theorem IsWord.tidied {word : List Char} (h : IsWord word) (b : List Char) :
    tidied (b ++ '/' :: word) = Url.tidied b ++ '/' :: word := by
  refine tidied_slash b word (List.all_eq_true.mpr fun c hc => ?_)
  simp [h.ne '\t' rfl c hc, h.ne '\n' rfl c hc, h.ne '\r' rfl c hc]

/-- Where a word stands in the place of the host, it is the host, and no user is named. --/
theorem IsWord.account? {scheme : String} {word more : List Char} {u : Url} (hword : IsWord word)
    (h : ofAuthority? .web scheme ((word ++ '/' :: more).dropWhile (isSlash .web)) = some u) : u.account? = none := by
  obtain ⟨c, word, rfl⟩ := List.exists_cons_of_ne_nil hword.ne_nil
  have hc := List.mem_cons_self (a := c) (l := word)
  have hstart : ¬isSlash .web c = true := by
    simp [isSlash, hword.ne '/' rfl c hc, hword.ne '\x5c' rfl c hc]
  rw [List.cons_append, List.dropWhile_cons_of_neg hstart, ← List.cons_append] at h
  refine account?_of_notMem (fun hmem => ?_) h
  simp only [span_append_cons (p := fun c => !endsAuthority .web c) (y := '/') rfl,
    List.span_eq_takeWhile_dropWhile] at hmem
  exact hword.ne '@' rfl _ ((List.takeWhile_sublist _).subset hmem) rfl

/-- All pages behind a base address name the same user. --/
theorem account?_behind {b word more : List Char} {u : Url} (hword : IsWord word)
    (h : page? (String.ofList (b ++ '/' :: (word ++ '/' :: more))) = some u) :
    u.account? = pageAccount? (String.ofList (b ++ ['/'])) := by
  obtain ⟨more', -, hmore⟩ := cleaned_behind (b ++ '/' :: word) more
  obtain ⟨rest, hrest, hbase⟩ := cleaned_behind b []
  obtain rfl := List.subset_nil.mp hrest
  rw [List.append_assoc, List.cons_append, hword.tidied, List.append_assoc, List.cons_append] at hmore
  rw [page?_eq, String.toList_ofList, hmore, schemeOf?_slash] at h
  rw [pageAccount?, page?_eq, String.toList_ofList, hbase, schemeOf?_slash]
  cases hscheme : schemeOf? (tidied b) with
  | none =>
    rw [hscheme] at h
    cases h
  | some cut =>
    obtain ⟨name, rest⟩ := cut
    simp only [hscheme, Option.map_some, Option.bind_some] at h ⊢
    split at h
    · rename_i hpage
      rw [if_pos hpage]
      have hdrop (x : List Char) : (rest ++ '/' :: x).dropWhile (isSlash .web) =
          if rest.dropWhile (isSlash .web) = [] then x.dropWhile (isSlash .web)
          else rest.dropWhile (isSlash .web) ++ '/' :: x := by
        have hslash : isSlash .web '/' = true := rfl
        simp only [List.dropWhile_append, List.dropWhile_cons_of_pos hslash, List.isEmpty_iff]
      simp only [hdrop] at h ⊢
      split at h
      · -- Nothing but slashes stands between the scheme and the path, which then tells the host.
        rename_i hslashes
        rw [if_pos hslashes, hword.account? h]
        rfl
      · rename_i hhost
        rw [if_neg hhost]
        rcases ofAuthority?_slash (String.ofList name) (rest.dropWhile (isSlash .web)) with
          hnone | ⟨host, user, password, endpoint, behind, -, -, hsome⟩
        · rw [hnone] at h
          cases h
        · rw [hsome] at h ⊢
          cases h
          rfl
    · cases h

/-- A page behind a base address without an at sign names no user. --/
theorem pageAccount?_of_notMem {b : List Char} (hat : '@' ∉ b) : pageAccount? (String.ofList (b ++ ['/'])) = none := by
  obtain ⟨tail, htail, hbase⟩ := cleaned_behind b []
  obtain rfl := List.subset_nil.mp htail
  cases hpage : page? (String.ofList (b ++ ['/'])) with
  | none => rw [pageAccount?, hpage, Option.bind_none]
  | some u =>
    rw [pageAccount?, hpage, Option.bind_some]
    rw [page?_eq, String.toList_ofList, hbase] at hpage
    obtain ⟨cut, hscheme, hpage⟩ := Option.bind_eq_some_iff.mp hpage
    split at hpage
    · refine account?_of_notMem (fun hmem => ?_) hpage
      rw [List.span_eq_takeWhile_dropWhile] at hmem
      have hfront : '@' ∈ tidied b ++ ['/'] :=
        (schemeOf?_suffix hscheme).subset ((List.dropWhile_sublist _).subset ((List.takeWhile_sublist _).subset hmem))
      rcases List.mem_append.mp hfront with hmem | hmem
      · exact hat (tidied_subset b hmem)
      · simp at hmem
    · cases hpage

end Url

/-! ### What a request carries -/

theorem Request.onward?_authorization {r next : Request} {response : Response} (h : r.onward? response = some next) :
    next.authorization = if next.address.sameEndpoint r.address then r.authorization else [] := by
  obtain ⟨again, hagain, h⟩ := Option.bind_eq_some_iff.mp h
  obtain ⟨place, -, h⟩ := Option.bind_eq_some_iff.mp h
  obtain ⟨u, -, h⟩ := Option.bind_eq_some_iff.mp h
  have hsame : again.authorization = r.authorization ∧ again.address = r.address := by
    unfold again? at hagain
    split at hagain
    · cases hagain
      exact ⟨rfl, rfl⟩
    · split at hagain <;> cases hagain
      exact ⟨rfl, rfl⟩
  split at h <;> cases h
  simp only [movedTo, hsame]

/-- The requests that are sent for one are signed: the first one with these headers, and each one behind it, to which a
    response has led, like the one before, if it goes to the same endpoint, and else not at all. --/
structure SignedBy (headers : List String) (trip : List Request) : Prop where
  first : ∀ r ∈ trip.head?, r.authorization = headers
  onward : trip.IsChain fun r next => (∃ response, r.onward? response = some next) ∧
    next.authorization = if next.address.sameEndpoint r.address then r.authorization else []

theorem Request.Trip.first {r : Request} {trip : List Request} (h : r.Trip trip) : ∀ x ∈ trip.head?, x = r := by
  cases h with
  | lost => exact nofun
  | arrived | led =>
    intro x hx
    cases hx
    rfl

theorem Request.Trip.signedBy {r : Request} {trip : List Request} (h : r.Trip trip) : SignedBy r.authorization trip := by
  refine ⟨fun x hx => by rw [h.first x hx], ?_⟩
  induction h with
  | lost => exact .nil
  | arrived r => exact .singleton r
  | led honward hrest ih =>
    refine ih.cons fun x hx => ?_
    rw [hrest.first x hx]
    exact ⟨⟨_, honward⟩, onward?_authorization honward⟩

/-- The path of a request starts with a word, and goes on behind it. --/
def Draft.Rooted (d : Draft) : Prop :=
  ∃ word more, Url.IsWord word ∧ d.path.toList = '/' :: (word ++ '/' :: more)

namespace Client

/-- The header by which the address of the service signs all that is sent there: it names a user. --/
def addressHeader? (c : Client) : Option String :=
  (Url.pageAccount? (c.url "/")).map fun a => accountSignature a.1 a.2

theorem addressHeader?_of_notMem {c : Client} (h : '@' ∉ c.base.toList) : c.addressHeader? = none := by
  have hurl : c.url "/" = String.ofList (c.base.toList ++ ['/']) := String.toList_inj.mp (by simp [url])
  rw [addressHeader?, hurl, Url.pageAccount?_of_notMem h, Option.map_none]

/-- The headers that sign a request of a kind. --/
def headers (c : Client) (signed : Bool) : List String :=
  c.addressHeader?.toList ++ (if signed then c.token.map signature else none).toList

/-- A client came of another one by sending requests, all of them signed with the token or none. --/
structure Signing (signed : Bool) (c c' : Client) : Prop where
  base : c'.base = c.base
  token : c'.token = c.token
  requests : ∃ trips : List (List Request), c'.network.requests = c.network.requests ++ trips.flatten ∧
    ∀ trip ∈ trips, SignedBy (c.headers signed) trip

theorem Signing.refl (signed : Bool) (c : Client) : Signing signed c c := ⟨rfl, rfl, [], by simp, by simp⟩

theorem Signing.trans {signed : Bool} {c₁ c₂ c₃ : Client} (h₁ : Signing signed c₁ c₂) (h₂ : Signing signed c₂ c₃) :
    Signing signed c₁ c₃ where
  base := h₂.base.trans h₁.base
  token := h₂.token.trans h₁.token
  requests := by
    obtain ⟨trips₁, hsent₁, hsigned₁⟩ := h₁.requests
    obtain ⟨trips₂, hsent₂, hsigned₂⟩ := h₂.requests
    have hheaders : c₂.headers signed = c₁.headers signed := by
      simp only [headers, addressHeader?, url, h₁.base, h₁.token]
    refine ⟨trips₁ ++ trips₂, by rw [hsent₂, hsent₁, List.flatten_append, List.append_assoc], fun trip htrip => ?_⟩
    rcases List.mem_append.mp htrip with htrip | htrip
    · exact hsigned₁ trip htrip
    · exact hheaders ▸ hsigned₂ trip htrip

/-- The request of a draft carries the headers of its kind. --/
theorem request_authorization {c : Client} {d : Draft} {r : Request} (hd : d.Rooted) (h : c.request d = .ok r) :
    r.authorization = c.headers d.signed := by
  obtain ⟨u, hu, rfl⟩ := request_eq_ok_iff.mp h
  obtain ⟨word, more, hword, hpath⟩ := hd
  have hurl : c.url d.path = String.ofList (c.base.toList ++ '/' :: (word ++ '/' :: more)) :=
    String.toList_inj.mp (by simp [url, hpath])
  have hbase : c.url "/" = String.ofList (c.base.toList ++ ['/']) := String.toList_inj.mp (by simp [url])
  have haccount : u.account? = Url.pageAccount? (c.url "/") := by
    have hpage := Url.page?_of_takesRequests hu.read hu.takes
    rw [hurl] at hpage
    rw [hbase]
    exact Url.account?_behind hword hpage
  rw [asked, haccount]
  rfl

theorem send_signing (c : Client) {d : Draft} (hd : d.Rooted) : Signing d.signed c (c.send d).2 := by
  obtain ⟨trip, hsend, htrip⟩ := c.send_spec d
  rw [hsend]
  refine ⟨rfl, rfl, ?_⟩
  rcases htrip with rfl | ⟨r, hr, htrip⟩
  · exact ⟨[], by simp [Network.behind_nil], by simp⟩
  · refine ⟨[trip], by simp [Network.behind], fun trip' htrip' => ?_⟩
    obtain rfl := List.mem_singleton.mp htrip'
    exact request_authorization hd hr ▸ htrip.signedBy

theorem rooted_auth {d : Draft} (rest : String) (h : d.path = "/auth/" ++ rest) : d.Rooted :=
  ⟨"auth".toList, rest.toList, ⟨by simp, by simp⟩, by simp [h]⟩

theorem rooted_jobs {d : Draft} (rest : String) (h : d.path = "/jobs/" ++ rest) : d.Rooted :=
  ⟨"jobs".toList, rest.toList, ⟨by simp, by simp⟩, by simp [h]⟩

/-! ### Each kind of request -/

theorem fetch_signing {α : Type} (c : Client) {signed : Bool} (kind : String → JobError) {d : Draft}
    (read : Response → Except JobError α) (hd : d.Rooted) (hsigned : d.signed = signed) :
    Signing signed c (c.fetch kind d read).2 := by
  rw [fetch_client, ← hsigned]
  exact c.send_signing hd

theorem rooted_jobPath {d : Draft} {job : JobId} {rest : String} (h : d.path = jobPath job rest) : d.Rooted :=
  rooted_jobs (job.text ++ rest) (by rw [h, jobPath, String.append_assoc])

theorem upload_signing (c : Client) (file : UploadFile) : Signing true c (c.upload file).2 := by
  unfold upload
  split
  · exact .refl true c
  · rename_i type _
    exact c.fetch_signing _ _ (rooted_jobs "upload" rfl) rfl

theorem submitPrompt_signing (c : Client) (job : JobId) (prompt : String) :
    Signing true c (c.submitPrompt job prompt).2 :=
  c.fetch_signing _ _ (rooted_jobPath rfl) rfl

theorem status_signing (c : Client) (job : JobId) : Signing true c (c.status job).2 :=
  c.fetch_signing _ _ (rooted_jobPath rfl) rfl

theorem download_signing (c : Client) (job : JobId) (options : Option ExportOptions) :
    Signing true c (c.download job options).2 :=
  c.fetch_signing _ _ (rooted_jobPath rfl) rfl

theorem history_signing (c : Client) : Signing true c c.history.2 := by
  rw [history_client]
  exact c.send_signing (d := .get "/jobs/history") (rooted_jobs "history" rfl)

theorem register_signing (c : Client) (credentials : Credentials) : Signing false c (c.register credentials).2 :=
  c.fetch_signing _ _ (rooted_auth "register" rfl) rfl

/-- A login sends its request unsigned; a token that it brings takes the place of the one before. --/
theorem login_signing (c : Client) (credentials : Credentials) :
    ∃ c', Signing false c c' ∧ (c.login credentials).2.network = c'.network := by
  have hsend := c.send_signing (d := unsigned (.postJson "/auth/login" credentials.toJson))
    (rooted_auth "login" rfl)
  refine ⟨_, hsend, ?_⟩
  unfold login fetch
  dsimp only
  split <;> rename_i hanswer <;> rw [(Prod.mk.inj hanswer).2]

/-- What comes back of a request that is not signed has nothing to do with the token. --/
theorem send_unsigned (c : Client) (token : Option String) {d : Draft} (hd : d.signed = false) :
    ({ c with token := token }.send d).1 = (c.send d).1 := by
  have hrequest : { c with token := token }.request d = c.request d := by
    simp only [request, url, asked, hd, Bool.false_and, Bool.false_eq_true, if_false]
  unfold send
  rw [hrequest]
  cases c.request d <;> rfl

theorem login_answer (c : Client) (token : Option String) (credentials : Credentials) :
    ({ c with token := token }.login credentials).1 = (c.login credentials).1 := by
  have hsend := c.send_unsigned token (d := unsigned (.postJson "/auth/login" credentials.toJson)) rfl
  unfold login fetch
  dsimp only
  rw [hsend]
  generalize (succeeded .auth (c.send _).1).bind (decoded .auth tokenOf?) = answer
  rcases answer with _ | _ | _ <;> rfl

end Client

/-! ### The header of a stored token -/

/-- A text without the white space at its ends does not end with any. --/
theorem Text.last_trimmed {cs : List Char} (h : trimmed cs ≠ []) :
    ∃ start c, trimmed cs = start ++ [c] ∧ isBlank c = false := by
  obtain ⟨start, c, htrim⟩ := (List.eq_nil_or_concat' (trimmed cs)).resolve_left h
  have hlast : c.toNat ∉ whiteSpace := (trimmed_trims cs).last c (by rw [htrim]; exact List.getLast?_concat)
  rw [← isBlank_iff, Bool.not_eq_true] at hlast
  exact ⟨start, c, htrim, hlast⟩

/-- The header holds the stored token as it is. --/
theorem Client.signature_trim {token : String} (h : (Text.trim token).isEmpty = false) :
    signature (Text.trim token) = "Bearer " ++ Text.trim token := by
  have hne : Text.trimmed token.toList ≠ [] := by
    intro hnil
    rw [Text.trim, hnil] at h
    cases h
  obtain ⟨start, c, htrim, hblank⟩ := Text.last_trimmed hne
  have hspace : c ≠ ' ' := by rintro rfl; cases hblank
  have htab : c ≠ '\t' := by rintro rfl; cases hblank
  have htext : ("Bearer " ++ Text.trim token).toList = 'B' :: ("earer ".toList ++ start ++ [c]) := by
    simp [Text.trim, htrim]
  have hreverse : ('B' :: ("earer ".toList ++ start ++ [c])).reverse =
      c :: ('B' :: ("earer ".toList ++ start)).reverse := by
    simp
  refine String.toList_inj.mp ?_
  rw [signature, headerValue, String.toList_ofList, htext, List.dropWhile_cons_of_neg (by decide), hreverse,
    List.dropWhile_cons_of_neg (by simp [hspace, htab]), ← hreverse, List.reverse_reverse]

end Cutroom
