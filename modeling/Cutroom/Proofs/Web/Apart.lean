import Cutroom.Proofs.Web.Addressed
import Cutroom.Proofs.Web.Sent

/-! Requests about different jobs (`requests_apart_iff`). The identifier of a job is one part of the path of its requests
    where nothing in it ends a part. Two such parts are told apart by their percent-encoded forms; the part `history` is
    taken by the request for all jobs. -/

namespace Cutroom

/-! ### Requests about a job -/

/-- What is asked about a job. --/
inductive Errand where
  | status
  | prompt (text : String)
  | download (options : Option ExportOptions)

namespace Errand

def draft (job : JobId) : Errand → Draft
  | status => .get (Client.jobPath job "")
  | prompt text => .postJson (Client.jobPath job "/prompt") (.object [("prompt", .string text)])
  | download options =>
    { Draft.get (Client.jobPath job "/download") with parameters := (options.map ExportOptions.query).getD [] }

/-- The client behind the errand. --/
def run (c : Client) (job : JobId) : Errand → Client
  | status => (c.status job).2
  | prompt text => (c.submitPrompt job text).2
  | download options => (c.download job options).2

/-- Each errand sends the one request that it is drafted as. --/
theorem run_eq (c : Client) (job : JobId) (e : Errand) : e.run c job = (c.send (e.draft job)).2 := by
  cases e <;> exact Client.fetch_client ..

end Errand

/-- The request for all jobs. --/
def historyDraft : Draft := .get "/jobs/history"

theorem Client.history_eq (c : Client) : c.history.2 = (c.send historyDraft).2 := c.history_client

/-- What a request asks the server at a base address for: its method and its target. There is none where no request can
    be sent. --/
def Draft.goal? (base : String) (d : Draft) : Option (String × String) :=
  (Url.page? (base ++ d.path)).map fun u => (d.method, (u.withParameters d.parameters).target)

namespace Url

theorem withParameters_path (u : Url) (parameters : List (String × String)) :
    (u.withParameters parameters).path = u.path := by
  obtain ⟨query, hquery⟩ := withParameters_eq u.query parameters
  rw [hquery u rfl]

end Url

theorem Client.request_goal? {c : Client} {d : Draft} {r : Request} (h : c.request d = .ok r) :
    d.goal? c.base = some (r.method, r.target) := by
  obtain ⟨u, hu, rfl⟩ := Client.request_eq_ok_iff.mp h
  have hpage : Url.page? (c.base ++ d.path) = some u := Url.page?_of_takesRequests hu.read hu.takes
  have htarget : (c.asked d u).target = (u.withParameters d.parameters).target := (u.withoutAccount_same _).2
  rw [Draft.goal?, hpage, htarget]
  rfl

/-- What arrives first at the server is what its draft asks for, and it leads to all that arrives behind. --/
theorem Client.send_goal? (c : Client) (d : Draft) :
    (c.send d).2.network.requests = c.network.requests ∨
      ∃ r more, d.goal? c.base = some (r.method, r.target) ∧ r.Trip (r :: more) ∧
        (c.send d).2.network.requests = c.network.requests ++ r :: more := by
  obtain ⟨trip, hsend, htrip⟩ := c.send_spec d
  rw [hsend]
  rcases htrip with rfl | ⟨r, hr, htrip⟩
  · exact .inl (List.append_nil _)
  · cases htrip with
    | lost => exact .inl (List.append_nil _)
    | arrived => exact .inr ⟨r, [], Client.request_goal? hr, .arrived r, rfl⟩
    | led honward hrest => exact .inr ⟨r, _, Client.request_goal? hr, .led honward hrest, rfl⟩

/-! ### Identifiers that are one part of a path -/

namespace JobId

/-- The part of a path that an identifier is sent as. --/
def part (id : JobId) : List Char := Percent.encode Url.notInPath id.text.toList

/-- Characters that end a part of a path, or are dropped from it. --/
def cutsPart (c : Char) : Bool := Url.isSlash .web c || Url.cutsPath c

/-- The identifier is one part of a path: nothing in it ends a part or is dropped, and it does not name a place
    relative to others. --/
structure IsPart (id : JobId) : Prop where
  plain : ∀ c ∈ id.text.toList, cutsPart c = false
  last : ∃ c ∈ id.text.toList.getLast?, 0x20 < c.toNat
  stays : Url.isDot id.part = false ∧ Url.isDotDot id.part = false

end JobId

/-- The parts of the path behind the identifier. --/
def Errand.behind : Errand → List (List Char)
  | status => []
  | prompt _ => ["prompt".toList]
  | download _ => ["download".toList]

theorem Errand.path_draft (base : String) (job : JobId) (e : Errand) :
    base ++ (e.draft job).path =
      String.ofList (base.toList ++ "/jobs/".toList ++ (job.text.toList ++ Url.pathChars e.behind)) := by
  refine String.toList_inj.mp ?_
  cases e <;> simp [draft, behind, Draft.get, Draft.postJson, Draft.post, Client.jobPath, Url.pathChars]

theorem Errand.behind_cases (e : Errand) :
    e.behind = [] ∨ ∃ part, e.behind = [part] ∧ Url.Settled ('/' :: part) ∧ Url.parts .web part = [part] ∧
      Percent.encode Url.notInPath part = part ∧ Url.isDot part = false ∧ Url.isDotDot part = false := by
  cases e with
  | status => exact .inl rfl
  | prompt text =>
    have hsettled : Url.Settled ('/' :: "prompt".toList) := ⟨Url.plain_of_all (by decide), 't', by decide, by decide⟩
    exact .inr ⟨_, rfl, hsettled, by decide, by decide, by decide, by decide⟩
  | download options =>
    have hsettled : Url.Settled ('/' :: "download".toList) := ⟨Url.plain_of_all (by decide), 'd', by decide, by decide⟩
    exact .inr ⟨_, rfl, hsettled, by decide, by decide, by decide, by decide⟩

/-- Marks that are not written in the code of a character. --/
theorem Percent.notMem_encodedChar {mark : Char} (hpercent : mark ≠ '%') (hdigit : ∀ d, Hex.capital d ≠ mark) (c : Char) :
    mark ∉ Percent.encodedChar c := by
  intro hmem
  obtain ⟨b, -, hmem⟩ := List.mem_flatMap.mp hmem
  simp only [Hex.pair, List.mem_cons, List.not_mem_nil, or_false] at hmem
  rcases hmem with hmem | hmem | hmem
  · exact hpercent hmem
  · exact hdigit _ hmem.symm
  · exact hdigit _ hmem.symm

theorem Percent.notMem_encode {mark : Char} (hpercent : mark ≠ '%') (hdigit : ∀ d, Hex.capital d ≠ mark)
    {refused : Char → Bool} {cs : List Char} (h : mark ∉ cs) : mark ∉ Percent.encode refused cs := by
  intro hmem
  obtain ⟨c, hc, hmem⟩ := List.mem_flatMap.mp hmem
  split at hmem
  · exact Percent.notMem_encodedChar hpercent hdigit c hmem
  · exact h (List.mem_singleton.mp hmem ▸ hc)

/-- Characters that end a part of a target. --/
def endsTarget (c : Char) : Bool := c = '/' || c = '?'

namespace JobId.IsPart

variable {id : JobId}

theorem plain_part (h : id.IsPart) : ∀ c ∈ id.part, endsTarget c = false := by
  have hslash : '/' ∉ id.part :=
    Percent.notMem_encode (by decide) (by decide) fun hmem => by cases h.plain _ hmem
  have hquery : '?' ∉ id.part :=
    Percent.notMem_encode (by decide) (by decide) fun hmem => by cases h.plain _ hmem
  intro c hc
  have hne {mark : Char} (hmark : mark ∉ id.part) : c ≠ mark := fun h => hmark (h ▸ hc)
  simp [endsTarget, hne hslash, hne hquery]

theorem parts_eq (h : id.IsPart) : Url.parts .web id.text.toList = [id.text.toList] := by
  have hplain : ∀ c ∈ id.text.toList, Url.isSlash .web c = false :=
    fun c hc => (Bool.or_eq_false_iff.mp (h.plain c hc)).1
  clear h
  generalize id.text.toList = cs at hplain
  induction cs with
  | nil => rfl
  | cons c cs ih =>
    rw [Url.parts, hplain c List.mem_cons_self, ih fun d hd => hplain d (List.mem_cons_of_mem c hd)]
    rfl

theorem settled (h : id.IsPart) (e : Errand) : Url.Settled (id.text.toList ++ Url.pathChars e.behind) := by
  have hpart : ∀ c ∈ id.text.toList, Url.cutsPath c = false :=
    fun c hc => (Bool.or_eq_false_iff.mp (h.plain c hc)).2
  rcases e.behind_cases with he | ⟨part, he, hsettled, -⟩
  · rw [he]
    exact ⟨by simpa [Url.pathChars] using hpart, by simpa [Url.pathChars] using h.last⟩
  · rw [he]
    exact Url.Settled.behind (by simpa [Url.pathChars] using hsettled) hpart

/-- The path of a request about a job. --/
theorem pathBehind_eq (h : id.IsPart) (done : List (List Char)) (e : Errand) :
    Url.pathBehind done (id.text.toList ++ Url.pathChars e.behind) =
      Url.pathChars done.reverse ++ '/' :: (id.part ++ Url.pathChars e.behind) := by
  obtain ⟨hdot, hdotdot⟩ := h.stays
  have hencode : Percent.encode Url.notInPath id.text.toList = id.part := rfl
  rcases e.behind_cases with he | ⟨part, he, -, hparts, hpart, hpartdot, hpartdotdot⟩
  · rw [he]
    simp [Url.pathBehind, Url.pathChars, h.parts_eq, hencode, Url.resolve, hdot, hdotdot, Url.forth]
  · rw [he]
    simp [Url.pathBehind, Url.pathChars, Url.parts_slash, h.parts_eq, hparts, hencode, hpart, Url.resolve, hdot,
      hdotdot, hpartdot, hpartdotdot, Url.forth]

end JobId.IsPart

/-- The part that a target starts with is told by the target. --/
theorem eq_of_append_eq {x y : List Char} (hx : ∀ c ∈ x, endsTarget c = false) (hy : ∀ c ∈ y, endsTarget c = false)
    {s t : List Char} (hs : ∀ c ∈ s.head?, endsTarget c = true) (ht : ∀ c ∈ t.head?, endsTarget c = true)
    (h : x ++ s = y ++ t) : x = y := by
  have htake {x s : List Char} (hx : ∀ c ∈ x, endsTarget c = false) (hs : ∀ c ∈ s.head?, endsTarget c = true) :
      (x ++ s).takeWhile (fun c => !endsTarget c) = x := by
    rw [List.takeWhile_append_of_pos fun c hc => by rw [hx c hc]; rfl]
    cases s with
    | nil => simp
    | cons c s => simp [hs c rfl]
  rw [← htake hx hs, h, htake hy ht]

theorem target_of_path {u : Url} {front part behind : List Char}
    (hpath : u.path = String.ofList (front ++ '/' :: (part ++ behind)))
    (hbehind : ∀ c ∈ behind.head?, endsTarget c = true) :
    ∃ rest, u.targetChars = front ++ '/' :: (part ++ rest) ∧ ∀ c ∈ rest.head?, endsTarget c = true := by
  unfold Url.targetChars
  rw [hpath, String.toList_ofList]
  refine ⟨behind ++ (u.query.map fun q => '?' :: q.toList).getD [], by simp, ?_⟩
  cases behind with
  | cons c behind => exact hbehind
  | nil =>
    cases u.query with
    | none => simp
    | some q => simp [endsTarget]

theorem Errand.head_behind (e : Errand) : ∀ c ∈ (Url.pathChars e.behind).head?, endsTarget c = true := by
  rcases e.behind_cases with he | ⟨part, he, -⟩
  · simp [he, Url.pathChars]
  · simp [he, Url.pathChars, endsTarget]

/-- Requests that go to the same place are about jobs that are sent as the same part. --/
theorem part_eq_of_goal? {base : String} (hquery : '?' ∉ base.toList) (hfragment : '#' ∉ base.toList) {a b : JobId}
    (ha : a.IsPart) (hb : b.IsPart) {e f : Errand} {g : String × String} (hae : (e.draft a).goal? base = some g)
    (hbf : (f.draft b).goal? base = some g) : a.part = b.part := by
  unfold Draft.goal? at hae hbf
  rw [Errand.path_draft] at hae hbf
  rcases Url.page?_behind hquery hfragment with hnone | ⟨frame, done, hsome⟩
  · rw [hnone _ (ha.settled e)] at hae
    cases hae
  · rw [hsome _ (ha.settled e), ha.pathBehind_eq, Option.map_some, Option.some.injEq] at hae
    rw [hsome _ (hb.settled f), hb.pathBehind_eq, Option.map_some, Option.some.injEq] at hbf
    have htarget := congrArg (fun g => g.2.toList) (hae.trans hbf.symm)
    simp only [Url.target, String.toList_ofList] at htarget
    have hpath (id : JobId) (e : Errand) := Url.withParameters_path
      { frame with path := String.ofList (Url.pathChars done.reverse ++ '/' :: (id.part ++ Url.pathChars e.behind)) }
    obtain ⟨s, hs, hsends⟩ := target_of_path (hpath a e _) e.head_behind
    obtain ⟨t, ht, htends⟩ := target_of_path (hpath b f _) f.head_behind
    rw [hs, ht] at htarget
    exact eq_of_append_eq ha.plain_part hb.plain_part hsends htends
      (List.cons_inj_right _ |>.mp (List.append_cancel_left htarget))

/-! ### Requests about different jobs -/

/-- From a base address, no request about one of two jobs goes where one about the other goes, or where the request for
    all jobs goes. --/
structure SetsApart (base : String) (a b : JobId) : Prop where
  jobs : ∀ {e f : Errand} {g}, (e.draft a).goal? base = some g → (f.draft b).goal? base ≠ some g
  history : ∀ {e : Errand} {g}, historyDraft.goal? base = some g →
    (e.draft a).goal? base ≠ some g ∧ (e.draft b).goal? base ≠ some g

theorem isPart_history : JobId.IsPart ⟨"history"⟩ := ⟨Url.plain_of_all (by decide), ⟨'y', by decide, by decide⟩, by decide⟩

theorem goal?_standard : ∃ g, historyDraft.goal? "http://localhost:8000" = some g := by
  have h : (historyDraft.goal? "http://localhost:8000").isSome = true := by decide +kernel
  exact Option.isSome_iff_exists.mp h

/-- The status requests of jobs that are sent as the same part go to the same place. --/
theorem goal?_of_part_eq {a b : JobId} (ha : a.IsPart) (hb : b.IsPart) (h : a.part = b.part) :
    ∃ g, (Errand.status.draft a).goal? "http://localhost:8000" = some g ∧
      (Errand.status.draft b).goal? "http://localhost:8000" = some g := by
  have hread := Url.page?_behind (b := "http://localhost:8000".toList) (by decide) (by decide)
  rcases hread with hnone | ⟨frame, done, hsome⟩
  · obtain ⟨g, hg⟩ := goal?_standard
    have hhistory : historyDraft = Errand.status.draft ⟨"history"⟩ := rfl
    rw [hhistory, Draft.goal?, Errand.path_draft, hnone _ (isPart_history.settled .status)] at hg
    cases hg
  · have hgoal {id : JobId} (hid : id.IsPart) : (Errand.status.draft id).goal? "http://localhost:8000" =
        some ("GET", ({ frame with path := String.ofList (Url.pathChars done.reverse ++ '/' :: (id.part ++
          Url.pathChars Errand.status.behind)) } : Url).target) := by
      rw [Draft.goal?, Errand.path_draft, hsome _ (hid.settled .status), hid.pathBehind_eq]
      rfl
    refine ⟨_, hgoal ha, ?_⟩
    rw [h]
    exact hgoal hb

/-- For two jobs of which the identifiers are parts of a path, the requests about them are told apart from each other and
    from the request for all jobs, whatever the base address, if and only if the parts are different, and neither is
    `history`. --/
theorem requests_apart_iff {a b : JobId} (ha : a.IsPart) (hb : b.IsPart) :
    (∀ base : String, '?' ∉ base.toList → '#' ∉ base.toList → SetsApart base a b) ↔
      a.part ≠ b.part ∧ a.part ≠ "history".toList ∧ b.part ≠ "history".toList := by
  have hpart : JobId.part ⟨"history"⟩ = "history".toList := by decide
  have hhistory : historyDraft = Errand.status.draft ⟨"history"⟩ := rfl
  constructor
  · intro h
    have hstandard := h "http://localhost:8000" (by decide) (by decide)
    refine ⟨fun hab => ?_, fun hah => ?_, fun hbh => ?_⟩
    · obtain ⟨g, hag, hbg⟩ := goal?_of_part_eq ha hb hab
      exact hstandard.jobs hag hbg
    · obtain ⟨g, hag, hg⟩ := goal?_of_part_eq ha isPart_history (hah.trans hpart.symm)
      exact (hstandard.history (e := .status) (hhistory ▸ hg)).1 hag
    · obtain ⟨g, hbg, hg⟩ := goal?_of_part_eq hb isPart_history (hbh.trans hpart.symm)
      exact (hstandard.history (e := .status) (hhistory ▸ hg)).2 hbg
  · rintro ⟨hab, hah, hbh⟩ base hquery hfragment
    refine ⟨fun hag hbg => hab (part_eq_of_goal? hquery hfragment ha hb hag hbg), fun hg => ⟨fun hag => ?_, fun hbg => ?_⟩⟩
    · exact hah ((part_eq_of_goal? hquery hfragment ha isPart_history hag (hhistory ▸ hg)).trans hpart)
    · exact hbh ((part_eq_of_goal? hquery hfragment hb isPart_history hbg (hhistory ▸ hg)).trans hpart)

/-- Two identifiers with characters that are encoded. --/
theorem requests_apart_iff_of_spaces :
    JobId.IsPart ⟨"job 1"⟩ ∧ JobId.IsPart ⟨"job-1"⟩ ∧
      ∀ base : String, '?' ∉ base.toList → '#' ∉ base.toList → SetsApart base ⟨"job 1"⟩ ⟨"job-1"⟩ := by
  have ha : JobId.IsPart ⟨"job 1"⟩ := ⟨Url.plain_of_all (by decide), ⟨'1', by decide, by decide⟩, by decide +kernel⟩
  have hb : JobId.IsPart ⟨"job-1"⟩ := ⟨Url.plain_of_all (by decide), ⟨'1', by decide, by decide⟩, by decide⟩
  exact ⟨ha, hb, (requests_apart_iff ha hb).mpr (by decide +kernel)⟩

/-- An identifier with a slash in it: its status is asked for as the video of another job is. --/
theorem status_taken_for_download : ¬SetsApart "http://localhost:8000" ⟨"job-1/download"⟩ ⟨"job-1"⟩ := by
  intro h
  have hstatus : (Errand.status.draft ⟨"job-1/download"⟩).goal? "http://localhost:8000" =
      some ("GET", "/jobs/job-1/download") := by decide +kernel
  have hdownload : ((Errand.download none).draft ⟨"job-1"⟩).goal? "http://localhost:8000" =
      some ("GET", "/jobs/job-1/download") := by decide +kernel
  exact h.jobs hstatus hdownload

end Cutroom
