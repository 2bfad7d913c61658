import Cutroom.Proofs.Command.Performed

/-! Runs of the program one after the other, which share the file of the token (`Command.Undisturbed`). What a login
    has brought signs the requests of the runs behind it until a logout (`Command.login_lasts`): each run finds the token
    in its file, sends what it sends with it, and leaves the file as the next one should find it
    (`Command.Call.step`). -/

namespace Cutroom
namespace Command

/-! ### One run of several -/

/-- The header that a token signs with. --/
def bearer? (held : Option String) : Option String := (TokenStore.loaded held).map ("Bearer " ++ ·)

/-- The header that the requests of a task carry for a token that is stored. --/
def Task.bearer? (task : Task) (held : Option String) : Option String :=
  if task.signs then Command.bearer? held else none

/-- The token that a task leaves behind if it succeeds. --/
def Task.leaves (answer? : Credentials → Option String) (held : Option String) : Task → Option String
  | .login credentials => answer? credentials
  | .logout => none
  | _ => held

theorem Task.leaves_login (answer? : Credentials → Option String) (held : Option String) (credentials : Credentials) :
    Task.leaves answer? held (.login credentials) = answer? credentials := rfl

/-- One of several runs: the world that it finds, its arguments, and the token of the login that still lasts. --/
structure Call where
  world : World
  args : List String
  held : Option String

namespace Call

def report (v : Call) : Report := run v.world v.args

/-- What the run is asked for, and the settings that it works with. --/
structure Asks (v : Call) (i : Invocation) (s : Settings) : Prop where
  read : read v.args = .ok i
  settings : settings v.world i = .ok s

/-- The client of the run before it loads a token. --/
def client (v : Call) (s : Settings) : Client := Client.opened s.apiUrl v.world.boundary v.world.network

/-- The token in the answer to a login, if the login succeeds. --/
def answer? (v : Call) (s : Settings) (credentials : Credentials) : Option String :=
  ((v.client s).login credentials).1.toOption

/-- The token of the login that lasts behind the run. --/
def heldBehind (v : Call) : Option String :=
  match Command.read v.args with
  | .error _ => v.held
  | .ok i =>
    match Command.settings v.world i with
    | .error _ => v.held
    | .ok s => if v.report.code = 0 then i.task.leaves (v.answer? s) v.held else v.held

/-- The run keeps its token in the file of a path. --/
def Shares (v : Call) (path : FilePath) : Prop := ∀ {i s}, v.Asks i s → s.tokenPath v.world.home = path

/-- The user does not have a video put in the place of the token. --/
def Spares (v : Call) (path : FilePath) : Prop :=
  ∀ {i s}, v.Asks i s → ∀ target ∈ i.task.output?,
    target.resolve v.world.disk.home ≠ path.resolve v.world.disk.home

/-- The run goes by the login that lasts. --/
structure Faithful (v : Call) : Prop where
  /-- Every request is signed by what the address of the service gives away, and, where the task signs its requests, with
  the token of the login that lasts; one that a response leads to is signed like the one before it, unless it goes to
  another endpoint. -/
  sent : ∃ trips : List (List Request), v.report.network.requests = v.world.network.requests ++ trips.flatten ∧
    ∀ trip ∈ trips, ∃ i s, v.Asks i s ∧
      SignedBy ((v.client s).addressHeader?.toList ++ (i.task.bearer? v.held).toList) trip
  /-- An address without an at sign gives nothing away. -/
  plain : ∀ {i s}, v.Asks i s → '@' ∉ s.apiUrl.toList → (v.client s).addressHeader? = none
  /-- The token of the login that lasts is the one in the file. -/
  stored : ∀ {i s}, v.Asks i s → TokenStore.Holds ⟨s.tokenPath v.world.home⟩ v.world.disk v.held
  /-- A failed login changes nothing on the disk. -/
  failed : ∀ {i s credentials}, v.Asks i s → i.task = .login credentials → v.answer? s credentials = none →
    v.report.code ≠ 0 ∧ v.report.disk = v.world.disk
  /-- A logout sends nothing, and tells whether a login lasted. -/
  logout : ∀ {i s}, v.Asks i s → i.task = .logout →
    v.report.network = v.world.network ∧ (v.report.out = "Logged out\n" ↔ v.held.isSome = true)

end Call

/-- Several runs, each in the world that it finds. --/
def calls (held : Option String) : List (World × List String) → List Call
  | [] => []
  | (w, args) :: rest =>
    let v : Call := ⟨w, args, held⟩
    v :: calls v.heldBehind rest

/-- Several runs share the file of a token, which is not there at first, and nothing else disturbs it: what a run leaves
    in it the next one finds there, whatever else has changed on the disk; no run has trouble with the disk, and none
    puts a video in the place of the token. --/
structure Undisturbed (path : FilePath) (vs : List Call) : Prop where
  shares : ∀ v ∈ vs, v.Shares path
  absent : ∀ v ∈ vs.head?, TokenStore.Holds ⟨path⟩ v.world.disk none
  between : vs.IsChain fun v next => ∀ held,
    TokenStore.Holds ⟨path⟩ v.report.disk held → TokenStore.Holds ⟨path⟩ next.world.disk held
  calm : ∀ v ∈ vs, v.world.disk.troubles = []
  spares : ∀ v ∈ vs, v.Spares path

/-- The report of a run that comes to an end. --/
def ended : Outcome → Report
  | (.ok _, p) => ⟨0, String.ofList p.out, String.ofList p.err, p.disk, p.network⟩
  | (.error c, p) => ⟨1, String.ofList p.out, String.ofList (p.err ++ c.chars), p.disk, p.network⟩

theorem ended_eq (o : Outcome) : (ended o).disk = o.2.disk ∧ (ended o).network = o.2.network ∧
    (ended o).out = String.ofList o.2.out := by
  rcases o with ⟨_ | _, p⟩ <;> exact ⟨rfl, rfl, rfl⟩

theorem code_of_ok {o : Outcome} (h : o.1 = .ok ()) : (ended o).code = 0 := by
  obtain ⟨outcome, p⟩ := o
  subst h
  rfl

namespace Call

variable {v : Call} {i : Invocation} {s : Settings}

/-- The file of the token. --/
def store (v : Call) (s : Settings) : TokenStore := ⟨s.tokenPath v.world.home⟩

theorem Asks.report_eq (h : v.Asks i s) : v.report = ended (match (v.store s).load v.world.disk with
    | .error f => (.error (.ofFailure f), Progress.start v.world)
    | .ok token => perform v.world s (v.store s) { v.client s with token := token } i.task) := by
  simp only [Call.report, run, h.read, invoke, h.settings]
  rfl

/-- A run carries out its task with the token that is stored; only a directory in the place of the file prevents it. --/
theorem Asks.report (h : v.Asks i s) (hheld : (v.store s).Holds v.world.disk v.held) :
    (v.held = none ∧ ∃ f, v.report = ended (.error (.ofFailure f), Progress.start v.world)) ∨
      v.report = ended (perform v.world s (v.store s) { v.client s with token := TokenStore.loaded v.held } i.task) := by
  rw [h.report_eq]
  cases hload : (v.store s).load v.world.disk with
  | error f =>
    cases hv : v.held with
    | none => exact .inl ⟨rfl, f, rfl⟩
    | some token =>
      rw [TokenStore.load_held (hv ▸ hheld)] at hload
      cases hload
  | ok token => exact .inr (TokenStore.load_eq hheld hload ▸ rfl)

theorem bearer?_eq (held : Option String) : (TokenStore.loaded held).map Client.signature = bearer? held := by
  unfold bearer?
  cases hloaded : TokenStore.loaded held with
  | none => rw [Option.map_none, Option.map_none]
  | some token =>
    obtain ⟨htrim, hne⟩ := Option.filter_eq_some_iff.mp hloaded
    obtain ⟨stored, -, rfl⟩ := Option.map_eq_some_iff.mp htrim
    exact congrArg some (Client.signature_trim (by simpa using hne))

theorem Asks.sent (h : v.Asks i s) (hheld : (v.store s).Holds v.world.disk v.held) :
    ∃ trips : List (List Request), v.report.network.requests = v.world.network.requests ++ trips.flatten ∧
      ∀ trip ∈ trips, SignedBy ((v.client s).addressHeader?.toList ++ (i.task.bearer? v.held).toList) trip := by
  rcases h.report hheld with ⟨-, f, hreport⟩ | hreport
  · rw [hreport]
    exact ⟨[], (List.append_nil _).symm, nofun⟩
  · obtain ⟨c', hsigning, hnetwork⟩ := perform_sent v.world s (v.store s)
      (c := { v.client s with token := TokenStore.loaded v.held }) rfl i.task
    obtain ⟨trips, hsent, hsigned⟩ := hsigning.requests
    refine ⟨trips, ?_, fun trip htrip => ?_⟩
    · rw [hreport, (ended_eq _).2.1, hnetwork, hsent]
      rfl
    · rw [Task.bearer?, ← bearer?_eq]
      exact hsigned trip htrip

theorem Asks.plain (hat : '@' ∉ s.apiUrl.toList) : (v.client s).addressHeader? = none := by
  refine Client.addressHeader?_of_notMem fun hmem => hat ?_
  have hbase : (v.client s).base.toList = Client.dropSlashes s.apiUrl.toList := String.toList_ofList
  rw [hbase, Client.dropSlashes, List.mem_reverse] at hmem
  exact List.mem_reverse.mp ((List.dropWhile_sublist _).subset hmem)

/-- A login that does not succeed. --/
theorem Asks.failed {credentials : Credentials} (h : v.Asks i s) (hheld : (v.store s).Holds v.world.disk v.held)
    (htask : i.task = .login credentials) (hanswer : v.answer? s credentials = none) :
    v.report.code ≠ 0 ∧ v.report.disk = v.world.disk := by
  rcases h.report hheld with ⟨-, f, hreport⟩ | hreport
  · rw [hreport]
    exact ⟨nofun, rfl⟩
  · have hlogin := (v.client s).login_answer (TokenStore.loaded v.held) credentials
    rw [answer?, ← hlogin] at hanswer
    have hreport : v.report = ended (login (.start v.world)
        { v.client s with token := TokenStore.loaded v.held } (v.store s) credentials) := by
      rw [hreport, htask, perform_eq]
    cases hs : ({ v.client s with token := TokenStore.loaded v.held }.login credentials).1 with
    | error e =>
      rw [hreport, login_refused hs]
      exact ⟨nofun, rfl⟩
    | ok token =>
      rw [hs] at hanswer
      cases hanswer

theorem Asks.logout (h : v.Asks i s) (hheld : (v.store s).Holds v.world.disk v.held)
    (hcalm : v.world.disk.troubles = []) (htask : i.task = .logout) :
    v.report.network = v.world.network ∧ (v.report.out = "Logged out\n" ↔ v.held.isSome = true) := by
  rcases h.report hheld with ⟨hnone, f, hreport⟩ | hreport
  · rw [hreport, hnone]
    exact ⟨rfl, iff_of_false (by decide : "" ≠ "Logged out\n") nofun⟩
  · have hreport : v.report = ended (Command.logout (.start v.world) (v.store s)) := by
      rw [hreport, htask, perform_eq]
    refine ⟨by rw [hreport, (ended_eq _).2.1, logout_network]; rfl, ?_⟩
    rw [hreport, (ended_eq _).2.2]
    cases hv : v.held with
    | some token =>
      have hstored : (v.store s).Holds v.world.disk (some token) := hv ▸ hheld
      obtain ⟨d', hclear, -⟩ := TokenStore.clear_held hstored hcalm
      rw [logout_done (.start v.world) hclear]
      simp [Progress.start]
    | none =>
      have hstored : (v.store s).Holds v.world.disk none := hv ▸ hheld
      rcases TokenStore.clear_none hstored with hclear | ⟨f, hclear⟩
      · rw [logout_idle (.start v.world) hclear]
        simp [Progress.start]
      · rw [logout_failed (.start v.world) hclear]
        simp [Progress.start]

/-- What a run does not read ends before anything is sent or written. --/
theorem report_idle (h : ∀ i s, ¬v.Asks i s) :
    v.report.disk = v.world.disk ∧ v.report.network = v.world.network ∧ v.heldBehind = v.held := by
  unfold report heldBehind run
  cases hread : Command.read v.args with
  | error stop => cases stop <;> exact ⟨rfl, rfl, rfl⟩
  | ok i =>
    cases hsettings : Command.settings v.world i with
    | error f =>
      simp only [invoke, hsettings, and_true]
      exact ⟨rfl, rfl⟩
    | ok s => exact (h i s ⟨hread, hsettings⟩).elim

theorem Asks.heldBehind (h : v.Asks i s) :
    v.heldBehind = if v.report.code = 0 then i.task.leaves (v.answer? s) v.held else v.held := by
  simp only [Call.heldBehind, h.read, h.settings]

theorem Asks.login_stored {credentials : Credentials} (h : v.Asks i s)
    (hheld : (v.store s).Holds v.world.disk v.held) (hcalm : v.world.disk.troubles = [])
    (htask : i.task = .login credentials)
    (hreport : v.report = ended (perform v.world s (v.store s)
      { v.client s with token := TokenStore.loaded v.held } i.task)) :
    (v.store s).Holds v.report.disk v.heldBehind := by
  have hlogin := (v.client s).login_answer (TokenStore.loaded v.held) credentials
  cases hs : ({ v.client s with token := TokenStore.loaded v.held }.login credentials).1 with
  | error e =>
    have hanswer : v.answer? s credentials = none := by
      rw [answer?, ← hlogin, hs]
      rfl
    obtain ⟨hcode, hdisk⟩ := h.failed hheld htask hanswer
    rwa [h.heldBehind, if_neg hcode, hdisk]
  | ok token =>
    have hanswer : v.answer? s credentials = some token := by
      rw [answer?, ← hlogin, hs]
      rfl
    have hreport : v.report = ended (login (.start v.world)
        { v.client s with token := TokenStore.loaded v.held } (v.store s) credentials) := by
      rw [hreport, htask, perform_eq]
    rw [h.heldBehind, htask, hreport]
    rcases hsave : (v.store s).save token (Progress.start v.world).disk with ⟨f | _, d⟩
    · -- The token could not be saved: at most directories were made, and the token before is still there.
      rw [login_unsaved hs hsave, if_neg nofun]
      exact hheld.spared ((TokenStore.save_failed hcalm hsave).spares _)
    · rw [login_saved hs hsave, if_pos (code_of_ok rfl)]
      rw [Task.leaves_login, hanswer]
      exact TokenStore.save_holds hsave

theorem Asks.logout_stored (h : v.Asks i s) (hheld : (v.store s).Holds v.world.disk v.held)
    (hcalm : v.world.disk.troubles = []) (htask : i.task = .logout)
    (hreport : v.report = ended (perform v.world s (v.store s)
      { v.client s with token := TokenStore.loaded v.held } i.task)) :
    (v.store s).Holds v.report.disk v.heldBehind := by
  have hreport : v.report = ended (Command.logout (.start v.world) (v.store s)) := by
    rw [hreport, htask, perform_eq]
  rw [h.heldBehind, htask, hreport]
  cases hv : v.held with
  | some token =>
    have hstored : (v.store s).Holds v.world.disk (some token) := hv ▸ hheld
    obtain ⟨d, hclear, hcleared⟩ := TokenStore.clear_held hstored hcalm
    rwa [logout_done (.start v.world) hclear, if_pos (code_of_ok rfl)]
  | none =>
    have hstored : (v.store s).Holds v.world.disk none := hv ▸ hheld
    have hnone : Task.leaves (v.answer? s) none .logout = none := rfl
    rw [hnone, ite_self]
    rcases TokenStore.clear_none hstored with hclear | ⟨f, hclear⟩
    · rwa [logout_idle (.start v.world) hclear]
    · rwa [logout_failed (.start v.world) hclear]

/-- The token that should be stored behind a run is stored. --/
theorem Asks.stored (h : v.Asks i s) (hheld : (v.store s).Holds v.world.disk v.held)
    (hcalm : v.world.disk.troubles = []) (hspares : v.Spares (v.store s).path) :
    (v.store s).Holds v.report.disk v.heldBehind := by
  rcases h.report hheld with ⟨-, f, hreport⟩ | hreport
  · rw [h.heldBehind, hreport]
    exact hheld
  · by_cases hlogin : ∃ credentials, i.task = .login credentials
    · obtain ⟨credentials, htask⟩ := hlogin
      exact h.login_stored hheld hcalm htask hreport
    · by_cases hlogout : i.task = .logout
      · exact h.logout_stored hheld hcalm hlogout hreport
      · have hleaves : i.task.leaves (v.answer? s) v.held = v.held := by
          cases htask : i.task with
          | login credentials => exact (hlogin ⟨credentials, htask⟩).elim
          | logout => exact (hlogout htask).elim
          | _ => rfl
        have hdisk := perform_spares v.world s (v.store s) { v.client s with token := TokenStore.loaded v.held }
          (videoFree_token _ _) (fun credentials htask => hlogin ⟨credentials, htask⟩) hlogout (hspares h)
        rw [h.heldBehind, hleaves, ite_self, hreport, (ended_eq _).1]
        exact hheld.spared hdisk

/-- The step: a run that finds the token of the login that lasts goes by it, and leaves the token as the next run should
    find it. --/
theorem step {path : FilePath} (hshares : v.Shares path) (hcalm : v.world.disk.troubles = []) (hspares : v.Spares path)
    (hheld : TokenStore.Holds ⟨path⟩ v.world.disk v.held) :
    v.Faithful ∧ TokenStore.Holds ⟨path⟩ v.report.disk v.heldBehind := by
  have hstore {i s} (h : v.Asks i s) : (v.store s).Holds v.world.disk v.held := by
    rw [store, hshares h]
    exact hheld
  by_cases hasks : ∃ i s, v.Asks i s
  · obtain ⟨i, s, h⟩ := hasks
    have hpath : (v.store s).path = path := hshares h
    have hstored := h.stored (hstore h) hcalm (hpath ▸ hspares)
    obtain ⟨trips, hsent, hsigned⟩ := h.sent (hstore h)
    rw [store, hshares h] at hstored
    exact ⟨{
      sent := ⟨trips, hsent, fun trip htrip => ⟨i, s, h, hsigned trip htrip⟩⟩
      plain := fun _ => Asks.plain
      stored := hstore
      failed := fun h => h.failed (hstore h)
      logout := fun h => h.logout (hstore h) hcalm }, hstored⟩
  · have hnone i s : ¬v.Asks i s := fun h => hasks ⟨i, s, h⟩
    obtain ⟨hdisk, hnetwork, hheldBehind⟩ := report_idle hnone
    rw [hdisk, hheldBehind]
    exact ⟨{
      sent := ⟨[], by rw [hnetwork, List.flatten_nil, List.append_nil], nofun⟩
      plain := fun h => (hnone _ _ h).elim
      stored := fun h => (hnone _ _ h).elim
      failed := fun h => (hnone _ _ h).elim
      logout := fun h => (hnone _ _ h).elim }, hheld⟩

end Call

/-- From the step, by induction on the runs: the token that the first of them finds is that of the login that lasts. --/
theorem calls_faithful {path : FilePath} {runs : List (World × List String)} : ∀ {held : Option String},
    (∀ v ∈ calls held runs, v.Shares path ∧ v.world.disk.troubles = [] ∧ v.Spares path) →
    ((calls held runs).IsChain fun v next => ∀ held,
      TokenStore.Holds ⟨path⟩ v.report.disk held → TokenStore.Holds ⟨path⟩ next.world.disk held) →
    (∀ v ∈ (calls held runs).head?, TokenStore.Holds ⟨path⟩ v.world.disk held) → ∀ v ∈ calls held runs, v.Faithful := by
  induction runs with
  | nil => exact fun _ _ _ => nofun
  | cons call rest ih =>
    intro held hcalls hbetween hfirst
    obtain ⟨w, args⟩ := call
    obtain ⟨⟨hshares, hcalm, hspares⟩, hrest⟩ := List.forall_mem_cons.mp hcalls
    obtain ⟨hfaithful, hstored⟩ := Call.step hshares hcalm hspares (hfirst _ rfl)
    obtain ⟨hnext, hbetween⟩ := List.isChain_cons.mp hbetween
    exact List.forall_mem_cons.mpr ⟨hfaithful, ih hrest hbetween fun v hv => hnext v hv _ hstored⟩

/-- Several runs of the program keep their token in one file, and nothing else disturbs it. Each of them goes by the
    login that lasts. --/
theorem login_lasts {path : FilePath} {runs : List (World × List String)} (h : Undisturbed path (calls none runs)) :
    ∀ v ∈ calls none runs, v.Faithful :=
  calls_faithful (fun v hv => ⟨h.shares v hv, h.calm v hv, h.spares v hv⟩) h.between h.absent

/-! ### Runs that nothing else disturbs -/

/-- The same runs, each on the disk that the one before has left. --/
def inRow (d : Disk) : List (World × List String) → List (World × List String)
  | [] => []
  | (w, args) :: rest =>
    let w := { w with disk := d }
    (w, args) :: inRow (run w args).disk rest

theorem calls_inRow (runs : List (World × List String)) : ∀ (d : Disk) (held : Option String),
    (∀ v ∈ (calls held (inRow d runs)).head?, v.world.disk = d) ∧
      (calls held (inRow d runs)).IsChain fun v next => next.world.disk = v.report.disk := by
  induction runs with
  | nil => exact fun _ _ => ⟨nofun, .nil⟩
  | cons call rest ih =>
    intro d held
    obtain ⟨hfirst, hbetween⟩ := ih (run { call.1 with disk := d } call.2).disk
      (Call.heldBehind ⟨{ call.1 with disk := d }, call.2, held⟩)
    exact ⟨fun v hv => by cases hv; rfl, hbetween.cons hfirst⟩

/-- The run works with the usual settings, and no video is asked for. --/
def Call.isUsual (v : Call) : Bool :=
  match read v.args with
  | .ok i =>
    i.config.isNone && !v.world.disk.exists? (v.world.home.child Settings.fileName) && i.task.output?.isNone
  | .error _ => true

theorem settings_usual {w : World} {i : Invocation} {s : Settings} (hconfig : i.config = none)
    (habsent : w.disk.exists? (w.home.child Settings.fileName) = false) (h : settings w i = .ok s) :
    s.tokenPath w.home = w.home.child "token" := by
  simp only [settings, hconfig, Settings.loadOrDefault, habsent, Bool.false_eq_true, if_false, Except.map,
    Except.ok.injEq] at h
  subst h
  unfold Settings.withEnvironment
  split
  · split <;> rfl
  · rfl

/-- Runs with the usual settings keep their token in the data directory. --/
theorem Call.shares_of_isUsual {v : Call} (h : v.isUsual = true) :
    v.Shares (v.world.home.child "token") ∧ v.Spares (v.world.home.child "token") := by
  have hasks {i s} (hv : v.Asks i s) : i.config = none ∧
      v.world.disk.exists? (v.world.home.child Settings.fileName) = false ∧ i.task.output? = none := by
    simpa [isUsual, hv.read, and_assoc] using h
  refine ⟨fun hv => ?_, fun hv target htarget => ?_⟩
  · obtain ⟨hconfig, habsent, -⟩ := hasks hv
    exact settings_usual hconfig habsent hv.settings
  · obtain ⟨-, -, houtput⟩ := hasks hv
    rw [houtput] at htarget
    cases htarget

/-- A world with servers everywhere, which answer the requests in turn. --/
def answering (responses : List Response) : World where
  disk := .empty
  network := ⟨fun _ => true, responses.map some, []⟩
  home := ⟨"/data"⟩
  apiUrl := some "http://127.0.0.1:4"
  boundary := "cut"
  stamp _ := "now"

/-- A world with servers that answer one request. --/
def answeringOnce (status : Nat) (body : String) : World := answering [.whole status body.toUTF8]

/-- A response that leads to a place. --/
def leading (place : String) : Response := ⟨302, some place, some .empty⟩

/-- The token of the login that lasts at each run, and how its requests are signed. --/
def signatures (runs : List (World × List String)) : List (Option String × List (List String)) :=
  (calls none (inRow .empty runs)).map fun v => (v.held, v.report.network.requests.map Request.authorization)

/-- A login, another one that fails, and a logout. In between a request is led to another path of the service. --/
def evening : List (World × List String) :=
  [(answeringOnce 200 "\x7b\"access_token\":\" tok\\n\"\x7d", ["login", "--email", "a", "--password", "b"]),
    (answeringOnce 401 "", ["login", "--email", "a", "--password", "c"]),
    (answering [leading "/jobs/1", .whole 200 "\x7b\"status\":\"QUEUED\"\x7d".toUTF8], ["status", "job-1"]),
    (answering [], ["logout"]),
    (answeringOnce 200 "[]", ["history"])]

theorem login_lasts_of_evening :
    Undisturbed ⟨"/data/token"⟩ (calls none (inRow .empty evening)) ∧
      (∀ v ∈ calls none (inRow .empty evening), v.Faithful) ∧
      signatures evening =
        [(none, [[]]), (some " tok\n", [[]]), (some " tok\n", [["Bearer tok"], ["Bearer tok"]]), (some " tok\n", []),
          (none, [[]])] := by
  have husual : (calls none (inRow .empty evening)).all (fun v => v.isUsual && decide (v.world.home = ⟨"/data"⟩) &&
      v.world.disk.troubles.isEmpty) = true := by decide +kernel
  have hcall {v : Call} (hv : v ∈ calls none (inRow .empty evening)) :
      v.Shares ⟨"/data/token"⟩ ∧ v.Spares ⟨"/data/token"⟩ ∧ v.world.disk.troubles = [] := by
    obtain ⟨hv, hcalm⟩ := Bool.and_eq_true_iff.mp (List.all_eq_true.mp husual v hv)
    obtain ⟨hisUsual, hhome⟩ := Bool.and_eq_true_iff.mp hv
    have hshares := Call.shares_of_isUsual hisUsual
    rw [of_decide_eq_true hhome] at hshares
    exact ⟨hshares.1, hshares.2, List.isEmpty_iff.mp hcalm⟩
  obtain ⟨hfirst, hbetween⟩ := calls_inRow evening .empty none
  have hundisturbed : Undisturbed ⟨"/data/token"⟩ (calls none (inRow .empty evening)) := {
    shares := fun v hv => (hcall hv).1
    absent := fun v hv bytes => by
      have hnone : Disk.empty.node? (FilePath.resolve ⟨"/data/token"⟩ []) = none := by decide +kernel
      rw [hfirst v hv]
      exact hnone ▸ nofun
    between := hbetween.imp fun v next (hsame : next.world.disk = v.report.disk) held hheld => hsame ▸ hheld
    calm := fun v hv => (hcall hv).2.2
    spares := fun v hv => (hcall hv).2.1 }
  exact ⟨hundisturbed, login_lasts hundisturbed, by decide +kernel⟩

/-- An address that names a user signs all requests, also those of a login and those of nobody; a request that is led to
    another endpoint is not signed; and a video that is put in the place of the token signs the requests behind it. --/
theorem signed_otherwise :
    signatures [(answeringOnce 200 "\x7b\"status\":\"QUEUED\"\x7d",
          ["--api-url", "http://u:p@127.0.0.1:4", "status", "job-1"]),
        (answeringOnce 401 "", ["--api-url", "http://u:p@127.0.0.1:4", "login", "--email", "a", "--password", "b"])] =
      [(none, [["Basic dTpw"]]), (none, [["Basic dTpw"]])] ∧
    signatures [(answeringOnce 200 "\x7b\"access_token\":\"tok\"\x7d", ["login", "--email", "a", "--password", "b"]),
        (answering [leading "http://127.0.0.1:5/", .whole 200 "\x7b\"status\":\"QUEUED\"\x7d".toUTF8],
          ["status", "job-1"])] =
      [(none, [[]]), (some "tok", [["Bearer tok"], []])] ∧
    signatures [(answeringOnce 200 "\x7b\"access_token\":\"tok\"\x7d", ["login", "--email", "a", "--password", "b"]),
        (answeringOnce 200 "video", ["download", "job-1", "--output", "/data/token"]),
        (answeringOnce 200 "\x7b\"status\":\"QUEUED\"\x7d", ["status", "job-1"])] =
      [(none, [[]]), (some "tok", [["Bearer tok"]]), (some "tok", [["Bearer video"]])] := by
  refine ⟨?_, ?_, ?_⟩ <;> decide +kernel

end Command
end Cutroom
