import Cutroom.Proofs.Command.Progress
import Cutroom.Proofs.Desk.Conversed
import Cutroom.Proofs.Desk.Ended
import Cutroom.Proofs.Storage.Spared

/-! What comes of an edit on the command line (`Command.edit_delivers`). It ends with a copy of a video to the output
    exactly if it delivers one: every request on the way was answered well, and the video was stored. All other edits
    leave the output alone, unless it is the directory for videos or one that holds it, which may be made
    (`Command.rendersDir_not_left`). Either way what the assistant has said since the beginning is told once. -/

namespace Cutroom.Command

variable {e : Editor Client} {source : FilePath ⊕ JobId} {prompt : String}

/-! ### The way to a video -/

/-- The editor that has uploaded the file or opened the job, with no alert left of that. --/
def begun? (e : Editor Client) : FilePath ⊕ JobId → Option (Editor Client)
  | .inl file =>
    match e.uploadPath file with
    | (.ok _, e) => some { e with session := { e.session with alerts := [] } }
    | (.error _, _) => none
  | .inr job =>
    match e.openJob job with
    | (.ok _, e) => some e
    | (.error _, _) => none

/-- The editor when all is over but the copy of the video. --/
def concluded (e : Editor Client) (prompt : String) : Editor Client :=
  match e.sendPrompt prompt with
  | (.ok _, e) => e.wait.2
  | (.error _, e) => e

/-- An edit fetches a video: the file is uploaded or the job opened, the prompt is taken, the first answer that the job is
    done comes in time and says that there is a new video, and the video is downloaded. It polls the job as `q`. --/
inductive Fetches (e : Editor Client) (source : FilePath ⊕ JobId) (prompt : String) (q : Editor Client) (job : JobId)
    (video : ByteArray) : Prop
  | intro {b : Editor Client} (begun : begun? e source = some b) (taken : b.sendPrompt prompt = (.ok job, q))
    (completes : Poll.completes (Poll.answers job q.turns q.watch.service) = true)
    (downloaded : (JobService.download
      (Poll.asked job (Poll.heard (Poll.answers job q.turns q.watch.service)).length q.watch.service) job none).1 =
        .ok video)

/-- An edit delivers a video: it fetches it and stores it at a path. --/
def Delivers (e : Editor Client) (source : FilePath ⊕ JobId) (prompt : String) (render : FilePath) (video : ByteArray) :
    Prop :=
  ∃ q job, Fetches e source prompt q job video ∧ q.wait.2.keeps q.disk job video = .ok render

/-- The video that an edit fetches, with the job and the editor that polls it. --/
def fetched? (e : Editor Client) (source : FilePath ⊕ JobId) (prompt : String) :
    Option (Editor Client × JobId × ByteArray) :=
  match begun? e source with
  | none => none
  | some b =>
    match b.sendPrompt prompt with
    | (.error _, _) => none
    | (.ok job, q) =>
      match Poll.fetched job q.turns q.watch.service with
      | some (.ok video) => some (q, job, video)
      | _ => none

/-- The video that an edit delivers, and where it is stored. --/
def delivered? (e : Editor Client) (source : FilePath ⊕ JobId) (prompt : String) : Option (FilePath × ByteArray) :=
  match fetched? e source prompt with
  | none => none
  | some (q, job, video) => (q.wait.2.keeps q.disk job video).toOption.map fun render => (render, video)

theorem fetches_iff {q : Editor Client} {job : JobId} {video : ByteArray} :
    Fetches e source prompt q job video ↔ fetched? e source prompt = some (q, job, video) := by
  constructor
  · rintro ⟨hbegun, htaken, hcompletes, hdownloaded⟩
    simp only [fetched?, hbegun, htaken, Poll.fetched, hcompletes, if_true, hdownloaded]
  · intro h
    unfold fetched? at h
    split at h
    · cases h
    · rename_i b hbegun
      split at h
      · cases h
      · rename_i job' q' htaken
        split at h
        · rename_i video' hfetched
          cases h
          unfold Poll.fetched at hfetched
          split at hfetched
          · rename_i hcompletes
            exact ⟨hbegun, htaken, hcompletes, Option.some.inj hfetched⟩
          · cases hfetched
        · cases h

theorem delivers_iff {render : FilePath} {video : ByteArray} :
    Delivers e source prompt render video ↔ delivered? e source prompt = some (render, video) := by
  simp only [Delivers, fetches_iff]
  unfold delivered?
  constructor
  · rintro ⟨q, job, hfetched, hkept⟩
    simp only [hfetched, hkept]
    rfl
  · intro h
    split at h
    · cases h
    · rename_i q job video' hfetched
      refine ⟨q, job, ?_⟩
      cases hkept : q.wait.2.keeps q.disk job video' with
      | error err =>
        rw [hkept] at h
        cases h
      | ok path =>
        rw [hkept] at h
        cases h
        exact ⟨hfetched, hkept⟩

/-! ### What is said -/

/-- What is said about the beginning of an edit. --/
def beginLines (source : FilePath ⊕ JobId) (b : Editor Client) : List String :=
  match source, b.session.job with
  | .inl file, some job => [uploadedLine file job.id]
  | _, _ => []

/-- What is said about a prompt that was taken. --/
def sentLines (b : Editor Client) (prompt : String) : List String :=
  if (b.sendPrompt prompt).1.toBool then ["Prompt sent, waiting for the job to finish..."] else []

/-- What the assistant has said since a conversation was at a point. --/
def newReplies (before after : ChatLog) : List String :=
  ((after.messages.drop before.size).filter fun m => m.role == .assistant).map fun m => "Assistant: " ++ m.content

/-- All that an edit says before it comes to the copy. --/
def toldLines (e : Editor Client) (source : FilePath ⊕ JobId) (prompt : String) : List String :=
  match begun? e source with
  | none => []
  | some b =>
    beginLines source b ++ sentLines b prompt ++ newReplies b.session.chat (concluded b prompt).session.chat

/-- What is said about a copy. --/
def copyLine (render : FilePath) : Option FilePath → String
  | none => "Edited video: " ++ Text.quoted render.text
  | some target => "Saved edited video to " ++ Text.quoted target.text

theorem replyLines_eq {before after : ChatLog} (h : before.messages <+: after.messages) :
    replyLines after (before.count .assistant) = newReplies before after := by
  obtain ⟨added, hadded⟩ := h
  simp only [replyLines, newReplies, ChatLog.count, ChatLog.size, ← hadded, List.filter_append, List.drop_left]

theorem printed_append (front back : List String) : printed (front ++ back) = printed front ++ printed back :=
  List.flatMap_append

theorem printed_opening {front : String} {c : Char} {rest : List Char} (hfront : front.toList = c :: rest)
    (back : String) : printed [front ++ back] = c :: (rest ++ back.toList ++ ['\n']) := by
  simp only [printed, List.flatMap_cons, List.flatMap_nil, List.append_nil, String.toList_append, hfront,
    List.cons_append]

/-! ### The copy -/

section Copy
variable {p : Progress} {render target : FilePath}

theorem saveRender_shown (p : Progress) (render : FilePath) :
    saveRender p render none = (.ok (), { p with out := p.out ++ printed [copyLine render none] }) := by
  show (p.say (copyLine render none)).done = _
  rw [Progress.say_eq]
  rfl

theorem saveRender_failed {err : DiskError} {disk : Disk} (h : p.disk.copy render target = (.error err, disk)) :
    saveRender p render (some target) =
      (.error (.during ("copying render to " ++ Text.quoted target.text) err.message), { p with disk := disk }) := by
  simp only [saveRender, h, Progress.fail]

theorem saveRender_copied {disk : Disk} {u : Unit} (h : p.disk.copy render target = (.ok u, disk)) :
    saveRender p render (some target) =
      (.ok (), { p with disk := disk, out := p.out ++ printed [copyLine render (some target)] }) := by
  dsimp only [saveRender]
  rw [h]
  show (({ p with disk := disk } : Progress).say (copyLine render (some target))).done = _
  rw [Progress.say_eq]
  rfl

theorem saveRender_out (p : Progress) (render : FilePath) (output : Option FilePath) :
    (saveRender p render output).2.out =
      p.out ++ printed (if (saveRender p render output).1.toBool then [copyLine render output] else []) := by
  cases output with
  | none =>
    rw [saveRender_shown]
    rfl
  | some target =>
    rcases hcopy : p.disk.copy render target with ⟨err | _, disk⟩
    · rw [saveRender_failed hcopy]
      exact (List.append_nil _).symm
    · rw [saveRender_copied hcopy]
      rfl

/-- What is said about a copy tells it from no copy. --/
theorem saveRender_varies (p : Progress) (render target : FilePath) :
    saveRender p render none ≠ saveRender p render (some target) := by
  rw [saveRender_shown]
  intro h
  rcases hcopy : p.disk.copy render target with ⟨err | _, disk⟩
  · rw [saveRender_failed hcopy] at h
    simp only [Prod.mk.injEq, reduceCtorEq, false_and] at h
  · rw [saveRender_copied hcopy] at h
    have hout : p.out ++ printed [copyLine render none] = p.out ++ printed [copyLine render (some target)] :=
      congrArg (fun outcome : Outcome => outcome.2.out) h
    replace hout := List.append_cancel_left hout
    have hedited : "Edited video: ".toList = 'E' :: "dited video: ".toList := by decide
    have hsaved : "Saved edited video to ".toList = 'S' :: "aved edited video to ".toList := by decide
    have hfirst : 'E' = 'S' :=
      (List.cons.inj ((printed_opening hedited _).symm.trans (hout.trans (printed_opening hsaved _)))).1
    exact absurd hfirst (by decide)

theorem saveRender_read {video : ByteArray} (hread : p.disk.read render = .ok video)
    (hne : target.resolve p.disk.home ≠ render.resolve p.disk.home) (h : (saveRender p render (some target)).1 = .ok ()) :
    (saveRender p render (some target)).2.disk.read target = .ok video := by
  rcases hcopy : p.disk.copy render target with ⟨err | _, disk⟩
  · rw [saveRender_failed hcopy] at h
    cases h
  · rw [saveRender_copied hcopy]
    exact Disk.copy_read hcopy hread hne

end Copy

/-! ### The steps -/

theorem begun?_cases {b : Editor Client} (h : begun? e source = some b) :
    (∃ file job q, source = .inl file ∧ e.uploadPath file = (.ok job, q) ∧
      b = { q with session := { q.session with alerts := [] } }) ∨
      ∃ job, source = .inr job ∧ e.openJob job = (.ok (), b) := by
  cases source with
  | inl file =>
    dsimp only [begun?] at h
    split at h <;> cases h
    rename_i job q hupload
    exact .inl ⟨file, job, q, rfl, hupload, rfl⟩
  | inr job =>
    dsimp only [begun?] at h
    split at h <;> cases h
    rename_i hopen
    exact .inr ⟨job, rfl, hopen⟩

theorem begun?_begun {b : Editor Client} (he : e.Idle) (h : begun? e source = some b) : ∃ job, e.Begun b job := by
  obtain ⟨file, job, q, -, hupload, rfl⟩ | ⟨job, -, hopen⟩ := begun?_cases h
  · obtain ⟨⟨j, hid, hready⟩, hchat, hstreams, hdisk, hdir⟩ := Editor.uploadPath_begun he hupload
    have hquiet : Editor.Ready { q with session := { q.session with alerts := [] } } j :=
      ⟨hready.listening, hready.poll, hready.unread, hready.job, hready.processing⟩
    exact ⟨job, ⟨j, hid, hquiet⟩, hchat, hstreams, hdisk, hdir⟩
  · exact ⟨job, Editor.openJob_begun he hopen⟩

theorem edit_not_begun (p : Progress) (prompt : String) (h : begun? e source = none) :
    ∃ complaint p', p'.disk = e.disk ∧ p'.out = p.out ∧
      ∀ output, edit p e prompt output source = (.error complaint, p') := by
  cases source with
  | inl file =>
    have hdisk := e.uploadPath_disk file
    rcases hupload : e.uploadPath file with ⟨err | job, q⟩ <;> rw [hupload] at hdisk
    · exact ⟨_, _, hdisk, List.append_nil _, fun _ => edit_not_uploaded hupload⟩
    · simp only [begun?, hupload, reduceCtorEq] at h
  | inr job =>
    have hdisk := e.openJob_disk job
    rcases hopen : e.openJob job with ⟨err | _, q⟩ <;> rw [hopen] at hdisk
    · exact ⟨_, _, hdisk, List.append_nil _, fun _ => edit_not_opened hopen⟩
    · simp only [begun?, hopen, reduceCtorEq] at h

theorem edit_begun (p : Progress) (prompt : String) {b : Editor Client} (he : e.Idle) (h : begun? e source = some b) :
    ∃ p', p'.out = p.out ++ printed (beginLines source b) ∧
      ∀ output, edit p e prompt output source = request p' b prompt output := by
  obtain ⟨file, job, q, rfl, hupload, rfl⟩ | ⟨job, rfl, hopen⟩ := begun?_cases h
  · obtain ⟨⟨j, rfl, hready⟩, -⟩ := Editor.uploadPath_begun he hupload
    refine ⟨_, ?_, fun _ => edit_uploaded hupload⟩
    simp only [Progress.behind, beginLines, hready.job]
  · exact ⟨p, (List.append_nil _).symm, fun _ => edit_opened hopen⟩

section Request
variable {b q : Editor Client} {j : Job} {job : JobId}

theorem concluded_chat (hb : b.Ready j) (prompt : String) :
    b.session.chat.messages <+: (concluded b prompt).session.chat.messages := by
  have hsent := (b.does_continues (show (Deed.op (.sendPrompt prompt)).KeepsChat from trivial)).messages
  simp only [Editor.does, Editor.step] at hsent
  unfold concluded
  rcases hs : b.sendPrompt prompt with ⟨err | job, q⟩ <;> rw [hs] at hsent
  · exact hsent
  · exact hsent.trans (Editor.sendPrompt_ended hb hs).1.chat

theorem request_ends (p : Progress) (hb : b.Ready j) (prompt : String) :
    ∃ p', p'.disk = (concluded b prompt).disk ∧
      p'.out = p.out ++ printed (sentLines b prompt ++ newReplies b.session.chat (concluded b prompt).session.chat) ∧
      ∀ output, request p b prompt output =
        match (b.sendPrompt prompt).1 with
        | .error err => (.error (.plain err.message), p')
        | .ok _ => finished p' output (concluded b prompt).session.source := by
  have hchat := concluded_chat hb prompt
  unfold concluded at hchat ⊢
  unfold sentLines
  rcases hs : b.sendPrompt prompt with ⟨err | job, q⟩ <;> rw [hs] at hchat
  · refine ⟨_, rfl, ?_, fun _ => request_refused hs⟩
    simp only [Progress.behind, replyLines_eq hchat, Except.toBool, Bool.false_eq_true, if_false, List.nil_append]
  · refine ⟨_, rfl, ?_, fun _ => request_waited hs⟩
    simp only [Progress.behind, waitLines, replyLines_eq hchat, Except.toBool, if_true, List.singleton_append]

end Request

/-! ### The outcome -/

/-- A run ends with a copy of a stored video to the output, whichever that is. --/
def EndsInCopy (run : Option FilePath → Outcome) (render : FilePath) : Prop :=
  ∃ p, ∀ output, run output = saveRender p render output

/-- Where an edit may leave a video that is not finished: where it stores the one that it fetches, if trouble with the
    disk is to come. --/
def Spoils (e : Editor Client) (source : FilePath ⊕ JobId) (prompt : String) (place : Location) : Prop :=
  e.disk.troubles ≠ [] ∧
    ∃ q job video, Fetches e source prompt q job video ∧ place = (q.wait.2.renderPath job).resolve e.disk.home

/-- A disk on which all files are as they were but for a video that is not finished, and all else but the directory for
    videos and those that hold it. --/
structure LeftAlone (e : Editor Client) (source : FilePath ⊕ JobId) (prompt : String) (d : Disk) : Prop where
  files : ∀ place bytes, ¬Spoils e source prompt place →
    (d.node? place = some (.file bytes) ↔ e.disk.node? place = some (.file bytes))
  elsewhere : ∀ place, ¬Spoils e source prompt place →
    (∀ p, e.rendersDir.HeldBy p → p.resolve e.disk.home ≠ place) → d.node? place = e.disk.node? place

theorem LeftAlone.refl (e : Editor Client) (source : FilePath ⊕ JobId) (prompt : String) :
    LeftAlone e source prompt e.disk := ⟨fun _ _ _ => Iff.rfl, fun _ _ _ => rfl⟩

/-- A video that is fetched but cannot be stored. --/
theorem Fetches.leftAlone {q : Editor Client} {job : JobId} {video : ByteArray} {err : DiskError}
    (h : Fetches e source prompt q job video) (hdisk : q.disk = e.disk) (hdir : q.wait.2.rendersDir = e.rendersDir)
    (hkept : q.wait.2.keeps q.disk job video = .error err) :
    LeftAlone e source prompt (Editor.store { q.wait.2 with disk := q.disk } ⟨job, none, video⟩).2 := by
  have hstore {place : Location} (hplace : ¬Spoils e source prompt place) :
      (Editor.store { q.wait.2 with disk := q.disk } ⟨job, none, video⟩).2.node? place =
        (e.disk.ensureTree e.rendersDir).2.node? place := by
    rw [← hdisk, ← hdir]
    refine Editor.store_failed (e := { q.wait.2 with disk := q.disk }) hkept ?_
    by_cases htroubles : q.disk.troubles = []
    · exact .inl htroubles
    · refine .inr fun hsame => hplace ⟨hdisk ▸ htroubles, q, job, video, h, ?_⟩
      rwa [hdisk] at hsame
  refine ⟨fun place bytes hplace => ?_, fun place hplace hheld => ?_⟩
  · rw [hstore hplace]
    exact (e.disk.ensureTree_furnished e.rendersDir).files place bytes
  · rw [hstore hplace]
    exact Disk.ensureTree_elsewhere hheld

/-- How an edit comes out: with a copy of the video that it delivers, or in the same way for every output. --/
inductive ComesOut (e : Editor Client) (source : FilePath ⊕ JobId) (prompt : String) (run : Option FilePath → Outcome) :
    Prop
  | copied {p : Progress} {render : FilePath} {video : ByteArray} (delivered : Delivers e source prompt render video)
    (home : p.disk.home = e.disk.home) (stored : p.disk.read render = .ok video)
    (told : p.out = printed (toldLines e source prompt)) (ends : ∀ output, run output = saveRender p render output)
  | left {p : Progress} {result : Except Complaint Unit}
    (undelivered : ¬∃ render video, Delivers e source prompt render video)
    (untouched : (¬∃ q job video, Fetches e source prompt q job video) → p.disk = e.disk)
    (alone : LeftAlone e source prompt p.disk) (told : p.out = printed (toldLines e source prompt))
    (ends : ∀ output, run output = (result, p))

theorem ComesOut.unfetched {run : Option FilePath → Outcome} {p : Progress} {result : Except Complaint Unit}
    (hfetched : fetched? e source prompt = none) (hdisk : p.disk = e.disk)
    (htold : p.out = printed (toldLines e source prompt)) (hends : ∀ output, run output = (result, p)) :
    ComesOut e source prompt run := by
  refine .left ?_ (fun _ => hdisk) (hdisk ▸ .refl e source prompt) htold hends
  rintro ⟨render, video, q, job, hfetches, -⟩
  rw [fetches_iff, hfetched] at hfetches
  cases hfetches

theorem finished_streamed {source : Option VideoSource} {url : String} (h : source = some (.remote url)) (p : Progress)
    (output : Option FilePath) : finished p output source = (.ok (), p) := by
  rw [h]
  rfl

section Taken
variable {b q : Editor Client} {opened job : JobId} {p : Progress} {run : Option FilePath → Outcome}

/-- Once a video is fetched, the end is whether it can be stored. --/
theorem fetched_comesOut {video : ByteArray} (hfetches : Fetches e source prompt q job video)
    (hended : Editor.Ended q q.wait.2 job (some (.ok video))) {url : String}
    (hstreams : q.session.source = some (.remote url)) (hdisk : q.disk = e.disk)
    (hdir : q.wait.2.rendersDir = e.rendersDir) (hwaited : p.disk = q.wait.2.disk)
    (htold : p.out = printed (toldLines e source prompt))
    (hends : ∀ output, run output = finished p output q.wait.2.session.source) : ComesOut e source prompt run := by
  have hstored := hwaited.trans hended.disk
  have hshown := hended.shown
  dsimp only [Editor.Shown] at hshown
  cases hkept : q.wait.2.keeps q.disk job video with
  | ok render =>
    rw [hkept] at hshown
    obtain ⟨hfile, hread, -⟩ := hshown
    refine .copied ⟨q, job, hfetches, hkept⟩ ?_ (hwaited ▸ hread) htold fun output => (hends output).trans ?_
    · have hgrown := Editor.store_grown { q.wait.2 with disk := q.disk } ⟨job, none, video⟩
      rw [hstored]
      exact hgrown.home.trans (congrArg Disk.home hdisk)
    · simp only [hfile, finished]
  | error err =>
    rw [hkept] at hshown
    refine .left ?_ (fun hnone => (hnone ⟨q, job, video, hfetches⟩).elim) ?_ htold fun output =>
      (hends output).trans (finished_streamed (hshown.1.trans hstreams) p output)
    · rintro ⟨render, other, hdelivers⟩
      simp only [delivers_iff, delivered?, fetches_iff.mp hfetches, hkept] at hdelivers
      cases hdelivers
    · rw [hstored]
      exact hfetches.leftAlone hdisk hdir hkept

/-- Once a prompt is taken, the end is that of the poll. --/
theorem taken_comesOut (hbegun : begun? e source = some b) (hb : e.Begun b opened)
    (hs : b.sendPrompt prompt = (.ok job, q)) (hwaited : p.disk = q.wait.2.disk)
    (htold : p.out = printed (toldLines e source prompt))
    (hends : ∀ output, run output = finished p output q.wait.2.session.source) : ComesOut e source prompt run := by
  obtain ⟨⟨j, -, hready⟩, -, ⟨url, hurl⟩, hbdisk, hbdir⟩ := hb
  obtain ⟨hended, hsource, hqdisk, hqdir⟩ := Editor.sendPrompt_ended hready hs
  have hdisk : q.disk = e.disk := hqdisk.trans hbdisk
  have hstreams : q.session.source = some (.remote url) := hsource.trans hurl
  have hfetched : fetched? e source prompt =
      match Poll.fetched job q.turns q.watch.service with
      | some (.ok video) => some (q, job, video)
      | _ => none := by
    simp only [fetched?, hbegun, hs]
  have hstays (hsame : q.wait.2.session.source = q.session.source) (output : Option FilePath) :
      run output = (.ok (), p) :=
    (hends output).trans (finished_streamed (hsame.trans hstreams) p output)
  rcases hpoll : Poll.fetched job q.turns q.watch.service with _ | ⟨err | video⟩ <;> rw [hpoll] at hfetched hended
  · exact .unfetched hfetched (hwaited.trans (hended.disk.trans hdisk)) htold (hstays hended.shown.1)
  · exact .unfetched hfetched (hwaited.trans (hended.disk.trans hdisk)) htold (hstays hended.shown.1)
  · exact fetched_comesOut (fetches_iff.mpr hfetched) hended hstreams hdisk
      (q.wait_rendersDir.trans (hqdir.trans hbdir)) hwaited htold hends

end Taken

theorem edit_comesOut {p : Progress} (he : e.Idle) (hp : p.out = []) (source : FilePath ⊕ JobId) (prompt : String) :
    ComesOut e source prompt fun output => edit p e prompt output source := by
  cases hbegun : begun? e source with
  | none =>
    obtain ⟨complaint, p', hdisk, hout, hends⟩ := edit_not_begun p prompt hbegun
    have hfetched : fetched? e source prompt = none := by simp only [fetched?, hbegun]
    have htold : p'.out = printed (toldLines e source prompt) := by
      simp only [hout, hp, toldLines, hbegun, printed, List.flatMap_nil]
    exact .unfetched hfetched hdisk htold hends
  | some b =>
    obtain ⟨opened, hb⟩ := begun?_begun he hbegun
    obtain ⟨j, -, hready⟩ := hb.ready
    obtain ⟨p₁, hout₁, hedit⟩ := edit_begun p prompt he hbegun
    obtain ⟨p₂, hdisk, hout₂, hrequest⟩ := request_ends p₁ hready prompt
    have htold : p₂.out = printed (toldLines e source prompt) := by
      simp only [hout₂, hout₁, hp, toldLines, hbegun, List.nil_append, printed_append, List.append_assoc]
    have hends (output : Option FilePath) := (hedit output).trans (hrequest output)
    have hsent := b.sendPrompt_disk prompt
    unfold concluded at hdisk hends
    rcases hs : b.sendPrompt prompt with ⟨err | job, q⟩ <;> rw [hs] at hdisk hends hsent
    · have hfetched : fetched? e source prompt = none := by simp only [fetched?, hbegun, hs]
      exact .unfetched hfetched (hdisk.trans (hsent.trans hb.disk)) htold hends
    · exact taken_comesOut hbegun hb hs hdisk htold hends

/-! ### Deliveries -/

/-- What an edit does with a video, and what it says. --/
structure Delivery (e : Editor Client) (source : FilePath ⊕ JobId) (prompt : String) (run : Option FilePath → Outcome) :
    Prop where
  /-- There is a copy exactly of what is delivered. -/
  copies : (∃ render, EndsInCopy run render) ↔ ∃ render video, Delivers e source prompt render video
  /-- A copy elsewhere that succeeds leaves the bytes of the download at the output. -/
  copied : ∀ {render video}, Delivers e source prompt render video → EndsInCopy run render ∧
    ∀ target, target.resolve e.disk.home ≠ render.resolve e.disk.home → (run (some target)).1 = .ok () →
      (run (some target)).2.disk.read target = .ok video
  /-- Where no video is fetched, the disk is not touched. -/
  untouched : (¬∃ q job video, Fetches e source prompt q job video) → ∀ output, (run output).2.disk = e.disk
  left : (¬∃ render video, Delivers e source prompt render video) → ∀ output, LeftAlone e source prompt (run output).2.disk
  /-- The conversation goes on behind the greeting. -/
  replies : ∀ b, begun? e source = some b →
    b.session.chat = .opened ∧ b.session.chat.messages <+: (concluded b prompt).session.chat.messages
  /-- What is said of a copy comes last. -/
  told : ∀ output,
    (∀ render video, Delivers e source prompt render video →
      (run output).2.out =
        printed (toldLines e source prompt ++ if (run output).1.toBool then [copyLine render output] else [])) ∧
    ((¬∃ render video, Delivers e source prompt render video) → (run output).2.out = printed (toldLines e source prompt))

theorem Delivers.unique {render render' : FilePath} {video video' : ByteArray} (h : Delivers e source prompt render video)
    (h' : Delivers e source prompt render' video') : render' = render ∧ video' = video := by
  rw [delivers_iff] at h h'
  cases h.symm.trans h'
  exact ⟨rfl, rfl⟩

theorem ComesOut.delivery {run : Option FilePath → Outcome} (h : ComesOut e source prompt run)
    (hreplies : ∀ b, begun? e source = some b →
      b.session.chat = .opened ∧ b.session.chat.messages <+: (concluded b prompt).session.chat.messages) :
    Delivery e source prompt run := by
  cases h with
  | @copied p render video hdelivered hhome hstored htold hends =>
    have hsome : ∃ render video, Delivers e source prompt render video := ⟨render, video, hdelivered⟩
    constructor
    case copies => exact ⟨fun _ => hsome, fun _ => ⟨render, p, hends⟩⟩
    case copied =>
      intro render' video' hdelivered'
      obtain ⟨rfl, rfl⟩ := hdelivered.unique hdelivered'
      refine ⟨⟨p, hends⟩, fun target hne hok => ?_⟩
      rw [hends] at hok ⊢
      rw [← hhome] at hne
      exact saveRender_read hstored hne hok
    case untouched =>
      obtain ⟨q, job, hfetches, -⟩ := hdelivered
      exact fun hnone => (hnone ⟨q, job, video, hfetches⟩).elim
    case left => exact fun hnone => (hnone hsome).elim
    case replies => exact hreplies
    case told =>
      refine fun output => ⟨fun render' video' hdelivered' => ?_, fun hnone => (hnone hsome).elim⟩
      obtain ⟨rfl, rfl⟩ := hdelivered.unique hdelivered'
      rw [hends, saveRender_out, htold, printed_append]
  | @left p result hundelivered huntouched halone htold hends =>
    constructor
    case copies =>
      refine ⟨fun ⟨render, p', hcopies⟩ => ?_, fun hsome => (hundelivered hsome).elim⟩
      -- The end is the same for all outputs, which that of a copy is not.
      have hsame : saveRender p' render none = saveRender p' render (some render) := by
        rw [← hcopies, ← hcopies, hends, hends]
      exact (saveRender_varies p' render render hsame).elim
    case copied => exact fun hdelivered => (hundelivered ⟨_, _, hdelivered⟩).elim
    case untouched =>
      intro hnone output
      rw [hends]
      exact huntouched hnone
    case left =>
      intro _ output
      rw [hends]
      exact halone
    case replies => exact hreplies
    case told =>
      intro output
      rw [hends]
      exact ⟨fun render video hdelivered => (hundelivered ⟨render, video, hdelivered⟩).elim, fun _ => htold⟩

/-- An edit on the command line copies a video to the output exactly if it delivers one, and then a copy that succeeds
    holds the downloaded bytes. In all other cases the output is left alone, but for the directory for videos and those
    that hold it, and for a video that is not finished. Each message of the assistant since the upload or since the job
    was opened is told once, in order, and the greeting is not. --/
theorem edit_delivers (w : World) (s : Settings) (t : TokenStore) (c : Client) (source : FilePath ⊕ JobId)
    (prompt : String) :
    Delivery (Editor.opened c s.pollPolicy w.disk (s.rendersDir w.home) w.stamp) source prompt fun output =>
      perform w s t c (.edit source prompt output) := by
  have hidle := Editor.opened_idle c s.pollPolicy w.disk (s.rendersDir w.home) w.stamp
  have hcomesOut := edit_comesOut (p := .start w) hidle rfl source prompt
  refine hcomesOut.delivery fun b hbegun => ?_
  obtain ⟨opened, hb⟩ := begun?_begun hidle hbegun
  obtain ⟨j, -, hready⟩ := hb.ready
  exact ⟨hb.chat, concluded_chat hready prompt⟩

/-- A world with a server that answers well, one request after the other. --/
def serving (bodies : List String) : World where
  disk := .empty
  network := .ofServer "127.0.0.1:4" (bodies.map fun body => some (.whole 200 body.toUTF8))
  home := ⟨"/data"⟩
  apiUrl := some "http://127.0.0.1:4"
  boundary := "cut"
  stamp _ := "now"

/-- A world in which a job is edited at once. --/
def editing : World :=
  serving ["\x7b\"status\":\"UPLOADED\"\x7d", "", "\x7b\"status\":\"COMPLETED\",\"ai_reply\":\"Done.\"\x7d", "video"]

/-- The editor of that world. --/
def editingEditor : Editor Client :=
  .opened (.opened "http://127.0.0.1:4" "cut" editing.network) Settings.standard.pollPolicy editing.disk
    (Settings.standard.rendersDir editing.home) editing.stamp

/-- An edit of a job in that world, for each output. --/
def edited (job : JobId) (output : Option FilePath) : Outcome :=
  perform editing .standard ⟨⟨"/data/token"⟩⟩ (.opened "http://127.0.0.1:4" "cut" editing.network)
    (.edit (.inr job) "cut" output)

theorem edit_delivers_of_editing :
    Delivers editingEditor (.inr ⟨"job-1"⟩) "cut" ⟨"/data/renders/job-1-now.mp4"⟩ "video".toUTF8 ∧
      EndsInCopy (edited ⟨"job-1"⟩) ⟨"/data/renders/job-1-now.mp4"⟩ ∧
      (edited ⟨"job-1"⟩ (some ⟨"/cut.mp4"⟩)).2.disk.read ⟨"/cut.mp4"⟩ = .ok "video".toUTF8 ∧
      (edited ⟨"job-1"⟩ (some ⟨"/cut.mp4"⟩)).2.out =
        printed ["Prompt sent, waiting for the job to finish...", "Assistant: Done.",
          copyLine ⟨"/data/renders/job-1-now.mp4"⟩ (some ⟨"/cut.mp4"⟩)] := by
  have hdelivery : Delivery editingEditor (.inr ⟨"job-1"⟩) "cut" (edited ⟨"job-1"⟩) :=
    edit_delivers editing .standard ⟨⟨"/data/token"⟩⟩ (.opened "http://127.0.0.1:4" "cut" editing.network) _ _
  have hdelivers : Delivers editingEditor (.inr ⟨"job-1"⟩) "cut" ⟨"/data/renders/job-1-now.mp4"⟩ "video".toUTF8 := by
    rw [delivers_iff]
    decide +kernel
  have hcopied : (edited ⟨"job-1"⟩ (some ⟨"/cut.mp4"⟩)).1.toBool = true := by decide +kernel
  have hok : (edited ⟨"job-1"⟩ (some ⟨"/cut.mp4"⟩)).1 = .ok () := by
    revert hcopied
    cases (edited ⟨"job-1"⟩ (some ⟨"/cut.mp4"⟩)).1 with
    | error complaint => exact nofun
    | ok _ => exact fun _ => rfl
  have hlines : toldLines editingEditor (.inr ⟨"job-1"⟩) "cut" =
      ["Prompt sent, waiting for the job to finish...", "Assistant: Done."] := by
    decide +kernel
  obtain ⟨hcopies, hread⟩ := hdelivery.copied hdelivers
  have hout := (hdelivery.told (some ⟨"/cut.mp4"⟩)).1 _ _ hdelivers
  rw [hlines, hcopied, if_pos rfl] at hout
  exact ⟨hdelivers, hcopies, hread _ (by decide) hok, hout⟩

/-- An edit that delivers nothing because its video cannot be stored does not leave an output alone that is no video, but
    the directory for videos: it was not there, and is made. --/
theorem rendersDir_not_left :
    (¬∃ render video, Delivers editingEditor (.inr ⟨"a/b"⟩) "cut" render video) ∧
      FilePath.resolve ⟨"/data/renders"⟩ [] ≠ (editingEditor.renderPath ⟨"a/b"⟩).resolve [] ∧
      editing.disk.exists? ⟨"/data/renders"⟩ = false ∧
      (edited ⟨"a/b"⟩ (some ⟨"/data/renders"⟩)).2.disk.isDirectory ⟨"/data/renders"⟩ = true := by
  refine ⟨?_, by decide +kernel, by decide +kernel, by decide +kernel⟩
  have hnone : delivered? editingEditor (.inr ⟨"a/b"⟩) "cut" = none := by decide +kernel
  rintro ⟨render, video, hdelivers⟩
  rw [delivers_iff, hnone] at hdelivers
  cases hdelivers

end Cutroom.Command
