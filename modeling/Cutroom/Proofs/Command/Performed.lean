import Cutroom.Proofs.Command.Progress
import Cutroom.Proofs.Desk.Served
import Cutroom.Proofs.Desk.Sheltered
import Cutroom.Proofs.Storage.Spared
import Cutroom.Proofs.Web.Signed

/-! What a task of the command line sends and writes. Its requests are signed with the token that the client has, or none of
    them is (`Command.perform_sent`); and unless it signs in or out, it writes nothing but videos, so that the file of the
    token stays as it is (`Command.perform_spares`). -/

namespace Cutroom

/-! ### Names of files -/

namespace FilePath
open Location

/-- A path leads to a place of the name that its last part is. --/
theorem resolve_last {p : FilePath} {front : List String} {name : String} (hparts : p.parts = front ++ [name])
    (hdot : name ≠ ".") (hup : name ≠ "..") (home : Location) : (p.resolve home).getLast? = some name := by
  have hlast (place : Location) : place.follow [name] = place ++ [name] := enter_of_name hdot hup place
  rw [resolve, hparts, follow_append, hlast, List.getLast?_concat]

/-- The last part of a path ends as the path does. --/
theorem parts_of_tail {p : FilePath} {front tail : List Char} (hp : p.text.toList = front ++ tail) (htail : '/' ∉ tail)
    (hne : tail ≠ []) : ∃ init last, p.parts = init ++ [String.ofList (last ++ tail)] := by
  obtain ⟨init, last, -, happend⟩ := splitOn_append htail front
  refine ⟨(init.filter fun part => !part.isEmpty).map String.ofList, last, ?_⟩
  rw [parts, hp, happend]
  simp [hne]

theorem child_text (dir : FilePath) (name : String) :
    ∃ front, (dir.child name).text.toList = front ++ name.toList := by
  unfold child join
  split
  · exact ⟨[], rfl⟩
  · split
    · exact ⟨dir.text.toList, by simp⟩
    · exact ⟨(dir.text ++ "/").toList, by simp⟩

end FilePath

/-! ### What an editor writes -/

namespace Editor

variable {σ : Type}

/-- No video is ever stored at a place, whichever the directory for videos. --/
def VideoFree (place : Location) : Prop :=
  ∀ (dir : FilePath) (text : String) (home : Location), (dir.child (text ++ ".mp4")).resolve home ≠ place

theorem store_spares {place : Location} (hplace : VideoFree place) (e : Editor σ) (render : PendingRender) :
    Disk.Spares place e.disk (e.store render).2 := by
  obtain ⟨tree, htree, ⟨err, hs⟩ | ⟨outcome, written, hw, hs⟩⟩ := e.store_cases render <;> rw [hs]
  · exact htree.spares place
  · have hwritten := Disk.write_spares (d := tree) (p := e.renderPath render.job) render.video (hplace _ _ _)
    rw [hw] at hwritten
    exact (htree.spares place).trans hwritten

variable [JobService σ]

theorem handle_spares {place : Location} (hplace : VideoFree place) (e : Editor σ) (event : JobEvent) :
    Disk.Spares place e.disk (e.handle event).disk := by
  unfold handle
  rcases e.session.apply event with ⟨_ | render, session⟩
  · exact .refl place e.disk
  · dsimp only
    rw [finishRender_disk]
    exact store_spares hplace (settle { e with session := session }) render

theorem next_spares {place : Location} (hplace : VideoFree place) (e : Editor σ) :
    Disk.Spares place e.disk e.next.2.disk := by
  rcases e.next_cases with ⟨w, hn⟩ | ⟨event, w, hn⟩ <;> rw [hn]
  · exact .refl place e.disk
  · exact handle_spares hplace { e with watch := w } event

theorem wait_spares {place : Location} (hplace : VideoFree place) (e : Editor σ) :
    Disk.Spares place e.disk e.wait.2.disk := by
  unfold wait
  generalize e.eventsLeft + 1 = fuel
  induction fuel generalizing e with
  | zero => exact .refl place e.disk
  | succ fuel ih =>
    have hnext := next_spares hplace e
    unfold waitFuel
    rcases hn : e.next with ⟨_ | event, e'⟩ <;> rw [hn] at hnext
    · exact hnext
    · dsimp only
      split
      · exact hnext
      · exact hnext.trans (ih e')

end Editor

namespace Command

/-! ### The file of the token -/

/-- The file of a token has a name of its own, so that no video takes its place. --/
theorem videoFree_token (dir : FilePath) (home : Location) : Editor.VideoFree ((dir.child "token").resolve home) := by
  intro rendersDir text other hsame
  have htoken : ((dir.child "token").resolve home).getLast? = some "token" :=
    FilePath.resolve_last (FilePath.parts_join rfl) (by decide) (by decide) home
  obtain ⟨front, hfront⟩ := rendersDir.child_text (text ++ ".mp4")
  rw [String.toList_append, ← List.append_assoc] at hfront
  obtain ⟨init, last, hparts⟩ := FilePath.parts_of_tail hfront (by decide) (by decide)
  have hchars {name : String} (hname : name.toList.getLast? ≠ some '4') :
      String.ofList (last ++ ".mp4".toList) ≠ name := by
    rintro rfl
    exact hname (by simp)
  have hvideo := FilePath.resolve_last hparts (hchars (by decide)) (hchars (by decide)) other
  rw [hsame, htoken] at hvideo
  exact hchars (by decide) (Option.some.inj hvideo).symm

/-! ### What a task sends and writes -/

/-- The requests of a task carry the token. --/
def Task.signs : Task → Bool
  | .login _ | .register _ | .logout => false
  | _ => true

/-- Where the user wants a file. --/
def Task.output? : Task → Option FilePath
  | .edit _ _ output => output
  | .download _ output _ => some output
  | _ => none

theorem signing_lasts (c : Client) : Lasts (Client.Signing true c) where
  upload file h := h.trans (Client.upload_signing _ file)
  status job h := h.trans (Client.status_signing _ job)
  download job options h := h.trans (Client.download_signing _ job options)
  history h := h.trans (Client.history_signing _)

/-- A run has sent its requests as a client that goes on from another one. --/
def Progress.Sent (signed : Bool) (c : Client) (p : Progress) : Prop :=
  ∃ c', Client.Signing signed c c' ∧ p.network = c'.network

section Edit
variable {c : Client} {p : Progress} {e : Editor Client} {place : Location}

theorem finished_network (p : Progress) (output : Option FilePath) (source : Option VideoSource) :
    (finished p output source).2.network = p.network := by
  unfold finished saveRender
  split
  · split
    · rfl
    · split <;> rfl
  · rfl

theorem finished_spares (p : Progress) {output : Option FilePath} (source : Option VideoSource)
    (houtput : ∀ target ∈ output, target.resolve p.disk.home ≠ place) :
    Disk.Spares place p.disk (finished p output source).2.disk := by
  have hsame := Disk.Spares.refl place p.disk
  unfold finished saveRender
  split
  · rename_i render
    split
    · exact hsame
    · rename_i target
      have hcopied : Disk.Spares place p.disk (p.disk.copy render target).2 := Disk.copy_spares (houtput target rfl)
      rcases hcopy : p.disk.copy render target with ⟨err | _, disk⟩ <;> rw [hcopy] at hcopied <;> exact hcopied
  · exact hsame

theorem request_sent (he : Client.Signing true c e.watch.service) (prompt : String) (output : Option FilePath) :
    (request p e prompt output).2.Sent true c := by
  have hsent := Editor.sendPrompt_lasts (e := e) prompt
    (fun job text h => h.trans (Client.submitPrompt_signing _ job text)) he
  rcases hs : e.sendPrompt prompt with ⟨err | job, e'⟩ <;> rw [hs] at hsent
  · rw [request_refused hs]
    exact ⟨_, hsent, rfl⟩
  · rw [request_waited hs]
    exact ⟨_, Editor.wait_lasts (signing_lasts c) hsent, finished_network _ _ _⟩

theorem edit_sent (he : Client.Signing true c e.watch.service) (source : FilePath ⊕ JobId) (prompt : String)
    (output : Option FilePath) : (edit p e prompt output source).2.Sent true c := by
  cases source with
  | inl file =>
    have hupload := Editor.uploadPath_lasts (signing_lasts c) file he
    rcases hs : e.uploadPath file with ⟨err | job, e'⟩ <;> rw [hs] at hupload
    · rw [edit_not_uploaded hs]
      exact ⟨_, hupload, rfl⟩
    · rw [edit_uploaded hs]
      exact request_sent (e := { e' with session := { e'.session with alerts := [] } }) hupload prompt output
  | inr job =>
    have hopen := Editor.openJob_lasts (signing_lasts c) job he
    rcases hs : e.openJob job with ⟨err | _, e'⟩ <;> rw [hs] at hopen
    · rw [edit_not_opened hs]
      exact ⟨_, hopen, rfl⟩
    · rw [edit_opened hs]
      exact request_sent hopen prompt output

theorem request_spares (hplace : Editor.VideoFree place) (prompt : String) {output : Option FilePath}
    (houtput : ∀ target ∈ output, target.resolve e.disk.home ≠ place) :
    Disk.Spares place e.disk (request p e prompt output).2.disk := by
  have hdisk := e.sendPrompt_disk prompt
  rcases hs : e.sendPrompt prompt with ⟨err | job, e'⟩ <;> rw [hs] at hdisk
  · rw [request_refused hs, ← hdisk]
    exact .refl place e'.disk
  · have hwait := Editor.wait_spares hplace e'
    have hhome : e'.wait.2.disk.home = e.disk.home := hwait.home.trans (congrArg Disk.home hdisk)
    rw [request_waited hs, ← hdisk]
    refine hwait.trans (finished_spares (p.behind e'.wait.2 _ _) _ fun target htarget => ?_)
    have htarget := houtput target htarget
    rwa [← hhome] at htarget

theorem edit_spares (hplace : Editor.VideoFree place) (source : FilePath ⊕ JobId)
    (prompt : String) {output : Option FilePath}
    (houtput : ∀ target ∈ output, target.resolve e.disk.home ≠ place) :
    Disk.Spares place e.disk (edit p e prompt output source).2.disk := by
  cases source with
  | inl file =>
    have hdisk := e.uploadPath_disk file
    rcases hs : e.uploadPath file with ⟨err | job, e'⟩ <;> rw [hs] at hdisk <;> dsimp only at hdisk
    · rw [edit_not_uploaded hs, ← hdisk]
      exact .refl place e'.disk
    · rw [edit_uploaded hs, ← hdisk]
      exact request_spares (e := { e' with session := { e'.session with alerts := [] } }) hplace prompt (hdisk ▸ houtput)
  | inr job =>
    have hdisk := e.openJob_disk job
    rcases hs : e.openJob job with ⟨err | _, e'⟩ <;> rw [hs] at hdisk <;> dsimp only at hdisk
    · rw [edit_not_opened hs, ← hdisk]
      exact .refl place e'.disk
    · rw [edit_opened hs, ← hdisk]
      exact request_spares hplace prompt (hdisk ▸ houtput)

end Edit

theorem saveDownload_spares {place : Location} (p : Progress) {output : FilePath} (bytes : ByteArray)
    (houtput : output.resolve p.disk.home ≠ place) : Disk.Spares place p.disk (saveDownload p output bytes).2.disk := by
  have hparent := (p.disk.ensureParent_furnished output).spares place
  unfold saveDownload
  split <;> rename_i tree htree <;> rw [htree] at hparent
  · exact hparent
  · have hwritten := Disk.write_spares (d := tree) bytes (hparent.home ▸ houtput)
    rcases hwrite : tree.write output bytes with ⟨err | _, disk⟩ <;> rw [hwrite] at hwritten <;>
      exact hparent.trans hwritten

/-- What a task does, from the start. --/
theorem perform_eq (w : World) (s : Settings) (t : TokenStore) (c : Client) (task : Task) :
    perform w s t c task =
      let e := Editor.opened c s.pollPolicy w.disk (s.rendersDir w.home) w.stamp
      match task with
      | .login credentials => login (.start w) c t credentials
      | .register credentials => register (.start w) c credentials
      | .logout => logout (.start w) t
      | .upload file => upload (.start w) e file
      | .edit source prompt output => edit (.start w) e prompt output source
      | .status job => status (.start w) c job
      | .download job output options => download (.start w) c job output options
      | .history json => history (.start w) c json := rfl

/-- The requests of a task, which carry the token or not. --/
theorem perform_sent (w : World) (s : Settings) (t : TokenStore) {c : Client} (hc : c.network = w.network)
    (task : Task) : (perform w s t c task).2.Sent task.signs c := by
  rw [perform_eq]
  cases task with
  | login credentials =>
    obtain ⟨c', hsigning, hnetwork⟩ := c.login_signing credentials
    dsimp only [Task.signs]
    exact ⟨c', hsigning, (login_network _ c t credentials).trans hnetwork⟩
  | register credentials => exact ⟨_, c.register_signing credentials, (register_after _ c credentials).2⟩
  | logout => exact ⟨c, .refl false c, (logout_network _ t).trans hc.symm⟩
  | upload file =>
    exact ⟨_, Editor.uploadPath_lasts (signing_lasts c) file (.refl true c), (upload_after _ _ file).2⟩
  | edit source prompt output => exact edit_sent (.refl true c) source prompt output
  | status job => exact ⟨_, c.status_signing job, (status_after _ c job).2⟩
  | download job output options =>
    exact ⟨_, c.download_signing job (some options), download_network _ c job output options⟩
  | history json => exact ⟨_, c.history_signing, (history_after _ c json).2⟩

/-- A task that neither signs in nor out leaves the file of the token alone. --/
theorem perform_spares (w : World) (s : Settings) (t : TokenStore) (c : Client) {task : Task} {place : Location}
    (hplace : Editor.VideoFree place) (hlogin : ∀ credentials, task ≠ .login credentials) (hlogout : task ≠ .logout)
    (houtput : ∀ target ∈ task.output?, target.resolve w.disk.home ≠ place) :
    Disk.Spares place w.disk (perform w s t c task).2.disk := by
  have hsame {d : Disk} (hd : d = w.disk) : Disk.Spares place w.disk d := hd ▸ .refl place d
  rw [perform_eq]
  cases task with
  | login credentials => exact (hlogin credentials rfl).elim
  | register credentials => exact hsame (register_after _ c credentials).1
  | logout => exact (hlogout rfl).elim
  | upload file =>
    let e := Editor.opened c s.pollPolicy w.disk (s.rendersDir w.home) w.stamp
    exact hsame ((upload_after _ e file).1.trans (e.uploadPath_disk file))
  | edit source prompt output =>
    let e := Editor.opened c s.pollPolicy w.disk (s.rendersDir w.home) w.stamp
    exact edit_spares (e := e) hplace source prompt houtput
  | status job => exact hsame (status_after _ c job).1
  | download job output options =>
    dsimp only [download]
    split
    · exact hsame rfl
    · rename_i bytes c' _
      exact saveDownload_spares { Progress.start w with network := c'.network } bytes (houtput output rfl)
  | history json => exact hsame (history_after _ c json).1

end Command
end Cutroom
