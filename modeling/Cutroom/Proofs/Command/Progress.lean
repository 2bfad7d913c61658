import Cutroom.Command.Run

/-! The steps of an edit on the command line: what each of them has printed and changed (`Command.edit_uploaded`,
    `Command.edit_opened`, `Command.request_waited`). Printing leaves the disk and the network alone, and an editor hands
    over what it has made of both. -/

namespace Cutroom.Command

/-- Lines as they are printed. --/
def printed (lines : List String) : List Char := lines.flatMap fun line => line.toList ++ ['\n']

namespace Progress

variable (p : Progress)

theorem say_eq (line : String) : p.say line = { p with out := p.out ++ printed [line] } := by
  simp [say, printed]

theorem sayAll_eq (lines : List String) : p.sayAll lines = { p with out := p.out ++ printed lines } := by
  induction lines generalizing p with
  | nil => simp [sayAll, printed]
  | cons line lines ih =>
    have hstep : p.sayAll (line :: lines) = (p.say line).sayAll lines := rfl
    rw [hstep, ih]
    simp [say, printed]

/-- The alerts as they are printed. --/
def warned (alerts : List Alert) : List Char := alerts.flatMap fun a => ("Error: " ++ a.message).toList ++ ['\n']

theorem warn_eq (alerts : List Alert) : p.warn alerts = { p with err := p.err ++ warned alerts } := by
  induction alerts generalizing p with
  | nil => simp [warn, warned]
  | cons a alerts ih =>
    have hstep : p.warn (a :: alerts) = { p with err := p.err ++ ("Error: " ++ a.message).toList ++ ['\n'] }.warn alerts :=
      rfl
    rw [hstep, ih]
    simp [warned]

end Progress

/-- A run that has not begun. --/
def Progress.start (w : World) : Progress := ⟨w.disk, w.network, [], []⟩

/-! ### Tasks of one request -/

theorem register_after (p : Progress) (c : Client) (credentials : Credentials) :
    (register p c credentials).2.disk = p.disk ∧
      (register p c credentials).2.network = (c.register credentials).2.network := by
  unfold register
  rcases c.register credentials with ⟨_ | _, c'⟩ <;> exact ⟨rfl, rfl⟩

theorem status_after (p : Progress) (c : Client) (job : JobId) :
    (status p c job).2.disk = p.disk ∧ (status p c job).2.network = (c.status job).2.network := by
  unfold status
  rcases c.status job with ⟨_ | report, c'⟩
  · exact ⟨rfl, rfl⟩
  · simp only [Progress.sayAll_eq]
    exact ⟨rfl, rfl⟩

theorem history_after (p : Progress) (c : Client) (json : Bool) :
    (history p c json).2.disk = p.disk ∧ (history p c json).2.network = c.history.2.network := by
  unfold history
  rcases c.history with ⟨answer, c'⟩
  simp only [Progress.sayAll_eq]
  exact ⟨rfl, rfl⟩

theorem upload_after (p : Progress) (e : Editor Client) (file : FilePath) :
    (upload p e file).2.disk = (e.uploadPath file).2.disk ∧
      (upload p e file).2.network = (e.uploadPath file).2.watch.service.network := by
  unfold upload
  rcases e.uploadPath file with ⟨_ | job, e'⟩
  · simp only [Progress.warn_eq]
    exact ⟨rfl, rfl⟩
  · simp only [Progress.warn_eq, Progress.sayAll_eq]
    exact ⟨rfl, rfl⟩

theorem login_network (p : Progress) (c : Client) (t : TokenStore) (credentials : Credentials) :
    (login p c t credentials).2.network = (c.login credentials).2.network := by
  unfold login
  rcases c.login credentials with ⟨_ | token, c'⟩
  · rfl
  · dsimp only
    split <;> rfl

/-- A login that the service refuses leaves the disk alone. --/
theorem login_refused {p : Progress} {c : Client} {t : TokenStore} {credentials : Credentials} {e : JobError}
    (h : (c.login credentials).1 = .error e) :
    login p c t credentials =
      (.error (.plain e.message), { p with network := (c.login credentials).2.network }) := by
  unfold login
  rcases hs : c.login credentials with ⟨e' | token, c'⟩ <;> rw [hs] at h <;> cases h
  rfl

section Login
variable {p : Progress} {c : Client} {t : TokenStore} {credentials : Credentials} {token : String} {d : Disk}

theorem login_saved (h : (c.login credentials).1 = .ok token) (hsave : t.save token p.disk = (.ok (), d)) :
    login p c t credentials =
      ({ p with disk := d, network := (c.login credentials).2.network }.say ("Logged in as " ++ credentials.email)).done := by
  unfold login
  rcases hs : c.login credentials with ⟨e | token', c'⟩ <;> rw [hs] at h <;> cases h
  simp only [hsave]

theorem login_unsaved {f : Failure} (h : (c.login credentials).1 = .ok token)
    (hsave : t.save token p.disk = (.error f, d)) :
    login p c t credentials =
      (.error (.ofFailure f), { p with disk := d, network := (c.login credentials).2.network }) := by
  unfold login
  rcases hs : c.login credentials with ⟨e | token', c'⟩ <;> rw [hs] at h <;> cases h
  simp only [hsave, Progress.fail]

end Login

section Logout
variable {t : TokenStore} {d : Disk}

theorem logout_failed (p : Progress) {f : Failure} (h : t.clear p.disk = (.error f, d)) :
    logout p t = (.error (.ofFailure f), { p with disk := d }) := by
  simp only [logout, h, Progress.fail]

theorem logout_idle (p : Progress) (h : t.clear p.disk = (.ok false, d)) :
    logout p t = (.ok (), { p with disk := d, out := p.out ++ "Not logged in\n".toList }) := by
  simp [logout, h, Progress.say, Progress.done]

theorem logout_done (p : Progress) (h : t.clear p.disk = (.ok true, d)) :
    logout p t = (.ok (), { p with disk := d, out := p.out ++ "Logged out\n".toList }) := by
  simp [logout, h, Progress.say, Progress.done]

end Logout

theorem logout_network (p : Progress) (t : TokenStore) : (logout p t).2.network = p.network := by
  unfold logout
  split <;> rfl

theorem saveDownload_network (p : Progress) (output : FilePath) (bytes : ByteArray) :
    (saveDownload p output bytes).2.network = p.network := by
  unfold saveDownload
  split
  · rfl
  · split <;> rfl

theorem download_network (p : Progress) (c : Client) (job : JobId) (output : FilePath) (options : ExportOptions) :
    (download p c job output options).2.network = (c.download job (some options)).2.network := by
  unfold download
  rcases c.download job (some options) with ⟨_ | bytes, c'⟩
  · rfl
  · exact saveDownload_network { p with network := c'.network } output bytes

/-! ### An edit -/

variable {p : Progress} {e e' : Editor Client} {prompt : String} {output : Option FilePath} {job : JobId}

/-- A run behind the work of an editor, with what it has printed since. --/
def Progress.behind (p : Progress) (e : Editor Client) (lines : List String) (alerts : List Alert) : Progress where
  disk := e.disk
  network := e.watch.service.network
  out := p.out ++ printed lines
  err := p.err ++ Progress.warned alerts

/-- The end of an edit: a stored video is copied to where the user wants it. --/
def finished (p : Progress) (output : Option FilePath) : Option VideoSource → Outcome
  | some (.file render) => saveRender p render output
  | _ => p.done

/-- What is said about replies once a prompt was sent. --/
def waitLines (e : Editor Client) (skipped : Nat) : List String :=
  "Prompt sent, waiting for the job to finish..." :: replyLines e.session.chat skipped

theorem request_refused {err : SessionError} (h : e.sendPrompt prompt = (.error err, e')) :
    request p e prompt output =
      (.error (.plain err.message),
        p.behind e' (replyLines e'.session.chat (e.session.chat.count .assistant)) []) := by
  simp [request, h, Progress.sayAll_eq, Progress.keep, Progress.fail, Progress.behind, Progress.warned]

theorem request_waited (h : e.sendPrompt prompt = (.ok job, e')) :
    request p e prompt output =
      finished
        (p.behind e'.wait.2 (waitLines e'.wait.2 (e.session.chat.count .assistant)) e'.wait.2.session.alerts) output
        e'.wait.2.session.source := by
  simp only [request, h, Progress.sayAll_eq, Progress.warn_eq, Progress.keep, Progress.behind, waitLines]
  rfl

/-- The line about a finished upload. --/
def uploadedLine (file : FilePath) (job : JobId) : String := "Uploaded " ++ Text.quoted file.text ++ " as job " ++ job.text

theorem edit_not_uploaded {file : FilePath} {err : SessionError} (h : e.uploadPath file = (.error err, e')) :
    edit p e prompt output (.inl file) = (.error (.plain err.message), p.behind e' [] e'.session.alerts) := by
  simp [edit, h, Progress.warn_eq, Progress.keep, Progress.fail, Progress.behind, printed]

theorem edit_uploaded {file : FilePath} (h : e.uploadPath file = (.ok job, e')) :
    edit p e prompt output (.inl file) =
      request (p.behind e' [uploadedLine file job] e'.session.alerts)
        { e' with session := { e'.session with alerts := [] } } prompt output := by
  simp [edit, h, Progress.warn_eq, Progress.keep, Progress.say, Progress.behind, printed, uploadedLine]

theorem edit_not_opened {err : SessionError} (h : e.openJob job = (.error err, e')) :
    edit p e prompt output (.inr job) = (.error (.during "opening job" err.message), p.behind e' [] []) := by
  simp [edit, h, Progress.keep, Progress.fail, Progress.behind, Progress.warned, printed]

theorem edit_opened (h : e.openJob job = (.ok (), e')) :
    edit p e prompt output (.inr job) = request p e' prompt output := by
  simp only [edit, h]

end Cutroom.Command
