import Cutroom.Storage.Failure
import Cutroom.Text.Letter

/-! The token that signs the user in, kept in a file between runs. -/

namespace Cutroom

/-- The file of the token. --/
structure TokenStore where
  path : FilePath

namespace TokenStore

/-- The stored token, without white space around it; a blank one counts as none. --/
def load (t : TokenStore) (d : Disk) : Except Failure (Option String) :=
  if d.exists? t.path then
    match d.readText t.path with
    | .error e => .error (.during .reading t.path e)
    | .ok text =>
      let token := Text.trim text
      .ok (if token.isEmpty then none else some token)
  else .ok none

/-- Writes the token to its file, together with the directories that hold it. --/
def save (t : TokenStore) (token : String) (d : Disk) : Except Failure Unit × Disk :=
  match d.ensureParent t.path with
  | (.error e, d) => (.error (.bare e), d)
  | (.ok _, d) =>
    match d.write t.path token.toUTF8 with
    | (.error e, d) => (.error (.during .writing t.path e), d)
    | (.ok _, d) => (.ok (), d)

/-- Removes the file of the token, and tells whether there was one. --/
def clear (t : TokenStore) (d : Disk) : Except Failure Bool × Disk :=
  if d.exists? t.path then
    match d.remove t.path with
    | (.error e, d) => (.error (.during .removing t.path e), d)
    | (.ok _, d) => (.ok true, d)
  else (.ok false, d)

end TokenStore
end Cutroom
