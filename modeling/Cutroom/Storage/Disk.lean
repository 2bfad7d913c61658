import Cutroom.Storage.FilePath
import Cutroom.Text.Bytes

/-! A disk: a tree of directories and files, with a directory in which relative paths start. Operations
    that change it answer with the whole disk after them, also when they fail, since what they have made stays.
    A change that the tree allows can still be refused or break off: the disk knows beforehand which ones will. -/

namespace Cutroom

/-- Why an operation on the disk fails. --/
inductive DiskError where
  | notFound
  | occupied
  | notDirectory
  | isDirectory
  | nameTooLong
  /-- A path with a zero character. -/
  | zeroCharacter
  /-- A file that is no text. -/
  | notText
  /-- What should be copied is no file. -/
  | notRegular
  /-- No directory of a path exists. -/
  | noTree
  /-- Trouble that does not come of the tree, such as a right that is missing or a disk that is full. -/
  | other (words : String)
deriving DecidableEq

def DiskError.message : DiskError → String
  | notFound => "No such file or directory (os error 2)"
  | occupied => "File exists (os error 17)"
  | notDirectory => "Not a directory (os error 20)"
  | isDirectory => "Is a directory (os error 21)"
  | nameTooLong => "File name too long (os error 36)"
  | zeroCharacter => "file name contained an unexpected NUL byte"
  | notText => "stream did not contain valid UTF-8"
  | notRegular => "the source path is neither a regular file nor a symlink to a regular file"
  | noTree => "failed to create whole tree"
  | other words => words

inductive Node where
  | file (bytes : ByteArray)
  | dir

/-- The names that lead from the root to a file or directory. --/
abbrev Location := List String

/-- What keeps a change from being carried out. --/
structure Trouble where
  words : String
  /-- How many bytes of a file are written all the same; none when it is not touched. -/
  written : Option Nat

/-- The nodes below the root, each at its location, and the location where relative paths start. --/
structure Disk where
  nodes : List (Location × Node)
  home : Location
  /-- What befalls the next changes that the tree allows, one after the other; no trouble befalls later ones. -/
  troubles : List (Option Trouble) := []

namespace Disk

/-- A disk with nothing on it. --/
def empty : Disk := { nodes := [], home := [] }

/-- The longest name and the longest path, in bytes. --/
def nameLimit : Nat := 255

def pathLimit : Nat := 4095

/-- What is at a location. The root is a directory. --/
def node? (d : Disk) (place : Location) : Option Node :=
  if place.isEmpty then some .dir else d.nodes.lookup place

/-- Puts a node at a location, in the place of the one before. --/
def put (d : Disk) (place : Location) (n : Node) : Disk :=
  { d with nodes := (place, n) :: d.nodes.filter fun m => m.1 != place }

def erase (d : Disk) (place : Location) : Disk := { d with nodes := d.nodes.filter fun m => m.1 != place }

/-- Where names lead from a location. All that is passed through has to be a directory. --/
def walk (d : Disk) (place : Location) : List String → Except DiskError Location
  | [] => .ok place
  | name :: rest =>
    match d.node? place with
    | none => .error .notFound
    | some (.file _) => .error .notDirectory
    | some .dir =>
      if name = "." then d.walk place rest
      else if name = ".." then d.walk place.dropLast rest
      else if nameLimit < name.utf8ByteSize then .error .nameTooLong
      else d.walk (place ++ [name]) rest

/-- The location of a path, whether anything is there or not. --/
def locate (d : Disk) (p : FilePath) : Except DiskError Location :=
  if p.text.toList.contains (Char.ofNat 0) then .error .zeroCharacter
  else if p.text.isEmpty then .error .notFound
  else if pathLimit < p.text.utf8ByteSize then .error .nameTooLong
  else d.walk (if p.isAbsolute then [] else d.home) p.parts

/-- What a path leads to. --/
def find (d : Disk) (p : FilePath) : Except DiskError Node :=
  match d.locate p with
  | .error e => .error e
  | .ok place =>
    match d.node? place with
    | none => .error .notFound
    | some (.file bytes) => if p.endsInSlash then .error .notDirectory else .ok (.file bytes)
    | some .dir => .ok .dir

def exists? (d : Disk) (p : FilePath) : Bool := (d.find p).toBool

def isDirectory (d : Disk) (p : FilePath) : Bool :=
  match d.find p with
  | .ok .dir => true
  | _ => false

def read (d : Disk) (p : FilePath) : Except DiskError ByteArray :=
  match d.find p with
  | .error e => .error e
  | .ok (.file bytes) => .ok bytes
  | .ok .dir => .error .isDirectory

def readText (d : Disk) (p : FilePath) : Except DiskError String :=
  match d.read p with
  | .error e => .error e
  | .ok bytes =>
    match Text.utf8? bytes with
    | some text => .ok text
    | none => .error .notText

/-! ### Changes -/

/-- What befalls the next change. --/
def trouble? (d : Disk) : Option Trouble := d.troubles.headD none

/-- The disk when the next change has been tried, but for what it has changed. --/
def tried (d : Disk) : Disk := { d with troubles := d.troubles.drop 1 }

@[simp] theorem home_tried (d : Disk) : d.tried.home = d.home := rfl

@[simp] theorem node?_tried (d : Disk) (place : Location) : d.tried.node? place = d.node? place := rfl

/-- What trouble leaves of a node that was to be put at a location: a file may have been begun. --/
def putPart (d : Disk) (place : Location) (n : Node) (written : Option Nat) : Disk :=
  match n, written with
  | .file bytes, some count => d.put place (.file (bytes.extract 0 count))
  | _, _ => d

/-- Puts a node where the tree allows it. --/
def tryPut (d : Disk) (place : Location) (n : Node) : Except DiskError Unit × Disk :=
  match d.trouble? with
  | none => (.ok (), d.tried.put place n)
  | some trouble => (.error (.other trouble.words), d.tried.putPart place n trouble.written)

/-- Writes a file, which is made if need be; the directory that holds it must be there. --/
def write (d : Disk) (p : FilePath) (bytes : ByteArray) : Except DiskError Unit × Disk :=
  match d.locate p with
  | .error e => (.error e, d)
  | .ok place =>
    match d.node? place with
    | some .dir => (.error .isDirectory, d)
    | some (.file _) => if p.endsInSlash then (.error .notDirectory, d) else d.tryPut place (.file bytes)
    | none => if p.endsInSlash then (.error .isDirectory, d) else d.tryPut place (.file bytes)

/-- Makes one directory. --/
def makeDirectory (d : Disk) (p : FilePath) : Except DiskError Unit × Disk :=
  match d.locate p with
  | .error e => (.error e, d)
  | .ok place =>
    match d.node? place with
    | some _ => (.error .occupied, d)
    | none => d.tryPut place .dir

/-- Makes one directory, unless it is there. --/
def ensureDirectory (d : Disk) (p : FilePath) : Except DiskError Unit × Disk :=
  match d.makeDirectory p with
  | (.error e, d) => (if d.isDirectory p then .ok () else .error e, d)
  | outcome => outcome

/-- Makes a directory and those that hold it, `fuel` of them at most. --/
def ensureTreeFuel (d : Disk) (fuel : Nat) (p : FilePath) : Except DiskError Unit × Disk :=
  if p.text.isEmpty then (.ok (), d)
  else
    match d.ensureDirectory p with
    | (.error .notFound, d) =>
      match fuel, p.parent? with
      | fuel + 1, some up =>
        match d.ensureTreeFuel fuel up with
        | (.ok _, d) => d.ensureDirectory p
        | outcome => outcome
      | _, _ => (.error .noTree, d)
    | outcome => outcome

/-- Makes a directory and all that hold it, where they are missing. --/
def ensureTree (d : Disk) (p : FilePath) : Except DiskError Unit × Disk := d.ensureTreeFuel p.text.length p

/-- Makes the directory that holds a path. --/
def ensureParent (d : Disk) (p : FilePath) : Except DiskError Unit × Disk :=
  match p.parent? with
  | some up => d.ensureTree up
  | none => (.ok (), d)

def remove (d : Disk) (p : FilePath) : Except DiskError Unit × Disk :=
  match d.locate p, d.find p with
  | .ok place, .ok (.file _) =>
    match d.trouble? with
    | none => (.ok (), d.tried.erase place)
    | some trouble => (.error (.other trouble.words), d.tried)
  | _, .ok .dir => (.error .isDirectory, d)
  | .error e, _ => (.error e, d)
  | _, .error e => (.error e, d)

/-- Copies a file. The copy is emptied first, so that a file copied onto itself is lost. --/
def copy (d : Disk) (source target : FilePath) : Except DiskError Unit × Disk :=
  match d.find source with
  | .error e => (.error e, d)
  | .ok .dir => (.error .notRegular, d)
  | .ok (.file _) =>
    match d.write target ByteArray.empty with
    | (.ok _, emptied) =>
      match emptied.read source with
      | .error e => (.error e, emptied)
      | .ok bytes => emptied.write target bytes
    | outcome => outcome

/-- All files with their locations. --/
def files (d : Disk) : List (Location × ByteArray) :=
  d.nodes.filterMap fun m =>
    match m.2 with
    | .file bytes => some (m.1, bytes)
    | .dir => none

end Disk
end Cutroom
