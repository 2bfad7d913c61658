import Cutroom.Storage.Disk

/-! Working on part of a disk: the locations that have to be looked at before a path can be followed, and the
    changes that have to be carried out afterwards. -/

namespace Cutroom

namespace Location

/-- The locations that names pass on their way from a location, both ends counted. --/
def passed (place : Location) : List String → List Location
  | [] => [place]
  | name :: rest =>
    if name = "." then passed place rest
    else place :: passed (if name = ".." then place.dropLast else place ++ [name]) rest

def text (place : Location) : String := "/" ++ String.intercalate "/" place

end Location

/-- The locations that a path passes. --/
def FilePath.passed (home : Location) (p : FilePath) : List Location :=
  Location.passed (if p.isAbsolute then [] else home) p.parts

inductive Change where
  | makeDirectory (place : Location)
  | write (place : Location) (bytes : ByteArray)
  | remove (place : Location)

namespace Disk

/-- The change that puts a node on a disk, none where it is there already. --/
def changeTo (d : Disk) (place : Location) (n : Node) : Option Change :=
  match n, d.node? place with
  | .dir, some .dir => none
  | .dir, _ => some (.makeDirectory place)
  | .file bytes, some (.file old) => if bytes == old then none else some (.write place bytes)
  | .file bytes, _ => some (.write place bytes)

/-- The changes that lead to a disk that came of this one; a directory is made before what it holds. --/
def changes (d after : Disk) : List Change :=
  (d.nodes.filterMap fun m => if (after.node? m.1).isNone then some (.remove m.1) else none) ++
    after.nodes.reverse.filterMap fun m => d.changeTo m.1 m.2

end Disk
end Cutroom
