import Cutroom.Command.Run

/-! What a run needs from the world, as far as the world is known: the paths that it looks at, and
    how it waits for a job. -/

namespace Cutroom.Command

structure Needs where
  paths : List FilePath
  policy : PollPolicy

namespace Task

/-- The paths that a task names. --/
def paths : Task → List FilePath
  | .upload file => [file]
  | .edit (.inl file) _ output => file :: output.toList
  | .edit (.inr _) _ output => output.toList
  | .download _ output _ => [output]
  | .login _ | .register _ | .logout | .status _ | .history _ => []

end Task

/-- The needs of a run. Before its settings are known these are only the file that holds them. --/
def needs (w : World) (args : List String) : Needs :=
  match read args with
  | .error _ => ⟨[], .standard⟩
  | .ok i =>
    let config := i.config.getD (w.home.child Settings.fileName)
    match settings w i with
    | .error _ => ⟨[config], .standard⟩
    | .ok s =>
      ⟨[config, s.tokenPath w.home, s.rendersDir w.home] ++ i.task.paths, s.pollPolicy⟩

end Cutroom.Command
