import HostRegistry.Service.Run

/-!
# The program

Reads the variables and files that a run of the service looks at, performs the run, writes the lines
that it reports and ends with its exit code.
-/

namespace HostRegistry.Program

/-- The variables that a run looks at. -/
def variableNames : List String :=
  ["ROUTER_REPOSITORY_DIR", "CONFIG_FILE_WATCHER_ENABLED", "CONFIG_FILE_WATCHER_INTERVAL",
    "ROUTER_BIND_ADDRESS", "ROUTER_LOG_LEVEL", "RUST_LOG"]

def readEnvironment : IO Environment := do
  let values ← variableNames.mapM fun name => do pure (name, ← IO.getEnv name)
  pure fun name => (values.lookup name).join

/-- Puts the file at a path, if it can be read, at the same path of the tree. -/
def addFile (files : FileTree) (path : String) : IO FileTree := do
  match ← (IO.FS.readBinFile path).toBaseIO with
  | .ok contents => pure (files.replace FileTree.soundDevice path contents.data.toList).final
  | .error _ => pure files

/-- The settings file and the repository file, as far as they are there. -/
def readFiles (args : List String) (environment : Environment) : IO FileTree := do
  match Run.configPath args with
  | .error _ => pure .empty
  | .ok path =>
    let files ← match path with
      | some path => addFile .empty path
      | none => pure .empty
    match Settings.effective files path environment with
    | .error _ => pure files
    | .ok settings => addFile files settings.repository.filePath

def run (args : List String) : IO UInt32 := do
  let environment ← readEnvironment
  let files ← readFiles args environment
  let result := Run.run ⟨files, environment, ⟨[], 0⟩⟩ args
  for line in result.lines do
    IO.println line.text
  pure result.outcome.exitCode.toUInt32

end HostRegistry.Program

def main (args : List String) : IO UInt32 := HostRegistry.Program.run args
