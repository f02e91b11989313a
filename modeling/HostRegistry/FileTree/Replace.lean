import HostRegistry.FileTree

/-!
# Replacing a file as a whole

New contents are written to a temporary file beside the target, which is then renamed over it. The
steps are taken one after the other, and a device may refuse any of them; a temporary file that is
not renamed is removed. `Attempt` keeps every tree that the files went through.
-/

namespace HostRegistry.FileTree

inductive WriteStep
  | directories
  | temporary
  | contents
  | sync
  | rename
deriving DecidableEq, Repr

/-- The error with which a device refuses a step, if it does. -/
abbrev Device := WriteStep → Option FileError

/-- A device that refuses nothing. -/
def soundDevice : Device := fun _ => none

structure Attempt where
  /-- The trees after each change, the latest first. -/
  passed : List FileTree
  final : FileTree
  outcome : Except (WriteStep × FileError) Unit

def totalLength (names : List String) : Nat := names.foldr (fun name n => name.length + n) 0

/-- A name longer than all the given ones, and so none of them. -/
def freshName (taken : List String) : String :=
  ".tmp" ++ String.ofList (List.replicate (totalLength taken) '0')

theorem length_le_totalLength {name : String} {names : List String} (h : name ∈ names) :
    name.length ≤ totalLength names := by
  induction h with
  | head rest => exact Nat.le_add_right ..
  | tail other _ ih => exact Nat.le_trans ih (Nat.le_add_left ..)

theorem freshName_not_mem (taken : List String) : freshName taken ∉ taken := fun h => by
  have hle := length_le_totalLength h
  have hlength : (freshName taken).length = 4 + totalLength taken := by
    simp only [freshName, String.length_append, String.length_ofList, List.length_replicate]
    rfl
  omega

/-- Makes an empty file in a directory, under a name that neither an entry nor the target has, and
tells where. -/
def makeTemporary (t : FileTree) (dir : String) (target : Option String) :
    Except FileError (Location × FileTree) := do
  match ← t.resolve dir with
  | (l, .directory) =>
    let temporary := l ++ [freshName (target.toList ++ t.namesIn l)]
    pure (temporary, t.set temporary (.file []))
  | _ => .error .notDirectory

/-- Removes the temporary file after a failed step. -/
def Attempt.failed (passed : List FileTree) (t : FileTree) (temporary : Location)
    (step : WriteStep) (e : FileError) : Attempt :=
  ⟨t.remove temporary :: passed, t.remove temporary, .error (step, e)⟩

/-- Fills the temporary file and renames it to the path. -/
def fillAndRename (device : Device) (t : FileTree) (passed : List FileTree) (temporary : Location)
    (path : String) (contents : Bytes) : Attempt :=
  match device .contents with
  | some e => .failed passed t temporary .contents e
  | none =>
    let filled := t.set temporary (.file contents)
    match device .sync with
    | some e => .failed (filled :: passed) filled temporary .sync e
    | none =>
      match device .rename with
      | some e => .failed (filled :: passed) filled temporary .rename e
      | none =>
        match filled.rename temporary path with
        | .error e => .failed (filled :: passed) filled temporary .rename e
        | .ok renamed => ⟨renamed :: filled :: passed, renamed, .ok ()⟩

/-- Makes the temporary file in a directory that is there, and goes on with it. -/
def replaceWithin (device : Device) (t : FileTree) (dir path : String) (contents : Bytes) :
    Attempt :=
  match device .temporary with
  | some e => ⟨[t], t, .error (.temporary, e)⟩
  | none =>
    match t.makeTemporary dir (Path.fileName? path) with
    | .error e => ⟨[t], t, .error (.temporary, e)⟩
    | .ok (temporary, made) => fillAndRename device made [made, t] temporary path contents

/-- Replaces the file at the path, with the directory that holds it made first. -/
def replace (device : Device) (t : FileTree) (path : String) (contents : Bytes) : Attempt :=
  let dir := Path.directory path
  match device .directories with
  | some e => ⟨[t], t, .error (.directories, e)⟩
  | none =>
    match t.makeDirectories dir with
    | (.error e, t) => ⟨[t], t, .error (.directories, e)⟩
    | (.ok (), t) => replaceWithin device t dir path contents

end HostRegistry.FileTree
