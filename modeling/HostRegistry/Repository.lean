import HostRegistry.FileTree.Replace
import HostRegistry.Json.Registry
import HostRegistry.Registry
import HostRegistry.Repository.Debounce
import HostRegistry.Settings

/-!
# The repository file

A repository keeps a registry in one file and remembers the contents that it last wrote or read
there. When it watches, one registry follows the file: contents that differ from the remembered ones
came from outside and are published there, while its own are never echoed. Registries are known by
names of any type `ι`.
-/

namespace HostRegistry

/-- A watch on the entry of the repository file in its directory. -/
structure Watch (ι : Type) where
  follower : ι
  entry : Option Location
  /-- How many changes of the file tree have been seen. -/
  seen : Nat
  loop : Debounce.State

inductive WatchState (ι : Type)
  | idle
  | watching (watch : Watch ι)
  | closed

inductive RepositoryError
  | files (path : String) (cause : FileError)
  | corrupt (path : String) (fault : Json.Fault)
  | invalid (path : String) (cause : Record.Invalid)
  | replacing (path : String) (cause : FileError)
  | watch (cause : FileError)
deriving DecidableEq, Repr

def RepositoryError.message : RepositoryError → String
  | .files path cause => s!"I/O error on {path}: {cause.message}"
  | .corrupt path fault => s!"Corrupt repository file {path}: {fault.message}"
  | .invalid path cause => s!"Invalid repository file {path}: {cause.message}"
  | .replacing path cause =>
    s!"Failed to replace {path}: failed to persist temporary file: {cause.message}"
  | .watch cause => s!"File watch error: {cause.message}"

/-- Reads the contents stored at a path, `none` if there is no file. -/
def FileTree.readSnapshot (t : FileTree) (path : String) :
    Except RepositoryError (Option Snapshot) :=
  match t.read path with
  | .error .notFound => .ok none
  | .error e => .error (.files path e)
  | .ok bytes =>
    match Record.ofBytes bytes with
    | .error fault => .error (.corrupt path fault)
    | .ok record =>
      match record.toSnapshot with
      | .error cause => .error (.invalid path cause)
      | .ok contents => .ok (some contents)

/-- Stores contents at a path, in place of what was there. -/
def FileTree.writeSnapshot (device : FileTree.Device) (t : FileTree) (path : String)
    (contents : Snapshot) : Except RepositoryError Unit × FileTree :=
  let attempt := t.replace device path (Record.ofSnapshot contents).toBytes
  match attempt.outcome with
  | .ok () => (.ok (), attempt.final)
  | .error (.rename, e) => (.error (.replacing path e), attempt.final)
  | .error (_, e) => (.error (.files (Path.directory path) e), attempt.final)

structure Repository (ι : Type) where
  settings : RepositorySettings
  /-- The contents last written to or read from the file. -/
  synced : Option Snapshot
  watch : WatchState ι

namespace Repository

variable {ι : Type}

def new (settings : RepositorySettings) : Repository ι := ⟨settings, none, .idle⟩

def path (r : Repository ι) : String := r.settings.filePath

/-- The registry that follows the file. -/
def follower? (r : Repository ι) : Option ι :=
  match r.watch with
  | .watching watch => some watch.follower
  | _ => none

end Repository

/-- A repository with the files that it works on and the journal so far. -/
structure Store (ι : Type) where
  repository : Repository ι
  files : FileTree
  device : FileTree.Device
  journal : List Event

namespace Store

variable {ι : Type}

def note (st : Store ι) (e : Event) : Store ι := { st with journal := st.journal ++ [e] }

def setSynced (st : Store ι) (synced : Option Snapshot) : Store ι :=
  { st with repository := { st.repository with synced } }

def setWatch (st : Store ι) (watch : WatchState ι) : Store ι :=
  { st with repository := { st.repository with watch } }

/-- Writes the contents of a registry to the file. -/
def persist (st : Store ι) (contents : Snapshot) : Except RepositoryError Unit × Store ι :=
  let (outcome, files) := st.files.writeSnapshot st.device st.repository.path contents
  let st := { st with files }.note (.persisted outcome.isOk)
  match outcome with
  | .ok () => (.ok (), st.setSynced (some contents))
  | .error e => (.error e, st)

/-- Ends a watch, if there is one, and leaves the given state behind. -/
def stopWatching (st : Store ι) (next : WatchState ι) : Store ι :=
  match st.repository.watch with
  | .watching _ => (st.setWatch next).note (.watchStopped st.repository.path)
  | _ => st.setWatch next

/-- Watches the directory of the file; the file is due for a first look at once. -/
def watchDirectory (st : Store ι) (follower : ι) : Except RepositoryError Unit × Store ι :=
  match st.files.resolve (Path.directory st.repository.path) with
  | .error e => (.error (.watch e), st)
  | .ok (dir, _) =>
    let entry := (Path.fileName? st.repository.path).map fun name => dir ++ [name]
    let watch := ⟨follower, entry, st.files.notices.length, .settling⟩
    (.ok (), (st.setWatch (.watching watch)).note (.watchStarted st.repository.path))

/-- Lets a registry follow the file in place of the one that does now. A closed repository watches
nothing any more. -/
def startWatching (st : Store ι) (follower : ι) : Except RepositoryError Unit × Store ι :=
  match st.repository.watch with
  | .closed => (.ok (), st)
  | _ =>
    let dir := st.repository.settings.dir
    match st.files.makeDirectories dir with
    | (.error e, files) => (.error (.files dir e), { st with files })
    | (.ok (), files) => ({ st with files }.stopWatching .idle).watchDirectory follower

/-- Reads the file, which may be missing, and remembers what it holds. -/
def fetch (st : Store ι) : Except RepositoryError Snapshot × Store ι :=
  match st.files.readSnapshot st.repository.path with
  | .error e => (.error e, st)
  | .ok stored =>
    let contents := stored.getD .empty
    (.ok contents,
      (st.setSynced stored).note (.loaded st.repository.path stored.isSome contents))

/-- Reads the registry from the file; if watching is enabled, the registry of the given name is the
one that follows the file from now on. -/
def load (st : Store ι) (name : ι) : Except RepositoryError Snapshot × Store ι :=
  match st.fetch with
  | (.error e, st) => (.error e, st)
  | (.ok contents, st) =>
    if st.repository.settings.watcherEnabled then
      match st.startWatching name with
      | (.error e, st) => (.error e, st)
      | (.ok (), st) => (.ok contents, st)
    else (.ok contents, st)

/-- Removes the file and forgets its contents. -/
def clean (st : Store ι) : Except RepositoryError Unit × Store ι :=
  match st.files.unlink st.repository.path with
  | .ok files => (.ok (), { st with files }.setSynced none)
  | .error .notFound => (.ok (), st.setSynced none)
  | .error e => (.error (.files st.repository.path e), st)

def close (st : Store ι) : Store ι := st.stopWatching .closed

/-! ## Following the file -/

/-- Looks at the file again and publishes contents that came from outside. Tells whether it did. -/
def publishIfChanged {σ : Type} (st : Store ι) (w : Session σ) : Bool × Session σ × Store ι :=
  match st.files.readSnapshot st.repository.path with
  | .error _ => (false, w, st.note .rereadFailed)
  | .ok none => (false, w, st)
  | .ok (some contents) =>
    if st.repository.synced = some contents then (false, w, st)
    else if w.contents = contents then (false, w, st.setSynced (some contents))
    else (true, w.publish contents, st.setSynced (some contents))

/-- One look at the file on behalf of the registry that follows it. -/
def refresh {σ : Type} (depth : Nat) (st : Store ι) (w : Session σ) :
    Option (Session σ) × Store ι :=
  match st.publishIfChanged w with
  | (true, w, st) => (w.notify depth, st)
  | (false, w, st) => (some w, st)

/-- Takes in the changes of the files since the last time, then a quiet period. Gives the registry
for which the file is due to be looked at. -/
def settle (st : Store ι) : Option ι × Store ι :=
  match st.repository.watch with
  | .watching watch =>
    let changes := (st.files.notices.drop watch.seen).filter fun l => some l = watch.entry
    let burst := watch.loop.after (changes.map fun _ => .changed)
    let (loop, look) := burst.step .quiet
    let st := st.setWatch (.watching { watch with seen := st.files.notices.length, loop })
    (if look then some watch.follower else none, st)
  | _ => (none, st)

end Store

end HostRegistry
