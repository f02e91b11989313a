import HostRegistry.Proofs.FileTree.Above
import HostRegistry.Proofs.Storage

/-!
# What each operation of a repository does

Persisting replaces the file and remembers the contents if that succeeds; cleaning removes the file
and forgets; a look at the file changes no file. What can be said of runs is said from these facts.
-/

namespace HostRegistry

/-! ## Writing -/

theorem FileTree.writeSnapshot_snd (device : FileTree.Device) (t : FileTree) (path : String)
    (contents : Snapshot) :
    (t.writeSnapshot device path contents).2 =
      (t.replace device path (Record.ofSnapshot contents).toBytes).final := by
  unfold writeSnapshot
  simp only
  split <;> rfl

theorem FileTree.writeSnapshot_fst (device : FileTree.Device) (t : FileTree) (path : String)
    (contents : Snapshot) :
    ((t.writeSnapshot device path contents).1 = .ok () ∧
      (t.replace device path (Record.ofSnapshot contents).toBytes).outcome = .ok ()) ∨
    ∃ e cause, (t.writeSnapshot device path contents).1 = .error e ∧
      (t.replace device path (Record.ofSnapshot contents).toBytes).outcome = .error cause := by
  unfold writeSnapshot
  simp only
  split
  next hok => exact .inl ⟨rfl, hok⟩
  next e he => exact .inr ⟨_, _, rfl, he⟩
  next step e he => exact .inr ⟨_, _, rfl, he⟩

namespace Store

variable {ι : Type}

theorem persist_files (st : Store ι) (contents : Snapshot) :
    (st.persist contents).2.files = (st.files.replace st.device st.repository.path
      (Record.ofSnapshot contents).toBytes).final := by
  rw [← FileTree.writeSnapshot_snd]
  unfold persist
  generalize st.files.writeSnapshot st.device st.repository.path contents = written
  obtain ⟨outcome, files⟩ := written
  cases outcome <;> rfl

/-- Persisting succeeds and remembers the contents when the file was replaced, and otherwise leaves
the repository as it was. -/
theorem persist_cases (st : Store ι) (contents : Snapshot) :
    ((st.persist contents).1 = .ok () ∧
      (st.files.replace st.device st.repository.path (Record.ofSnapshot contents).toBytes).outcome =
        .ok () ∧
      (st.persist contents).2.repository = { st.repository with synced := some contents }) ∨
    ∃ e cause, (st.persist contents).1 = .error e ∧
      (st.files.replace st.device st.repository.path (Record.ofSnapshot contents).toBytes).outcome =
        .error cause ∧
      (st.persist contents).2.repository = st.repository := by
  have hwrite := st.files.writeSnapshot_fst st.device st.repository.path contents
  unfold persist
  generalize st.files.writeSnapshot st.device st.repository.path contents = written at hwrite ⊢
  obtain ⟨outcome, files⟩ := written
  rcases hwrite with ⟨rfl, hok⟩ | ⟨e, cause, rfl, herror⟩
  · exact .inl ⟨rfl, hok, rfl⟩
  · exact .inr ⟨e, cause, rfl, herror, rfl⟩

theorem persist_ok {st : Store ι} {contents : Snapshot}
    (h : (st.persist contents).1 = .ok ()) :
    (st.files.replace st.device st.repository.path (Record.ofSnapshot contents).toBytes).outcome =
      .ok () ∧
    (st.persist contents).2.repository = { st.repository with synced := some contents } := by
  rcases st.persist_cases contents with ⟨-, houtcome, hrepository⟩ | ⟨e, _, herror, -⟩
  · exact ⟨houtcome, hrepository⟩
  · cases h.symm.trans herror

/-- The file that was written is read as what was written, unless the path named a link to a
directory or a circle of links. -/
theorem read_of_persist {st : Store ι} {contents : Snapshot}
    (h : (st.persist contents).1 = .ok ()) :
    (st.persist contents).2.files.read st.repository.path =
        .ok (Record.ofSnapshot contents).toBytes ∨
      (st.persist contents).2.files.place false st.repository.path = .error .notDirectory ∧
      (st.persist contents).2.files.read st.repository.path = .error .notDirectory ∧
      (st.files.makeDirectories (Path.directory st.repository.path)).2.Misled
        st.repository.path := by
  rw [persist_files]
  exact FileTree.read_of_replace_ok (persist_ok h).1

/-! ## Cleaning -/

theorem read_of_unlink_notFound {t : FileTree} {path : String}
    (h : t.unlink path = .error .notFound) : t.read path = .error .notFound := by
  rw [FileTree.unlink] at h
  cases hplace : t.place false path with
  | error e =>
    rw [hplace] at h
    cases h
    exact FileTree.read_of_place_error (FileTree.place_true_of_error hplace)
  | ok place =>
    rw [hplace] at h
    cases place with
    | directory l => cases h
    | entry dir name slash =>
      simp only [bind, Except.bind] at h
      split at h
      next hnone =>
        have hlink : ∀ target, t.node? (dir ++ [name]) ≠ some (.link target) :=
          fun _ hlink => by cases hnone.symm.trans hlink
        rw [FileTree.read_of_place (FileTree.place_true_of_entry hplace hlink), FileTree.readAt,
          hnone]
      · cases h
      · split at h <;> cases h

/-- Cleaning removes the file, or finds none, and forgets; or it fails and changes nothing. -/
theorem clean_cases (st : Store ι) :
    (∃ files, st.files.unlink st.repository.path = .ok files ∧
      st.clean = (.ok (), { st with files }.setSynced none)) ∨
    (st.files.read st.repository.path = .error .notFound ∧
      st.clean = (.ok (), st.setSynced none)) ∨
    ∃ e, st.clean = (.error e, st) := by
  unfold clean
  split
  next files hfiles => exact .inl ⟨files, hfiles, rfl⟩
  next hnone => exact .inr (.inl ⟨read_of_unlink_notFound hnone, rfl⟩)
  next e _ => exact .inr (.inr ⟨_, rfl⟩)

/-! ## Looking at the file -/

/-- A look publishes contents of the file that are neither remembered nor live. It remembers them
then, and also if they are live; otherwise only the journal may change. -/
theorem publishIfChanged_cases {σ : Type} (st : Store ι) (w : Session σ) :
    (∃ contents, st.files.readSnapshot st.repository.path = .ok (some contents) ∧
      st.repository.synced ≠ some contents ∧ w.contents ≠ contents ∧
      st.publishIfChanged w = (true, w.publish contents, st.setSynced (some contents))) ∨
    (∃ contents, st.files.readSnapshot st.repository.path = .ok (some contents) ∧
      w.contents = contents ∧
      st.publishIfChanged w = (false, w, st.setSynced (some contents))) ∨
    ((∀ contents, st.files.readSnapshot st.repository.path = .ok (some contents) →
        st.repository.synced = some contents) ∧
      (st.publishIfChanged w = (false, w, st) ∨
        st.publishIfChanged w = (false, w, st.note .rereadFailed))) := by
  unfold publishIfChanged
  split
  next hread => exact .inr (.inr ⟨fun _ h => (by cases hread.symm.trans h), .inr rfl⟩)
  next hread => exact .inr (.inr ⟨fun _ h => (by cases hread.symm.trans h), .inl rfl⟩)
  next contents hread =>
    split
    next hsynced =>
      refine .inr (.inr ⟨fun _ h => ?_, .inl rfl⟩)
      cases hread.symm.trans h
      exact hsynced
    next hsynced =>
      split
      next hlive => exact .inr (.inl ⟨contents, hread, hlive, rfl⟩)
      next hlive => exact .inl ⟨contents, hread, hsynced, hlive, rfl⟩

end Store

/-! ## Loading -/

/-- The repository when a registry has just begun to follow its file in a directory: the changes so
far are taken in, and the file is to come to rest. -/
def Repository.followedBy {ι : Type} (r : Repository ι) (follower : ι) (l : Location)
    (taken : Nat) : Repository ι :=
  let entry := (Path.fileName? r.path).map fun name => l ++ [name]
  { r with watch := .watching ⟨follower, entry, taken, .settling⟩ }

namespace Store

variable {ι : Type}

/-- Fetching remembers what the file holds; it fails exactly when the file cannot be read. -/
theorem fetch_cases (st : Store ι) :
    (∃ e, st.files.readSnapshot st.repository.path = .error e ∧ st.fetch = (.error e, st)) ∨
    ∃ stored fetched, st.files.readSnapshot st.repository.path = .ok stored ∧
      st.fetch = (.ok (stored.getD .empty), fetched) ∧
      fetched.repository = { st.repository with synced := stored } ∧ fetched.files = st.files := by
  unfold fetch
  split
  next e he => exact .inl ⟨e, he, rfl⟩
  next stored hstored => exact .inr ⟨stored, _, hstored, rfl, rfl, rfl⟩

theorem stopWatching_files (st : Store ι) (next : WatchState ι) :
    (st.stopWatching next).files = st.files ∧
      (st.stopWatching next).repository = { st.repository with watch := next } := by
  unfold stopWatching
  split
  · rw [note, setWatch]
    exact ⟨rfl, rfl⟩
  · rw [setWatch]
    exact ⟨rfl, rfl⟩

theorem watchDirectory_eq_ok {st st' : Store ι} {name : ι}
    (h : st.watchDirectory name = (.ok (), st')) :
    ∃ l node, st.files.resolve (Path.directory st.repository.path) = .ok (l, node) ∧
      st'.files = st.files ∧
      st'.repository = st.repository.followedBy name l st'.files.notices.length := by
  unfold watchDirectory at h
  generalize hdir : st.files.resolve (Path.directory st.repository.path) = dir at h
  cases dir with
  | error e => cases h
  | ok found =>
    obtain ⟨l, node⟩ := found
    cases h
    exact ⟨l, node, rfl, rfl, rfl⟩

/-- Following starts in the directory of the file, with the one of the settings made. -/
theorem startWatching_eq_ok {st st' : Store ι} {name : ι} (hopen : st.repository.watch ≠ .closed)
    (h : st.startWatching name = (.ok (), st')) :
    st.files.makeDirectories st.repository.settings.dir = (.ok (), st'.files) ∧
    ∃ l node, st'.files.resolve (Path.directory st.repository.path) = .ok (l, node) ∧
      st'.repository = st.repository.followedBy name l st'.files.notices.length := by
  unfold startWatching at h
  split at h
  next hclosed => exact (hopen hclosed).elim
  next =>
    simp only at h
    generalize st.files.makeDirectories st.repository.settings.dir = made at h ⊢
    obtain ⟨outcome, files⟩ := made
    cases outcome with
    | error e => cases h
    | ok _ =>
      obtain ⟨hfiles, hrepository⟩ := stopWatching_files { st with files } .idle
      obtain ⟨l, node, hfound, hfiles', hfollowed⟩ := watchDirectory_eq_ok h
      rw [hrepository] at hfound hfollowed
      rw [hfiles] at hfound hfiles'
      rw [hfiles'] at hfollowed ⊢
      exact ⟨rfl, l, node, hfound, hfollowed⟩

/-- A load gives what the file holds, or nothing if there is no file. -/
theorem readSnapshot_of_load {st st' : Store ι} {name : ι} {contents : Snapshot}
    (h : st.load name = (.ok contents, st')) :
    ∃ stored, st.files.readSnapshot st.repository.path = .ok stored ∧
      contents = stored.getD .empty := by
  unfold load at h
  rcases st.fetch_cases with ⟨e, -, hfetch⟩ | ⟨stored, fetched, hread, hfetch, -, -⟩
  · rw [hfetch] at h
    cases h
  rw [hfetch] at h
  refine ⟨stored, hread, ?_⟩
  simp only at h
  split at h
  · split at h <;> cases h
    rfl
  · cases h
    rfl

/-- A load that starts following has read the file, and made and found directories after that. -/
theorem load_eq_ok {st st' : Store ι} {name : ι} {contents : Snapshot}
    (henabled : st.repository.settings.watcherEnabled = true)
    (hopen : st.repository.watch ≠ .closed) (h : st.load name = (.ok contents, st')) :
    ∃ stored l node, st.files.readSnapshot st.repository.path = .ok stored ∧
      contents = stored.getD .empty ∧
      st.files.makeDirectories st.repository.settings.dir = (.ok (), st'.files) ∧
      st'.files.resolve (Path.directory st.repository.path) = .ok (l, node) ∧
      st'.repository =
        { st.repository with synced := stored }.followedBy name l st'.files.notices.length := by
  unfold load at h
  rcases st.fetch_cases with ⟨e, -, hfetch⟩ | ⟨stored, fetched, hread, hfetch, hrepository, hfiles⟩
  · rw [hfetch] at h
    cases h
  rw [hfetch] at h
  simp only [hrepository, henabled, if_true] at h
  split at h
  · cases h
  next followed hfollow =>
    cases h
    have hopen' : fetched.repository.watch ≠ .closed := by
      rw [hrepository]
      exact hopen
    obtain ⟨hmade, l, node, hfound, hfollowed⟩ := startWatching_eq_ok hopen' hfollow
    rw [hfiles, hrepository] at hmade
    rw [hrepository] at hfound hfollowed
    exact ⟨stored, l, node, hread, rfl, hmade, hfound, hfollowed⟩

theorem watchDirectory_of_resolve {st : Store ι} {found : Location × Node}
    (h : st.files.resolve (Path.directory st.repository.path) = .ok found) (name : ι) :
    (st.watchDirectory name).1 = .ok () := by
  unfold watchDirectory
  rw [h]

/-- Following starts once the directory of the settings is made, if the one of the file is there. -/
theorem startWatching_of_made {st : Store ι} {files : FileTree} {found : Location × Node}
    (hmade : st.files.makeDirectories st.repository.settings.dir = (.ok (), files))
    (hfound : files.resolve (Path.directory st.repository.path) = .ok found) (name : ι) :
    (st.startWatching name).1 = .ok () := by
  unfold startWatching
  split
  · rfl
  · obtain ⟨hfiles, hrepository⟩ := stopWatching_files { st with files } .idle
    simp only [hmade]
    apply watchDirectory_of_resolve
    rw [hfiles, hrepository]
    exact hfound

/-- Where the directory of the settings cannot be made, following fails with the same cause. -/
theorem startWatching_of_unmade {st : Store ι} {files : FileTree} {cause : FileError}
    (hopen : st.repository.watch ≠ .closed)
    (hmade : st.files.makeDirectories st.repository.settings.dir = (.error cause, files))
    (name : ι) :
    (st.startWatching name).1 = .error (.files st.repository.settings.dir cause) := by
  unfold startWatching
  split
  next hclosed => exact (hopen hclosed).elim
  next => simp only [hmade]

/-- Where the file can be read, its directory can be watched, so following fails only if the
directory of the settings cannot be made. -/
theorem startWatching_of_read {st : Store ι} {bytes : Bytes}
    (hread : st.files.read st.repository.path = .ok bytes) (name : ι) :
    (st.startWatching name).1 = .ok () ∨
      ∃ cause, (st.files.makeDirectories st.repository.settings.dir).1 = .error cause ∧
        (st.startWatching name).1 = .error (.files st.repository.settings.dir cause) := by
  by_cases hclosed : st.repository.watch = .closed
  · left
    unfold startWatching
    rw [hclosed]
  have hgrows := FileTree.grows_makeDirectories st.files st.repository.settings.dir
  obtain ⟨⟨outcome, files⟩, hmade⟩ :
      ∃ made, st.files.makeDirectories st.repository.settings.dir = made := ⟨_, rfl⟩
  rw [hmade] at hgrows ⊢
  cases outcome with
  | error cause => exact .inr ⟨cause, rfl, startWatching_of_unmade hclosed hmade name⟩
  | ok _ =>
    have hread' : files.read st.repository.path = .ok bytes :=
      ((hgrows.read_or _).resolve_left fun hnone => by cases hread.symm.trans hnone).trans hread
    obtain ⟨l, hfound⟩ := FileTree.resolve_directory hread'
    exact .inl (startWatching_of_made hmade hfound name)

/-- A load gives what the file holds. If it watches, the directory of its settings may fail to be
made, but not for a file with a plain name. -/
theorem load_of_readSnapshot {st : Store ι} {contents : Snapshot}
    (hread : st.files.readSnapshot st.repository.path = .ok (some contents)) (name : ι) :
    (st.load name).1 = .ok contents ∨
      st.repository.settings.watcherEnabled = true ∧
      Settings.isPlainName st.repository.settings.fileName = false ∧
      ∃ cause, (st.load name).1 = .error (.files st.repository.settings.dir cause) := by
  obtain ⟨bytes, -, hbytes, -⟩ := FileTree.readSnapshot_eq_ok_some_iff.1 hread
  unfold load
  rcases st.fetch_cases with
    ⟨e, herror, -⟩ | ⟨stored, fetched, hstored, hfetch, hrepository, hfiles⟩
  · cases hread.symm.trans herror
  cases hread.symm.trans hstored
  rw [hfetch]
  simp only [Option.getD_some]
  cases henabled : fetched.repository.settings.watcherEnabled with
  | false => exact .inl rfl
  | true =>
    have hpath : fetched.repository.path = st.repository.path := by
      rw [hrepository]
      rfl
    have hsettings : fetched.repository.settings = st.repository.settings := by rw [hrepository]
    rw [if_pos rfl]
    have hbytes' : fetched.files.read fetched.repository.path = .ok bytes := by
      rw [hfiles, hpath]
      exact hbytes
    have hwatch := startWatching_of_read hbytes' name
    rw [hsettings, hfiles] at hwatch
    rw [hsettings] at henabled
    generalize fetched.startWatching name = watched at hwatch ⊢
    obtain ⟨outcome, watched⟩ := watched
    rcases hwatch with rfl | ⟨cause, hcause, rfl⟩
    · exact .inl rfl
    · refine .inr ⟨henabled, eq_false_of_ne_true fun hname => ?_, cause, rfl⟩
      rw [FileTree.makeDirectories_of_read hname hbytes] at hcause
      cases hcause

end Store

end HostRegistry
