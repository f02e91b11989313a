import HostRegistry.Proofs.Repository.Operations
import HostRegistry.Proofs.Settings.Rules

/-!
# Where the repository file is

The settings name a directory and a file in it. The path that is joined from the two is cut again to
find the directory that is written to and watched, while the directory that is made for a watch is
the one of the settings. Both are the same in every tree if the name is plain, which is what is
asked of it: exactly then it is the last part of the path in every directory. So the temporary file,
the file that it replaces and the entry that is watched all stand in the directory of the settings.
-/

namespace HostRegistry

namespace FileTree

/-! ## Where a path leads -/

/-- The parts of a path lead to a directory. Without any the path leads to where it starts, so the
empty path leads to the working directory. -/
def LeadsTo (t : FileTree) (path : String) (l : Location) : Prop :=
  ∃ found, walk t true maxLinks (startOf t.workingDir path) (Text.cut '/' path) = .ok found ∧
    t.IsDirectoryAt found ∧ found.location = l

section LeadsTo

variable {t : FileTree} {path dir name : String} {l : Location}

theorem LeadsTo.unique {l' : Location} (h : t.LeadsTo path l) (h' : t.LeadsTo path l') :
    l = l' := by
  obtain ⟨found, hwalk, -, rfl⟩ := h
  obtain ⟨found', hwalk', -, rfl⟩ := h'
  cases hwalk.symm.trans hwalk'
  rfl

/-- A directory that is found is where its path leads. -/
theorem leadsTo_of_resolve (h : t.resolve path = .ok (l, .directory)) : t.LeadsTo path l := by
  obtain ⟨found, hplace, hfound, hlocation⟩ := resolve_eq_directory_iff.1 h
  exact ⟨found, (place_eq_ok hplace).1, hfound, hlocation⟩

/-- Parts at the end that name nothing make no difference to where a path leads. -/
theorem LeadsTo.of_voids {path' : String} {parts voids voids' : List String}
    (h : t.LeadsTo path l) (hstart : Path.isAbsolute path = Path.isAbsolute path')
    (hcut : Text.cut '/' path = parts ++ voids) (hcut' : Text.cut '/' path' = parts ++ voids')
    (hvoids : ∀ part ∈ voids, Path.isVoid part = true)
    (hvoids' : ∀ part ∈ voids', Path.isVoid part = true) : t.LeadsTo path' l := by
  obtain ⟨found, hwalk, hfound, rfl⟩ := h
  rw [startOf, hstart, hcut] at hwalk
  obtain ⟨q, hq, hdirectory, hlocation⟩ := walk_same_directory hvoids hvoids' hwalk hfound
  rw [← hcut'] at hq
  exact ⟨q, hq, hdirectory, hlocation⟩

/-- The directory of the path of a plain name is the one that the name was joined to. -/
theorem leadsTo_directory_join_iff (hname : Settings.isPlainName name = true) :
    t.LeadsTo (Path.directory (Path.join dir name)) l ↔ t.LeadsTo dir l := by
  by_cases hdir : dir = ""
  · rw [hdir, Path.directory_join_empty hname]
    rfl
  obtain ⟨hne, hbegins, parts, voids, voids', hupper, hcut, hvoids, hvoids'⟩ :=
    Path.sameParts_directory_join hdir hname
  have hstart := Path.isAbsolute_of_begins hne hbegins
  constructor
  · intro h
    exact h.of_voids hstart hupper hcut hvoids hvoids'
  · intro h
    exact h.of_voids hstart.symm hcut hupper hvoids' hvoids

/-- If the path of a plain name leads anywhere, then to the entry of this name in its directory. -/
theorem place_join {found : Place} (hname : Settings.isPlainName name = true)
    (h : t.place false (Path.join dir name) = .ok found) :
    ∃ l, found = .entry l name false ∧ t.LeadsTo dir l := by
  obtain ⟨hwalk, -⟩ := place_eq_ok h
  obtain ⟨parts, slashes, hcut, hslashes, hjoined⟩ := Path.cut_join_slashes dir hname
  rw [startOf, Path.isAbsolute_join dir hname, hjoined] at hwalk
  obtain ⟨l, hfound, hupper⟩ :=
    walk_to_entry (Path.cut_of_isPlainName hname).2 (Path.ne_up_of_isPlainName hname) hwalk
  obtain ⟨q, hq, hdirectory, hlocation⟩ :=
    walk_same_directory (by decide) (Path.isVoid_of_all hslashes) hupper trivial
  rw [← hcut] at hq
  exact ⟨l, hfound, q, hq, hdirectory, hlocation⟩

/-- A directory that was made for a plain name is found as the directory of its path. -/
theorem leadsTo_of_makeDirectories {made : FileTree} (hname : Settings.isPlainName name = true)
    (h : t.makeDirectories dir = (.ok (), made)) :
    ∃ l, made.LeadsTo dir l ∧
      made.resolve (Path.directory (Path.join dir name)) = .ok (l, .directory) := by
  obtain ⟨l, hfound⟩ := resolve_directory_of_made hname h
  exact ⟨l, (leadsTo_directory_join_iff hname).1 (leadsTo_of_resolve hfound), hfound⟩

end LeadsTo

/-! ## What a replacement changes -/

/-- From the first tree to the second only entries of the directory were changed. -/
def ChangesIn (l : Location) (t t' : FileTree) : Prop :=
  ∃ names : List String, t'.notices = t.notices ++ names.map fun name => l ++ [name]

section ChangesIn

variable {l : Location} {base t : FileTree}

theorem ChangesIn.refl (l : Location) (t : FileTree) : ChangesIn l t t :=
  ⟨[], (List.append_nil _).symm⟩

theorem ChangesIn.set (h : ChangesIn l base t) (name : String) (node : Node) :
    ChangesIn l base (t.set (l ++ [name]) node) := by
  obtain ⟨names, hnames⟩ := h
  refine ⟨names ++ [name], ?_⟩
  rw [FileTree.set, hnames, List.map_append, List.append_assoc]
  rfl

theorem ChangesIn.remove (h : ChangesIn l base t) (name : String) :
    ChangesIn l base (t.remove (l ++ [name])) := by
  obtain ⟨names, hnames⟩ := h
  refine ⟨names ++ [name], ?_⟩
  rw [FileTree.remove, hnames, List.map_append, List.append_assoc]
  rfl

end ChangesIn

/-- Whatever the replacement passes and ends in, it only changes entries of the directory. -/
structure Attempt.StaysIn (attempt : Attempt) (l : Location) (base : FileTree) : Prop where
  passed : ∀ t ∈ attempt.passed, ChangesIn l base t
  final : ChangesIn l base attempt.final

section StaysIn

variable {device : Device} {base made : FileTree} {l : Location} {fresh path : String}
  {passed : List FileTree} {contents : Bytes}

theorem staysIn_failed (hpassed : ∀ t ∈ passed, ChangesIn l base t) (hmade : ChangesIn l base made)
    (step : WriteStep) (e : FileError) :
    (Attempt.failed passed made (l ++ [fresh]) step e).StaysIn l base :=
  ⟨List.forall_mem_cons.2 ⟨hmade.remove fresh, hpassed⟩, hmade.remove fresh⟩

theorem staysIn_fillAndRename (hbeside : Beside base (l ++ [fresh]) made)
    (hpassed : ∀ t ∈ passed, ChangesIn l base t) (hmade : ChangesIn l base made)
    (htarget : ∀ dir name, base.place false path = .ok (.entry dir name false) → dir = l) :
    (fillAndRename device made passed (l ++ [fresh]) path contents).StaysIn l base := by
  have hfilled : ChangesIn l base (made.set (l ++ [fresh]) (.file contents)) := hmade.set ..
  have hpassed' := List.forall_mem_cons.2 ⟨hfilled, hpassed⟩
  rw [fillAndRename]
  split
  · exact staysIn_failed hpassed hmade _ _
  simp only
  split
  · exact staysIn_failed hpassed' hfilled _ _
  split
  · exact staysIn_failed hpassed' hfilled _ _
  split
  · exact staysIn_failed hpassed' hfilled _ _
  next renamed hrenamed =>
    obtain ⟨dir, name, hplace, -, rfl⟩ := rename_eq_ok (node?_set_self ..) hrenamed
    obtain rfl := htarget dir name ((hbeside.set contents).place_eq_ok_iff.1 hplace)
    have hrenamed := (hfilled.remove fresh).set name (.file contents)
    exact ⟨List.forall_mem_cons.2 ⟨hrenamed, hpassed'⟩, hrenamed⟩

end StaysIn

/-- A replacement stops before it makes a temporary file, or works in the directory that the file's
name was joined to, in the tree in which this was made. -/
theorem staysIn_replace (device : Device) (t : FileTree) (dir : String) {name : String}
    (hname : Settings.isPlainName name = true) (contents : Bytes) :
    (∃ cause, t.replace device (Path.join dir name) contents =
      ⟨[t.prepared device (Path.join dir name)], t.prepared device (Path.join dir name),
        .error cause⟩) ∨
    ∃ l, (t.prepared device (Path.join dir name)).LeadsTo dir l ∧
      (t.replace device (Path.join dir name) contents).StaysIn l
        (t.prepared device (Path.join dir name)) := by
  rw [replace, prepared]
  cases device .directories with
  | some e => exact .inl ⟨_, rfl⟩
  | none =>
    simp only
    generalize t.makeDirectories (Path.directory (Path.join dir name)) = made
    obtain ⟨outcome, base⟩ := made
    cases outcome with
    | error e => exact .inl ⟨_, rfl⟩
    | ok _ =>
      simp only [replaceWithin]
      split
      · exact .inl ⟨_, rfl⟩
      split
      · exact .inl ⟨_, rfl⟩
      next temporary made hmade =>
        obtain ⟨l, fresh, hdir, rfl, rfl, -, hbeside⟩ := makeTemporary_eq_ok hmade
        have hleads := (leadsTo_directory_join_iff hname).1 (leadsTo_of_resolve hdir)
        have hchanges := (ChangesIn.refl l base).set fresh (.file [])
        refine .inr ⟨l, hleads, staysIn_fillAndRename hbeside ?_ hchanges ?_⟩
        · exact List.forall_mem_cons.2 ⟨hchanges, by simpa using ChangesIn.refl l base⟩
        · intro dir' name' hplace
          obtain ⟨l', hentry, hleads'⟩ := place_join hname hplace
          cases hentry
          exact hleads'.unique hleads

end FileTree

/-! ## What a plain name is for -/

open FileTree Store

/-- Whatever is done about the file of the settings is done in their directory. -/
structure RepositorySettings.Pinned (r : RepositorySettings) : Prop where
  /-- What is written to and watched is the directory of the settings, in every tree. -/
  same : ∀ (t : FileTree) (l : Location),
    t.LeadsTo (Path.directory r.filePath) l ↔ t.LeadsTo r.dir l
  /-- Once the directory of the settings is made, it is found to be watched. -/
  made : ∀ t made : FileTree, t.makeDirectories r.dir = (.ok (), made) →
    ∃ l, made.LeadsTo r.dir l ∧ made.resolve (Path.directory r.filePath) = .ok (l, .directory)
  /-- A watch starts unless the directory cannot be made, on the entry of the file's name in it. -/
  watched : ∀ {ι : Type} (st : Store ι) (follower : ι), st.repository.settings = r →
    st.repository.watch ≠ .closed →
    (∃ cause, (st.files.makeDirectories r.dir).1 = .error cause ∧
      (st.startWatching follower).1 = .error (.files r.dir cause)) ∨
    ∃ l watch, (st.startWatching follower).1 = .ok () ∧
      (st.startWatching follower).2.files.LeadsTo r.dir l ∧
      (st.startWatching follower).2.repository.watch = .watching watch ∧
      watch.entry = some (l ++ [r.fileName])
  /-- A replacement that makes a temporary file changes entries of the directory only, and replaces
  the one of the file's name if it succeeds. -/
  written : ∀ (device : Device) (t : FileTree) (contents : Bytes),
    (∃ cause, t.replace device r.filePath contents =
      ⟨[t.prepared device r.filePath], t.prepared device r.filePath, .error cause⟩) ∨
    ∃ l, (t.prepared device r.filePath).LeadsTo r.dir l ∧
      (t.replace device r.filePath contents).StaysIn l (t.prepared device r.filePath) ∧
      ((t.replace device r.filePath contents).outcome = .ok () →
        (t.replace device r.filePath contents).final.node? (l ++ [r.fileName]) =
          some (.file contents))

/-- A file that was replaced stands under its name where its directory leads. -/
theorem FileTree.node?_of_replace_ok {device : Device} {t : FileTree} {dir name : String}
    {contents : Bytes} {l : Location} (hname : Settings.isPlainName name = true)
    (hleads : (t.prepared device (Path.join dir name)).LeadsTo dir l)
    (h : (t.replace device (Path.join dir name) contents).outcome = .ok ()) :
    (t.replace device (Path.join dir name) contents).final.node? (l ++ [name]) =
      some (.file contents) := by
  rcases (allOrNothing_replace device t (Path.join dir name) contents).final with
    ⟨_, herror, -⟩ | ⟨-, _, _, hplace, -, -, hnode, -⟩
  · cases h.symm.trans herror
  · obtain ⟨l', hentry, hleads'⟩ := place_join hname hplace
    cases hentry
    rw [hleads.unique hleads']
    exact hnode

/-- With a plain name a watch starts, once the directory is made, on the entry of the name in it. -/
theorem Store.watch_of_plainName {ι : Type} {st : Store ι} {files : FileTree}
    (hname : Settings.isPlainName st.repository.settings.fileName = true)
    (hopen : st.repository.watch ≠ .closed)
    (hmade : st.files.makeDirectories st.repository.settings.dir = (.ok (), files))
    (follower : ι) :
    ∃ l watch, (st.startWatching follower).1 = .ok () ∧
      (st.startWatching follower).2.files.LeadsTo st.repository.settings.dir l ∧
      (st.startWatching follower).2.repository.watch = .watching watch ∧
      watch.entry = some (l ++ [st.repository.settings.fileName]) := by
  obtain ⟨l, hleads, hfound⟩ := leadsTo_of_makeDirectories hname hmade
  have hstarted := startWatching_of_made hmade hfound follower
  obtain ⟨hmade', l', node, hfound', hfollowed⟩ :=
    startWatching_eq_ok hopen (Prod.ext hstarted rfl)
  cases hmade.symm.trans hmade'
  cases hfound.symm.trans hfound'
  refine ⟨l, _, hstarted, hleads, congrArg Repository.watch hfollowed, ?_⟩
  rw [Repository.path, RepositorySettings.filePath, Path.fileName?_join _ hname]
  rfl

theorem RepositorySettings.pinned_of_plainName {r : RepositorySettings}
    (hname : Settings.isPlainName r.fileName = true) : r.Pinned where
  same t l := leadsTo_directory_join_iff hname
  made t made h := leadsTo_of_makeDirectories hname h
  watched := by
    rintro ι st follower rfl hopen
    obtain ⟨⟨outcome, files⟩, hmade⟩ :
        ∃ made, st.files.makeDirectories st.repository.settings.dir = made := ⟨_, rfl⟩
    cases outcome with
    | error cause =>
      exact .inl ⟨cause, congrArg Prod.fst hmade, startWatching_of_unmade hopen hmade follower⟩
    | ok _ => exact .inr (st.watch_of_plainName hname hopen hmade follower)
  written device t contents := by
    refine (staysIn_replace device t r.dir hname contents).imp_right ?_
    rintro ⟨l, hleads, hstays⟩
    exact ⟨l, hleads, hstays, node?_of_replace_ok hname hleads⟩

/-- Nothing is reported about the file name exactly if its path in every directory ends in it, as in
a name and not in a step upwards. Then the temporary file, the file that it replaces and the entry
that is watched are all in the directory of the settings, whichever that is. -/
theorem fileName_pins_directory (s : Settings) :
    ((∀ v ∈ s.violations, v.field ≠ "repository.file_name") ↔
      ∀ dir, Path.fileName? (Path.join dir s.repository.fileName) = some s.repository.fileName) ∧
    ((∀ v ∈ s.violations, v.field ≠ "repository.file_name") →
      ∀ dir, RepositorySettings.Pinned { s.repository with dir }) := by
  have hkept : (∀ v ∈ s.violations, v.field ≠ "repository.file_name") ↔
      Settings.isPlainName s.repository.fileName = true := by
    rw [Path.isPlainName_iff, ← not_or]
    exact s.field_ne_iff .fileName
  rw [hkept]
  refine ⟨⟨fun hname dir => Path.fileName?_join dir hname, fun hlast => ?_⟩, fun hname dir => ?_⟩
  · have hself := hlast ""
    rw [Path.join_empty] at hself
    exact decide_eq_true hself
  · exact RepositorySettings.pinned_of_plainName hname

/-- A plain name in a directory that is written with slashes behind it. -/
def slashedSettings : Settings := { repository := { dir := "a//", fileName := "f" } }

theorem fileName_pins_slashedSettings :
    (∀ v ∈ slashedSettings.violations, v.field ≠ "repository.file_name") ∧
      Path.directory (Path.join "a//" "f") = "a" ∧
      (FileTree.empty.makeDirectories "a//").1 = .ok () ∧
      ∃ l, (FileTree.empty.makeDirectories "a//").2.LeadsTo "a//" l ∧
        (FileTree.empty.makeDirectories "a//").2.resolve (Path.directory (Path.join "a//" "f")) =
          .ok (l, .directory) := by
  have hkept : ∀ v ∈ slashedSettings.violations, v.field ≠ "repository.file_name" :=
    (slashedSettings.field_ne_iff .fileName).2 (by decide)
  have hmade : (FileTree.empty.makeDirectories "a//").1 = .ok () := by decide +kernel
  have hpinned := (fileName_pins_directory slashedSettings).2 hkept "a//"
  exact ⟨hkept, by decide, hmade, hpinned.made _ _ (Prod.ext hmade rfl)⟩

end HostRegistry
