import HostRegistry.Proofs.FileTree.Replace
import HostRegistry.Proofs.Path

/-!
# The directories above a file

A path is only found if every path above it leads to a directory. So where a file can be read, the
directory of its path is there, and there is nothing to make above it.
-/

namespace HostRegistry.FileTree

/-- Where a path leads somewhere, the texts that it begins with are walked from where it is. -/
theorem place_of_begins {t : FileTree} {follow : Bool} {upper path : String} {found : Place}
    (hne : upper ≠ "") (hbegins : ∃ more, path = upper ++ more)
    (h : t.place follow path = .ok found) :
    walk t follow maxLinks (startOf t.workingDir upper) (Text.cut '/' path) = .ok found ∧
      ∀ follow', t.place follow' upper =
        walk t follow' maxLinks (startOf t.workingDir upper) (Text.cut '/' upper) := by
  obtain ⟨hwalk, hzero, -, hlong⟩ := place_eq_ok h
  rw [startOf, ← Path.isAbsolute_of_begins hne hbegins] at hwalk
  refine ⟨hwalk, fun follow' => ?_⟩
  obtain ⟨more, rfl⟩ := hbegins
  have hzero' : ¬upper.toList.contains '\x00' = true := by
    intro hzero'
    refine hzero ?_
    rw [String.toList_append, List.contains_append, hzero', Bool.true_or]
  have hlong' : ¬upper.utf8ByteSize > maxPathBytes := by
    rw [String.utf8ByteSize_append] at hlong
    omega
  rw [place, if_neg hzero', if_neg hne, if_neg hlong']

theorem resolve_eq_directory_iff {t : FileTree} {path : String} {l : Location} :
    t.resolve path = .ok (l, .directory) ↔
      ∃ found, t.place true path = .ok found ∧ t.IsDirectoryAt found ∧ found.location = l := by
  rw [resolve]
  cases t.place true path with
  | error e => simp [bind, Except.bind]
  | ok found =>
    cases found with
    | directory l' => simp [bind, Except.bind, pure, Except.pure, IsDirectoryAt, Place.location]
    | entry dir name slash =>
      simp only [bind, Except.bind, Except.ok.injEq]
      constructor
      · intro h
        split at h
        · cases h
        next node hnode =>
          split at h
          · cases h
          · cases h
            exact ⟨_, rfl, hnode, rfl⟩
      · rintro ⟨_, rfl, hnode, rfl⟩
        rw [show t.node? (dir ++ [name]) = some .directory from hnode]
        simp only [bne_self_eq_false, Bool.and_false]
        rfl

theorem resolve_root (t : FileTree) : t.resolve "/" = .ok ([], .directory) := rfl

theorem resolve_dot (t : FileTree) : t.resolve "." = .ok (t.workingDir, .directory) := rfl

/-- What is above a path that leads somewhere is a directory. -/
theorem place_of_above {t : FileTree} {follow : Bool} {upper path : String} {found : Place}
    (habove : Path.Above upper path) (h : t.place follow path = .ok found) :
    ∃ q, t.place true upper = .ok q ∧ t.IsDirectoryAt q := by
  obtain ⟨parts, voids, rest, hupper, hpath, hvoids, hrest⟩ := habove.cut
  obtain ⟨hwalk, hplace⟩ := place_of_begins habove.nonempty habove.begins h
  rw [hplace, hupper]
  rw [hpath] at hwalk
  exact walk_to_directory hrest hvoids hwalk

theorem resolve_of_above {t : FileTree} {upper path : String} {bytes : Bytes}
    (habove : Path.Above upper path) (h : t.read path = .ok bytes) :
    ∃ l, t.resolve upper = .ok (l, .directory) := by
  cases hplace : t.place true path with
  | error e => cases (read_of_place_error hplace).symm.trans h
  | ok found =>
    obtain ⟨q, hq, hdirectory⟩ := place_of_above habove hplace
    exact ⟨q.location, resolve_eq_directory_iff.2 ⟨q, hq, hdirectory, rfl⟩⟩

/-- Where a file is read, its directory is there. -/
theorem resolve_directory {t : FileTree} {path : String} {bytes : Bytes}
    (h : t.read path = .ok bytes) : ∃ l, t.resolve (Path.directory path) = .ok (l, .directory) := by
  rcases Path.above_directory path with hworking | habove
  · exact ⟨t.workingDir, hworking ▸ resolve_dot t⟩
  · exact resolve_of_above habove h

/-- A directory that is there need not be made. -/
theorem makeDirectories_of_directory {t : FileTree} {path : String} {l : Location}
    (h : t.resolve path = .ok (l, .directory)) : t.makeDirectories path = (.ok (), t) := by
  have hdirectory : t.isDirectory path = true := by
    rw [isDirectory, h]
  have hupwards : t.makeUpwards [] (Path.ancestors path) = .ok ([], t) := by
    rw [Path.ancestors, Path.ancestorsFrom, makeUpwards, makeDirectory_of_resolve h]
    split
    · rfl
    · simp only [hdirectory, decide_true, Bool.and_self, if_true]
  rw [makeDirectories, hupwards]
  rfl

/-! ## The directory that a file is put in -/

/-- Texts with the same parts lead to the same directory. -/
theorem resolve_of_sameParts {t : FileTree} {upper dir : String} {l : Location}
    (hparts : Path.SameParts upper dir) (h : t.resolve dir = .ok (l, .directory)) :
    t.resolve upper = .ok (l, .directory) := by
  obtain ⟨parts, voids, voids', hupper, hdir, hvoids, hvoids'⟩ := hparts.cut
  obtain ⟨found, hplace, hfound, rfl⟩ := resolve_eq_directory_iff.1 h
  obtain ⟨hwalk, hplace'⟩ := place_of_begins hparts.nonempty hparts.begins hplace
  rw [hdir] at hwalk
  obtain ⟨q, hq, hdirectory, hlocation⟩ := walk_same_directory hvoids' hvoids hwalk hfound
  rw [← hupper, ← hplace'] at hq
  exact resolve_eq_directory_iff.2 ⟨q, hq, hdirectory, hlocation⟩

/-- Once its directory is made, a file with a plain name has a directory to be in. -/
theorem resolve_directory_of_made {t t' : FileTree} {dir name : String}
    (hname : Settings.isPlainName name = true) (h : t.makeDirectories dir = (.ok (), t')) :
    ∃ l, t'.resolve (Path.directory (Path.join dir name)) = .ok (l, .directory) := by
  by_cases hempty : dir = ""
  · rw [hempty, Path.directory_join_empty hname]
    exact ⟨_, resolve_dot t'⟩
  rcases resolve_of_makeDirectories h with hempty' | hroot | ⟨l, hfound⟩
  · exact (hempty hempty').elim
  · rcases Path.directory_join_of_void hempty hname (Path.isVoid_of_parent?_eq_none hroot)
      with hdirectory | hdirectory
    · rw [hdirectory]
      exact ⟨_, resolve_root t'⟩
    · rw [hdirectory]
      exact ⟨_, resolve_dot t'⟩
  · exact ⟨l, resolve_of_sameParts (Path.sameParts_directory_join hempty hname) hfound⟩

/-- Where a file with a plain name is read, the directory that it was looked for in is there. -/
theorem makeDirectories_of_read {t : FileTree} {dir name : String} {bytes : Bytes}
    (hname : Settings.isPlainName name = true) (h : t.read (Path.join dir name) = .ok bytes) :
    t.makeDirectories dir = (.ok (), t) := by
  by_cases hdir : dir = ""
  · rw [hdir]
    rfl
  · obtain ⟨l, hfound⟩ := resolve_of_above (Path.above_join hdir hname) h
    exact makeDirectories_of_directory hfound

end HostRegistry.FileTree
