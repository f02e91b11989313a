import HostRegistry.FileTree.Replace
import HostRegistry.Proofs.FileTree.Directories
import HostRegistry.Proofs.SortedSet

/-!
# What replacing a file does

A replacement works on the tree in which its directory has been made, its base. It passes trees that
differ from the base in a temporary file at most, and either ends in one like the base or puts the
contents in place of the entry that the path leads to. The path is read as these contents then,
unless the way to the entry led through the entry.
-/

namespace HostRegistry.FileTree

/-! ## Trees beside the base -/

/-- Both trees have the same entries. -/
structure Alike (t t' : FileTree) : Prop where
  workingDir : t'.workingDir = t.workingDir
  node : ∀ l, t'.node? l = t.node? l

theorem Alike.refl (t : FileTree) : Alike t t := ⟨rfl, fun _ => rfl⟩

theorem Alike.grows {t t' : FileTree} (h : Alike t t') : Grows t t' :=
  ⟨h.workingDir, fun l => .inl (h.node l)⟩

theorem Alike.symm {t t' : FileTree} (h : Alike t t') : Alike t' t :=
  ⟨h.workingDir.symm, fun l => (h.node l).symm⟩

theorem Alike.read {t t' : FileTree} (h : Alike t t') (path : String) :
    t'.read path = t.read path := by
  rcases h.grows.read_or path with hnone | hsame
  · rcases h.symm.grows.read_or path with hnone' | hsame
    · rw [hnone, hnone']
    · exact hsame.symm
  · exact hsame

theorem MakesWay.of_alike {paths : List String} {t t' t'' : FileTree} (h : MakesWay paths t t')
    (halike : Alike t' t'') : MakesWay paths t t'' :=
  h.trans ⟨halike.workingDir, fun l => .inl (halike.node l)⟩

/-- The tree has one file more than the base, where nothing was. -/
structure Beside (base : FileTree) (temporary : Location) (t : FileTree) : Prop where
  workingDir : t.workingDir = base.workingDir
  missing : base.node? temporary = none
  file : ∃ contents, t.node? temporary = some (.file contents)
  others : ∀ l, l ≠ temporary → t.node? l = base.node? l

section Beside

variable {base t : FileTree} {l : Location} {fresh : String}

theorem beside_set (h : base.node? (l ++ [fresh]) = none) (contents : Bytes) :
    Beside base (l ++ [fresh]) (base.set (l ++ [fresh]) (.file contents)) where
  workingDir := rfl
  missing := h
  file := ⟨contents, node?_set_self ..⟩
  others _ hne := node?_set_of_ne base hne _

theorem Beside.set (h : Beside base (l ++ [fresh]) t) (contents : Bytes) :
    Beside base (l ++ [fresh]) (t.set (l ++ [fresh]) (.file contents)) where
  workingDir := h.workingDir
  missing := h.missing
  file := ⟨contents, node?_set_self ..⟩
  others l' hne := (node?_set_of_ne t hne _).trans (h.others l' hne)

/-- A new file that is removed again leaves the tree as it was. -/
theorem Beside.alike_remove (h : Beside base (l ++ [fresh]) t) :
    Alike base (t.remove (l ++ [fresh])) := by
  refine ⟨h.workingDir, fun l' => ?_⟩
  by_cases hl : l' = l ++ [fresh]
  · rw [hl, node?_remove_self, h.missing]
  · rw [node?_remove_of_ne _ hl, h.others l' hl]

/-- A new file makes a difference to a hop only where the path goes on behind it. -/
theorem Beside.hop_or {temporary : Location} (h : Beside base temporary t) (follow : Bool)
    (here : Location) (part : String) (rest : List String) :
    hop base follow here part rest = .stop (.error .notFound) ∧
        hop t follow here part rest = .stop (.error .notDirectory) ∨
      hop t follow here part rest = hop base follow here part rest := by
  rcases hop_cases here part with ⟨onward, hmove⟩ | hstop | hnode
  · exact .inr (by rw [hmove, hmove])
  · exact .inr (by rw [hstop, hstop])
  · rw [hnode, hnode]
    by_cases hl : here ++ [part] = temporary
    · obtain ⟨contents, hfile⟩ := h.file
      rw [hl, hfile, h.missing]
      cases hlast : rest.all (· = "") with
      | false => exact .inl ⟨by simp [stepOnto, hlast], by simp [stepOnto, hlast]⟩
      | true => exact .inr (by simp [stepOnto, hlast])
    · exact .inr (by rw [h.others _ hl])

/-- The same places are found in both trees. -/
theorem Beside.place_eq_ok_iff {temporary : Location} (h : Beside base temporary t)
    {follow : Bool} {path : String} {place : Place} :
    t.place follow path = .ok place ↔ base.place follow path = .ok place := by
  have hto : base.place follow path = .error .notFound ∨
      t.place follow path = base.place follow path :=
    @place_eq_or base t follow follow (· = .error .notFound) h.workingDir (fun here part rest =>
      (h.hop_or follow here part rest).imp_left fun ⟨hstop, _⟩ => ⟨_, hstop, rfl⟩) path
  have hfrom : t.place follow path = .error .notDirectory ∨
      base.place follow path = t.place follow path :=
    @place_eq_or t base follow follow (· = .error .notDirectory) h.workingDir.symm
      (fun here part rest => (h.hop_or follow here part rest).imp
        (fun ⟨_, hstop⟩ => ⟨_, hstop, rfl⟩) Eq.symm) path
  constructor
  · intro hplace
    exact (hfrom.resolve_left fun hstop => by cases hplace.symm.trans hstop).trans hplace
  · intro hplace
    exact (hto.resolve_left fun hstop => by cases hplace.symm.trans hstop).trans hplace

end Beside

/-- The tree differs from the base in a temporary file at most, which has another name than the
path. -/
def Provisional (base : FileTree) (path : String) (t : FileTree) : Prop :=
  Alike base t ∨
    ∃ l fresh, Path.fileName? path ≠ some fresh ∧ Beside base (l ++ [fresh]) t

/-- What stands where the path leads to is not touched. -/
theorem Provisional.place_and_node {base t : FileTree} {path : String} (h : Provisional base path t)
    {dir : Location} {name : String} {slash : Bool}
    (hplace : base.place false path = .ok (.entry dir name slash)) :
    t.place false path = .ok (.entry dir name slash) ∧
      t.node? (dir ++ [name]) = base.node? (dir ++ [name]) := by
  rcases h with halike | ⟨l, fresh, hfresh, hbeside⟩
  · refine ⟨?_, halike.node _⟩
    refine ((halike.grows.place_or false path).resolve_left fun hnone => ?_).trans hplace
    cases hplace.symm.trans hnone
  · refine ⟨hbeside.place_eq_ok_iff.2 hplace, hbeside.others _ fun heq => ?_⟩
    obtain ⟨-, hname⟩ := List.append_inj' heq rfl
    rw [fileName?_of_place hplace, (List.cons.inj hname).1] at hfresh
    exact hfresh rfl

/-- A path that leads to an entry which is no link is read as before. -/
theorem Provisional.read_eq {base t : FileTree} {path : String} (h : Provisional base path t)
    {dir : Location} {name : String} {slash : Bool}
    (hplace : base.place false path = .ok (.entry dir name slash))
    (hlink : ∀ target, base.node? (dir ++ [name]) ≠ some (.link target)) :
    t.read path = base.read path := by
  obtain ⟨hplace', hnode⟩ := h.place_and_node hplace
  rw [read_of_place (place_true_of_entry hplace hlink),
    read_of_place (place_true_of_entry hplace' (hnode ▸ hlink)), readAt, readAt, hnode]

/-! ## The temporary file -/

theorem mem_namesIn {t : FileTree} {dir : Location} {name : String} {node : Node}
    (h : t.node? (dir ++ [name]) = some node) : name ∈ t.namesIn dir := by
  have hget : t.nodes.get? (dir ++ [name]) = some node := by
    cases dir <;> exact h
  have hmem : dir ++ [name] ∈ t.nodes.keys := SortedMap.mem_keys_iff.2 ⟨node, hget⟩
  refine List.mem_filterMap.2 ⟨dir ++ [name], hmem, ?_⟩
  simp

/-- A temporary file is made where nothing was, under another name than the target's. -/
theorem makeTemporary_eq_ok {t made : FileTree} {dir : String} {target : Option String}
    {temporary : Location} (h : t.makeTemporary dir target = .ok (temporary, made)) :
    ∃ l fresh, t.resolve dir = .ok (l, .directory) ∧ temporary = l ++ [fresh] ∧
      made = t.set (l ++ [fresh]) (.file []) ∧ target ≠ some fresh ∧
      Beside t (l ++ [fresh]) made := by
  rw [makeTemporary] at h
  cases hdir : t.resolve dir with
  | error e =>
    rw [hdir] at h
    cases h
  | ok found =>
    rw [hdir] at h
    obtain ⟨l, node⟩ := found
    cases node with
    | directory =>
      cases h
      have hfresh := freshName_not_mem (target.toList ++ t.namesIn l)
      rw [List.mem_append, not_or] at hfresh
      refine ⟨l, _, rfl, rfl, rfl, ?_, beside_set ?_ _⟩
      · exact fun htarget => hfresh.1 (Option.mem_toList.2 htarget)
      · cases hnode : t.node? (l ++ [freshName (target.toList ++ t.namesIn l)]) with
        | none => rfl
        | some node => exact (hfresh.2 (mem_namesIn hnode)).elim
    | file contents => cases h
    | link target => cases h

theorem rename_eq_ok {t t' : FileTree} {source : Location} {path : String} {node : Node}
    (hsource : t.node? source = some node) (h : t.rename source path = .ok t') :
    ∃ dir name, t.place false path = .ok (.entry dir name false) ∧
      t.node? (dir ++ [name]) ≠ some .directory ∧
      t' = (t.remove source).set (dir ++ [name]) node := by
  rw [rename] at h
  cases hplace : t.place false path with
  | error e =>
    rw [hplace] at h
    cases h
  | ok place =>
    rw [hplace] at h
    cases place with
    | directory l => cases h
    | entry dir name slash =>
      simp only [bind, Except.bind, hsource] at h
      cases slash with
      | true => cases h
      | false =>
        refine ⟨dir, name, rfl, ?_⟩
        match hnode : t.node? (dir ++ [name]) with
        | some .directory =>
          rw [hnode] at h
          cases h
        | none | some (.file _) | some (.link _) =>
          rw [hnode] at h
          cases h
          exact ⟨nofun, rfl⟩

/-! ## The whole replacement -/

/-- A file with the contents stands where the path led to, in place of what is no directory; all
else is as it was. -/
def Replaced (base : FileTree) (path : String) (contents : Bytes) (t : FileTree) : Prop :=
  ∃ dir name, base.place false path = .ok (.entry dir name false) ∧
    base.node? (dir ++ [name]) ≠ some .directory ∧ t.workingDir = base.workingDir ∧
    t.node? (dir ++ [name]) = some (.file contents) ∧
    ∀ l, l ≠ dir ++ [name] → t.node? l = base.node? l

theorem replaced_of_rename {base filled t : FileTree} {l : Location} {fresh path : String}
    {contents : Bytes} (hfresh : Path.fileName? path ≠ some fresh)
    (hbeside : Beside base (l ++ [fresh]) filled)
    (hfilled : filled.node? (l ++ [fresh]) = some (.file contents))
    (h : filled.rename (l ++ [fresh]) path = .ok t) : Replaced base path contents t := by
  obtain ⟨dir, name, hplace, hfits, rfl⟩ := rename_eq_ok hfilled h
  have hplace' := hbeside.place_eq_ok_iff.1 hplace
  have hnode := (Provisional.place_and_node (.inr ⟨l, fresh, hfresh, hbeside⟩) hplace').2
  refine ⟨dir, name, hplace', hnode ▸ hfits, hbeside.workingDir, node?_set_self .., fun l' hne => ?_⟩
  rw [node?_set_of_ne _ hne, hbeside.alike_remove.node]

/-- What a replacement on the base comes to: the trees that it passes are provisional until it
succeeds; it fails and ends in a tree like the base, or succeeds and has replaced the file. -/
structure Attempt.AllOrNothing (attempt : Attempt) (base : FileTree) (path : String)
    (contents : Bytes) : Prop where
  passed : ∀ t ∈ attempt.passed,
    Provisional base path t ∨ attempt.outcome = .ok () ∧ t = attempt.final
  final : (∃ cause, attempt.outcome = .error cause ∧ Alike base attempt.final) ∨
    attempt.outcome = .ok () ∧ Replaced base path contents attempt.final

section AllOrNothing

variable {base : FileTree} {path : String} {contents : Bytes}

/-- An attempt that fails before there is a temporary file. -/
theorem allOrNothing_early (base : FileTree) (path : String) (contents : Bytes)
    (cause : WriteStep × FileError) :
    Attempt.AllOrNothing ⟨[base], base, .error cause⟩ base path contents where
  passed t ht := by
    rw [List.mem_singleton.1 ht]
    exact .inl (.inl (.refl base))
  final := .inl ⟨cause, rfl, .refl base⟩

/-- An attempt that fails and removes its temporary file. -/
theorem allOrNothing_failed {l : Location} {fresh : String} {t : FileTree}
    (h : Beside base (l ++ [fresh]) t) {passed : List FileTree}
    (hpassed : ∀ t ∈ passed, Provisional base path t) (step : WriteStep) (e : FileError) :
    (Attempt.failed passed t (l ++ [fresh]) step e).AllOrNothing base path contents where
  passed u hu := by
    rcases List.mem_cons.1 hu with rfl | hu
    · exact .inl (.inl h.alike_remove)
    · exact .inl (hpassed u hu)
  final := .inl ⟨_, rfl, h.alike_remove⟩

theorem allOrNothing_fillAndRename (device : Device) {l : Location} {fresh : String}
    (hfresh : Path.fileName? path ≠ some fresh) {made : FileTree}
    (hmade : Beside base (l ++ [fresh]) made) {passed : List FileTree}
    (hpassed : ∀ t ∈ passed, Provisional base path t) :
    (fillAndRename device made passed (l ++ [fresh]) path contents).AllOrNothing base path
      contents := by
  have hfilled := hmade.set contents
  have hpassed' : ∀ t ∈ made.set (l ++ [fresh]) (.file contents) :: passed,
      Provisional base path t :=
    List.forall_mem_cons.2 ⟨.inr ⟨l, fresh, hfresh, hfilled⟩, hpassed⟩
  rw [fillAndRename]
  split
  · exact allOrNothing_failed hmade hpassed _ _
  simp only
  split
  · exact allOrNothing_failed hfilled hpassed' _ _
  split
  · exact allOrNothing_failed hfilled hpassed' _ _
  split
  · exact allOrNothing_failed hfilled hpassed' _ _
  next renamed hrenamed =>
    refine ⟨fun t ht => ?_, .inr ⟨rfl, replaced_of_rename hfresh hfilled (node?_set_self ..) hrenamed⟩⟩
    rcases List.mem_cons.1 ht with rfl | ht
    · exact .inr ⟨rfl, rfl⟩
    · exact .inl (hpassed' t ht)

theorem allOrNothing_replaceWithin (device : Device) (base : FileTree) (dir path : String)
    (contents : Bytes) :
    (replaceWithin device base dir path contents).AllOrNothing base path contents := by
  rw [replaceWithin]
  split
  · exact allOrNothing_early base path contents _
  split
  · exact allOrNothing_early base path contents _
  next temporary made hmade =>
    obtain ⟨l, fresh, -, rfl, -, hfresh, hbeside⟩ := makeTemporary_eq_ok hmade
    refine allOrNothing_fillAndRename device hfresh hbeside ?_
    simp only [List.forall_mem_cons, List.not_mem_nil, false_imp_iff, implies_true, and_true]
    exact ⟨.inr ⟨l, fresh, hfresh, hbeside⟩, .inl (.refl base)⟩

end AllOrNothing

/-- The tree that a replacement works on, with the directory of the file made unless the device
refuses that. -/
def prepared (t : FileTree) (device : Device) (path : String) : FileTree :=
  match device .directories with
  | some _ => t
  | none => (t.makeDirectories (Path.directory path)).2

theorem makesWay_prepared (t : FileTree) (device : Device) (path : String) :
    MakesWay (Path.ancestors (Path.directory path)) t (t.prepared device path) := by
  rw [prepared]
  split
  · exact .refl _ t
  · exact makesWay_makeDirectories t _

theorem prepared_of_resolve {t : FileTree} {path : String} {found : Location × Node}
    (h : t.resolve (Path.directory path) = .ok found) (device : Device) :
    t.prepared device path = t := by
  rw [prepared]
  split
  · rfl
  · exact makeDirectories_of_resolve h

theorem allOrNothing_replace (device : Device) (t : FileTree) (path : String) (contents : Bytes) :
    (t.replace device path contents).AllOrNothing (t.prepared device path) path contents := by
  rw [replace, prepared]
  cases device .directories with
  | some e => exact allOrNothing_early t path contents _
  | none =>
    simp only
    generalize t.makeDirectories (Path.directory path) = made
    obtain ⟨outcome, base⟩ := made
    cases outcome with
    | error e => exact allOrNothing_early base path contents _
    | ok _ => exact allOrNothing_replaceWithin device base _ path contents

/-- Where a replacement succeeds, the device has not refused to make the directory. -/
theorem prepared_of_replace_ok {device : Device} {t : FileTree} {path : String} {contents : Bytes}
    (h : (t.replace device path contents).outcome = .ok ()) :
    t.prepared device path = (t.makeDirectories (Path.directory path)).2 := by
  rw [replace] at h
  rw [prepared]
  cases hdevice : device .directories with
  | some e =>
    rw [hdevice] at h
    cases h
  | none => rfl

/-- A failed replacement makes at most directories. -/
theorem grows_of_replace_error {device : Device} {t : FileTree} {path : String} {contents : Bytes}
    {cause : WriteStep × FileError} (h : (t.replace device path contents).outcome = .error cause) :
    Grows t (t.replace device path contents).final := by
  rcases (allOrNothing_replace device t path contents).final with ⟨_, -, halike⟩ | ⟨hok, -⟩
  · exact (makesWay_prepared t device path).grows.trans halike.grows
  · cases h.symm.trans hok

/-- Where the directory of the file is there, a failed replacement leaves the tree as it was. -/
theorem alike_of_replace_error {device : Device} {t : FileTree} {path : String} {contents : Bytes}
    {cause : WriteStep × FileError} {found : Location × Node}
    (h : (t.replace device path contents).outcome = .error cause)
    (hdir : t.resolve (Path.directory path) = .ok found) :
    Alike t (t.replace device path contents).final := by
  rcases (allOrNothing_replace device t path contents).final with ⟨_, -, halike⟩ | ⟨hok, -⟩
  · rwa [prepared_of_resolve hdir] at halike
  · cases h.symm.trans hok

/-! ## Reading after a replacement -/

/-- What is no directory but read as one, or as a circle of links, is a link. -/
theorem link_of_read {t : FileTree} {path : String} {dir : Location} {name : String} {slash : Bool}
    (hplace : t.place false path = .ok (.entry dir name slash))
    (hfits : t.node? (dir ++ [name]) ≠ some .directory)
    (hread : t.read path = .error .tooManyLinks ∨ t.read path = .error .isDirectory) :
    ∃ target, t.node? (dir ++ [name]) = some (.link target) := by
  match hnode : t.node? (dir ++ [name]) with
  | some (.link target) => exact ⟨target, rfl⟩
  | some .directory => exact (hfits hnode).elim
  | none | some (.file _) =>
    have hlink : ∀ target, t.node? (dir ++ [name]) ≠ some (.link target) :=
      fun target hlink => by cases hnode.symm.trans hlink
    rw [read_of_place (place_true_of_entry hplace hlink), readAt, hnode] at hread
    cases slash <;> rcases hread with hread | hread <;> cases hread

/-- The path names a link to a directory, or a circle of links. -/
def Misled (t : FileTree) (path : String) : Prop :=
  t.EndsInLink (t.place false path) ∧
    (t.read path = .error .isDirectory ∨ t.read path = .error .tooManyLinks)

/-- A replaced file is read as its contents, unless the path named a link to a directory or a circle
of links, through which it may have led itself. -/
theorem Replaced.read_or {base t : FileTree} {path : String} {contents : Bytes}
    (h : Replaced base path contents t) :
    t.read path = .ok contents ∨
      t.place false path = .error .notDirectory ∧ t.read path = .error .notDirectory ∧
        base.Misled path := by
  obtain ⟨dir, name, hplace, hfits, hworkingDir, hnode, hothers⟩ := h
  have hover : Overwrites base t (dir ++ [name]) :=
    ⟨hworkingDir, hfits, .inr ⟨contents, hnode⟩, fun l hne _ hl _ => (hothers l hne).trans hl⟩
  rcases hover.read_or hplace with ⟨hread, -⟩ | ⟨hstop, hread, hbefore⟩
  · refine .inl (hread.trans ?_)
    rw [readAt, hnode]
    rfl
  · rw [hnode] at hstop hread
    obtain ⟨target, hlink⟩ := link_of_read hplace hfits hbefore
    exact .inr ⟨hstop, hread, ⟨dir, name, false, target, hplace, hlink⟩, hbefore.symm⟩

theorem read_of_replace_ok {device : Device} {t : FileTree} {path : String} {contents : Bytes}
    (h : (t.replace device path contents).outcome = .ok ()) :
    (t.replace device path contents).final.read path = .ok contents ∨
      (t.replace device path contents).final.place false path = .error .notDirectory ∧
      (t.replace device path contents).final.read path = .error .notDirectory ∧
      (t.makeDirectories (Path.directory path)).2.Misled path := by
  rcases (allOrNothing_replace device t path contents).final with ⟨_, herror, -⟩ | ⟨-, hreplaced⟩
  · cases h.symm.trans herror
  · rw [← prepared_of_replace_ok h]
    exact hreplaced.read_or

end HostRegistry.FileTree
