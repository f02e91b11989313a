import HostRegistry.Proofs.Management.Acknowledged

/-!
# Persisting as a whole

Whatever step of it fails, an attempt to persist the live registry either leaves everything as it
was, but for directories that it made on its way, or puts the registry in place of what the path of
the file led to and touches nothing else. At no time does that place hold anything but its old
contents or the new ones.
-/

namespace HostRegistry

namespace FileTree

/-- A tree that a replacement goes through: one with some of the directories made that it makes
first, or one that it passes after that. -/
def Passes (device : Device) (t : FileTree) (path : String) (contents : Bytes) (u : FileTree) :
    Prop :=
  t.Grows u ∧ u.Grows (t.prepared device path) ∨ u ∈ (t.replace device path contents).passed

section Passes

variable {device : Device} {t u : FileTree} {path : String} {contents : Bytes} {dir : Location}
  {name : String} {slash : Bool}

/-- The entry that the path leads to holds what it held, or the new contents. Where nothing was, a
directory of the path may have been made. -/
theorem Passes.node? (h : Passes device t path contents u)
    (hplace : (t.prepared device path).place false path = .ok (.entry dir name slash)) :
    u.node? (dir ++ [name]) = t.node? (dir ++ [name]) ∨
      t.node? (dir ++ [name]) = none ∧ u.node? (dir ++ [name]) = some .directory ∨
      (t.replace device path contents).outcome = .ok () ∧
        u.node? (dir ++ [name]) = some (.file contents) := by
  have hold : ∀ {u}, t.Grows u → u.node? (dir ++ [name]) = t.node? (dir ++ [name]) ∨
      t.node? (dir ++ [name]) = none ∧ u.node? (dir ++ [name]) = some .directory :=
    fun hgrows => hgrows.node _
  rcases h with ⟨hgrows, -⟩ | hpassed
  · exact (hold hgrows).imp_right .inl
  have hattempt := allOrNothing_replace device t path contents
  rcases hattempt.passed u hpassed with hprovisional | ⟨hok, rfl⟩
  · rw [(hprovisional.place_and_node hplace).2]
    exact (hold (makesWay_prepared t device path).grows).imp_right .inl
  · rcases hattempt.final with ⟨_, herror, -⟩ | ⟨-, dir', name', hplace', -, -, hnode, -⟩
    · cases hok.symm.trans herror
    · cases hplace.symm.trans hplace'
      exact .inr (.inr ⟨hok, hnode⟩)

/-- A path that leads to no link is read as it was, or as the new contents. Where it led nowhere,
directories that are made may bring a file into reach. -/
theorem Passes.read (h : Passes device t path contents u)
    (hplace : (t.prepared device path).place false path = .ok (.entry dir name slash))
    (hlink : ∀ target, (t.prepared device path).node? (dir ++ [name]) ≠ some (.link target)) :
    u.read path = t.read path ∨
      t.read path = .error .notFound ∧ u.read path = (t.prepared device path).read path ∨
      (t.replace device path contents).outcome = .ok () ∧ u.read path = .ok contents := by
  rcases h with ⟨hgrows, hgrows'⟩ | hpassed
  · rcases hgrows.read_or path with hnone | hsame
    · rcases hgrows'.read_or path with hnone' | hsame'
      · exact .inl (hnone'.trans hnone.symm)
      · exact .inr (.inl ⟨hnone, hsame'.symm⟩)
    · exact .inl hsame
  have hattempt := allOrNothing_replace device t path contents
  rcases hattempt.passed u hpassed with hprovisional | ⟨hok, rfl⟩
  · rw [hprovisional.read_eq hplace hlink]
    rcases (makesWay_prepared t device path).grows.read_or path with hnone | hsame
    · exact .inr (.inl ⟨hnone, rfl⟩)
    · exact .inl hsame
  · rcases hattempt.final with ⟨_, herror, -⟩ | ⟨-, hreplaced⟩
    · cases hok.symm.trans herror
    rcases hreplaced.read_or with hread | ⟨-, -, ⟨dir', name', _, target, hplace', hnode⟩, -⟩
    · exact .inr (.inr ⟨hok, hread⟩)
    · cases hplace.symm.trans hplace'
      exact (hlink target hnode).elim

end Passes

end FileTree

namespace Management.Service

open FileTree

variable {σ ι : Type}

/-- Nothing is different but for directories made above the file. -/
structure Untouched (s after : Service σ ι) : Prop where
  session : after.session = s.session
  repository : after.store.repository = s.store.repository
  files : s.store.files.MakesWay (Path.ancestors (Path.directory s.store.repository.path))
    after.store.files

/-- The registry stands where the path leads to once the directories above the file are made, and is
what the repository remembers; nothing else is different. The path is read as the registry, unless
it named a link to a directory or a circle of links. -/
structure Rewritten (s after : Service σ ι) : Prop where
  session : after.session = s.session
  repository : after.store.repository =
    { s.store.repository with synced := some s.session.contents }
  directories : s.store.files.MakesWay (Path.ancestors (Path.directory s.store.repository.path))
    (s.store.files.prepared s.store.device s.store.repository.path)
  files : (s.store.files.prepared s.store.device s.store.repository.path).Replaced
    s.store.repository.path (Record.ofSnapshot s.session.contents).toBytes after.store.files
  read : after.store.files.read s.store.repository.path =
      .ok (Record.ofSnapshot s.session.contents).toBytes ∨
    after.store.files.read s.store.repository.path = .error .notDirectory ∧
      (s.store.files.prepared s.store.device s.store.repository.path).Misled
        s.store.repository.path

theorem untouched_of_persist {s : Service σ ι} {e : RepositoryError}
    (h : (s.store.persist s.session.contents).1 = .error e) (answer : Snapshot → Response) :
    s.Untouched (s.persist answer).2 := by
  rw [(persist_cases s answer).1]
  rcases s.store.persist_cases s.session.contents with
    ⟨hok, -⟩ | ⟨_, cause, -, houtcome, hrepository⟩
  · cases h.symm.trans hok
  refine ⟨rfl, hrepository, ?_⟩
  have hdirectories := makesWay_prepared s.store.files s.store.device s.store.repository.path
  rcases (allOrNothing_replace s.store.device s.store.files s.store.repository.path
    (Record.ofSnapshot s.session.contents).toBytes).final with ⟨_, -, halike⟩ | ⟨hok, -⟩
  · simp only [Store.persist_files]
    exact hdirectories.of_alike halike
  · cases houtcome.symm.trans hok

theorem rewritten_of_persist {s : Service σ ι}
    (h : (s.store.persist s.session.contents).1 = .ok ()) (answer : Snapshot → Response) :
    s.Rewritten (s.persist answer).2 := by
  rw [(persist_cases s answer).1]
  obtain ⟨houtcome, hrepository⟩ := Store.persist_ok h
  rcases (allOrNothing_replace s.store.device s.store.files s.store.repository.path
    (Record.ofSnapshot s.session.contents).toBytes).final with ⟨_, herror, -⟩ | ⟨-, hreplaced⟩
  · cases houtcome.symm.trans herror
  rw [← Store.persist_files] at hreplaced
  exact ⟨rfl, hrepository, makesWay_prepared _ _ _, hreplaced,
    hreplaced.read_or.imp_right fun ⟨_, hread, hmisled⟩ => ⟨hread, hmisled⟩⟩

/-- Persisting is all or nothing, whatever the files are and whichever step the device refuses; and
the target holds its old or its new contents in every tree on the way. -/
theorem persist_all_or_nothing (s : Service σ ι) (answer : Snapshot → Response) :
    let path := s.store.repository.path
    let bytes := (Record.ofSnapshot s.session.contents).toBytes
    let base := s.store.files.prepared s.store.device path
    let outcome := (s.store.persist s.session.contents).1
    (∀ e, outcome = .error e → s.Untouched (s.persist answer).2) ∧
    (outcome = .ok () → s.Rewritten (s.persist answer).2) ∧
    ∀ u, Passes s.store.device s.store.files path bytes u →
      ∀ dir name slash, base.place false path = .ok (.entry dir name slash) →
        (u.node? (dir ++ [name]) = s.store.files.node? (dir ++ [name]) ∨
          s.store.files.node? (dir ++ [name]) = none ∧
            u.node? (dir ++ [name]) = some .directory ∨
          outcome = .ok () ∧ u.node? (dir ++ [name]) = some (.file bytes)) ∧
        ((∀ target, base.node? (dir ++ [name]) ≠ some (.link target)) →
          u.read path = s.store.files.read path ∨
          s.store.files.read path = .error .notFound ∧ u.read path = base.read path ∨
          outcome = .ok () ∧ u.read path = .ok bytes) := by
  intro path bytes base outcome
  refine ⟨fun e he => untouched_of_persist he answer, fun hok => rewritten_of_persist hok answer,
    fun u hu dir name slash hplace => ?_⟩
  have houtcome : (s.store.files.replace s.store.device path bytes).outcome = .ok () →
      outcome = .ok () := by
    intro hreplace
    rcases s.store.persist_cases s.session.contents with ⟨hok, -⟩ | ⟨_, _, -, herror, -⟩
    · exact hok
    · cases hreplace.symm.trans herror
  refine ⟨(hu.node? hplace).imp_right (Or.imp_right (And.imp_left houtcome)), fun hlink => ?_⟩
  exact (hu.read hplace hlink).imp_right (Or.imp_right (And.imp_left houtcome))

/-- A service that has learned of a container since it opened its registry on such a store. -/
def changedService (dir : String) (files : FileTree) (device : Device) : Service Unit Unit :=
  let s := (blankService dir files).change (.addContainerHost "c" "http://h")
  { s with store := { s.store with device } }

/-- A device that refuses to sync. -/
def refusesSync : Device := fun step => if step = .sync then some .busy else none

/-- The directory `d/e` is made, and the file put there or given up again. -/
theorem persist_all_or_nothing_fresh :
    (changedService "d/e" .empty soundDevice).Rewritten
        ((changedService "d/e" .empty soundDevice).persist fun _ => .bare 200).2 ∧
      (changedService "d/e" .empty refusesSync).Untouched
        ((changedService "d/e" .empty refusesSync).persist fun _ => .bare 200).2 := by
  have hsound := persist_all_or_nothing (changedService "d/e" .empty soundDevice) fun _ => .bare 200
  have hrefused := persist_all_or_nothing (changedService "d/e" .empty refusesSync) fun _ => .bare 200
  constructor
  · cases houtcome : ((changedService "d/e" .empty soundDevice).store.persist
        (changedService "d/e" .empty soundDevice).session.contents).1 with
    | ok _ => exact hsound.2.1 houtcome
    | error e =>
      have hfails : _ = false := congrArg Except.isOk houtcome
      exact absurd hfails (by decide +kernel)
  · cases houtcome : ((changedService "d/e" .empty refusesSync).store.persist
        (changedService "d/e" .empty refusesSync).session.contents).1 with
    | error e => exact hrefused.1 e houtcome
    | ok _ =>
      have hsucceeds : _ = true := congrArg Except.isOk houtcome
      exact absurd hsucceeds (by decide +kernel)

/-- The path leads through the link that is replaced: the file is there, but not read any more. -/
theorem unread_of_persist :
    ((changedService "a/../f/.." linkedTree soundDevice).store.persist
        (changedService "a/../f/.." linkedTree soundDevice).session.contents).1.isOk = true ∧
      (((changedService "a/../f/.." linkedTree soundDevice).persist
        fun _ => .bare 200).2.store.files.read
          (changedService "a/../f/.." linkedTree soundDevice).store.repository.path).toOption =
        none := by
  decide +kernel

end Management.Service

end HostRegistry
