import HostRegistry.Proofs.Record.Layout
import HostRegistry.Proofs.Snapshot.Built
import HostRegistry.Repository

/-!
# What a file stores

What is stored of contents is read back as the same contents when they are loadable, and as nothing
otherwise. And whatever bytes are read as contents, these contents can be stored and read again.
-/

namespace HostRegistry

namespace FileTree

theorem readSnapshot_eq_ok_some_iff {t : FileTree} {path : String} {s : Snapshot} :
    t.readSnapshot path = .ok (some s) ↔
      ∃ bytes record, t.read path = .ok bytes ∧ Record.ofBytes bytes = .ok record ∧
        record.toSnapshot = .ok s := by
  rw [readSnapshot]
  cases t.read path with
  | error cause => cases cause <;> simp
  | ok bytes =>
    cases hrecord : Record.ofBytes bytes with
    | error fault => simp [hrecord]
    | ok record => cases hcontents : record.toSnapshot <;> simp [hrecord, hcontents]

theorem readSnapshot_eq_ok_none_iff {t : FileTree} {path : String} :
    t.readSnapshot path = .ok none ↔ t.read path = .error .notFound := by
  rw [readSnapshot]
  cases t.read path with
  | error cause => cases cause <;> simp
  | ok bytes =>
    cases hrecord : Record.ofBytes bytes with
    | error fault => simp [hrecord]
    | ok record => cases hcontents : record.toSnapshot <;> simp [hrecord, hcontents]

/-- What is read is loadable and its index is well-formed, whoever wrote it. -/
theorem loadable_of_readSnapshot {t : FileTree} {path : String} {s : Snapshot}
    (h : t.readSnapshot path = .ok (some s)) :
    s.Loadable ∧ InfoIndex.WellFormed s.infoIndex := by
  obtain ⟨-, record, -, -, hcontents⟩ := readSnapshot_eq_ok_some_iff.1 h
  exact Record.loadable_of_toSnapshot hcontents

/-- What is read could be built by loading the record that was read. -/
theorem built_of_readSnapshot {t : FileTree} {path : String} {s : Snapshot}
    (h : t.readSnapshot path = .ok (some s)) : ∃ ops, Snapshot.built ops = s := by
  obtain ⟨-, record, -, -, hcontents⟩ := readSnapshot_eq_ok_some_iff.1 h
  refine ⟨[.load record], ?_⟩
  simp only [Snapshot.built, Snapshot.after, List.foldl_cons, List.foldl_nil, Operation.apply,
    hcontents]

/-- Loadable contents are read back from their bytes. -/
theorem readSnapshot_of_loadable {t : FileTree} {path : String} {s : Snapshot}
    (hread : t.read path = .ok (Record.ofSnapshot s).toBytes)
    (hindex : InfoIndex.WellFormed s.infoIndex) (h : s.Loadable) :
    t.readSnapshot path = .ok (some s) :=
  readSnapshot_eq_ok_some_iff.2 ⟨_, _, hread, Record.ofBytes_toBytes _,
    Record.toSnapshot_ofSnapshot hindex h⟩

/-- The bytes of other contents are refused. -/
theorem readSnapshot_of_not_loadable {t : FileTree} {path : String} {s : Snapshot}
    (hread : t.read path = .ok (Record.ofSnapshot s).toBytes) (h : ¬s.Loadable) :
    ∃ cause, t.readSnapshot path = .error (.invalid path cause) := by
  rw [readSnapshot, hread]
  simp only [Record.ofBytes_toBytes]
  cases hcontents : (Record.ofSnapshot s).toSnapshot with
  | error cause => exact ⟨cause, rfl⟩
  | ok contents => exact (h (Record.loadable_of_toSnapshot_ofSnapshot hcontents)).elim

/-- From the bytes of contents no other contents are ever read. -/
theorem eq_of_readSnapshot_stored {t : FileTree} {path : String} {s s' : Snapshot}
    (hread : t.read path = .ok (Record.ofSnapshot s).toBytes)
    (hindex : InfoIndex.WellFormed s.infoIndex) (h : t.readSnapshot path = .ok (some s')) :
    s' = s := by
  by_cases hloadable : s.Loadable
  · cases (readSnapshot_of_loadable hread hindex hloadable).symm.trans h
    rfl
  · obtain ⟨cause, hrefused⟩ := readSnapshot_of_not_loadable hread hloadable
    cases hrefused.symm.trans h

/-- Built contents are read back from their bytes exactly when they are loadable, and their bytes
are refused otherwise. Whatever bytes are read, what they are read as can be built, is loadable and
so is read back when it is stored in its turn. -/
theorem readSnapshot_stored :
    (∀ (ops : List Operation) (t : FileTree) (path : String),
      t.read path = .ok (Record.ofSnapshot (Snapshot.built ops)).toBytes →
        (t.readSnapshot path = .ok (some (Snapshot.built ops)) ↔ (Snapshot.built ops).Loadable) ∧
        (¬(Snapshot.built ops).Loadable →
          ∃ cause, t.readSnapshot path = .error (.invalid path cause))) ∧
    ∀ (t : FileTree) (path : String) (s : Snapshot), t.readSnapshot path = .ok (some s) →
      s.Loadable ∧ (∃ ops, Snapshot.built ops = s) ∧
        ∀ (t' : FileTree) (path' : String),
          t'.read path' = .ok (Record.ofSnapshot s).toBytes →
            t'.readSnapshot path' = .ok (some s) := by
  refine ⟨fun ops t path hread => ⟨⟨fun h => ?_, fun h => ?_⟩, fun h => ?_⟩, fun t path s h => ?_⟩
  · exact (loadable_of_readSnapshot h).1
  · exact readSnapshot_of_loadable hread (Snapshot.wellFormed_built ops) h
  · exact readSnapshot_of_not_loadable hread h
  · obtain ⟨hloadable, hindex⟩ := loadable_of_readSnapshot h
    refine ⟨hloadable, built_of_readSnapshot h, fun t' path' hread => ?_⟩
    exact readSnapshot_of_loadable hread hindex hloadable

/-- A tree with the stored contents in the file `f`. -/
def holding (s : Snapshot) : FileTree :=
  FileTree.empty.set ["work", "f"] (.file (Record.ofSnapshot s).toBytes)

def sampleOps : List Operation :=
  [.change (.register ⟨"c", "a", ⟨"g", "a", "v"⟩⟩ "s" "http://h"),
    .change (.removeServerHost "s" "http://h")]

theorem readSnapshot_holding :
    (holding (Snapshot.built sampleOps)).readSnapshot "f" =
      .ok (some (Snapshot.built sampleOps)) := by
  have hread : (holding (Snapshot.built sampleOps)).read "f" =
      .ok (Record.ofSnapshot (Snapshot.built sampleOps)).toBytes := rfl
  exact (readSnapshot_stored.1 sampleOps _ "f" hread).1.2 (by decide +kernel)

end FileTree

end HostRegistry
