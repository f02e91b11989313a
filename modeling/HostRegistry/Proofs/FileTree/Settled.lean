import HostRegistry.Proofs.FileTree.Walk
import HostRegistry.SortedMap.Lookup

/-!
# Paths that changes of the tree leave alone

Making directories can bring a file into reach, and putting a file in place of a link can change
where paths lead that pass through it. A path is settled when reading it gives contents, or when it
leads to an entry that is no link or meets an obstacle other than a missing directory. What a
settled path is read as is changed by neither.
-/

namespace HostRegistry.FileTree

/-! ## Reading -/

/-- Reads what stands at a place to which links have been followed. -/
def readAt (t : FileTree) : Place → Except FileError Bytes
  | .directory _ => .error .isDirectory
  | .entry dir name slash =>
    match t.node? (dir ++ [name]) with
    | none => .error .notFound
    | some .directory => .error .isDirectory
    | some (.file contents) => if slash then .error .notDirectory else .ok contents
    | some (.link _) => .error (if slash then .notDirectory else .isDirectory)

theorem read_of_place {t : FileTree} {path : String} {place : Place}
    (h : t.place true path = .ok place) : t.read path = t.readAt place := by
  rw [read, resolve, h]
  cases place with
  | directory l => rfl
  | entry dir name slash =>
    simp only [bind, Except.bind, readAt]
    match t.node? (dir ++ [name]) with
    | none => rfl
    | some .directory => cases slash <;> rfl
    | some (.file contents) => cases slash <;> rfl
    | some (.link target) => cases slash <;> rfl

theorem read_of_place_error {t : FileTree} {path : String} {e : FileError}
    (h : t.place true path = .error e) : t.read path = .error e := by
  rw [read, resolve, h]
  rfl

theorem readAt_of_isDirectoryAt {t : FileTree} {place : Place} (h : t.IsDirectoryAt place) :
    t.readAt place = .error .isDirectory := by
  cases place with
  | directory l => rfl
  | entry dir name slash => simp only [readAt, show t.node? (dir ++ [name]) = _ from h]

theorem read_of_not_endsInLink {t : FileTree} {path : String} {place : Place}
    (h : t.place false path = .ok place) (hlink : ¬t.EndsInLink (t.place false path)) :
    t.read path = t.readAt place :=
  read_of_place (((t.place_true_or path).resolve_left hlink).trans h)

/-! ## Changed entries -/

@[simp]
theorem node?_set_self (t : FileTree) (dir : Location) (name : String) (node : Node) :
    (t.set (dir ++ [name]) node).node? (dir ++ [name]) = some node := by
  cases dir <;> exact SortedMap.get?_insert_self _ _ _

theorem node?_set_of_ne (t : FileTree) {l l' : Location} (h : l' ≠ l) (node : Node) :
    (t.set l node).node? l' = t.node? l' := by
  cases l' with
  | nil => rfl
  | cons name rest => exact SortedMap.get?_insert_of_ne _ _ h

@[simp]
theorem node?_remove_self (t : FileTree) (dir : Location) (name : String) :
    (t.remove (dir ++ [name])).node? (dir ++ [name]) = none := by
  cases dir <;> exact SortedMap.get?_erase_self _ _

theorem node?_remove_of_ne (t : FileTree) {l l' : Location} (h : l' ≠ l) :
    (t.remove l).node? l' = t.node? l' := by
  cases l' with
  | nil => rfl
  | cons name rest => exact SortedMap.get?_erase_of_ne _ h

/-- Removing an entry that is no directory leaves nothing in its place. -/
theorem overwrites_remove {t : FileTree} {dir : Location} {name : String}
    (h : t.node? (dir ++ [name]) ≠ some .directory) :
    Overwrites t (t.remove (dir ++ [name])) (dir ++ [name]) where
  workingDir := rfl
  fits := h
  now := .inl (node?_remove_self t dir name)
  kept _ hne _ hnode _ := (node?_remove_of_ne t hne).trans hnode

theorem unlink_eq_ok_iff {t t' : FileTree} {path : String} :
    t.unlink path = .ok t' ↔
      ∃ dir name, t.place false path = .ok (.entry dir name false) ∧
        t.node? (dir ++ [name]) ≠ none ∧ t.node? (dir ++ [name]) ≠ some .directory ∧
        t' = t.remove (dir ++ [name]) := by
  rw [unlink]
  cases t.place false path with
  | error e => simp [bind, Except.bind]
  | ok place =>
    cases place with
    | directory l => simp [bind, Except.bind]
    | entry dir name slash =>
      simp only [bind, Except.bind, Except.ok.injEq, Place.entry.injEq]
      constructor
      · intro h
        split at h
        · cases h
        · cases h
        next node hdirectory hnode =>
          cases slash
          · cases h
            refine ⟨dir, name, ⟨rfl, rfl, rfl⟩, ?_, ?_, rfl⟩
            · rw [hnode]
              nofun
            · rw [hnode]
              exact fun heq => hdirectory (Option.some.inj heq)
          · cases h
      · rintro ⟨_, _, ⟨rfl, rfl, rfl⟩, hsome, hdirectory, rfl⟩
        split
        next hnone => exact (hsome hnone).elim
        next hnode => exact (hdirectory hnode).elim
        next => rfl

/-! ## Settled paths -/

def Settled (t : FileTree) (path : String) : Prop :=
  (∃ bytes, t.read path = .ok bytes) ∨
    t.place false path ≠ .error .notFound ∧ ¬t.EndsInLink (t.place false path)

theorem Grows.readAt {t t' : FileTree} (h : Grows t t') {place : Place} {bytes : Bytes}
    (hread : t'.readAt place = .ok bytes) : t.readAt place = .ok bytes := by
  cases place with
  | directory l => cases hread
  | entry dir name slash =>
    rw [FileTree.readAt] at hread ⊢
    rcases h.node (dir ++ [name]) with heq | ⟨-, hdirectory⟩
    · rw [heq] at hread
      exact hread
    · rw [hdirectory] at hread
      cases hread

theorem Grows.read_or {t t' : FileTree} (h : Grows t t') (path : String) :
    t.read path = .error .notFound ∨ t'.read path = t.read path := by
  rcases h.place_or true path with hnone | hsame
  · exact .inl (read_of_place_error hnone)
  cases hplace : t.place true path with
  | error e =>
    rw [hplace] at hsame
    exact .inr (by rw [read_of_place_error hplace, read_of_place_error hsame])
  | ok place =>
    rw [hplace] at hsame
    rw [read_of_place hplace, read_of_place hsame]
    cases place with
    | directory l => exact .inr rfl
    | entry dir name slash =>
      rw [FileTree.readAt, FileTree.readAt]
      rcases h.node (dir ++ [name]) with heq | ⟨hnone, -⟩
      · exact .inr (by rw [heq])
      · exact .inl (by rw [hnone])

/-- Where a path is settled, made directories bring no file into reach. -/
theorem Settled.of_grows {t t' : FileTree} {path : String} (hsettled : t.Settled path)
    (h : Grows t t') :
    t'.Settled path ∧ ∀ bytes, t'.read path = .ok bytes → t.read path = .ok bytes := by
  rcases hsettled with ⟨bytes, hread⟩ | ⟨hplace, hlink⟩
  · rcases h.read_or path with hnone | hsame
    · cases hread.symm.trans hnone
    · exact ⟨.inl ⟨bytes, hsame.trans hread⟩, fun _ h' => hsame.symm.trans h'⟩
  have hsame : t'.place false path = t.place false path :=
    (h.place_or false path).resolve_left hplace
  have hlink' : ¬t'.EndsInLink (t'.place false path) := by
    rw [hsame]
    rintro ⟨dir, name, slash, target, hfound, hnode⟩
    rcases h.node (dir ++ [name]) with heq | ⟨-, hdirectory⟩
    · exact hlink ⟨dir, name, slash, target, hfound, heq.symm.trans hnode⟩
    · cases hnode.symm.trans hdirectory
  refine ⟨.inr ⟨hsame ▸ hplace, hlink'⟩, fun bytes hread => ?_⟩
  cases hfound : t.place false path with
  | error e =>
    have hplace' : t'.place true path = .error e := place_true_of_error (hsame.trans hfound)
    cases (read_of_place_error hplace').symm.trans hread
  | ok place =>
    rw [read_of_not_endsInLink (hsame.trans hfound) hlink'] at hread
    rw [read_of_not_endsInLink hfound hlink]
    exact h.readAt hread

/-! ## Overwritten entries -/

theorem Overwrites.place_or {t t' : FileTree} {path : String} {dir : Location} {name : String}
    {slash : Bool} (h : Overwrites t t' (dir ++ [name]))
    (hplace : t.place false path = .ok (.entry dir name slash)) :
    t'.place false path = .ok (.entry dir name slash) ∨
      (∀ follow, t'.place follow path = .error (obstacle (t'.node? (dir ++ [name])))) ∧
      (t.read path = .error .tooManyLinks ∨ t.read path = .error .isDirectory) := by
  have hread : ∀ {found}, t.place true path = found →
      (found = .error .tooManyLinks ∨ ∃ q, found = .ok q ∧ t.IsDirectoryAt q) →
      t.read path = .error .tooManyLinks ∨ t.read path = .error .isDirectory := by
    rintro _ hfound (rfl | ⟨q, rfl, hq⟩)
    · exact .inl (read_of_place_error hfound)
    · exact .inr ((read_of_place hfound).trans (readAt_of_isDirectoryAt hq))
  obtain ⟨hwalk, hzero, hempty, hlong⟩ := place_eq_ok hplace
  simp only [place, h.workingDir, if_neg hzero, if_neg hempty, if_neg hlong] at hread ⊢
  rcases h.walk_or hwalk with hsame | ⟨hstop, htrue⟩
  · exact .inl hsame
  · exact .inr ⟨hstop, hread rfl htrue⟩

/-- Reading a path after the entry that it led to was overwritten gives what stands there now,
unless the path was read as a directory or as a circle of links before. -/
theorem Overwrites.read_or {t t' : FileTree} {path : String} {dir : Location} {name : String}
    {slash : Bool} (h : Overwrites t t' (dir ++ [name]))
    (hplace : t.place false path = .ok (.entry dir name slash)) :
    (t'.read path = t'.readAt (.entry dir name slash) ∧ t'.Settled path) ∨
      t'.place false path = .error (obstacle (t'.node? (dir ++ [name]))) ∧
      t'.read path = .error (obstacle (t'.node? (dir ++ [name]))) ∧
      (t.read path = .error .tooManyLinks ∨ t.read path = .error .isDirectory) := by
  rcases h.place_or hplace with hsame | ⟨hstop, hread⟩
  · have hlink : ¬t'.EndsInLink (t'.place false path) := by
      rw [hsame]
      rintro ⟨dir', name', slash', target, hfound, hnode⟩
      cases hfound
      rcases h.now with hnow | ⟨contents, hnow⟩ <;> cases hnow.symm.trans hnode
    refine .inl ⟨read_of_not_endsInLink hsame hlink, .inr ⟨?_, hlink⟩⟩
    rw [hsame]
    nofun
  · exact .inr ⟨hstop false, read_of_place_error (hstop true), hread⟩

/-- A removed file or link is not found any more. -/
theorem read_of_unlink {t t' : FileTree} {path : String} (h : t.unlink path = .ok t') :
    t'.read path = .error .notFound := by
  obtain ⟨dir, name, hplace, -, hdirectory, rfl⟩ := unlink_eq_ok_iff.1 h
  rcases (overwrites_remove hdirectory).read_or hplace with ⟨hread, -⟩ | ⟨-, hread, -⟩
  · rw [hread, readAt, node?_remove_self]
  · rw [hread, node?_remove_self]
    rfl

/-- Where a path is settled or leads to nothing, it is settled after the entry is removed. -/
theorem settled_of_unlink {t t' : FileTree} {path : String} (h : t.unlink path = .ok t')
    (hbefore : t.Settled path ∨ t.read path = .error .notFound) : t'.Settled path := by
  obtain ⟨dir, name, hplace, hsome, hdirectory, rfl⟩ := unlink_eq_ok_iff.1 h
  rcases (overwrites_remove hdirectory).read_or hplace with ⟨-, hsettled⟩ | ⟨-, -, hread⟩
  · exact hsettled
  exfalso
  rcases hbefore with (⟨bytes, hbytes⟩ | ⟨-, hlink⟩) | hnone
  · rw [hbytes] at hread
    rcases hread with hread | hread <;> cases hread
  · rw [read_of_not_endsInLink hplace hlink, readAt] at hread
    match hnode : t.node? (dir ++ [name]) with
    | none => exact hsome hnode
    | some .directory => exact hdirectory hnode
    | some (.link target) => exact hlink ⟨dir, name, false, target, hplace, hnode⟩
    | some (.file contents) =>
      rw [hnode] at hread
      rcases hread with hread | hread <;> cases hread
  · rw [hnone] at hread
    rcases hread with hread | hread <;> cases hread

end HostRegistry.FileTree
