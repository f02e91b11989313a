import HostRegistry.Proofs.FileTree.Settled

/-!
# Making directories

Making a directory, with the missing ones above it, takes nothing away and puts directories only
where nothing was, each at a place that the path or one above it leads to then. When it succeeds the
directory is there.
-/

namespace HostRegistry.FileTree

/-! ## Trees that grow -/

theorem Grows.refl (t : FileTree) : Grows t t := ⟨rfl, fun _ => .inl rfl⟩

theorem Grows.trans {t t' t'' : FileTree} (h : Grows t t') (h' : Grows t' t'') : Grows t t'' where
  workingDir := h'.workingDir.trans h.workingDir
  node l := by
    rcases h.node l with heq | ⟨hnone, hdirectory⟩
    · rw [← heq]
      exact h'.node l
    · rcases h'.node l with heq' | ⟨hnone', -⟩
      · exact .inr ⟨hnone, heq'.trans hdirectory⟩
      · cases hdirectory.symm.trans hnone'

/-- What is found stays found. -/
theorem Grows.resolve {t t' : FileTree} (h : Grows t t') {path : String} {l : Location}
    {node : Node} (hresolve : t.resolve path = .ok (l, node)) : t'.resolve path = .ok (l, node) := by
  rw [FileTree.resolve] at hresolve ⊢
  rcases h.place_or true path with hnone | hsame
  · rw [hnone] at hresolve
    cases hresolve
  rw [hsame]
  cases hplace : t.place true path with
  | error e =>
    rw [hplace] at hresolve
    cases hresolve
  | ok place =>
    rw [hplace] at hresolve
    cases place with
    | directory l' => exact hresolve
    | entry dir name slash =>
      simp only [bind, Except.bind] at hresolve ⊢
      rcases h.node (dir ++ [name]) with heq | ⟨hnone, -⟩
      · rw [heq]
        exact hresolve
      · rw [hnone] at hresolve
        cases hresolve

/-- The second tree has all that the first one has, and otherwise only directories that some of the
paths lead to. -/
structure MakesWay (paths : List String) (t t' : FileTree) : Prop where
  workingDir : t'.workingDir = t.workingDir
  node : ∀ l, t'.node? l = t.node? l ∨
    t.node? l = none ∧ t'.node? l = some .directory ∧
      ∃ path ∈ paths, t'.resolve path = .ok (l, .directory)

namespace MakesWay

variable {paths : List String} {t t' t'' : FileTree}

theorem grows (h : MakesWay paths t t') : Grows t t' :=
  ⟨h.workingDir, fun l => (h.node l).imp_right fun ⟨hnone, hdirectory, _⟩ => ⟨hnone, hdirectory⟩⟩

theorem refl (paths : List String) (t : FileTree) : MakesWay paths t t :=
  ⟨rfl, fun _ => .inl rfl⟩

theorem trans (h : MakesWay paths t t') (h' : MakesWay paths t' t'') : MakesWay paths t t'' where
  workingDir := h'.workingDir.trans h.workingDir
  node l := by
    rcases h'.node l with hsame' | ⟨hnone', hmade'⟩
    · rw [hsame']
      refine (h.node l).imp_right fun ⟨hnone, hdirectory, path, hpath, hresolve⟩ => ?_
      exact ⟨hnone, hdirectory, path, hpath, h'.grows.resolve hresolve⟩
    · rcases h.node l with hsame | ⟨-, hdirectory, -⟩
      · exact .inr ⟨hsame.symm.trans hnone', hmade'⟩
      · cases hdirectory.symm.trans hnone'

theorem mono {more : List String} (h : MakesWay paths t t') (hpaths : paths ⊆ more) :
    MakesWay more t t' where
  workingDir := h.workingDir
  node l := (h.node l).imp_right fun ⟨hnone, hdirectory, path, hpath, hresolve⟩ =>
    ⟨hnone, hdirectory, path, hpaths hpath, hresolve⟩

end MakesWay

/-! ## One directory -/

theorem makeDirectory_eq_ok {t t' : FileTree} {path : String} (h : t.makeDirectory path = .ok t') :
    ∃ dir name slash, t.place false path = .ok (.entry dir name slash) ∧
      t.node? (dir ++ [name]) = none ∧ t' = t.set (dir ++ [name]) .directory := by
  rw [makeDirectory] at h
  cases hplace : t.place false path with
  | error e =>
    rw [hplace] at h
    cases h
  | ok place =>
    rw [hplace] at h
    cases place with
    | directory l => cases h
    | entry dir name slash =>
      simp only [bind, Except.bind] at h
      split at h
      · cases h
      next hnone =>
        cases h
        exact ⟨dir, name, slash, rfl, hnone, rfl⟩

/-- A directory is made where nothing was, and the path leads to it then. -/
theorem makesWay_makeDirectory {t t' : FileTree} {path : String}
    (h : t.makeDirectory path = .ok t') :
    MakesWay [path] t t' ∧ ∃ l, t'.resolve path = .ok (l, .directory) := by
  obtain ⟨dir, name, slash, hplace, hnone, rfl⟩ := makeDirectory_eq_ok h
  have hnode := node?_set_self t dir name .directory
  have hothers := fun l (hne : l ≠ dir ++ [name]) => node?_set_of_ne t hne .directory
  generalize ht' : t.set (dir ++ [name]) .directory = t' at hnode hothers
  have hworkingDir : t'.workingDir = t.workingDir := by
    rw [← ht']
    rfl
  have hgrows : Grows t t' := by
    refine ⟨hworkingDir, fun l => ?_⟩
    by_cases hl : l = dir ++ [name]
    · rw [hl]
      exact .inr ⟨hnone, hnode⟩
    · exact .inl (hothers l hl)
  have hresolve : t'.resolve path = .ok (dir ++ [name], .directory) := by
    have hplace' : t'.place false path = .ok (.entry dir name slash) := by
      refine ((hgrows.place_or false path).resolve_left fun hmissing => ?_).trans hplace
      cases hplace.symm.trans hmissing
    rw [resolve, place_true_of_entry hplace' fun target hlink => by cases hnode.symm.trans hlink]
    simp only [bind, Except.bind, hnode, bne_self_eq_false, Bool.and_false]
    rfl
  refine ⟨⟨hworkingDir, fun l => ?_⟩, dir ++ [name], hresolve⟩
  by_cases hl : l = dir ++ [name]
  · rw [hl]
    exact .inr ⟨hnone, hnode, path, List.mem_singleton_self path, hresolve⟩
  · exact .inl (hothers l hl)

theorem makeDirectory_of_resolve {t : FileTree} {path : String} {found : Location × Node}
    (h : t.resolve path = .ok found) : t.makeDirectory path = .error .alreadyExists := by
  rw [resolve] at h
  rw [makeDirectory]
  cases hplace : t.place false path with
  | error e =>
    rw [place_true_of_error hplace] at h
    cases h
  | ok place =>
    cases place with
    | directory l => rfl
    | entry dir name slash =>
      simp only [bind, Except.bind]
      cases hnode : t.node? (dir ++ [name]) with
      | some node => rfl
      | none =>
        rw [place_true_of_entry hplace (fun _ hlink => by cases hnode.symm.trans hlink)] at h
        simp only [bind, Except.bind, hnode] at h
        cases h

theorem isDirectory_iff {t : FileTree} {path : String} :
    t.isDirectory path = true ↔ ∃ l, t.resolve path = .ok (l, .directory) := by
  rw [isDirectory]
  match t.resolve path with
  | .error e => simp
  | .ok (l, .directory) => simp
  | .ok (l, .file _) => simp
  | .ok (l, .link _) => simp

/-! ## A directory and those above it -/

theorem ancestors_eq_cons (path : String) : ∃ above, Path.ancestors path = path :: above :=
  ⟨_, rfl⟩

/-- On the way up at most one of the paths is made. Those passed by are put before the ones that
were missing already; the first path is among them unless it is there now or has nothing above. -/
theorem makesWay_makeUpwards {t t' : FileTree} {missing above missing' : List String}
    (h : t.makeUpwards missing above = .ok (missing', t')) :
    MakesWay above t t' ∧ missing' ⊆ above ++ missing ∧ missing ⊆ missing' ∧
      ∀ path ∈ above.head?, path ∈ missing' ∨ path = "" ∨ Path.parent? path = none ∨
        ∃ l, t'.resolve path = .ok (l, .directory) := by
  induction above generalizing missing with
  | nil =>
    cases h
    exact ⟨.refl _ t, List.Subset.refl _, List.Subset.refl _, nofun⟩
  | cons path above ih =>
    have hmore := List.subset_append_right (path :: above) missing
    rw [makeUpwards] at h
    split at h
    next hstop =>
      cases h
      refine ⟨.refl _ t, hmore, List.Subset.refl _, fun _ hpath => ?_⟩
      cases hpath
      rw [Bool.or_eq_true, decide_eq_true_eq, Option.isNone_iff_eq_none] at hstop
      exact .inr (hstop.imp_right .inl)
    split at h
    next hmade =>
      cases h
      obtain ⟨hway, hresolve⟩ := makesWay_makeDirectory hmade
      refine ⟨hway.mono (by simp), hmore, List.Subset.refl _, fun _ hpath => ?_⟩
      cases hpath
      exact .inr (.inr (.inr hresolve))
    next =>
      obtain ⟨hway, hall, hkept, -⟩ := ih h
      refine ⟨hway.mono (List.subset_cons_self _ _), List.Subset.trans hall List.perm_middle.subset,
        List.subset_of_cons_subset hkept, fun _ hpath => ?_⟩
      cases hpath
      exact .inl (hkept List.mem_cons_self)
    next e _ =>
      split at h
      next hthere =>
        cases h
        rw [Bool.and_eq_true] at hthere
        refine ⟨.refl _ t, hmore, List.Subset.refl _, fun _ hpath => ?_⟩
        cases hpath
        exact .inr (.inr (.inr (isDirectory_iff.1 hthere.2)))
      · cases h

/-- On the way down only the paths are made. If this comes to its end, all of them are there. -/
theorem makesWay_makeDownwards (t : FileTree) (below : List String) :
    MakesWay below t (t.makeDownwards below).2 ∧
      ((t.makeDownwards below).1 = .ok () → ∀ path ∈ below,
        ∃ l, (t.makeDownwards below).2.resolve path = .ok (l, .directory)) := by
  induction below generalizing t with
  | nil => exact ⟨.refl _ t, fun _ => nofun⟩
  | cons path below ih =>
    have hbelow := List.subset_cons_self path below
    rw [makeDownwards]
    split
    next made hmade =>
      obtain ⟨hway, l, hresolve⟩ := makesWay_makeDirectory hmade
      obtain ⟨hway', hall⟩ := ih made
      refine ⟨(hway.mono (by simp)).trans (hway'.mono hbelow), fun hok => ?_⟩
      exact List.forall_mem_cons.2 ⟨⟨l, hway'.grows.resolve hresolve⟩, hall hok⟩
    next e _ =>
      split
      next hthere =>
        rw [Bool.and_eq_true] at hthere
        obtain ⟨l, hresolve⟩ := isDirectory_iff.1 hthere.2
        obtain ⟨hway', hall⟩ := ih t
        refine ⟨hway'.mono hbelow, fun hok => ?_⟩
        exact List.forall_mem_cons.2 ⟨⟨l, hway'.grows.resolve hresolve⟩, hall hok⟩
      next => exact ⟨.refl _ t, nofun⟩

/-- Making a directory makes it and directories above it, and nothing else. -/
theorem makesWay_makeDirectories (t : FileTree) (path : String) :
    MakesWay (Path.ancestors path) t (t.makeDirectories path).2 := by
  rw [makeDirectories]
  split
  next => exact .refl _ t
  next missing t' hmade =>
    obtain ⟨hway, hall, -, -⟩ := makesWay_makeUpwards hmade
    rw [List.append_nil] at hall
    exact hway.trans ((makesWay_makeDownwards t' missing).1.mono hall)

theorem grows_makeDirectories (t : FileTree) (path : String) :
    Grows t (t.makeDirectories path).2 :=
  (makesWay_makeDirectories t path).grows

/-- A directory that was made is there, unless there was nothing to make. -/
theorem resolve_of_makeDirectories {t t' : FileTree} {path : String}
    (h : t.makeDirectories path = (.ok (), t')) :
    path = "" ∨ Path.parent? path = none ∨ ∃ l, t'.resolve path = .ok (l, .directory) := by
  rw [makeDirectories] at h
  split at h
  · cases h
  next missing t₁ hmade =>
    obtain ⟨above, habove⟩ := ancestors_eq_cons path
    rw [habove] at hmade
    obtain ⟨-, -, -, hfirst⟩ := makesWay_makeUpwards hmade
    obtain ⟨hway, hall⟩ := makesWay_makeDownwards t₁ missing
    rw [h] at hway hall
    rcases hfirst path rfl with hmissing | hempty | hroot | ⟨l, hresolve⟩
    · exact .inr (.inr (hall rfl path hmissing))
    · exact .inl hempty
    · exact .inr (.inl hroot)
    · exact .inr (.inr ⟨l, hway.grows.resolve hresolve⟩)

/-- Where something is found nothing is made. -/
theorem makeDirectories_of_resolve {t : FileTree} {path : String} {found : Location × Node}
    (h : t.resolve path = .ok found) : (t.makeDirectories path).2 = t := by
  have hupwards : t.makeUpwards [] (Path.ancestors path) = .ok ([], t) ∨
      ∃ e, t.makeUpwards [] (Path.ancestors path) = .error e := by
    rw [Path.ancestors, Path.ancestorsFrom, makeUpwards, makeDirectory_of_resolve h]
    split
    · exact .inl rfl
    · simp only
      split
      · exact .inl rfl
      · exact .inr ⟨_, rfl⟩
  rw [makeDirectories]
  rcases hupwards with hnothing | ⟨e, herror⟩
  · rw [hnothing]
    rfl
  · rw [herror]

end HostRegistry.FileTree
