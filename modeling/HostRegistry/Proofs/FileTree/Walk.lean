import HostRegistry.FileTree
import HostRegistry.Proofs.Path

/-!
# Walking along paths

What one part of a path comes to, its hop, depends on at most one entry of the tree: the walk stops
there, moves on, or goes on at the target of a link. Facts about whole walks, in one tree or in two,
follow from facts about hops by induction on the links that may still be followed and on the parts
that are left.
-/

namespace HostRegistry.FileTree

/-- What a part of a path comes to. -/
inductive Hop
  | stop (result : Except FileError Place)
  /-- On to a directory, with the other parts. -/
  | move (here : Location)
  /-- On from where the target of a link starts, with its parts before the other ones. -/
  | follow (here : Location) (parts : List String)

/-- What a name comes to where the given node stands under it. -/
def stepOnto (node : Option Node) (follow : Bool) (here : Location) (name : String)
    (rest : List String) : Hop :=
  let last := rest.all (· = "")
  match node with
  | some (.link target) =>
    if last && !follow then .stop (.ok (.entry here name (!rest.isEmpty)))
    else .follow (startOf here target) (Text.cut '/' target ++ rest)
  | some .directory =>
    if last then .stop (.ok (.entry here name (!rest.isEmpty))) else .move (here ++ [name])
  | some (.file _) =>
    .stop (if last then .ok (.entry here name (!rest.isEmpty)) else .error .notDirectory)
  | none => .stop (if last then .ok (.entry here name (!rest.isEmpty)) else .error .notFound)

def hop (t : FileTree) (follow : Bool) (here : Location) (part : String) (rest : List String) :
    Hop :=
  if Path.isVoid part then .move here
  else if part = ".." then .move here.dropLast
  else if part.utf8ByteSize > maxNameBytes then .stop (.error .nameTooLong)
  else stepOnto (t.node? (here ++ [part])) follow here part rest

/-- A part comes to the same in all trees and whatever follows it, or depends on what stands under
its name. -/
theorem hop_cases (here : Location) (part : String) :
    (∃ onward, ∀ t follow rest, hop t follow here part rest = .move onward) ∨
    (∀ t follow rest, hop t follow here part rest = .stop (.error .nameTooLong)) ∨
    ∀ t follow rest,
      hop t follow here part rest = stepOnto (t.node? (here ++ [part])) follow here part rest := by
  by_cases hvoid : Path.isVoid part
  · exact .inl ⟨here, fun t follow rest => by rw [hop, if_pos hvoid]⟩
  by_cases hup : part = ".."
  · exact .inl ⟨here.dropLast, fun t follow rest => by rw [hop, if_neg hvoid, if_pos hup]⟩
  by_cases hlong : part.utf8ByteSize > maxNameBytes
  · refine .inr (.inl fun t follow rest => ?_)
    rw [hop, if_neg hvoid, if_neg hup, if_pos hlong]
  · refine .inr (.inr fun t follow rest => ?_)
    rw [hop, if_neg hvoid, if_neg hup, if_neg hlong]

/-- The error of finding no directory where the path goes on. -/
def obstacle : Option Node → FileError
  | none => .notFound
  | some _ => .notDirectory

/-- At the last name of a path the walk ends, whatever stands there. -/
theorem stepOnto_last {rest : List String} (h : rest.all (· = "") = true) (node : Option Node)
    (here : Location) (name : String) :
    stepOnto node false here name rest = .stop (.ok (.entry here name (!rest.isEmpty))) := by
  match node with
  | none | some .directory | some (.file _) | some (.link _) => simp [stepOnto, h]

/-- At a name before the last one the walk needs a directory or a link, to be followed or not. -/
theorem stepOnto_onward {rest : List String} (h : rest.all (· = "") = false) (node : Option Node)
    (here : Location) (name : String) :
    (node = some .directory ∧
      ∀ follow, stepOnto node follow here name rest = .move (here ++ [name])) ∨
    (∃ target, node = some (.link target) ∧ ∀ follow, stepOnto node follow here name rest =
      .follow (startOf here target) (Text.cut '/' target ++ rest)) ∨
    ((node = none ∨ ∃ contents, node = some (.file contents)) ∧
      ∀ follow, stepOnto node follow here name rest = .stop (.error (obstacle node))) := by
  match node with
  | none => exact .inr (.inr ⟨.inl rfl, fun follow => by simp [stepOnto, h, obstacle]⟩)
  | some .directory => exact .inl ⟨rfl, fun follow => by simp [stepOnto, h]⟩
  | some (.link target) => exact .inr (.inl ⟨target, rfl, fun follow => by simp [stepOnto, h]⟩)
  | some (.file contents) =>
    exact .inr (.inr ⟨.inr ⟨contents, rfl⟩, fun follow => by simp [stepOnto, h, obstacle]⟩)

/-- A walk goes on as the hop at its first part says. -/
def resume (t : FileTree) (follow : Bool) (links : Nat) (rest : List String) :
    Hop → Except FileError Place
  | .stop result => result
  | .move here => walk t follow links here rest
  | .follow here parts =>
    match links with
    | 0 => .error .tooManyLinks
    | links + 1 => walk t follow links here parts

theorem walk_nil (t : FileTree) (follow : Bool) (links : Nat) (here : Location) :
    walk t follow links here [] = .ok (.directory here) := by
  cases links <;> rfl

theorem walkWith_cons (t : FileTree) (follow : Bool)
    (onLink : Location → List String → Except FileError Place) (here : Location) (part : String)
    (rest : List String) :
    walkWith t follow onLink here (part :: rest) =
      match hop t follow here part rest with
      | .stop result => result
      | .move here => walkWith t follow onLink here rest
      | .follow here parts => onLink here parts := by
  rw [walkWith, hop]
  split
  · rfl
  split
  · rfl
  split
  · rfl
  cases t.node? (here ++ [part]) with
  | none => rfl
  | some node =>
    cases node with
    | directory =>
      simp only [stepOnto]
      cases rest.all (· = "") <;> rfl
    | file contents => rfl
    | link target =>
      simp only [stepOnto]
      cases rest.all (· = "") <;> cases follow <;> rfl

theorem walk_cons (t : FileTree) (follow : Bool) (links : Nat) (here : Location) (part : String)
    (rest : List String) :
    walk t follow links here (part :: rest) =
      t.resume follow links rest (hop t follow here part rest) := by
  cases links with
  | zero =>
    rw [walk, walkWith_cons]
    cases hop t follow here part rest <;> rfl
  | succ links =>
    rw [walk, walkWith_cons]
    cases hop t follow here part rest <;> rfl

/-- Induction along walks: the hop at the first part leads to a walk along the other parts, or to
one that may follow fewer links. -/
theorem walk_induction {motive : Nat → Location → List String → Prop}
    (nil : ∀ links here, motive links here [])
    (cons : ∀ links here part rest, (∀ here, motive links here rest) →
      (∀ fewer, fewer + 1 = links → ∀ here parts, motive fewer here parts) →
      motive links here (part :: rest))
    (links : Nat) (here : Location) (parts : List String) : motive links here parts := by
  induction links generalizing here parts with
  | zero =>
    induction parts generalizing here with
    | nil => exact nil 0 here
    | cons part rest ih => exact cons 0 here part rest ih nofun
  | succ links ihlinks =>
    induction parts generalizing here with
    | nil => exact nil (links + 1) here
    | cons part rest ih =>
      refine cons (links + 1) here part rest ih fun fewer hfewer => ?_
      cases hfewer
      exact ihlinks

/-! ## Two walks -/

/-- Where all hops are the same except those that stop with an exempt result, walks are the same
except those with an exempt result. -/
theorem walk_eq_or {t t' : FileTree} {follow follow' : Bool}
    {Exempt : Except FileError Place → Prop}
    (h : ∀ here part rest, (∃ r, hop t follow here part rest = .stop r ∧ Exempt r) ∨
      hop t' follow' here part rest = hop t follow here part rest)
    (links : Nat) (here : Location) (parts : List String) :
    Exempt (walk t follow links here parts) ∨
      walk t' follow' links here parts = walk t follow links here parts := by
  induction links, here, parts using walk_induction with
  | nil links here => exact .inr (by rw [walk_nil, walk_nil])
  | cons links here part rest ihrest ihfewer =>
    rw [walk_cons, walk_cons]
    rcases h here part rest with ⟨r, hr, hexempt⟩ | heq
    · rw [hr]
      exact .inl hexempt
    · rw [heq]
      cases hop t follow here part rest with
      | stop result => exact .inr rfl
      | move here => exact ihrest here
      | follow here parts =>
        cases links with
        | zero => exact .inr rfl
        | succ fewer => exact ihfewer fewer rfl here parts

/-- The same for the places that paths lead to. -/
theorem place_eq_or {t t' : FileTree} {follow follow' : Bool}
    {Exempt : Except FileError Place → Prop} (hworkingDir : t'.workingDir = t.workingDir)
    (h : ∀ here part rest, (∃ r, hop t follow here part rest = .stop r ∧ Exempt r) ∨
      hop t' follow' here part rest = hop t follow here part rest) (path : String) :
    Exempt (t.place follow path) ∨ t'.place follow' path = t.place follow path := by
  rw [place, place, hworkingDir]
  split
  · exact .inr rfl
  split
  · exact .inr rfl
  split
  · exact .inr rfl
  · exact walk_eq_or h maxLinks _ _

/-- A path that leads somewhere passes all that is asked of its text, and its parts are walked. -/
theorem place_eq_ok {t : FileTree} {follow : Bool} {path : String} {found : Place}
    (h : t.place follow path = .ok found) :
    walk t follow maxLinks (startOf t.workingDir path) (Text.cut '/' path) = .ok found ∧
      ¬path.toList.contains '\x00' = true ∧ path ≠ "" ∧ ¬path.utf8ByteSize > maxPathBytes := by
  rw [place] at h
  split at h
  · cases h
  next hzero =>
  split at h
  · cases h
  next hempty =>
  split at h
  · cases h
  next hlong => exact ⟨h, hzero, hempty, hlong⟩

/-- A walk that does not run out of links is the same with more of them. -/
theorem walk_of_le {t : FileTree} {follow : Bool} {few many : Nat} (hle : few ≤ many)
    (here : Location) (parts : List String) :
    walk t follow few here parts = .error .tooManyLinks ∨
      walk t follow many here parts = walk t follow few here parts := by
  induction few, here, parts using walk_induction generalizing many with
  | nil few here => exact .inr (by rw [walk_nil, walk_nil])
  | cons few here part rest ihrest ihfewer =>
    rw [walk_cons, walk_cons]
    cases hop t follow here part rest with
    | stop result => exact .inr rfl
    | move here => exact ihrest here hle
    | follow here parts =>
      cases few with
      | zero => exact .inl rfl
      | succ fewer =>
        have hpositive : 0 < many := Nat.zero_lt_of_lt hle
        obtain ⟨many, rfl⟩ := Nat.exists_eq_add_one_of_ne_zero (Nat.ne_of_gt hpositive)
        exact ihfewer fewer rfl here parts (Nat.le_of_succ_le_succ hle)

/-! ## The name of an entry -/

/-- An entry is found under the last part that is not empty. -/
theorem name_of_walk {t : FileTree} {links : Nat} {here dir : Location} {parts : List String}
    {name : String} {slash : Bool}
    (h : walk t false links here parts = .ok (.entry dir name slash)) :
    Path.lastPart? parts = some name ∧ Path.isVoid name = false ∧ name ≠ ".." := by
  induction links, here, parts using walk_induction with
  | nil links here =>
    rw [walk_nil] at h
    cases h
  | cons links here part rest ihrest ihfewer =>
    have hmoved : ∀ {onward}, walk t false links onward rest = .ok (.entry dir name slash) →
        Path.lastPart? (part :: rest) = some name ∧ Path.isVoid name = false ∧ name ≠ ".." :=
      fun hwalk => (ihrest _ hwalk).imp_left fun hlast => Path.lastPart?_cons hlast part
    rw [walk_cons, hop] at h
    split at h
    · exact hmoved h
    next hvoid =>
    split at h
    · exact hmoved h
    next hup =>
    split at h
    · cases h
    cases hlast : rest.all (· = "") with
    | true =>
      rw [stepOnto_last hlast] at h
      cases h
      have hvoid' := eq_false_of_ne_true hvoid
      have hname := Path.ne_empty_of_not_void hvoid'
      exact ⟨Path.lastPart?_cons_of_all hname hlast, hvoid', hup⟩
    | false =>
      rcases stepOnto_onward hlast (t.node? (here ++ [part])) here part with
        ⟨-, hmove⟩ | ⟨target, -, hfollow⟩ | ⟨-, hstop⟩
      · rw [hmove] at h
        exact hmoved h
      · rw [hfollow] at h
        cases links with
        | zero => cases h
        | succ fewer =>
          obtain ⟨hfound, hname⟩ := ihfewer fewer rfl _ _ h
          have hsome : Path.lastPart? rest ≠ none := by
            rw [Ne, Path.lastPart?_eq_none_iff, hlast]
            nofun
          rw [Path.lastPart?_append _ hsome] at hfound
          exact ⟨Path.lastPart?_cons hfound part, hname⟩
      · rw [hstop] at h
        cases h

/-- The entry that a path leads to stands under the name of the path. -/
theorem fileName?_of_place {t : FileTree} {path : String} {dir : Location} {name : String}
    {slash : Bool} (h : t.place false path = .ok (.entry dir name slash)) :
    Path.fileName? path = some name := by
  obtain ⟨hlast, hname, hup⟩ := name_of_walk (place_eq_ok h).1
  exact Path.fileName?_of_lastPart? hlast hname hup

/-! ## Links at the end -/

/-- The entry found is a link. -/
def EndsInLink (t : FileTree) (found : Except FileError Place) : Prop :=
  ∃ dir name slash target,
    found = .ok (.entry dir name slash) ∧ t.node? (dir ++ [name]) = some (.link target)

theorem hop_true_or (t : FileTree) (here : Location) (part : String) (rest : List String) :
    (∃ r, hop t false here part rest = .stop r ∧ t.EndsInLink r) ∨
      hop t true here part rest = hop t false here part rest := by
  rcases hop_cases here part with ⟨onward, hmove⟩ | hstop | hnode
  · exact .inr (by rw [hmove, hmove])
  · exact .inr (by rw [hstop, hstop])
  · rw [hnode, hnode]
    match h : t.node? (here ++ [part]) with
    | none | some .directory | some (.file _) => exact .inr rfl
    | some (.link target) =>
      cases hlast : rest.all (· = "") with
      | false => exact .inr (by simp [stepOnto, hlast])
      | true =>
        refine .inl ⟨.ok (.entry here part (!rest.isEmpty)), ?_, here, part, _, target, rfl, h⟩
        simp only [stepOnto, hlast, Bool.not_false, Bool.and_true, if_true]

/-- Following links makes a difference only where the path ends in one. -/
theorem place_true_or (t : FileTree) (path : String) :
    t.EndsInLink (t.place false path) ∨ t.place true path = t.place false path :=
  place_eq_or rfl t.hop_true_or path

theorem place_true_of_error {t : FileTree} {path : String} {e : FileError}
    (h : t.place false path = .error e) : t.place true path = .error e := by
  refine ((t.place_true_or path).resolve_left ?_).trans h
  rintro ⟨dir, name, slash, target, hfound, -⟩
  cases h.symm.trans hfound

theorem place_true_of_entry {t : FileTree} {path : String} {dir : Location} {name : String}
    {slash : Bool} (h : t.place false path = .ok (.entry dir name slash))
    (hlink : ∀ target, t.node? (dir ++ [name]) ≠ some (.link target)) :
    t.place true path = .ok (.entry dir name slash) := by
  refine ((t.place_true_or path).resolve_left ?_).trans h
  rintro ⟨dir', name', slash', target, hfound, hnode⟩
  cases h.symm.trans hfound
  exact hlink target hnode

/-! ## Trees that grow -/

/-- The second tree has all that the first one has, and may have directories in addition. -/
structure Grows (t t' : FileTree) : Prop where
  workingDir : t'.workingDir = t.workingDir
  node : ∀ l, t'.node? l = t.node? l ∨ (t.node? l = none ∧ t'.node? l = some .directory)

theorem Grows.hop_or {t t' : FileTree} (h : Grows t t') (follow : Bool) (here : Location)
    (part : String) (rest : List String) :
    (∃ r, hop t follow here part rest = .stop r ∧ r = .error .notFound) ∨
      hop t' follow here part rest = hop t follow here part rest := by
  rcases hop_cases here part with ⟨onward, hmove⟩ | hstop | hnode
  · exact .inr (by rw [hmove, hmove])
  · exact .inr (by rw [hstop, hstop])
  · rw [hnode, hnode]
    rcases h.node (here ++ [part]) with heq | ⟨hnone, hdirectory⟩
    · exact .inr (by rw [heq])
    · rw [hnone, hdirectory]
      cases hlast : rest.all (· = "") with
      | false => exact .inl ⟨_, rfl, by simp [hlast]⟩
      | true => exact .inr (by simp [stepOnto, hlast])

theorem Grows.place_or {t t' : FileTree} (h : Grows t t') (follow : Bool) (path : String) :
    t.place follow path = .error .notFound ∨ t'.place follow path = t.place follow path :=
  place_eq_or h.workingDir (h.hop_or follow) path

/-! ## Ways that lead through a link to that link -/

/-- The place is a directory. -/
def IsDirectoryAt (t : FileTree) : Place → Prop
  | .directory _ => True
  | .entry dir name _ => t.node? (dir ++ [name]) = some .directory

theorem walk_voids {voids : List String} (hvoids : ∀ part ∈ voids, Path.isVoid part = true)
    (t : FileTree) (follow : Bool) (links : Nat) (here : Location) :
    walk t follow links here voids = .ok (.directory here) := by
  induction voids with
  | nil => exact walk_nil t follow links here
  | cons part rest ih =>
    obtain ⟨hpart, hrest⟩ := List.forall_mem_cons.1 hvoids
    rw [walk_cons, hop, if_pos hpart]
    exact ih hrest

private theorem hop_voids {rest : List String} (hrest : rest.all (· = "") = false)
    (voids : List String) (t : FileTree) (follow : Bool) (here : Location) (part : String)
    (parts : List String) :
    (∃ e, hop t follow here part (parts ++ rest) = .stop (.error e)) ∨
    (∃ onward, hop t follow here part (parts ++ rest) = .move onward ∧
      (hop t true here part (parts ++ voids) = .move onward ∨
        ∃ q, hop t true here part (parts ++ voids) = .stop (.ok q) ∧ t.IsDirectoryAt q)) ∨
    ∃ onward more,
      hop t follow here part (parts ++ rest) = .follow onward (more ++ (parts ++ rest)) ∧
      hop t true here part (parts ++ voids) = .follow onward (more ++ (parts ++ voids)) := by
  have hlast : (parts ++ rest).all (· = "") = false := by
    rw [List.all_append, hrest, Bool.and_false]
  rcases hop_cases here part with ⟨onward, hmove⟩ | hstop | hnode
  · exact .inr (.inl ⟨onward, hmove _ _ _, .inl (hmove _ _ _)⟩)
  · exact .inl ⟨_, hstop _ _ _⟩
  · rw [hnode, hnode]
    match h : t.node? (here ++ [part]) with
    | none => exact .inl ⟨.notFound, by simp [stepOnto, hlast]⟩
    | some (.file _) => exact .inl ⟨.notDirectory, by simp [stepOnto, hlast]⟩
    | some (.link target) =>
      exact .inr (.inr ⟨startOf here target, Text.cut '/' target, by simp [stepOnto, hlast],
        by simp [stepOnto]⟩)
    | some .directory =>
      -- The longer path moves on here, where the shorter one may end in this entry.
      refine .inr (.inl ⟨here ++ [part], by simp [stepOnto, hlast], ?_⟩)
      cases hall : (parts ++ voids).all (· = "") with
      | false => exact .inl (by simp [stepOnto, hall])
      | true =>
        exact .inr ⟨.entry here part (!(parts ++ voids).isEmpty), by simp [stepOnto, hall], h⟩

/-- Where a path goes on behind some parts, these parts alone lead to a directory. -/
theorem walk_to_directory {t : FileTree} {follow : Bool} {rest voids : List String}
    (hrest : rest.all (· = "") = false) (hvoids : voids.all (· = "") = true) {links : Nat}
    {here : Location} {parts : List String} {found : Place}
    (h : walk t follow links here (parts ++ rest) = .ok found) :
    ∃ q, walk t true links here (parts ++ voids) = .ok q ∧ t.IsDirectoryAt q := by
  generalize hwhole : parts ++ rest = whole at h
  induction links, here, whole using walk_induction generalizing parts with
  | nil links here =>
    rw [(List.append_eq_nil_iff.1 hwhole).2] at hrest
    cases hrest
  | cons links here part whole ihrest ihfewer =>
    cases parts with
    | nil =>
      exact ⟨.directory here, walk_voids (Path.isVoid_of_all hvoids) t true links here, trivial⟩
    | cons first parts =>
      rw [List.cons_append, List.cons.injEq] at hwhole
      obtain ⟨rfl, rfl⟩ := hwhole
      rw [walk_cons] at h
      rw [List.cons_append, walk_cons]
      rcases hop_voids hrest voids t follow here first parts with
        ⟨e, herror⟩ | ⟨onward, hmove, hmove' | ⟨q, hstop, hq⟩⟩ | ⟨onward, more, hfollow, hfollow'⟩
      · rw [herror] at h
        cases h
      · rw [hmove] at h
        rw [hmove']
        exact ihrest onward rfl h
      · rw [hstop]
        exact ⟨q, rfl, hq⟩
      · rw [hfollow] at h
        rw [hfollow']
        cases links with
        | zero => cases h
        | succ fewer =>
          rw [resume, ← List.append_assoc] at h ⊢
          exact ihfewer fewer rfl onward _ rfl h

def Place.location : Place → Location
  | .directory l => l
  | .entry dir name _ => dir ++ [name]

/-- A directory is found, whatever parts that name nothing follow its name. -/
theorem walk_into_directory {t : FileTree} {here : Location} {name : String}
    (hnode : t.node? (here ++ [name]) = some .directory) {voids : List String}
    (hvoids : ∀ part ∈ voids, Path.isVoid part = true) (links : Nat) :
    ∃ q, t.resume true links voids (stepOnto (some .directory) true here name voids) = .ok q ∧
      t.IsDirectoryAt q ∧ q.location = here ++ [name] := by
  cases hlast : voids.all (· = "") with
  | true => exact ⟨.entry here name (!voids.isEmpty), by simp [stepOnto, hlast, resume], hnode, rfl⟩
  | false =>
    refine ⟨.directory (here ++ [name]), ?_, trivial, rfl⟩
    simp only [stepOnto, hlast, resume]
    exact walk_voids hvoids t true links (here ++ [name])

private theorem hop_to_directory (t : FileTree) (here : Location) (part : String)
    (parts : List String) :
    (∃ onward, ∀ voids, hop t true here part (parts ++ voids) = .move onward) ∨
    (∃ onward more, ∀ voids,
      hop t true here part (parts ++ voids) = .follow onward (more ++ (parts ++ voids))) ∨
    (∀ voids, (∀ part ∈ voids, Path.isVoid part = true) → ∀ links,
      ∃ q, t.resume true links (parts ++ voids) (hop t true here part (parts ++ voids)) = .ok q ∧
        t.IsDirectoryAt q ∧ q.location = here ++ [part]) ∨
    ∀ voids links found,
      t.resume true links (parts ++ voids) (hop t true here part (parts ++ voids)) = .ok found →
        ¬t.IsDirectoryAt found := by
  rcases hop_cases here part with ⟨onward, hmove⟩ | hstop | hnode
  · exact .inl ⟨onward, fun voids => hmove _ _ _⟩
  · refine .inr (.inr (.inr fun voids links found h => ?_))
    rw [hstop] at h
    cases h
  simp only [hnode]
  match hentry : t.node? (here ++ [part]) with
  | none | some (.file _) =>
    refine .inr (.inr (.inr fun voids links found h hfound => ?_))
    cases hlast : (parts ++ voids).all (· = "") with
    | false => simp [stepOnto, hlast, resume] at h
    | true =>
      simp only [stepOnto, hlast, resume, if_true, Except.ok.injEq] at h
      subst h
      cases hentry.symm.trans hfound
  | some (.link target) =>
    exact .inr (.inl ⟨startOf here target, Text.cut '/' target, fun voids => by simp [stepOnto]⟩)
  | some .directory =>
    cases hparts : parts.all (· = "") with
    | true =>
      refine .inr (.inr (.inl fun voids hvoids links => walk_into_directory hentry ?_ links))
      intro part hpart
      exact (List.mem_append.1 hpart).elim (Path.isVoid_of_all hparts part) (hvoids part)
    | false =>
      exact .inl ⟨here ++ [part], fun voids => by simp [stepOnto, List.all_append, hparts]⟩

/-- Parts at the end that name nothing make no difference to the directory that a walk leads to. -/
theorem walk_same_directory {t : FileTree} {voids voids' : List String}
    (hvoids : ∀ part ∈ voids, Path.isVoid part = true)
    (hvoids' : ∀ part ∈ voids', Path.isVoid part = true) {links : Nat} {here : Location}
    {parts : List String} {found : Place}
    (h : walk t true links here (parts ++ voids) = .ok found) (hfound : t.IsDirectoryAt found) :
    ∃ q, walk t true links here (parts ++ voids') = .ok q ∧ t.IsDirectoryAt q ∧
      q.location = found.location := by
  generalize hwhole : parts ++ voids = whole at h
  induction links, here, whole using walk_induction generalizing parts with
  | nil links here =>
    obtain ⟨rfl, rfl⟩ := List.append_eq_nil_iff.1 hwhole
    rw [walk_nil] at h
    cases h
    exact ⟨.directory here, walk_voids hvoids' t true links here, trivial, rfl⟩
  | cons links here part whole ihrest ihfewer =>
    cases parts with
    | nil =>
      rw [← hwhole, List.nil_append, walk_voids hvoids] at h
      cases h
      exact ⟨.directory here, walk_voids hvoids' t true links here, trivial, rfl⟩
    | cons first parts =>
      rw [List.cons_append, List.cons.injEq] at hwhole
      obtain ⟨rfl, rfl⟩ := hwhole
      rw [walk_cons] at h
      rw [List.cons_append, walk_cons]
      rcases hop_to_directory t here first parts with
        ⟨onward, hmove⟩ | ⟨onward, more, hfollow⟩ | hends | hstop
      · rw [hmove] at h ⊢
        exact ihrest onward rfl h
      · rw [hfollow] at h ⊢
        cases links with
        | zero => cases h
        | succ fewer =>
          rw [resume, ← List.append_assoc] at h ⊢
          exact ihfewer fewer rfl onward _ rfl h
      · obtain ⟨q, hq, -, hlocation⟩ := hends voids hvoids links
        cases hq.symm.trans h
        obtain ⟨q', hq', hdirectory, hlocation'⟩ := hends voids' hvoids' links
        exact ⟨q', hq', hdirectory, hlocation'.trans hlocation.symm⟩
      · exact (hstop voids links found h hfound).elim

/-- A part before the last name comes to the same, whether links are followed at the end or not and
whatever follows it. -/
private theorem hop_onward {rest rest' : List String} (hrest : rest.all (· = "") = false)
    (hrest' : rest'.all (· = "") = false) (t : FileTree) (here : Location) (part : String)
    (parts : List String) :
    (∃ e, hop t false here part (parts ++ rest) = .stop (.error e)) ∨
    (∃ onward, hop t false here part (parts ++ rest) = .move onward ∧
      hop t true here part (parts ++ rest') = .move onward) ∨
    ∃ onward more,
      hop t false here part (parts ++ rest) = .follow onward (more ++ (parts ++ rest)) ∧
      hop t true here part (parts ++ rest') = .follow onward (more ++ (parts ++ rest')) := by
  have hlast : (parts ++ rest).all (· = "") = false := by
    rw [List.all_append, hrest, Bool.and_false]
  have hlast' : (parts ++ rest').all (· = "") = false := by
    rw [List.all_append, hrest', Bool.and_false]
  rcases hop_cases here part with ⟨onward, hmove⟩ | hstop | hnode
  · exact .inr (.inl ⟨onward, hmove _ _ _, hmove _ _ _⟩)
  · exact .inl ⟨_, hstop _ _ _⟩
  rw [hnode, hnode]
  match t.node? (here ++ [part]) with
  | none => exact .inl ⟨.notFound, by simp [stepOnto, hlast]⟩
  | some (.file _) => exact .inl ⟨.notDirectory, by simp [stepOnto, hlast]⟩
  | some .directory =>
    exact .inr (.inl ⟨here ++ [part], by simp [stepOnto, hlast], by simp [stepOnto, hlast']⟩)
  | some (.link target) =>
    exact .inr (.inr ⟨startOf here target, Text.cut '/' target, by simp [stepOnto, hlast],
      by simp [stepOnto]⟩)

/-- An entry is found in the directory that the parts before its name lead to. -/
theorem walk_to_entry {t : FileTree} {name : String} (hvoid : Path.isVoid name = false)
    (hup : name ≠ "..") {links : Nat} {here : Location} {parts : List String} {found : Place}
    (h : walk t false links here (parts ++ [name]) = .ok found) :
    ∃ l, found = .entry l name false ∧
      walk t true links here (parts ++ ["."]) = .ok (.directory l) := by
  have hname : [name].all (· = "") = false := by
    simp [Path.ne_empty_of_not_void hvoid]
  have hdot : ["."].all (· = "") = false := rfl
  generalize hwhole : parts ++ [name] = whole at h
  induction links, here, whole using walk_induction generalizing parts with
  | nil links here => simp at hwhole
  | cons links here part whole ihrest ihfewer =>
    cases parts with
    | nil =>
      obtain ⟨rfl, rfl⟩ := List.cons.inj hwhole
      refine ⟨here, ?_, walk_voids (by decide) t true links here⟩
      rw [walk_cons, hop, if_neg (by rw [hvoid]; nofun), if_neg hup] at h
      split at h
      · cases h
      · rw [stepOnto_last rfl] at h
        exact (Except.ok.inj h).symm
    | cons first parts =>
      rw [List.cons_append, List.cons.injEq] at hwhole
      obtain ⟨rfl, rfl⟩ := hwhole
      rw [walk_cons] at h
      rw [List.cons_append, walk_cons]
      rcases hop_onward hname hdot t here first parts with
        ⟨e, hstop⟩ | ⟨onward, hmove, hmove'⟩ | ⟨onward, more, hfollow, hfollow'⟩
      · rw [hstop] at h
        cases h
      · rw [hmove] at h
        rw [hmove']
        exact ihrest onward rfl h
      · rw [hfollow] at h
        rw [hfollow']
        cases links with
        | zero => cases h
        | succ fewer =>
          rw [resume, ← List.append_assoc] at h ⊢
          exact ihfewer fewer rfl onward _ rfl h

/-- Following links, the walk goes on at the target of the link that it ends in otherwise. -/
theorem walk_true_of_link {t : FileTree} {dir : Location} {name target : String} {slash : Bool}
    (hlink : t.node? (dir ++ [name]) = some (.link target)) {links : Nat} {here : Location}
    {parts : List String} (h : walk t false links here parts = .ok (.entry dir name slash)) :
    ∃ fewer voids, fewer ≤ links ∧ voids.all (· = "") = true ∧
      walk t true links here parts =
        t.resume true fewer [] (.follow (startOf dir target) (Text.cut '/' target ++ voids)) := by
  induction links, here, parts using walk_induction with
  | nil links here =>
    rw [walk_nil] at h
    cases h
  | cons links here part rest ihrest ihfewer =>
    rw [walk_cons] at h ⊢
    rcases hop_cases here part with ⟨onward, hmove⟩ | hstop | hnode
    · rw [hmove] at h ⊢
      exact ihrest onward h
    · rw [hstop] at h
      cases h
    · rw [hnode] at h ⊢
      cases hlast : rest.all (· = "") with
      | true =>
        rw [stepOnto_last hlast] at h
        cases h
        refine ⟨links, rest, Nat.le_refl _, hlast, ?_⟩
        rw [hlink]
        simp [stepOnto, resume]
      | false =>
        rcases stepOnto_onward hlast (t.node? (here ++ [part])) here part with
          ⟨-, hmove⟩ | ⟨target', -, hfollow⟩ | ⟨-, hstop⟩
        · rw [hmove] at h ⊢
          exact ihrest _ h
        · rw [hfollow] at h ⊢
          cases links with
          | zero => cases h
          | succ links =>
            obtain ⟨fewer, voids, hle, hvoids, heq⟩ := ihfewer links rfl _ _ h
            exact ⟨fewer, voids, Nat.le_succ_of_le hle, hvoids, heq⟩
        · rw [hstop] at h
          cases h

/-- A walk that passes through a link to end in it leads nowhere but to a directory, or in a circle,
when links are followed. -/
theorem walk_true_through_link {t : FileTree} {here : Location} {name target : String}
    {rest : List String} {slash : Bool} (hlink : t.node? (here ++ [name]) = some (.link target))
    (hrest : rest.all (· = "") = false) {links : Nat}
    (h : walk t false links (startOf here target) (Text.cut '/' target ++ rest) =
      .ok (.entry here name slash)) :
    walk t true links (startOf here target) (Text.cut '/' target ++ rest) = .error .tooManyLinks ∨
      ∃ q, walk t true links (startOf here target) (Text.cut '/' target ++ rest) = .ok q ∧
        t.IsDirectoryAt q := by
  obtain ⟨fewer, voids, hle, hvoids, heq⟩ := walk_true_of_link hlink h
  obtain ⟨q, hq, hdirectory⟩ := walk_to_directory hrest hvoids h
  rw [heq]
  cases fewer with
  | zero => exact .inl rfl
  | succ fewer =>
    rw [resume]
    rcases walk_of_le (Nat.le_of_succ_le hle) (startOf here target)
      (Text.cut '/' target ++ voids) with hmany | hsame
    · exact .inl hmany
    · exact .inr ⟨q, hsame.symm.trans hq, hdirectory⟩

/-! ## An entry put in place of another -/

/-- The second tree has a file or nothing at the location, where the first one had no directory,
and elsewhere it has the directories and links of the first one. -/
structure Overwrites (t t' : FileTree) (l : Location) : Prop where
  workingDir : t'.workingDir = t.workingDir
  fits : t.node? l ≠ some .directory
  now : t'.node? l = none ∨ ∃ contents, t'.node? l = some (.file contents)
  kept : ∀ l', l' ≠ l → ∀ node, t.node? l' = some node → (∀ contents, node ≠ .file contents) →
    t'.node? l' = some node

theorem Overwrites.stepOnto_eq {t t' : FileTree} {here : Location} {name : String}
    (h : Overwrites t t' (here ++ [name])) {rest : List String}
    (hrest : rest.all (· = "") = false) (follow : Bool) :
    stepOnto (t'.node? (here ++ [name])) follow here name rest =
      .stop (.error (obstacle (t'.node? (here ++ [name])))) := by
  rcases h.now with hnow | ⟨contents, hnow⟩ <;> rw [hnow] <;> simp [stepOnto, hrest, obstacle]

/-- A path that led to the entry leads there still, unless it passes through the entry itself, which
was a link then. -/
theorem Overwrites.walk_or {t t' : FileTree} {dir : Location} {name : String} {slash : Bool}
    (hover : Overwrites t t' (dir ++ [name])) {links : Nat} {here : Location} {parts : List String}
    (h : walk t false links here parts = .ok (.entry dir name slash)) :
    walk t' false links here parts = .ok (.entry dir name slash) ∨
      (∀ follow, walk t' follow links here parts =
        .error (obstacle (t'.node? (dir ++ [name])))) ∧
      (walk t true links here parts = .error .tooManyLinks ∨
        ∃ q, walk t true links here parts = .ok q ∧ t.IsDirectoryAt q) := by
  induction links, here, parts using walk_induction with
  | nil links here =>
    rw [walk_nil] at h
    cases h
  | cons links here part rest ihrest ihfewer =>
    simp only [walk_cons] at h ⊢
    rcases hop_cases here part with ⟨onward, hmove⟩ | hstop | hnode
    · simp only [hmove, resume] at h ⊢
      exact ihrest onward h
    · rw [hstop] at h
      cases h
    · simp only [hnode] at h ⊢
      cases hlast : rest.all (· = "") with
      | true =>
        rw [stepOnto_last hlast] at h
        exact .inl (by rw [stepOnto_last hlast, ← h]; rfl)
      | false =>
        rcases stepOnto_onward hlast (t.node? (here ++ [part])) here part with
          ⟨hdirectory, hmove⟩ | ⟨target, hlink, hfollow⟩ | ⟨-, hstop⟩
        · have hne : here ++ [part] ≠ dir ++ [name] := fun heq => hover.fits (heq ▸ hdirectory)
          rw [hover.kept _ hne _ hdirectory nofun, ← hdirectory]
          simp only [hmove, resume] at h ⊢
          exact ihrest _ h
        · simp only [hfollow] at h ⊢
          cases links with
          | zero => cases h
          | succ fewer =>
            -- The only link that is gone is the entry itself, so following it led back to it.
            by_cases heq : here ++ [part] = dir ++ [name]
            · obtain ⟨rfl, hpart⟩ := List.append_inj' heq rfl
              obtain rfl : part = name := (List.cons.inj hpart).1
              refine .inr ⟨fun follow => ?_, walk_true_through_link hlink hlast h⟩
              rw [hover.stepOnto_eq hlast]
              rfl
            · rw [hover.kept _ heq _ hlink nofun, ← hlink]
              simp only [hfollow, resume] at h ⊢
              exact ihfewer fewer rfl _ _ h
        · rw [hstop] at h
          cases h

end HostRegistry.FileTree
