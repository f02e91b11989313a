import HostRegistry.Proofs.Text
import HostRegistry.Settings.Check

/-!
# Directories as text

One path is above another if the other begins with its text and goes on, behind its parts, with more
than slashes. The directory of a path is above the path, unless the path gives no directory. What a
plain name is joined to is above the path that comes of it.
-/

namespace HostRegistry.Path

/-- The path goes on behind the upper one, which may end in slashes. -/
structure Above (upper path : String) : Prop where
  nonempty : upper ≠ ""
  begins : ∃ more, path = upper ++ more
  cut : ∃ parts voids rest,
    Text.cut '/' upper = parts ++ voids ∧ Text.cut '/' path = parts ++ rest ∧
    voids.all (· = "") = true ∧ rest.all (· = "") = false

/-! ## Parts that name nothing -/

/-- Nothing is dropped but parts at the end that name nothing. -/
theorem exists_voids (parts : List String) :
    ∃ voids, parts = dropVoidEnd parts ++ voids ∧ ∀ part ∈ voids, isVoid part = true := by
  refine ⟨(parts.reverse.takeWhile isVoid).reverse, ?_, fun part hpart => ?_⟩
  · rw [dropVoidEnd, ← List.reverse_append, List.takeWhile_append_dropWhile, List.reverse_reverse]
  · exact List.all_eq_true.1 List.all_takeWhile part (List.mem_reverse.1 hpart)

theorem mem_of_mem_dropVoidEnd {parts : List String} {part : String}
    (h : part ∈ dropVoidEnd parts) : part ∈ parts := by
  obtain ⟨voids, hparts, -⟩ := exists_voids parts
  rw [hparts]
  exact List.mem_append_left voids h

theorem not_void_of_getLast? {parts : List String} {part : String}
    (h : (dropVoidEnd parts).getLast? = some part) : isVoid part = false := by
  rw [dropVoidEnd, List.getLast?_reverse] at h
  have hhead := List.head?_dropWhile_not isVoid parts.reverse
  rw [h] at hhead
  simpa using hhead

theorem ne_empty_of_not_void {part : String} (h : isVoid part = false) : part ≠ "" := by
  rintro rfl
  cases h

theorem isVoid_of_all {voids : List String} (h : voids.all (· = "") = true) :
    ∀ part ∈ voids, isVoid part = true := by
  intro part hpart
  have hempty : part = "" := of_decide_eq_true (List.all_eq_true.1 h part hpart)
  rw [hempty]
  rfl

/-- Behind a part that names something, parts that name nothing are dropped. -/
theorem dropVoidEnd_append (before : List String) {part : String} (hpart : isVoid part = false)
    {voids : List String} (hvoids : ∀ part ∈ voids, isVoid part = true) :
    dropVoidEnd (before ++ part :: voids) = before ++ [part] := by
  have hreverse : (before ++ part :: voids).reverse = voids.reverse ++ part :: before.reverse := by
    simp
  rw [dropVoidEnd, hreverse,
    List.dropWhile_append_of_pos fun v hv => hvoids v (List.mem_reverse.1 hv),
    List.dropWhile_cons_of_neg (by rw [hpart]; nofun)]
  simp

/-- The last part that is not empty. -/
def lastPart? (parts : List String) : Option String := parts.reverse.find? (· ≠ "")

theorem lastPart?_append (before : List String) {rest : List String} (h : lastPart? rest ≠ none) :
    lastPart? (before ++ rest) = lastPart? rest := by
  rw [lastPart?, List.reverse_append, List.find?_append]
  exact Option.or_of_isSome (Option.isSome_iff_ne_none.2 h)

theorem lastPart?_cons {rest : List String} {name : String} (h : lastPart? rest = some name)
    (part : String) : lastPart? (part :: rest) = some name :=
  (lastPart?_append [part] (by rw [h]; nofun)).trans h

theorem lastPart?_eq_none_iff {parts : List String} :
    lastPart? parts = none ↔ parts.all (· = "") = true := by
  simp [lastPart?]

theorem lastPart?_cons_of_all {part : String} (hpart : part ≠ "") {rest : List String}
    (hrest : rest.all (· = "") = true) : lastPart? (part :: rest) = some part := by
  rw [lastPart?, List.reverse_cons, List.find?_append, ← lastPart?,
    lastPart?_eq_none_iff.2 hrest]
  simp [hpart]

/-! ## The directory of a path -/

theorem isAbsolute_of_begins {upper path : String} (hne : upper ≠ "")
    (h : ∃ more, path = upper ++ more) : isAbsolute upper = isAbsolute path := by
  obtain ⟨more, rfl⟩ := h
  have hnil : upper.toList ≠ [] := fun hnil => hne (String.toList_eq_nil_iff.1 hnil)
  obtain ⟨c, cs, hcs⟩ := List.exists_cons_of_ne_nil hnil
  rw [isAbsolute, isAbsolute, String.toList_append, hcs]
  rfl

theorem cut_of_isAbsolute {path : String} (h : isAbsolute path = true) :
    ∃ rest, Text.cut '/' path = "" :: rest := by
  obtain ⟨cs, hcs⟩ := List.head?_eq_some_iff.1 (of_decide_eq_true h)
  have hpath : path = "" ++ String.ofList ['/'] ++ String.ofList cs := by
    rw [← String.toList_inj, hcs]
    simp
  exact ⟨Text.cut '/' (String.ofList cs), by rw [hpath, Text.cut_append]; rfl⟩

/-- The beginning of a path and its other parts are all its parts. -/
theorem split_append (path : String) : (split path).1 ++ (split path).2 = Text.cut '/' path := by
  rw [split]
  cases hcut : Text.cut '/' path with
  | nil => rfl
  | cons first rest =>
    simp only
    split
    next habsolute =>
      obtain ⟨rest', hrest⟩ := cut_of_isAbsolute habsolute
      cases hcut.symm.trans hrest
      rfl
    split
    next hfirst =>
      rw [hfirst]
      rfl
    next => rfl

theorem split_fst_cases (path : String) :
    (split path).1 = [] ∨ (split path).1 = [""] ∨ (split path).1 = ["."] := by
  rw [split]
  split
  · exact .inl rfl
  split
  · exact .inr (.inl rfl)
  split
  · exact .inr (.inr rfl)
  · exact .inl rfl

/-- The beginning of a path names nothing. -/
theorem isVoid_of_mem_split {path part : String} (h : part ∈ (split path).1) :
    isVoid part = true := by
  rcases split_fst_cases path with hstart | hstart | hstart
  · rw [hstart] at h
    cases h
  all_goals
    rw [hstart] at h
    rw [List.mem_singleton.1 h]
    rfl

theorem fileName?_of_body {path name : String} {before voids : List String}
    (hbody : (split path).2 = before ++ name :: voids) (hname : isVoid name = false)
    (hup : name ≠ "..") (hvoids : ∀ part ∈ voids, isVoid part = true) :
    fileName? path = some name := by
  rw [fileName?, hbody, dropVoidEnd_append before hname hvoids]
  simp [hup]

/-- The last part that is not empty is the name of a path, unless it names nothing or goes up. -/
theorem fileName?_of_lastPart? {path name : String}
    (h : lastPart? (Text.cut '/' path) = some name) (hname : isVoid name = false)
    (hup : name ≠ "..") : fileName? path = some name := by
  have hbody : lastPart? (split path).2 = some name := by
    rw [← split_append] at h
    cases hlast : lastPart? (split path).2 with
    | some last => rw [← hlast, ← lastPart?_append _ (by rw [hlast]; nofun), h]
    | none =>
      rw [lastPart?, List.reverse_append, List.find?_append, ← lastPart?, hlast] at h
      have hstart := List.mem_reverse.1 (List.mem_of_find?_eq_some h)
      cases hname.symm.trans (isVoid_of_mem_split hstart)
  obtain ⟨-, after, before, hreverse, hafter⟩ := List.find?_eq_some_iff_append.1 hbody
  have hparts : (split path).2 = before.reverse ++ name :: after.reverse := by
    rw [← List.reverse_reverse (split path).2, hreverse]
    simp
  refine fileName?_of_body hparts hname hup
    (isVoid_of_all (List.all_eq_true.2 fun part hpart => ?_))
  simpa using hafter part (List.mem_reverse.1 hpart)

theorem begins_of_cut {path : String} {parts rest : List String}
    (hcut : Text.cut '/' path = parts ++ rest) (hne : parts ≠ []) :
    ∃ more, path = "/".intercalate parts ++ more := by
  have hwhole := Text.intercalate_cut '/' path
  rw [hcut] at hwhole
  by_cases hrest : rest = []
  · rw [hrest, List.append_nil] at hwhole
    exact ⟨"", by rw [String.append_empty]; exact hwhole.symm⟩
  · refine ⟨"/" ++ "/".intercalate rest, ?_⟩
    rw [← hwhole, ← String.append_assoc]
    exact String.intercalate_append_of_ne_nil hne hrest

/-- Parts of a path before others that are not all empty make a path above it. -/
theorem above_intercalate {path : String} {parts rest : List String}
    (hcut : Text.cut '/' path = parts ++ rest) (hparts : "/".intercalate parts ≠ "")
    (hrest : rest.all (· = "") = false) : Above ("/".intercalate parts) path := by
  have hne : parts ≠ [] := by
    rintro rfl
    exact hparts rfl
  refine ⟨hparts, begins_of_cut hcut hne, parts, [], rest, ?_, hcut, rfl, hrest⟩
  rw [List.append_nil]
  refine Text.cut_intercalate hne fun piece hpiece => Text.not_mem_of_mem_cut (s := path) ?_
  rw [hcut]
  exact List.mem_append_left rest hpiece

/-- The root is above the paths that begin with it. -/
theorem above_root {path : String} {rest : List String} (hcut : Text.cut '/' path = "" :: rest)
    (hrest : rest.all (· = "") = false) : Above "/" path := by
  have hne : rest ≠ [] := by
    rintro rfl
    cases hrest
  have hwhole := Text.intercalate_cut '/' path
  rw [hcut, String.intercalate_cons_of_ne_nil hne] at hwhole
  refine ⟨by decide, ⟨"/".intercalate rest, ?_⟩, [""], [""], rest, by decide, hcut, rfl, hrest⟩
  rw [← hwhole]
  rfl

/-- A path that has a name consists of the parts of its parent, the name and parts of no account. -/
theorem cut_of_body {path : String} (h : dropVoidEnd (split path).2 ≠ []) :
    ∃ rest, Text.cut '/' path =
        (split path).1 ++ dropVoidEnd (dropVoidEnd (split path).2).dropLast ++ rest ∧
      rest.all (· = "") = false := by
  obtain ⟨voids, hbody, -⟩ := exists_voids (split path).2
  obtain ⟨voids', hleft, -⟩ := exists_voids (dropVoidEnd (split path).2).dropLast
  generalize hname : (dropVoidEnd (split path).2).getLast h = name
  have hparts := List.dropLast_concat_getLast h
  have hvoid := not_void_of_getLast? (List.getLast?_eq_some_getLast h)
  rw [hname] at hparts hvoid
  refine ⟨voids' ++ [name] ++ voids, ?_, ?_⟩
  · calc Text.cut '/' path
      _ = (split path).1 ++ (split path).2 := (split_append path).symm
      _ = (split path).1 ++ (dropVoidEnd (split path).2 ++ voids) := by rw [← hbody]
      _ = (split path).1 ++ ((dropVoidEnd (split path).2).dropLast ++ [name] ++ voids) := by
        rw [hparts]
      _ = (split path).1 ++ (dropVoidEnd (dropVoidEnd (split path).2).dropLast ++ voids' ++
          [name] ++ voids) := by rw [← hleft]
      _ = _ := by simp only [List.append_assoc]
  · simp [ne_empty_of_not_void hvoid]

/-- The directory of a path is the working directory, or it is above the path. -/
theorem above_directory (path : String) : directory path = "." ∨ Above (directory path) path := by
  rw [directory, parent?]
  simp only
  split
  next dir hparent =>
    split at hparent
    · split at hparent <;> cases hparent
      exact .inl rfl
    next hparts =>
      obtain ⟨rest, hcut, hrest⟩ := cut_of_body hparts
      split at hparent
      next hroot =>
        cases hparent
        rw [Bool.and_eq_true, decide_eq_true_eq, List.isEmpty_iff] at hroot
        rw [hroot.1, hroot.2] at hcut
        exact .inr (above_root hcut hrest)
      next =>
        cases hparent
        split
        · exact .inl rfl
        next hdir => exact .inr (above_intercalate hcut hdir hrest)
  next => exact .inl rfl

/-! ## Plain names -/

theorem cut_of_isPlainName {name : String} (h : Settings.isPlainName name = true) :
    Text.cut '/' name = [name] ∧ isVoid name = false := by
  have hname : fileName? name = some name := of_decide_eq_true h
  rw [fileName?] at hname
  split at hname
  next last hlast =>
    split at hname
    · cases hname
    · cases hname
      have hmem := mem_of_mem_dropVoidEnd (List.mem_of_getLast? hlast)
      have hpart : name ∈ Text.cut '/' name := by
        rw [← split_append]
        exact List.mem_append_right _ hmem
      exact ⟨Text.cut_of_not_mem (Text.not_mem_of_mem_cut hpart), not_void_of_getLast? hlast⟩
  · cases hname

theorem ne_up_of_isPlainName {name : String} (h : Settings.isPlainName name = true) :
    name ≠ ".." := by
  rintro rfl
  exact absurd h (by decide)

/-- A plain name is any text without slashes but the empty one and those of the two dot entries. -/
theorem isPlainName_iff {name : String} :
    Settings.isPlainName name = true ↔ name ∉ ["", ".", ".."] ∧ '/' ∉ name.toList := by
  constructor
  · intro h
    obtain ⟨hcut, hvoid⟩ := cut_of_isPlainName h
    have hpart : name ∈ Text.cut '/' name := hcut.symm ▸ List.mem_singleton.2 rfl
    refine ⟨fun hmem => ?_, Text.not_mem_of_mem_cut hpart⟩
    simp only [List.mem_cons, List.not_mem_nil, or_false] at hmem
    rcases hmem with rfl | rfl | rfl
    · cases hvoid
    · cases hvoid
    · exact absurd h (by decide)
  · rintro ⟨hname, hslash⟩
    simp only [List.mem_cons, List.not_mem_nil, or_false, not_or] at hname
    obtain ⟨hempty, hdot, hup⟩ := hname
    have hrelative : isAbsolute name = false := by
      refine decide_eq_false fun hhead => hslash ?_
      obtain ⟨cs, hcs⟩ := List.head?_eq_some_iff.1 hhead
      rw [hcs]
      exact .head _
    have hsplit : split name = ([], [name]) := by
      rw [split, Text.cut_of_not_mem hslash]
      simp [hrelative, hdot]
    have hbody : dropVoidEnd [name] = [name] :=
      dropVoidEnd_append [] (by simp [isVoid, hempty, hdot]) nofun
    have hlast : fileName? name = some name := by
      rw [fileName?, hsplit, hbody]
      exact if_neg hup
    exact decide_eq_true hlast

theorem isAbsolute_of_isPlainName {name : String} (h : Settings.isPlainName name = true) :
    isAbsolute name = false := by
  obtain ⟨hcut, hvoid⟩ := cut_of_isPlainName h
  refine eq_false_of_ne_true fun habsolute => ?_
  obtain ⟨rest, hrest⟩ := cut_of_isAbsolute habsolute
  cases hcut.symm.trans hrest
  exact ne_empty_of_not_void hvoid rfl

theorem join_empty (name : String) : join "" name = name := by
  simp [join]

/-- A plain name is put behind the parts of the directory, but for slashes at their end. -/
theorem cut_join {dir name : String} (hdir : dir ≠ "")
    (hname : Settings.isPlainName name = true) :
    (∃ more, join dir name = dir ++ more) ∧
      ∃ parts slashes, parts ≠ [] ∧ Text.cut '/' dir = parts ++ slashes ∧
        slashes.all (· = "") = true ∧ Text.cut '/' (join dir name) = parts ++ [name] := by
  have hcut := (cut_of_isPlainName hname).1
  rw [join, isAbsolute_of_isPlainName hname, if_neg (by decide)]
  by_cases hslash : dir.toList.getLast? = some '/'
  · rw [if_pos (by simp [hslash])]
    obtain ⟨cs, hcs⟩ := List.getLast?_eq_some_iff.1 hslash
    have hslashes : dir = String.ofList cs ++ String.ofList ['/'] ++ "" := by
      rw [← String.toList_inj, hcs]
      simp
    have hjoined : dir ++ name = String.ofList cs ++ String.ofList ['/'] ++ name := by
      rw [hslashes, String.append_empty]
    refine ⟨⟨name, rfl⟩, Text.cut '/' (String.ofList cs), [""], Text.cut_ne_nil _ _, ?_, rfl, ?_⟩
    · rw [hslashes, Text.cut_append]
      rfl
    · rw [hjoined, Text.cut_append, hcut]
  · rw [if_neg (by simp [hdir, hslash])]
    refine ⟨⟨"/" ++ name, String.append_assoc⟩, Text.cut '/' dir, [], Text.cut_ne_nil _ _,
      (List.append_nil _).symm, rfl, ?_⟩
    rw [← hcut]
    exact Text.cut_append '/' dir name

/-- The same of any directory, which may be empty. -/
theorem cut_join_slashes (dir : String) {name : String}
    (hname : Settings.isPlainName name = true) :
    ∃ parts slashes, Text.cut '/' dir = parts ++ slashes ∧ slashes.all (· = "") = true ∧
      Text.cut '/' (join dir name) = parts ++ [name] := by
  by_cases hdir : dir = ""
  · rw [hdir, join_empty]
    exact ⟨[], [""], rfl, rfl, (cut_of_isPlainName hname).1⟩
  · obtain ⟨-, parts, slashes, -, hjoin⟩ := cut_join hdir hname
    exact ⟨parts, slashes, hjoin⟩

theorem isAbsolute_join (dir : String) {name : String}
    (hname : Settings.isPlainName name = true) : isAbsolute (join dir name) = isAbsolute dir := by
  by_cases hdir : dir = ""
  · rw [hdir, join_empty, isAbsolute_of_isPlainName hname]
    rfl
  · exact (isAbsolute_of_begins hdir (cut_join hdir hname).1).symm

/-- A directory is above the path of a plain name in it. -/
theorem above_join {dir name : String} (hdir : dir ≠ "")
    (hname : Settings.isPlainName name = true) : Above dir (join dir name) := by
  obtain ⟨hmore, parts, slashes, -, hcut, hslashes, hjoined⟩ := cut_join hdir hname
  have hvoid := (cut_of_isPlainName hname).2
  exact ⟨hdir, hmore, parts, slashes, [name], hcut, hjoined, hslashes,
    by simp [ne_empty_of_not_void hvoid]⟩

/-! ## The directory that a name was joined to -/

/-- Both texts have the same parts, but for parts at their ends that name nothing. -/
structure SameParts (upper dir : String) : Prop where
  nonempty : upper ≠ ""
  begins : ∃ more, dir = upper ++ more
  cut : ∃ parts voids voids',
    Text.cut '/' upper = parts ++ voids ∧ Text.cut '/' dir = parts ++ voids' ∧
    (∀ part ∈ voids, isVoid part = true) ∧ ∀ part ∈ voids', isVoid part = true

/-- A path whose last part is a name consists of its beginning, other parts and the name. -/
theorem split_of_cut {path name : String} {parts : List String}
    (hcut : Text.cut '/' path = parts ++ [name]) (hname : isVoid name = false) :
    ∃ before, parts = (split path).1 ++ before ∧ (split path).2 = before ++ [name] := by
  rw [← split_append, List.append_eq_append_iff] at hcut
  rcases hcut with ⟨before, hparts, hbody⟩ | ⟨more, hstart, hbody⟩
  · exact ⟨before, hparts, hbody⟩
  cases more with
  | nil =>
    refine ⟨[], ?_, hbody.symm⟩
    rw [hstart, List.append_nil, List.append_nil]
  | cons part rest =>
    obtain ⟨rfl, -⟩ := List.cons.inj hbody
    have hmem : name ∈ (split path).1 := by
      rw [hstart]
      simp
    cases hname.symm.trans (isVoid_of_mem_split hmem)

/-- The directory of a path whose last part is a name: the root, the working directory, or all parts
before the name that something is named behind. -/
theorem directory_of_body {path name : String} {before : List String}
    (hbody : (split path).2 = before ++ [name]) (hname : isVoid name = false) :
    directory path =
      if (split path).1 = [""] && (dropVoidEnd before).isEmpty then "/"
      else if "/".intercalate ((split path).1 ++ dropVoidEnd before) = "" then "."
      else "/".intercalate ((split path).1 ++ dropVoidEnd before) := by
  have hdrop : dropVoidEnd (before ++ [name]) = before ++ [name] :=
    dropVoidEnd_append before hname nofun
  have hparent : parent? path =
      if (split path).1 = [""] && (dropVoidEnd before).isEmpty then some "/"
      else some ("/".intercalate ((split path).1 ++ dropVoidEnd before)) := by
    rw [parent?]
    simp only [hbody, hdrop]
    split
    next hnil => simp at hnil
    next => rw [List.dropLast_concat]
  rw [directory, hparent]
  by_cases hroot : ((split path).1 = [""] && (dropVoidEnd before).isEmpty) = true
  · rw [if_pos hroot, if_pos hroot]
    rfl
  · rw [if_neg hroot, if_neg hroot]

/-- A path in its parts whose first one is empty is absolute. -/
theorem isAbsolute_of_cut {path : String} {rest : List String}
    (hcut : Text.cut '/' path = "" :: rest) (hrest : rest ≠ []) : isAbsolute path = true := by
  have hwhole := Text.intercalate_cut '/' path
  rw [hcut, String.intercalate_cons_of_ne_nil hrest] at hwhole
  rw [← hwhole]
  simp [isAbsolute]

/-- Without a beginning of its own, a path of several parts begins with one that names something. -/
theorem not_void_of_split {path first : String} {rest : List String}
    (hcut : Text.cut '/' path = first :: rest) (hrest : rest ≠ [])
    (hstart : (split path).1 = []) : isVoid first = false := by
  rw [split, hcut] at hstart
  simp only at hstart
  split at hstart
  · cases hstart
  next habsolute =>
  split at hstart
  · cases hstart
  next hdot =>
  have hempty : first ≠ "" := by
    rintro rfl
    exact habsolute (isAbsolute_of_cut hcut hrest)
  simp [isVoid, hempty, hdot]

theorem eq_of_intercalate_eq_empty {parts : List String}
    (hparts : ∀ part ∈ parts, '/' ∉ part.toList) (hne : parts ≠ [])
    (h : "/".intercalate parts = "") : parts = [""] := by
  rw [← Text.cut_intercalate hne hparts]
  exact congrArg (Text.cut '/') h

/-- Where a name stands behind several parts, more is left of these than nothing. -/
theorem left_ne_nil {path name : String} {before : List String}
    (hcut : Text.cut '/' path = (split path).1 ++ before ++ [name])
    (hne : (split path).1 ++ before ≠ []) : (split path).1 ++ dropVoidEnd before ≠ [] := by
  intro hnil
  obtain ⟨hstart, hnothing⟩ := List.append_eq_nil_iff.1 hnil
  obtain ⟨voids, hbefore, hvoids⟩ := exists_voids before
  rw [hnothing, List.nil_append] at hbefore
  rw [hstart, List.nil_append] at hne hcut
  obtain ⟨first, rest, hfirst⟩ := List.exists_cons_of_ne_nil hne
  rw [hfirst, List.cons_append] at hcut
  have hnamed := not_void_of_split hcut (by simp) hstart
  have hmem : first ∈ voids := by
    rw [← hbefore, hfirst]
    exact List.mem_cons_self
  cases hnamed.symm.trans (hvoids first hmem)

/-- Only of the root nothing is left but an empty part. -/
theorem eq_root_of_left {path : String} {before : List String}
    (h : (split path).1 ++ dropVoidEnd before = [""]) :
    (split path).1 = [""] ∧ dropVoidEnd before = [] := by
  rcases split_fst_cases path with hstart | hstart | hstart
  · rw [hstart, List.nil_append] at h
    have hlast : (dropVoidEnd before).getLast? = some "" := by
      rw [h]
      rfl
    cases not_void_of_getLast? hlast
  · rw [hstart, List.singleton_append, List.cons.injEq] at h
    exact ⟨hstart, h.2⟩
  · rw [hstart, List.singleton_append, List.cons.injEq] at h
    exact absurd h.1 (by decide)

/-- The directory of a name that was joined to one: the parts of that which are left without the
ones at its end that name nothing. -/
theorem directory_join_cases {dir name : String} (hdir : dir ≠ "")
    (hname : Settings.isPlainName name = true) :
    ∃ start left voids, Text.cut '/' dir = start ++ left ++ voids ∧
      (start = [] ∨ start = [""] ∨ start = ["."]) ∧
      (∀ last, left.getLast? = some last → isVoid last = false) ∧
      (∀ part ∈ voids, isVoid part = true) ∧
      (start = [""] ∧ left = [] ∧ directory (join dir name) = "/" ∨
        start ++ left ≠ [] ∧ start ++ left ≠ [""] ∧
          directory (join dir name) = "/".intercalate (start ++ left)) := by
  have hvoid := (cut_of_isPlainName hname).2
  obtain ⟨-, parts, slashes, hne, hcut, hslashes, hjoined⟩ := cut_join hdir hname
  generalize join dir name = path at hjoined ⊢
  obtain ⟨before, rfl, hbody⟩ := split_of_cut hjoined hvoid
  obtain ⟨voids, hbefore, hvoids⟩ := exists_voids before
  have hcut' : Text.cut '/' dir = (split path).1 ++ dropVoidEnd before ++ (voids ++ slashes) := by
    calc Text.cut '/' dir
      _ = (split path).1 ++ before ++ slashes := hcut
      _ = (split path).1 ++ (dropVoidEnd before ++ voids) ++ slashes := by rw [← hbefore]
      _ = _ := by simp only [List.append_assoc]
  refine ⟨(split path).1, dropVoidEnd before, voids ++ slashes, hcut', split_fst_cases path,
    fun last => not_void_of_getLast?, fun part hpart => ?_, ?_⟩
  · exact (List.mem_append.1 hpart).elim (hvoids part) (isVoid_of_all hslashes part)
  have hsome := left_ne_nil hjoined hne
  rw [directory_of_body hbody hvoid]
  split
  next hroot =>
    rw [Bool.and_eq_true, decide_eq_true_eq, List.isEmpty_iff] at hroot
    exact .inl ⟨hroot.1, hroot.2, rfl⟩
  next hroot =>
    have hparts : ∀ part ∈ (split path).1 ++ dropVoidEnd before, '/' ∉ part.toList := by
      intro part hpart
      refine Text.not_mem_of_mem_cut (s := dir) ?_
      rw [hcut']
      exact List.mem_append_left _ hpart
    have hone : (split path).1 ++ dropVoidEnd before ≠ [""] := by
      intro hone
      obtain ⟨hstart, hnothing⟩ := eq_root_of_left hone
      exact hroot (by rw [hstart, hnothing]; rfl)
    rw [if_neg fun hempty => hone (eq_of_intercalate_eq_empty hparts hsome hempty)]
    exact .inr ⟨hsome, hone, rfl⟩

/-- The name of a file in a directory is the name that was joined to it. -/
theorem fileName?_join (dir : String) {name : String} (hname : Settings.isPlainName name = true) :
    fileName? (join dir name) = some name := by
  have hvoid := (cut_of_isPlainName hname).2
  obtain ⟨parts, -, -, -, hjoined⟩ := cut_join_slashes dir hname
  obtain ⟨before, -, hbody⟩ := split_of_cut hjoined hvoid
  exact fileName?_of_body hbody hvoid (ne_up_of_isPlainName hname) nofun

/-- The directory of a name that was joined to one has the same parts as that. -/
theorem sameParts_directory_join {dir name : String} (hdir : dir ≠ "")
    (hname : Settings.isPlainName name = true) : SameParts (directory (join dir name)) dir := by
  obtain ⟨start, left, voids, hcut, -, -, hvoids, ⟨rfl, rfl, hroot⟩ | ⟨hne, hone, hleft⟩⟩ :=
    directory_join_cases hdir hname
  · rw [hroot]
    refine ⟨by decide, ?_, [""], [""], voids, by decide, hcut, by decide, hvoids⟩
    have hwhole := Text.intercalate_cut '/' dir
    have hrest : voids ≠ [] := by
      rintro rfl
      rw [hcut] at hwhole
      exact hdir hwhole.symm
    rw [hcut, List.append_nil, List.singleton_append,
      String.intercalate_cons_of_ne_nil hrest] at hwhole
    exact ⟨_, hwhole.symm⟩
  · have hparts : ∀ part ∈ start ++ left, '/' ∉ part.toList := by
      intro part hpart
      refine Text.not_mem_of_mem_cut (s := dir) ?_
      rw [hcut]
      exact List.mem_append_left voids hpart
    rw [hleft]
    refine ⟨fun hempty => hone (eq_of_intercalate_eq_empty hparts hne hempty),
      begins_of_cut hcut hne, start ++ left, [], voids, ?_, hcut, nofun, hvoids⟩
    rw [List.append_nil, Text.cut_intercalate hne hparts]

/-- The directory of a name that was joined to one of no named parts is the root or the working
directory. -/
theorem directory_join_of_void {dir name : String} (hdir : dir ≠ "")
    (hname : Settings.isPlainName name = true)
    (hall : ∀ part ∈ Text.cut '/' dir, isVoid part = true) :
    directory (join dir name) = "/" ∨ directory (join dir name) = "." := by
  obtain ⟨start, left, voids, hcut, hstart, hlast, -, ⟨-, -, hroot⟩ | ⟨hne, hone, hleft⟩⟩ :=
    directory_join_cases hdir hname
  · exact .inl hroot
  -- The last part that is left would name something.
  have hnothing : left = [] := by
    rw [← List.getLast?_eq_none_iff]
    cases hpart : left.getLast? with
    | none => rfl
    | some part =>
      have hmem : part ∈ Text.cut '/' dir := by
        rw [hcut]
        exact List.mem_append_left _ (List.mem_append_right _ (List.mem_of_getLast? hpart))
      cases (hlast part hpart).symm.trans (hall part hmem)
  rw [hleft]
  rw [hnothing, List.append_nil] at hne hone ⊢
  rcases hstart with rfl | rfl | rfl
  · exact absurd rfl hne
  · exact absurd rfl hone
  · exact .inr rfl

/-- A plain name that is joined to nothing is in the working directory. -/
theorem directory_join_empty {name : String} (hname : Settings.isPlainName name = true) :
    directory (join "" name) = "." := by
  obtain ⟨hcut, hvoid⟩ := cut_of_isPlainName hname
  obtain ⟨before, hparts, hbody⟩ := split_of_cut (hcut.trans (List.nil_append _).symm) hvoid
  obtain ⟨hstart, rfl⟩ := List.append_eq_nil_iff.1 hparts.symm
  rw [join_empty, directory_of_body hbody hvoid, hstart]
  rfl

/-- Where nothing is above a path, none of its parts names anything. -/
theorem isVoid_of_parent?_eq_none {path : String} (h : parent? path = none) :
    ∀ part ∈ Text.cut '/' path, isVoid part = true := by
  obtain ⟨voids, hbody, hvoids⟩ := exists_voids (split path).2
  rw [parent?] at h
  simp only at h
  split at h
  next hnothing =>
    rw [hnothing, List.nil_append] at hbody
    intro part hpart
    rw [← split_append] at hpart
    rcases List.mem_append.1 hpart with hstart | hpart
    · exact isVoid_of_mem_split hstart
    · exact hvoids part (hbody ▸ hpart)
  next => split at h <;> cases h

end HostRegistry.Path
