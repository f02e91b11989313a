import HostRegistry.Proofs.SortedSet
import HostRegistry.Record

/-!
# Entering host lists

The entries of a record are entered one by one, until the first one whose id is blank or has been
entered before. So they are all entered exactly when their ids are distinct and not blank, and the
map then holds them as they are given.
-/

namespace HostRegistry

/-! ## The first fault in a list -/

section FirstFault

variable {α ε : Type}

/-- Nothing is wrong with the entries, each judged by those before it, of which some were seen
already. -/
def Faultless (fault? : List α → α → Option ε) (seen entries : List α) : Prop :=
  ∀ before entry after, entries = before ++ entry :: after → fault? (seen ++ before) entry = none

/-- The first entry with which something is wrong has this fault. -/
def FirstFault (fault? : List α → α → Option ε) (seen entries : List α) (fault : ε) : Prop :=
  ∃ before entry after, entries = before ++ entry :: after ∧ Faultless fault? seen before ∧
    fault? (seen ++ before) entry = some fault

variable {fault? : List α → α → Option ε} {seen rest : List α} {entry : α} {fault : ε}

theorem faultless_nil (fault? : List α → α → Option ε) (seen : List α) :
    Faultless fault? seen [] := by
  intro before entry after h
  cases before <;> cases h

theorem faultless_cons : Faultless fault? seen (entry :: rest) ↔
    fault? seen entry = none ∧ Faultless fault? (seen ++ [entry]) rest := by
  constructor
  · intro h
    refine ⟨?_, ?_⟩
    · simpa using h [] entry rest rfl
    · intro before other after hrest
      simpa using h (entry :: before) other after (by rw [hrest]; rfl)
  · rintro ⟨hentry, hrest⟩ before other after h
    cases before with
    | nil =>
      cases h
      simpa using hentry
    | cons first before =>
      cases h
      simpa using hrest before other after rfl

theorem firstFault_cons : FirstFault fault? seen (entry :: rest) fault ↔
    fault? seen entry = some fault ∨
      fault? seen entry = none ∧ FirstFault fault? (seen ++ [entry]) rest fault := by
  constructor
  · rintro ⟨before, other, after, h, hbefore, hfault⟩
    cases before with
    | nil =>
      cases h
      exact .inl (by simpa using hfault)
    | cons first before =>
      cases h
      obtain ⟨hfirst, hmore⟩ := faultless_cons.1 hbefore
      exact .inr ⟨hfirst, before, other, after, rfl, hmore, by simpa using hfault⟩
  · rintro (hfault | ⟨hentry, before, other, after, rfl, hbefore, hfault⟩)
    · exact ⟨[], entry, rest, rfl, faultless_nil fault? seen, by simpa using hfault⟩
    · exact ⟨entry :: before, other, after, rfl, faultless_cons.2 ⟨hentry, hbefore⟩,
        by simpa using hfault⟩

theorem not_firstFault_nil : ¬FirstFault fault? seen [] fault := by
  rintro ⟨before, entry, after, h, -⟩
  cases before <;> cases h

end FirstFault

namespace Record

/-! ## Faults of entries -/

/-- What is wrong with an entry behind others: its id is blank, or it is the id of one of them. -/
def entryFault? (kind : Kind) (earlier : List HostEntry) (entry : HostEntry) : Option Invalid :=
  if Text.isBlank entry.id then some (.blankId kind)
  else if entry.id ∈ earlier.map HostEntry.id then some (.duplicateId kind entry.id)
  else none

/-- No id is blank, and none is repeated. -/
def Distinct (entries : List HostEntry) : Prop :=
  (∀ entry ∈ entries, Text.isBlank entry.id = false) ∧ (entries.map HostEntry.id).Nodup

instance (entries : List HostEntry) : Decidable (Distinct entries) := by
  unfold Distinct
  infer_instance

theorem entryFault?_eq_none_iff {kind : Kind} {earlier : List HostEntry} {entry : HostEntry} :
    entryFault? kind earlier entry = none ↔
      Text.isBlank entry.id = false ∧ entry.id ∉ earlier.map HostEntry.id := by
  rw [entryFault?]
  split
  next hblank => simp [hblank]
  next hblank =>
    split
    next hmem => simp [hmem]
    next hmem => exact ⟨fun _ => ⟨eq_false_of_ne_true hblank, hmem⟩, fun _ => rfl⟩

theorem faultless_entries_iff {kind : Kind} {seen entries : List HostEntry} :
    Faultless (entryFault? kind) seen entries ↔
      (∀ entry ∈ entries, Text.isBlank entry.id = false ∧ entry.id ∉ seen.map HostEntry.id) ∧
        (entries.map HostEntry.id).Nodup := by
  induction entries generalizing seen with
  | nil => exact ⟨fun _ => ⟨nofun, .nil⟩, fun _ => faultless_nil _ seen⟩
  | cons entry rest ih =>
    rw [faultless_cons, entryFault?_eq_none_iff, ih, List.map_cons, List.nodup_cons,
      List.forall_mem_cons]
    simp only [List.map_append, List.map_cons, List.map_nil, List.mem_append, List.mem_singleton,
      not_or]
    constructor
    · rintro ⟨hentry, hrest, hnodup⟩
      refine ⟨⟨hentry, fun other hother => ⟨(hrest other hother).1, (hrest other hother).2.1⟩⟩,
        ?_, hnodup⟩
      intro hmem
      obtain ⟨other, hother, hid⟩ := List.mem_map.1 hmem
      exact (hrest other hother).2.2 hid
    · rintro ⟨⟨hentry, hrest⟩, hnew, hnodup⟩
      refine ⟨hentry, fun other hother => ⟨(hrest other hother).1, (hrest other hother).2, ?_⟩,
        hnodup⟩
      intro hid
      exact hnew (List.mem_map.2 ⟨other, hother, hid⟩)

theorem faultless_iff_distinct {kind : Kind} {entries : List HostEntry} :
    Faultless (entryFault? kind) [] entries ↔ Distinct entries := by
  rw [faultless_entries_iff, Distinct]
  simp

theorem Distinct.perm {entries entries' : List HostEntry} (h : Distinct entries)
    (hperm : entries'.Perm entries) : Distinct entries' :=
  ⟨fun entry hentry => h.1 entry (hperm.mem_iff.1 hentry),
    (hperm.map HostEntry.id).nodup_iff.2 h.2⟩

/-! ## Entering one by one -/

/-- The map has the ids of the entries. -/
def Knows (m : HostMap) (seen : List HostEntry) : Prop :=
  ∀ id, m.contains id = true ↔ id ∈ seen.map HostEntry.id

variable {kind : Kind} {m m' : HostMap} {seen entries : List HostEntry} {invalid : Invalid}

theorem Knows.insert (h : Knows m seen) (entry : HostEntry) :
    Knows (m.insert entry.id entry.hosts) (seen ++ [entry]) := by
  intro id
  rw [List.map_append, List.mem_append, ← h id, SortedMap.contains, SortedMap.contains]
  by_cases hid : id = entry.id
  · simp [hid]
  · rw [SortedMap.get?_insert_of_ne m _ hid]
    simp [hid]

/-- Entering an entry fails with its fault, and otherwise goes on with the entry in the map. -/
theorem enterHosts_cons (h : Knows m seen) (kind : Kind) (entry : HostEntry)
    (rest : List HostEntry) :
    enterHosts kind m (entry :: rest) = match entryFault? kind seen entry with
      | none => enterHosts kind (m.insert entry.id entry.hosts) rest
      | some invalid => .error invalid := by
  rw [enterHosts, entryFault?]
  by_cases hblank : Text.isBlank entry.id = true
  · rw [if_pos hblank, if_pos hblank]
  · rw [if_neg hblank, if_neg hblank]
    by_cases hmem : entry.id ∈ seen.map HostEntry.id
    · rw [if_pos hmem, if_pos ((h entry.id).2 hmem)]
    · rw [if_neg hmem, if_neg fun hknown => hmem ((h entry.id).1 hknown)]

theorem enterHosts_eq_error_iff (h : Knows m seen) :
    enterHosts kind m entries = .error invalid ↔
      FirstFault (entryFault? kind) seen entries invalid := by
  induction entries generalizing m seen with
  | nil => exact ⟨nofun, fun hfault => (not_firstFault_nil hfault).elim⟩
  | cons entry rest ih =>
    rw [enterHosts_cons h, firstFault_cons]
    cases entryFault? kind seen entry with
    | none => simp [ih (h.insert entry)]
    | some fault => simp

theorem enterHosts_isOk_iff (h : Knows m seen) :
    (∃ m', enterHosts kind m entries = .ok m') ↔ Faultless (entryFault? kind) seen entries := by
  induction entries generalizing m seen with
  | nil => exact ⟨fun _ => faultless_nil _ seen, fun _ => ⟨m, rfl⟩⟩
  | cons entry rest ih =>
    rw [enterHosts_cons h, faultless_cons]
    cases entryFault? kind seen entry with
    | none => simp [ih (h.insert entry)]
    | some fault => simp

/-- The map holds what it held before and the entries. -/
theorem get?_of_enterHosts (h : Knows m seen) (hok : enterHosts kind m entries = .ok m')
    (id : String) (hosts : List String) :
    m'.get? id = some hosts ↔ m.get? id = some hosts ∨ ⟨id, hosts⟩ ∈ entries := by
  induction entries generalizing m seen with
  | nil =>
    cases hok
    simp
  | cons entry rest ih =>
    rw [enterHosts_cons h] at hok
    cases hfault : entryFault? kind seen entry with
    | some fault =>
      rw [hfault] at hok
      cases hok
    | none =>
      rw [hfault] at hok
      rw [ih (h.insert entry) hok, List.mem_cons]
      have hnew : m.get? entry.id = none := by
        have hcontains := mt (h entry.id).1 (entryFault?_eq_none_iff.1 hfault).2
        simpa [SortedMap.contains] using hcontains
      by_cases hid : id = entry.id
      · subst hid
        rw [SortedMap.get?_insert_self, hnew]
        obtain ⟨id, given⟩ := entry
        simp [eq_comm]
      · rw [SortedMap.get?_insert_of_ne m _ hid]
        have hne : (⟨id, hosts⟩ : HostEntry) ≠ entry := fun heq => hid (by rw [← heq])
        simp only [hne, false_or]

theorem knows_empty : Knows .empty [] := by
  intro id
  simp [SortedMap.contains]

theorem enterHosts_isOk_iff_distinct (kind : Kind) (entries : List HostEntry) :
    (∃ m, enterHosts kind .empty entries = .ok m) ↔ Distinct entries := by
  rw [enterHosts_isOk_iff knows_empty, faultless_iff_distinct]

end Record

end HostRegistry
