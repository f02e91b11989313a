import HostRegistry.Proofs.Snapshot.InfoSet

/-!
# Which records describe a registry

A record is acceptable when the ids of its containers are not blank and not repeated, those of its
servers likewise, and each of its infos is loadable. Acceptable records, and no others, describe
contents: the host lists as they are given, and under each key the infos that have it. Any other
record is refused with the fault of its first faulty entry, containers before servers before infos.
-/

namespace HostRegistry.Record

variable {r r' : Record} {s : Snapshot} {invalid : Invalid}

theorem enterInfos_eq_error_iff {s : Snapshot} {seen rows : List InfoRow} :
    enterInfos s rows = .error invalid ↔ FirstFault (fun _ => rowFault?) seen rows invalid := by
  induction rows generalizing s seen with
  | nil => exact ⟨nofun, fun hfault => (not_firstFault_nil hfault).elim⟩
  | cons row rest ih =>
    rw [enterInfos, infoOf_eq, firstFault_cons]
    cases rowFault? row with
    | none => simp [@ih _ (seen ++ [row])]
    | some fault => simp

theorem enterInfos_isOk_iff {s : Snapshot} {rows : List InfoRow} :
    (∃ s', enterInfos s rows = .ok s') ↔ ∀ row ∈ rows, row.info.Loadable := by
  induction rows generalizing s with
  | nil => exact ⟨fun _ => nofun, fun _ => ⟨s, rfl⟩⟩
  | cons row rest ih =>
    rw [enterInfos, infoOf_eq, List.forall_mem_cons, ← rowFault?_eq_none_iff]
    cases rowFault? row with
    | none => simp [ih]
    | some fault => simp

/-! ## Whole records -/

structure Acceptable (r : Record) : Prop where
  containers : Distinct r.containers
  servers : Distinct r.servers
  infos : ∀ row ∈ r.infos, row.info.Loadable

/-- The first faulty entry of the record has this fault, where containers come before servers and
servers before infos. -/
inductive Offends (r : Record) (invalid : Invalid) : Prop
  | container (fault : FirstFault (entryFault? .container) [] r.containers invalid)
  | server (containers : Distinct r.containers)
      (fault : FirstFault (entryFault? .server) [] r.servers invalid)
  | info (containers : Distinct r.containers) (servers : Distinct r.servers)
      (fault : FirstFault (fun _ => rowFault?) [] r.infos invalid)

theorem toSnapshot_isOk_iff : (∃ s, r.toSnapshot = .ok s) ↔ r.Acceptable := by
  simp only [toSnapshot_eq_ok_iff]
  constructor
  · rintro ⟨s, containerHosts, serverHosts, hcontainers, hservers, hinfos⟩
    exact ⟨(enterHosts_isOk_iff_distinct _ _).1 ⟨_, hcontainers⟩,
      (enterHosts_isOk_iff_distinct _ _).1 ⟨_, hservers⟩, enterInfos_isOk_iff.1 ⟨_, hinfos⟩⟩
  · intro h
    obtain ⟨containerHosts, hcontainers⟩ :=
      (enterHosts_isOk_iff_distinct .container _).2 h.containers
    obtain ⟨serverHosts, hservers⟩ := (enterHosts_isOk_iff_distinct .server _).2 h.servers
    obtain ⟨s, hinfos⟩ := enterInfos_isOk_iff.2 h.infos
    exact ⟨s, containerHosts, serverHosts, hcontainers, hservers, hinfos⟩

theorem toSnapshot_eq_error_iff : r.toSnapshot = .error invalid ↔ r.Offends invalid := by
  constructor
  · intro h
    rw [toSnapshot] at h
    split at h
    next fault hcontainers =>
      cases h
      exact .container ((enterHosts_eq_error_iff knows_empty).1 hcontainers)
    next containerHosts hcontainers =>
      have hdistinct := (enterHosts_isOk_iff_distinct _ _).1 ⟨_, hcontainers⟩
      split at h
      next fault hservers =>
        cases h
        exact .server hdistinct ((enterHosts_eq_error_iff knows_empty).1 hservers)
      next serverHosts hservers =>
        exact .info hdistinct ((enterHosts_isOk_iff_distinct _ _).1 ⟨_, hservers⟩)
          (enterInfos_eq_error_iff.1 h)
  · intro h
    cases h with
    | container hfault => rw [toSnapshot, (enterHosts_eq_error_iff knows_empty).2 hfault]
    | server hcontainers hfault =>
      obtain ⟨containerHosts, hc⟩ := (enterHosts_isOk_iff_distinct _ _).2 hcontainers
      rw [toSnapshot, hc]
      simp only
      rw [(enterHosts_eq_error_iff knows_empty).2 hfault]
    | info hcontainers hservers hfault =>
      obtain ⟨containerHosts, hc⟩ := (enterHosts_isOk_iff_distinct _ _).2 hcontainers
      obtain ⟨serverHosts, hs⟩ := (enterHosts_isOk_iff_distinct _ _).2 hservers
      rw [toSnapshot, hc]
      simp only
      rw [hs]
      exact enterInfos_eq_error_iff.2 hfault

/-! ## What acceptable records describe -/

/-- The contents hold the hosts as the record gives them, and under each key the infos of the rows
that have it. -/
structure Describes (r : Record) (s : Snapshot) : Prop where
  containers : ∀ id hosts, s.containerHosts.get? id = some hosts ↔ ⟨id, hosts⟩ ∈ r.containers
  servers : ∀ id hosts, s.serverHosts.get? id = some hosts ↔ ⟨id, hosts⟩ ∈ r.servers
  infos : ∀ key info, info ∈ s.infos key ↔ info ∈ r.infos.map InfoRow.info ∧ key ∈ info.keys

theorem describes_of_toSnapshot (h : r.toSnapshot = .ok s) : r.Describes s := by
  obtain ⟨containerHosts, serverHosts, hcontainers, hservers, hinfos⟩ := toSnapshot_eq_ok_iff.1 h
  obtain ⟨infos, -, -, hs⟩ := enterInfos_eq_ok_iff.1 hinfos
  obtain ⟨hcontainers', hservers'⟩ :=
    Snapshot.foldl_addInfo_hosts infos ⟨containerHosts, serverHosts, .empty⟩
  rw [← hs] at hcontainers' hservers'
  refine ⟨?_, ?_, ?_⟩
  · intro id hosts
    rw [hcontainers', get?_of_enterHosts knows_empty hcontainers]
    simp
  · intro id hosts
    rw [hservers', get?_of_enterHosts knows_empty hservers]
    simp
  · intro key info
    rw [Snapshot.mem_infos_iff, Snapshot.lists_iff_mem_distinctInfos (loadable_of_toSnapshot h).2,
      ← List.mem_toFinset, ← Snapshot.infoSet, Snapshot.infoSet_of_toSnapshot h, List.mem_toFinset]

/-- Records with the same entries describe the same contents. -/
theorem eq_of_describes {s' : Snapshot} (h : r.toSnapshot = .ok s)
    (h' : r'.toSnapshot = .ok s')
    (hcontainers : ∀ entry, entry ∈ r'.containers ↔ entry ∈ r.containers)
    (hservers : ∀ entry, entry ∈ r'.servers ↔ entry ∈ r.servers)
    (hinfos : ∀ row, row ∈ r'.infos ↔ row ∈ r.infos) : s' = s := by
  have hr := describes_of_toSnapshot h
  have hr' := describes_of_toSnapshot h'
  apply Snapshot.ext_maps
  · apply SortedMap.ext_get?
    intro id
    apply Option.ext
    intro hosts
    rw [hr.containers, hr'.containers, hcontainers]
  · apply SortedMap.ext_get?
    intro id
    apply Option.ext
    intro hosts
    rw [hr.servers, hr'.servers, hservers]
  · apply InfoIndex.ext_lists (loadable_of_toSnapshot h').2.trimmed
      (loadable_of_toSnapshot h).2.trimmed
    intro key info
    rw [← Snapshot.mem_infos_iff, ← Snapshot.mem_infos_iff, hr.infos, hr'.infos]
    simp only [List.mem_map, hinfos]

/-- A record describes contents exactly when it is acceptable, and these hold what its entries say.
So the order of its entries makes no difference, nor how often an info is repeated. A record that is
not acceptable is refused with the fault of its first faulty entry. -/
theorem toSnapshot_describes_or_names_fault (r : Record) :
    ((∃ s, r.toSnapshot = .ok s) ↔ r.Acceptable) ∧
    (∀ invalid, r.toSnapshot = .error invalid ↔ r.Offends invalid) ∧
    ∀ s, r.toSnapshot = .ok s →
      r.Describes s ∧
      ∀ r' : Record, r'.containers.Perm r.containers → r'.servers.Perm r.servers →
        (∀ row, row ∈ r'.infos ↔ row ∈ r.infos) → r'.toSnapshot = .ok s := by
  refine ⟨toSnapshot_isOk_iff, fun invalid => toSnapshot_eq_error_iff, ?_⟩
  intro s h
  refine ⟨describes_of_toSnapshot h, ?_⟩
  intro r' hcontainers hservers hinfos
  have hacceptable := toSnapshot_isOk_iff.1 ⟨s, h⟩
  have hacceptable' : r'.Acceptable :=
    ⟨hacceptable.containers.perm hcontainers, hacceptable.servers.perm hservers,
      fun row hrow => hacceptable.infos row ((hinfos row).1 hrow)⟩
  obtain ⟨s', h'⟩ := toSnapshot_isOk_iff.2 hacceptable'
  have hsame := eq_of_describes h h' (fun _ => hcontainers.mem_iff)
    (fun _ => hservers.mem_iff) hinfos
  rw [h', hsame]

/-- Two infos whose ids and aliases cross, and a container without hosts. -/
def crossed : Record where
  containers := [⟨"a", ["http://1", "http://1"]⟩, ⟨"c", []⟩]
  servers := [⟨"s", ["http://1"]⟩]
  infos := [⟨"c", "a", "g", "x", "1"⟩, ⟨"a", "c", "g", "y", "2"⟩]

/-- The same entries in another order, with one info given twice. -/
def rearranged : Record where
  containers := [⟨"c", []⟩, ⟨"a", ["http://1", "http://1"]⟩]
  servers := [⟨"s", ["http://1"]⟩]
  infos := [⟨"a", "c", "g", "y", "2"⟩, ⟨"c", "a", "g", "x", "1"⟩, ⟨"a", "c", "g", "y", "2"⟩]

theorem toSnapshot_rearranged :
    crossed.Acceptable ∧
      ∃ s, crossed.toSnapshot = .ok s ∧ crossed.Describes s ∧ rearranged.toSnapshot = .ok s := by
  have hacceptable : crossed.Acceptable := by
    constructor <;> decide
  refine ⟨hacceptable, ?_⟩
  obtain ⟨s, hs⟩ := (toSnapshot_describes_or_names_fault crossed).1.2 hacceptable
  obtain ⟨hdescribes, hsame⟩ := (toSnapshot_describes_or_names_fault crossed).2.2 s hs
  refine ⟨s, hs, hdescribes, hsame rearranged ?_ ?_ ?_⟩
  · exact List.Perm.swap _ _ _
  · exact List.Perm.refl _
  · intro row
    simp only [rearranged, crossed, List.mem_cons, List.not_mem_nil, or_false]
    grind

end HostRegistry.Record
