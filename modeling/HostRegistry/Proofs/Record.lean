import HostRegistry.Proofs.Record.Hosts
import HostRegistry.Proofs.Release
import HostRegistry.Proofs.Snapshot.InfoIndex

/-!
# Records and the contents they describe

Contents are loadable when every id says something and every info has an id, an alias and a proper
release. The record of loadable contents describes these contents and no others; the record of any
other contents describes nothing. Whatever a record describes is loadable.
-/

namespace HostRegistry

/-- What a stored info has to satisfy. -/
def ContainerInfo.Loadable (info : ContainerInfo) : Prop :=
  Text.isBlank info.containerId = false ∧ Text.isBlank info.aliasName = false ∧ info.release.Proper

instance (info : ContainerInfo) : Decidable info.Loadable := by
  unfold ContainerInfo.Loadable
  infer_instance

/-- The info that a row is about. -/
def InfoRow.info (row : InfoRow) : ContainerInfo :=
  ⟨row.containerId, row.aliasName, ⟨row.group, row.artifact, row.version⟩⟩

/-- What contents have to satisfy to be read back from their record. -/
def Snapshot.Loadable (s : Snapshot) : Prop :=
  (∀ id ∈ s.containerHosts.keys ++ s.serverHosts.keys, Text.isBlank id = false) ∧
    ∀ info ∈ s.distinctInfos.toList, info.Loadable

instance (s : Snapshot) : Decidable s.Loadable := by
  unfold Snapshot.Loadable
  infer_instance

namespace Record

/-! ## Host lists -/

/-- The ids that are entered are those of the entries, none of them blank. -/
theorem not_blank_of_enterHosts {kind : Kind} {m : HostMap} {entries : List HostEntry}
    (h : enterHosts kind .empty entries = .ok m) :
    (∀ entry ∈ entries, Text.isBlank entry.id = false) ∧
      ∀ id ∈ m.keys, Text.isBlank id = false := by
  have hblank : ∀ entry ∈ entries, Text.isBlank entry.id = false :=
    ((enterHosts_isOk_iff_distinct _ _).1 ⟨m, h⟩).1
  refine ⟨hblank, ?_⟩
  intro id hid
  obtain ⟨hosts, hget⟩ := SortedMap.mem_keys_iff.1 hid
  rcases (get?_of_enterHosts knows_empty h id hosts).1 hget with hempty | hmem
  · cases hempty
  · exact hblank _ hmem

theorem distinct_hostEntries {m : HostMap} (h : ∀ id ∈ m.keys, Text.isBlank id = false) :
    Distinct (hostEntries m) := by
  refine ⟨?_, ?_⟩
  · intro entry hentry
    obtain ⟨e, he, rfl⟩ := List.mem_map.1 hentry
    exact h e.1 (List.mem_map_of_mem he)
  · rw [hostEntries, List.map_map]
    refine List.pairwise_map.2 (m.ascending.imp ?_)
    intro a b hlt heq
    rw [show a.1 = b.1 from heq, Std.ReflOrd.compare_self] at hlt
    cases hlt

theorem enterHosts_hostEntries {kind : Kind} {m : HostMap}
    (h : ∀ id ∈ m.keys, Text.isBlank id = false) :
    enterHosts kind .empty (hostEntries m) = .ok m := by
  obtain ⟨m', hm'⟩ := (enterHosts_isOk_iff_distinct kind _).2 (distinct_hostEntries h)
  have hsame : m' = m := by
    apply SortedMap.ext_get?
    intro id
    apply Option.ext
    intro hosts
    rw [get?_of_enterHosts knows_empty hm', ← SortedMap.mem_entries_iff (m := m)]
    simp [hostEntries]
  rw [hm', hsame]

/-! ## Infos -/

/-- What is wrong with a row: its id or its alias is blank, or its release is no proper one. -/
def rowFault? (row : InfoRow) : Option Invalid :=
  if Text.isBlank row.containerId ∨ Text.isBlank row.aliasName then some (.blankInfo row)
  else row.info.release.fault?.map (.release row.containerId)

theorem rowFault?_eq_none_iff {row : InfoRow} : rowFault? row = none ↔ row.info.Loadable := by
  rw [rowFault?, ContainerInfo.Loadable, ← Release.fault?_eq_none_iff]
  split
  next hblank =>
    refine ⟨nofun, ?_⟩
    rintro ⟨hid, halias, -⟩
    rcases hblank with hblank | hblank
    · cases hid.symm.trans hblank
    · cases halias.symm.trans hblank
  next hblank =>
    rw [not_or, Bool.not_eq_true, Bool.not_eq_true] at hblank
    rw [Option.map_eq_none_iff]
    exact ⟨fun hfault => ⟨hblank.1, hblank.2, hfault⟩, fun ⟨_, _, hfault⟩ => hfault⟩

theorem infoOf_eq (row : InfoRow) :
    infoOf row = match rowFault? row with
      | none => .ok row.info
      | some invalid => .error invalid := by
  have htext : Release.text ⟨row.group, row.artifact, row.version⟩ = row.info.release.text := rfl
  rw [infoOf, htext, Release.ofText_text, rowFault?]
  by_cases hblank : Text.isBlank row.containerId ∨ Text.isBlank row.aliasName
  · rw [if_pos hblank, if_pos (by simpa using hblank)]
  · rw [if_neg hblank, if_neg (by simpa using hblank)]
    cases row.info.release.fault? <;> rfl

theorem infoOf_eq_ok_iff {row : InfoRow} {info : ContainerInfo} :
    infoOf row = .ok info ↔ row = rowOf info ∧ info.Loadable := by
  rw [infoOf_eq]
  constructor
  · intro h
    split at h
    next hfault =>
      cases h
      exact ⟨rfl, rowFault?_eq_none_iff.1 hfault⟩
    · cases h
  · rintro ⟨rfl, hloadable⟩
    have hfault : rowFault? (rowOf info) = none := rowFault?_eq_none_iff.2 hloadable
    rw [hfault]
    rfl

theorem enterInfos_eq_ok_iff {s s' : Snapshot} {rows : List InfoRow} :
    enterInfos s rows = .ok s' ↔
      ∃ infos : List ContainerInfo, rows = infos.map rowOf ∧ (∀ info ∈ infos, info.Loadable) ∧
        s' = infos.foldl Snapshot.addInfo s := by
  induction rows generalizing s with
  | nil =>
    constructor
    · intro h
      cases h
      exact ⟨[], rfl, fun _ h => (List.not_mem_nil h).elim, rfl⟩
    · rintro ⟨infos, hrows, -, rfl⟩
      rw [List.map_eq_nil_iff.1 hrows.symm]
      rfl
  | cons row rest ih =>
    rw [enterInfos]
    constructor
    · intro h
      split at h
      next info hinfo =>
        obtain ⟨rfl, hloadable⟩ := infoOf_eq_ok_iff.1 hinfo
        obtain ⟨infos, rfl, hinfos, rfl⟩ := ih.1 h
        exact ⟨info :: infos, rfl, List.forall_mem_cons.2 ⟨hloadable, hinfos⟩, rfl⟩
      · cases h
    · rintro ⟨infos, hrows, hinfos, rfl⟩
      cases infos with
      | nil => cases hrows
      | cons info infos =>
        rw [List.map_cons, List.cons.injEq] at hrows
        obtain ⟨hinfo, hinfos⟩ := List.forall_mem_cons.1 hinfos
        rw [infoOf_eq_ok_iff.2 ⟨hrows.1, hinfo⟩]
        exact ih.2 ⟨infos, hrows.2, hinfos, rfl⟩

end Record

namespace Snapshot

open InfoIndex

/-! ## Whole contents -/

theorem ext_maps {a b : Snapshot} (hcontainers : a.containerHosts = b.containerHosts)
    (hservers : a.serverHosts = b.serverHosts) (hindex : a.infoIndex = b.infoIndex) : a = b := by
  cases a
  cases b
  simp_all

theorem foldl_addInfo_hosts (infos : List ContainerInfo) (s : Snapshot) :
    (infos.foldl addInfo s).containerHosts = s.containerHosts ∧
      (infos.foldl addInfo s).serverHosts = s.serverHosts := by
  induction infos generalizing s with
  | nil => exact ⟨rfl, rfl⟩
  | cons info rest ih => exact ih (s.addInfo info)

theorem lists_foldl_addInfo {infos : List ContainerInfo} {s : Snapshot} {key : String}
    {info : ContainerInfo} :
    Lists (infos.foldl addInfo s).infoIndex key info ↔
      (info ∈ infos ∧ key ∈ info.keys) ∨ Lists s.infoIndex key info := by
  induction infos generalizing s with
  | nil => simp
  | cons first rest ih =>
    have hfirst : key ∈ first.keys ∧ info = first ↔ info = first ∧ key ∈ info.keys :=
      ⟨fun ⟨hkey, heq⟩ => ⟨heq, heq ▸ hkey⟩, fun ⟨heq, hkey⟩ => ⟨heq ▸ hkey, heq⟩⟩
    rw [List.foldl_cons, ih, lists_addInfo, hfirst, List.mem_cons, or_and_right, or_left_comm,
      or_assoc]

theorem wellFormed_foldl_addInfo {s : Snapshot} (h : WellFormed s.infoIndex)
    (infos : List ContainerInfo) : WellFormed (infos.foldl addInfo s).infoIndex := by
  induction infos generalizing s with
  | nil => exact h
  | cons info rest ih => exact ih (wellFormed_addInfo h info)

/-- A well-formed index is made again from the list of its infos. -/
theorem foldl_addInfo_distinctInfos {s : Snapshot} (h : WellFormed s.infoIndex) :
    s.distinctInfos.toList.foldl addInfo ⟨s.containerHosts, s.serverHosts, .empty⟩ = s := by
  obtain ⟨hcontainers, hservers⟩ :=
    foldl_addInfo_hosts s.distinctInfos.toList ⟨s.containerHosts, s.serverHosts, .empty⟩
  have hindex : (s.distinctInfos.toList.foldl addInfo
      ⟨s.containerHosts, s.serverHosts, .empty⟩).infoIndex = s.infoIndex := by
    refine ext_lists (wellFormed_foldl_addInfo wellFormed_empty _).trimmed h.trimmed
      fun key info => ?_
    rw [lists_foldl_addInfo, lists_iff_mem_distinctInfos h]
    exact or_iff_left (not_lists_empty key info)
  exact ext_maps hcontainers hservers hindex

end Snapshot

namespace Record

theorem toSnapshot_eq_ok_iff {r : Record} {s : Snapshot} :
    r.toSnapshot = .ok s ↔
      ∃ containerHosts serverHosts,
        enterHosts .container .empty r.containers = .ok containerHosts ∧
          enterHosts .server .empty r.servers = .ok serverHosts ∧
          enterInfos ⟨containerHosts, serverHosts, .empty⟩ r.infos = .ok s := by
  rw [toSnapshot]
  cases enterHosts .container .empty r.containers with
  | error cause => simp
  | ok containerHosts =>
    cases enterHosts .server .empty r.servers with
    | error cause => simp
    | ok serverHosts => simp

/-- What a record describes is loadable, and its index is well-formed. -/
theorem loadable_of_toSnapshot {r : Record} {s : Snapshot} (h : r.toSnapshot = .ok s) :
    s.Loadable ∧ InfoIndex.WellFormed s.infoIndex := by
  obtain ⟨containerHosts, serverHosts, hcontainers, hservers, hinfos⟩ := toSnapshot_eq_ok_iff.1 h
  obtain ⟨infos, -, hloadable, rfl⟩ := enterInfos_eq_ok_iff.1 hinfos
  obtain ⟨hc, hs⟩ := Snapshot.foldl_addInfo_hosts infos ⟨containerHosts, serverHosts, .empty⟩
  refine ⟨⟨fun id hid => ?_, fun info hinfo => ?_⟩,
    Snapshot.wellFormed_foldl_addInfo InfoIndex.wellFormed_empty infos⟩
  · rw [hc, hs, List.mem_append] at hid
    rcases hid with hid | hid
    · exact (not_blank_of_enterHosts hcontainers).2 id hid
    · exact (not_blank_of_enterHosts hservers).2 id hid
  · obtain ⟨key, hlists⟩ := Snapshot.mem_distinctInfos_iff.1 hinfo
    rcases Snapshot.lists_foldl_addInfo.1 hlists with ⟨hmem, -⟩ | hnone
    · exact hloadable info hmem
    · exact (InfoIndex.not_lists_empty key info hnone).elim

/-- The record of loadable contents describes them. -/
theorem toSnapshot_ofSnapshot {s : Snapshot} (hindex : InfoIndex.WellFormed s.infoIndex)
    (h : s.Loadable) : (ofSnapshot s).toSnapshot = .ok s := by
  refine toSnapshot_eq_ok_iff.2 ⟨s.containerHosts, s.serverHosts,
    enterHosts_hostEntries fun id hid => h.1 id (List.mem_append_left _ hid),
    enterHosts_hostEntries fun id hid => h.1 id (List.mem_append_right _ hid), ?_⟩
  refine enterInfos_eq_ok_iff.2 ⟨s.distinctInfos.toList, rfl, h.2, ?_⟩
  exact (Snapshot.foldl_addInfo_distinctInfos hindex).symm

/-- Contents whose record describes anything are loadable. -/
theorem loadable_of_toSnapshot_ofSnapshot {s s' : Snapshot}
    (h : (ofSnapshot s).toSnapshot = .ok s') : s.Loadable := by
  obtain ⟨containerHosts, serverHosts, hcontainers, hservers, hinfos⟩ := toSnapshot_eq_ok_iff.1 h
  have hids : ∀ m : HostMap, (∀ entry ∈ hostEntries m, Text.isBlank entry.id = false) →
      ∀ id ∈ m.keys, Text.isBlank id = false := by
    intro m hm id hid
    obtain ⟨e, he, rfl⟩ := List.mem_map.1 hid
    exact hm _ (List.mem_map_of_mem he)
  refine ⟨fun id hid => ?_, fun info hinfo => ?_⟩
  · rcases List.mem_append.1 hid with hid | hid
    · exact hids _ (not_blank_of_enterHosts hcontainers).1 id hid
    · exact hids _ (not_blank_of_enterHosts hservers).1 id hid
  · obtain ⟨infos, hrows, hloadable, -⟩ := enterInfos_eq_ok_iff.1 hinfos
    have hrow : rowOf info ∈ infos.map rowOf := hrows ▸ List.mem_map_of_mem hinfo
    obtain ⟨info', hinfo', heq⟩ := List.mem_map.1 hrow
    have : info' = info := by
      simp only [rowOf, InfoRow.mk.injEq] at heq
      obtain ⟨id', alias', release'⟩ := info'
      obtain ⟨id, aliasName, release⟩ := info
      cases release
      cases release'
      simp_all
    exact this ▸ hloadable info' hinfo'

end Record

end HostRegistry
