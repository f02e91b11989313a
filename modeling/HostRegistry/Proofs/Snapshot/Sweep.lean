import HostRegistry.Proofs.Snapshot.Entries
import HostRegistry.Proofs.Snapshot.HostLog
import Mathlib.Data.Finset.Card
import Mathlib.Logic.Function.Iterate

/-!
# Sweeping for a url

A sweep takes out one host, the first listed one that the url lies under, wherever it is listed, and
leaves everything else as it is. Hosts may lie under each other, so the same url may find another
host the next time; each sweep takes one host out of the set of those that it lies under, and once
this set is empty the sweeps find nothing any more.
-/

namespace HostRegistry

open Record (Kind)

/-- The url begins with the host, and the host is not empty. -/
def LiesUnder (url host : String) : Prop := host ≠ "" ∧ host.toList <+: url.toList

instance (url host : String) : Decidable (LiesUnder url host) := by
  unfold LiesUnder
  infer_instance

namespace HostMap

variable {m : HostMap} {id host : String}

theorem hosts_of_mem_entries {hosts : List String} (h : (id, hosts) ∈ m.entries) :
    m.hosts id = hosts := by
  rw [HostMap.hosts, SortedMap.mem_entries_iff.1 h]
  rfl

theorem allHosts_eq_flatMap (m : HostMap) : m.allHosts = m.keys.flatMap m.hosts := by
  have hvalues : m.values = m.keys.map m.hosts := by
    rw [SortedMap.values, SortedMap.keys, List.map_map]
    apply List.map_congr_left
    intro e he
    exact (hosts_of_mem_entries he).symm
  rw [allHosts, hvalues, List.flatMap]

theorem mem_keys_of_mem_hosts (h : host ∈ m.hosts id) : id ∈ m.keys := by
  rw [HostMap.hosts] at h
  cases hget : m.get? id with
  | none =>
    rw [hget] at h
    exact (List.not_mem_nil h).elim
  | some hosts => exact SortedMap.mem_keys_iff.2 ⟨hosts, hget⟩

end HostMap

namespace Snapshot

variable {s s' s'' : Snapshot} {url host : String}

/-! ## What is looked through -/

/-- All listed hosts in the order in which a sweep looks at them: those of the containers before
those of the servers, by ascending id, and under each id in the order of its list. -/
def scan (s : Snapshot) : List String :=
  [Kind.container, .server].flatMap fun kind =>
    (s.hostMap kind).keys.flatMap (s.hostMap kind).hosts

theorem allHosts_eq_scan (s : Snapshot) : s.allHosts = s.scan := by
  simp [allHosts, scan, hostMap, HostMap.allHosts_eq_flatMap]

theorem mem_scan_iff : host ∈ s.scan ↔ ∃ kind id, host ∈ (s.hostMap kind).hosts id := by
  simp only [scan, List.mem_flatMap]
  constructor
  · rintro ⟨kind, -, id, -, hhost⟩
    exact ⟨kind, id, hhost⟩
  · rintro ⟨kind, id, hhost⟩
    have hkind : kind ∈ [Kind.container, .server] := by cases kind <;> decide
    exact ⟨kind, hkind, id, HostMap.mem_keys_of_mem_hosts hhost, hhost⟩

/-- The host is the first one in the order of a sweep that the url lies under. -/
def IsFirstUnder (s : Snapshot) (url host : String) : Prop :=
  ∃ before rest, s.scan = before ++ host :: rest ∧ LiesUnder url host ∧
    ∀ other ∈ before, ¬LiesUnder url other

theorem liesUnder_iff : LiesUnder url host ↔
    (host ≠ "" && host.toList.isPrefixOf url.toList) = true := by
  simp [LiesUnder]

theorem hostOf?_eq_none_iff : s.hostOf? url = none ↔ ∀ host ∈ s.scan, ¬LiesUnder url host := by
  rw [hostOf?, allHosts_eq_scan, List.find?_eq_none]
  simp only [liesUnder_iff]

theorem hostOf?_eq_some_iff : s.hostOf? url = some host ↔ s.IsFirstUnder url host := by
  rw [hostOf?, allHosts_eq_scan, List.find?_eq_some_iff_append]
  simp only [IsFirstUnder, liesUnder_iff, Bool.not_eq_true', Bool.not_eq_true]
  constructor
  · rintro ⟨hunder, before, rest, hscan, hbefore⟩
    exact ⟨before, rest, hscan, hunder, hbefore⟩
  · rintro ⟨before, rest, hscan, hunder, hbefore⟩
    exact ⟨hunder, before, rest, hscan, hbefore⟩

theorem IsFirstUnder.mem_scan (h : s.IsFirstUnder url host) : host ∈ s.scan := by
  obtain ⟨before, rest, hscan, -⟩ := h
  rw [hscan]
  simp

/-! ## One sweep -/

theorem sweep_eq_none_iff :
    s.sweep url = (none, s) ↔ ∀ host ∈ s.scan, ¬LiesUnder url host := by
  rw [← hostOf?_eq_none_iff, sweep]
  cases s.hostOf? url with
  | none => simp
  | some host => simp

theorem sweep_fst (s : Snapshot) (url : String) : (s.sweep url).1 = s.hostOf? url := by
  rw [sweep]
  cases s.hostOf? url <;> rfl

/-- What a sweep leaves when it takes out the host. -/
structure Without (s s' : Snapshot) (host : String) : Prop where
  infoIndex : s'.infoIndex = s.infoIndex
  keys : ∀ kind, (s'.hostMap kind).keys = (s.hostMap kind).keys
  hosts : ∀ kind id, (s'.hostMap kind).hosts id = ((s.hostMap kind).hosts id).filter (· ≠ host)

theorem without_sweep (h : (s.sweep url).1 = some host) : s.Without (s.sweep url).2 host := by
  rw [sweep_fst] at h
  rw [sweep, h]
  refine ⟨rfl, ?_, ?_⟩
  · intro kind
    cases kind <;> exact SortedMap.keys_mapValues _ _
  · intro kind id
    cases kind <;> exact HostMap.hosts_purge _ host id

theorem Without.mem_scan_iff (h : s.Without s' host) {other : String} :
    other ∈ s'.scan ↔ other ≠ host ∧ other ∈ s.scan := by
  simp only [Snapshot.mem_scan_iff, h.hosts, List.mem_filter, decide_eq_true_eq]
  constructor
  · rintro ⟨kind, id, hother, hne⟩
    exact ⟨hne, kind, id, hother⟩
  · rintro ⟨hne, kind, id, hother⟩
    exact ⟨kind, id, hother, hne⟩

/-! ## Sweeping again and again -/

/-- The contents after a number of sweeps for the same url. -/
def swept (s : Snapshot) (url : String) (times : Nat) : Snapshot :=
  (fun s => (s.sweep url).2)^[times] s

/-- The distinct hosts that the url lies under. -/
def hostsOver (s : Snapshot) (url : String) : Finset String :=
  s.scan.toFinset.filter (LiesUnder url)

theorem mem_hostsOver_iff : host ∈ s.hostsOver url ↔ host ∈ s.scan ∧ LiesUnder url host := by
  rw [hostsOver, Finset.mem_filter, List.mem_toFinset]

theorem hostsOver_eq_empty_iff :
    s.hostsOver url = ∅ ↔ ∀ host ∈ s.scan, ¬LiesUnder url host := by
  simp only [Finset.eq_empty_iff_forall_notMem, mem_hostsOver_iff, not_and]

/-- A sweep finds a host as long as there is one that the url lies under. -/
theorem sweep_isSome_iff : (s.sweep url).1.isSome = true ↔ 0 < (s.hostsOver url).card := by
  rw [Finset.card_pos, Finset.nonempty_iff_ne_empty, Ne, hostsOver_eq_empty_iff,
    ← hostOf?_eq_none_iff, sweep_fst, Option.isSome_iff_ne_none]

/-- The host that is found is one that the url lies under, and it is gone. -/
theorem card_hostsOver_sweep (s : Snapshot) (url : String) :
    ((s.sweep url).2.hostsOver url).card = (s.hostsOver url).card - 1 := by
  cases hfound : (s.sweep url).1 with
  | none =>
    have hnone : s.hostOf? url = none := by rw [← sweep_fst, hfound]
    have hempty : s.hostsOver url = ∅ :=
      hostsOver_eq_empty_iff.2 (hostOf?_eq_none_iff.1 hnone)
    rw [sweep, hnone, hempty]
    rfl
  | some host =>
    have hfirst : s.IsFirstUnder url host := by
      rw [← hostOf?_eq_some_iff, ← sweep_fst, hfound]
    have hmem : host ∈ s.hostsOver url := by
      obtain ⟨before, rest, -, hunder, -⟩ := id hfirst
      exact mem_hostsOver_iff.2 ⟨hfirst.mem_scan, hunder⟩
    have herase : (s.sweep url).2.hostsOver url = (s.hostsOver url).erase host := by
      ext other
      rw [Finset.mem_erase, mem_hostsOver_iff, mem_hostsOver_iff,
        (without_sweep hfound).mem_scan_iff, and_assoc]
    rw [herase, Finset.card_erase_of_mem hmem]

theorem card_hostsOver_swept (s : Snapshot) (url : String) (times : Nat) :
    ((s.swept url times).hostsOver url).card = (s.hostsOver url).card - times := by
  induction times generalizing s with
  | zero => rfl
  | succ times ih =>
    rw [swept, Function.iterate_succ_apply, ← swept, ih, card_hostsOver_sweep]
    omega

/-! ## What sweeps for a url leave alone -/

/-- The second contents have the infos, the ids and, in their order, the entries of the first ones
that the url does not lie under. -/
structure Spares (url : String) (s s' : Snapshot) : Prop where
  infoIndex : s'.infoIndex = s.infoIndex
  keys : ∀ kind, (s'.hostMap kind).keys = (s.hostMap kind).keys
  others : ∀ kind id, ((s'.hostMap kind).hosts id).filter (¬LiesUnder url ·) =
    ((s.hostMap kind).hosts id).filter (¬LiesUnder url ·)

theorem Spares.refl (url : String) (s : Snapshot) : Spares url s s :=
  ⟨rfl, fun _ => rfl, fun _ _ => rfl⟩

theorem Spares.trans (h : Spares url s s') (h' : Spares url s' s'') : Spares url s s'' where
  infoIndex := h'.infoIndex.trans h.infoIndex
  keys kind := (h'.keys kind).trans (h.keys kind)
  others kind id := (h'.others kind id).trans (h.others kind id)

theorem spares_sweep (s : Snapshot) (url : String) : Spares url s (s.sweep url).2 := by
  cases hfound : (s.sweep url).1 with
  | none =>
    have hnone : s.hostOf? url = none := by rw [← sweep_fst, hfound]
    rw [sweep, hnone]
    exact Spares.refl url s
  | some host =>
    have hwithout := without_sweep hfound
    obtain ⟨before, rest, -, hunder, -⟩ : s.IsFirstUnder url host := by
      rw [← hostOf?_eq_some_iff, ← sweep_fst, hfound]
    refine ⟨hwithout.infoIndex, hwithout.keys, ?_⟩
    intro kind id
    rw [hwithout.hosts, List.filter_filter]
    apply List.filter_congr
    intro other _
    -- An entry that the url does not lie under is not the host that went.
    by_cases hother : other = host
    · simp [hother, hunder]
    · simp [hother]

theorem spares_swept (s : Snapshot) (url : String) (times : Nat) :
    Spares url s (s.swept url times) := by
  induction times generalizing s with
  | zero => exact Spares.refl url s
  | succ times ih =>
    rw [swept, Function.iterate_succ_apply, ← swept]
    exact (spares_sweep s url).trans (ih _)

/-- A sweep finds nothing and changes nothing exactly when the url lies under no listed host.
Otherwise it finds the first host that the url lies under and takes out this host everywhere and
nothing else. Repeated for the same url, it finds a host as often as there are distinct hosts that
the url lies under, and what is left then are the entries that it does not lie under. -/
theorem sweeps_take_hosts_in_turn (s : Snapshot) (url : String) :
    (∀ kind, (s.hostMap kind).keys.Pairwise fun a b => compare a b = .lt) ∧
    (s.sweep url = (none, s) ↔ ∀ host ∈ s.scan, ¬LiesUnder url host) ∧
    (∀ host, (s.sweep url).1 = some host ↔ s.IsFirstUnder url host) ∧
    (∀ host, (s.sweep url).1 = some host → s.Without (s.sweep url).2 host) ∧
    (∀ times, ((s.swept url times).sweep url).1.isSome = true ↔
      times < (s.hostsOver url).card) ∧
    (s.swept url (s.hostsOver url).card).infoIndex = s.infoIndex ∧
    ∀ kind,
      ((s.swept url (s.hostsOver url).card).hostMap kind).keys = (s.hostMap kind).keys ∧
      ∀ id, ((s.swept url (s.hostsOver url).card).hostMap kind).hosts id =
        ((s.hostMap kind).hosts id).filter (¬LiesUnder url ·) := by
  have hleft := spares_swept s url (s.hostsOver url).card
  have hnone : (s.swept url (s.hostsOver url).card).hostsOver url = ∅ := by
    apply Finset.card_eq_zero.1
    rw [card_hostsOver_swept]
    omega
  rw [hostsOver_eq_empty_iff] at hnone
  refine ⟨?_, sweep_eq_none_iff, ?_, ?_, ?_, hleft.infoIndex, ?_⟩
  · intro kind
    exact List.pairwise_map.2 (s.hostMap kind).ascending
  · intro host
    rw [sweep_fst]
    exact hostOf?_eq_some_iff
  · intro host hfound
    exact without_sweep hfound
  · intro times
    rw [sweep_isSome_iff, card_hostsOver_swept]
    omega
  · intro kind
    refine ⟨hleft.keys kind, ?_⟩
    intro id
    rw [← hleft.others kind id, List.filter_eq_self.2]
    intro host hhost
    exact decide_eq_true (hnone host (mem_scan_iff.2 ⟨kind, id, hhost⟩))

/-- A host that lies under another one and is listed twice, and an empty one. -/
def nested : Snapshot :=
  built [.change (.addContainerHost "c" ""), .change (.addContainerHost "c" "http://h:80/s"),
    .change (.addContainerHost "b" "http://h"), .change (.addServerHost "s" "http://h:80/s")]

theorem sweeps_take_nested_hosts :
    (nested.sweep "http://h:80/s/x").1 = some "http://h" ∧
      nested.Without (nested.sweep "http://h:80/s/x").2 "http://h" ∧
      ((nested.swept "http://h:80/s/x" 1).sweep "http://h:80/s/x").1.isSome = true := by
  obtain ⟨-, -, hfirst, hwithout, htimes, -⟩ :=
    sweeps_take_hosts_in_turn nested "http://h:80/s/x"
  have hfound : (nested.sweep "http://h:80/s/x").1 = some "http://h" :=
    (hfirst "http://h").2 ⟨[], ["", "http://h:80/s", "http://h:80/s"], by decide⟩
  exact ⟨hfound, hwithout "http://h" hfound, (htimes 1).2 (by decide)⟩

end Snapshot

end HostRegistry
