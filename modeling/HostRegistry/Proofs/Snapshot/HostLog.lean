import HostRegistry.Proofs.Snapshot.Built
import Mathlib.Data.List.Dedup

/-!
# Host lists as a log of additions

Every addition of a host under an id is noted in one chronological log, and lives until it is taken
away. A removal ends the oldest live addition of its host under its id, a sweep ends all additions
of its host wherever they were made. The host lists are the live part of this log: an id is known
once anything was added under it, and it lists the hosts of its live additions in the order in which
they were made.
-/

namespace HostRegistry

open Record (Kind)

/-- The host lists of the containers or of the servers. -/
def Snapshot.hostMap (s : Snapshot) : Kind → HostMap
  | .container => s.containerHosts
  | .server => s.serverHosts

/-- One addition of a host under an id. -/
structure Addition where
  kind : Kind
  id : String
  host : String
deriving DecidableEq, Repr

structure LogEntry where
  addition : Addition
  live : Bool
deriving DecidableEq, Repr

/-- The additions in chronological order. -/
abbrev HostLog := List LogEntry

namespace HostLog

def add (log : HostLog) (a : Addition) : HostLog := log ++ [⟨a, true⟩]

/-- Ends the oldest live one of equal additions. -/
def remove : HostLog → Addition → HostLog
  | [], _ => []
  | e :: rest, a =>
    if e.live ∧ e.addition = a then ⟨a, false⟩ :: rest else e :: remove rest a

/-- Ends all additions of the host. -/
def sweep (log : HostLog) (host : String) : HostLog :=
  log.map fun e => if e.addition.host = host then { e with live := false } else e

/-- Something was added under the id, be it live or not. -/
def Knows (log : HostLog) (kind : Kind) (id : String) : Prop :=
  ∃ e ∈ log, e.addition.kind = kind ∧ e.addition.id = id

/-- The addition was made and not ended. -/
def HasLive (log : HostLog) (a : Addition) : Prop := ⟨a, true⟩ ∈ log

instance (log : HostLog) (kind : Kind) (id : String) : Decidable (log.Knows kind id) :=
  inferInstanceAs (Decidable (∃ e ∈ log, e.addition.kind = kind ∧ e.addition.id = id))

/-- The hosts of the live additions under the id, in chronological order. -/
def liveHosts (log : HostLog) (kind : Kind) (id : String) : List String :=
  (log.filter fun e => e.live ∧ e.addition.kind = kind ∧ e.addition.id = id).map (·.addition.host)

/-- What the log says of an id, `none` if it does not know it. -/
def hosts? (log : HostLog) (kind : Kind) (id : String) : Option (List String) :=
  if log.Knows kind id then some (log.liveHosts kind id) else none

end HostLog

/-- What happens to the log. -/
inductive HostEvent
  | added (a : Addition)
  | removed (a : Addition)
  | swept (host : String)
deriving DecidableEq, Repr

def HostLog.note : HostLog → HostEvent → HostLog
  | log, .added a => log.add a
  | log, .removed a => log.remove a
  | log, .swept host => log.sweep host

/-- What an operation does to the hosts. A deployment is one addition or removal under each distinct
key of its info and one under its server; a sweep ends the additions of the host it found. -/
def Operation.hostEvents (s : Snapshot) : Operation → List HostEvent
  | change (.addContainerHost id host) => [.added ⟨.container, id, host⟩]
  | change (.removeContainerHost id host) => [.removed ⟨.container, id, host⟩]
  | change (.addServerHost id host) => [.added ⟨.server, id, host⟩]
  | change (.removeServerHost id host) => [.removed ⟨.server, id, host⟩]
  | change (.register info server host) =>
    ([info.containerId, info.aliasName].dedup.map fun key => .added ⟨.container, key, host⟩) ++
      [.added ⟨.server, server, host⟩]
  | change (.unregister info server host) =>
    ([info.containerId, info.aliasName].dedup.map fun key => .removed ⟨.container, key, host⟩) ++
      [.removed ⟨.server, server, host⟩]
  | sweep url => (s.sweep url).1.toList.map .swept
  | change (.addInfo _) | change (.removeInfo _) | load _ => []

/-- The whole contents are replaced, and so are the additions that they come from. -/
def Operation.isLoad : Operation → Bool
  | load _ => true
  | _ => false

/-- Goes on with a log that describes the contents so far. -/
def HostLog.continued (s : Snapshot) (log : HostLog) : List Operation → HostLog
  | [] => log
  | op :: rest => continued (op.apply s) ((op.hostEvents s).foldl note log) rest

/-- The log of the operations that build contents from nothing. -/
def hostLog (ops : List Operation) : HostLog := HostLog.continued .empty [] ops

theorem ContainerInfo.keys_eq_dedup (info : ContainerInfo) :
    info.keys = [info.containerId, info.aliasName].dedup := by
  rw [keys]
  split
  next h => simp [h]
  next h => simp [List.dedup_cons_of_notMem, Ne.symm h]

/-! ## What an event does to the log -/

namespace HostLog

variable {log : HostLog} {kind : Kind} {id host : String} {a : Addition}

theorem liveHosts_cons (e : LogEntry) (rest : HostLog) :
    liveHosts (e :: rest) kind id =
      if e.live ∧ e.addition.kind = kind ∧ e.addition.id = id then
        e.addition.host :: liveHosts rest kind id
      else liveHosts rest kind id := by
  rw [liveHosts, List.filter_cons]
  simp only [decide_eq_true_eq]
  split <;> rfl

theorem knows_add : (log.add a).Knows kind id ↔
    log.Knows kind id ∨ a.kind = kind ∧ a.id = id := by
  simp only [Knows, add, List.mem_append, List.mem_singleton, or_and_right, exists_or,
    exists_eq_left]

theorem liveHosts_add_self (log : HostLog) (a : Addition) :
    (log.add a).liveHosts a.kind a.id = log.liveHosts a.kind a.id ++ [a.host] := by
  simp [liveHosts, add]

theorem liveHosts_add_of_ne (log : HostLog) (h : ¬(a.kind = kind ∧ a.id = id)) :
    (log.add a).liveHosts kind id = log.liveHosts kind id := by
  simp [liveHosts, add, h]

theorem knows_remove : (log.remove a).Knows kind id ↔ log.Knows kind id := by
  induction log with
  | nil => rfl
  | cons e rest ih =>
    rw [remove]
    split
    next h => simp only [Knows, List.exists_mem_cons_iff, h.2]
    next =>
      simp only [Knows, List.exists_mem_cons_iff] at ih ⊢
      rw [ih]

/-- The oldest live addition is the first of its hosts that is listed. -/
theorem liveHosts_remove_self (log : HostLog) (a : Addition) :
    (log.remove a).liveHosts a.kind a.id = (log.liveHosts a.kind a.id).erase a.host := by
  induction log with
  | nil => rfl
  | cons e rest ih =>
    rw [remove]
    split
    next h =>
      obtain ⟨hlive, rfl⟩ := h
      simp [liveHosts_cons, hlive]
    next h =>
      rw [liveHosts_cons, liveHosts_cons, ih]
      split
      next hunder =>
        have hhost : e.addition.host ≠ a.host := by
          intro heq
          obtain ⟨⟨kind, id, host⟩, live⟩ := e
          obtain ⟨hlive, rfl, rfl⟩ := hunder
          exact h ⟨hlive, by simp only at heq; rw [heq]⟩
        rw [List.erase_cons_tail (by simpa using hhost)]
      next => rfl

theorem liveHosts_remove_of_ne (log : HostLog) (h : ¬(a.kind = kind ∧ a.id = id)) :
    (log.remove a).liveHosts kind id = log.liveHosts kind id := by
  induction log with
  | nil => rfl
  | cons e rest ih =>
    rw [remove]
    split
    next hfound =>
      obtain ⟨-, rfl⟩ := hfound
      simp [liveHosts_cons, h]
    next => rw [liveHosts_cons, liveHosts_cons, ih]

theorem knows_sweep : (log.sweep host).Knows kind id ↔ log.Knows kind id := by
  have haddition : ∀ e : LogEntry,
      (if e.addition.host = host then { e with live := false } else e).addition = e.addition := by
    intro e
    split <;> rfl
  simp only [Knows, sweep, List.mem_map, exists_exists_and_eq_and, haddition]

theorem liveHosts_sweep (log : HostLog) :
    (log.sweep host).liveHosts kind id = (log.liveHosts kind id).filter (· ≠ host) := by
  induction log with
  | nil => rfl
  | cons e rest ih =>
    rw [sweep, List.map_cons, ← sweep, liveHosts_cons, liveHosts_cons, ih]
    by_cases hhost : e.addition.host = host
    · simp only [hhost, if_true, Bool.false_eq_true, false_and, if_false]
      split <;> simp
    · simp only [hhost, if_false]
      split <;> simp [hhost]

theorem mem_liveHosts_iff :
    host ∈ log.liveHosts kind id ↔ log.HasLive ⟨kind, id, host⟩ := by
  simp only [liveHosts, List.mem_map, List.mem_filter, decide_eq_true_eq, HasLive]
  constructor
  · rintro ⟨⟨a, live⟩, ⟨hmem, rfl, rfl, rfl⟩, rfl⟩
    exact hmem
  · intro hmem
    exact ⟨_, ⟨hmem, rfl, rfl, rfl⟩, rfl⟩

theorem liveHosts_of_not_knows (h : ¬log.Knows kind id) : log.liveHosts kind id = [] := by
  refine List.eq_nil_iff_forall_not_mem.2 fun host hhost => h ?_
  exact ⟨_, mem_liveHosts_iff.1 hhost, rfl, rfl⟩

/-! ## One id after the other -/

theorem hosts?_add_self (log : HostLog) (a : Addition) :
    (log.add a).hosts? a.kind a.id = some ((log.hosts? a.kind a.id).getD [] ++ [a.host]) := by
  rw [hosts?, hosts?, if_pos (knows_add.2 (.inr ⟨rfl, rfl⟩)), liveHosts_add_self]
  split
  next => rfl
  next hnot => rw [liveHosts_of_not_knows hnot]; rfl

theorem hosts?_add_of_ne (log : HostLog) (h : ¬(a.kind = kind ∧ a.id = id)) :
    (log.add a).hosts? kind id = log.hosts? kind id := by
  simp only [hosts?, knows_add, liveHosts_add_of_ne log h, h, or_false]

theorem hosts?_remove_self (log : HostLog) (a : Addition) :
    (log.remove a).hosts? a.kind a.id = (log.hosts? a.kind a.id).map (·.erase a.host) := by
  simp only [hosts?, knows_remove, liveHosts_remove_self]
  split <;> rfl

theorem hosts?_remove_of_ne (log : HostLog) (h : ¬(a.kind = kind ∧ a.id = id)) :
    (log.remove a).hosts? kind id = log.hosts? kind id := by
  simp only [hosts?, knows_remove, liveHosts_remove_of_ne log h]

theorem hosts?_sweep (log : HostLog) (host : String) (kind : Kind) (id : String) :
    (log.sweep host).hosts? kind id = (log.hosts? kind id).map (·.filter (· ≠ host)) := by
  simp only [hosts?, knows_sweep, liveHosts_sweep]
  split <;> rfl

/-! ## One map -/

/-- The map holds what the log says of each id. -/
def Describes (log : HostLog) (kind : Kind) (m : HostMap) : Prop :=
  ∀ id, m.get? id = log.hosts? kind id

theorem describes_empty (kind : Kind) : Describes [] kind .empty := fun id => by
  simp [hosts?, Knows]

variable {m : HostMap}

theorem Describes.mem_keys_iff (h : log.Describes kind m) : id ∈ m.keys ↔ log.Knows kind id := by
  rw [SortedMap.mem_keys_iff, h id, hosts?]
  split <;> simp [*]

theorem Describes.hosts (h : log.Describes kind m) (id : String) :
    m.hosts id = log.liveHosts kind id := by
  rw [HostMap.hosts, h id, hosts?]
  split
  next => rfl
  next hnot => exact (liveHosts_of_not_knows hnot).symm

theorem Describes.lists_iff (h : log.Describes kind m) :
    m.lists id host = true ↔ log.HasLive ⟨kind, id, host⟩ := by
  rw [HostMap.lists, List.contains_iff_mem, h.hosts, mem_liveHosts_iff]

theorem Describes.add (h : log.Describes kind m) (id host : String) :
    (log.add ⟨kind, id, host⟩).Describes kind (m.add id host) := by
  intro id'
  by_cases hid : id' = id
  · subst hid
    rw [HostMap.add, SortedMap.get?_alter_self, h id']
    exact (hosts?_add_self log ⟨kind, id', host⟩).symm
  · rw [HostMap.add, SortedMap.get?_alter_of_ne m _ hid, h id']
    exact (hosts?_add_of_ne log fun heq => hid heq.2.symm).symm

theorem Describes.remove (h : log.Describes kind m) (id host : String) :
    (log.remove ⟨kind, id, host⟩).Describes kind (m.remove id host) := by
  intro id'
  by_cases hid : id' = id
  · subst hid
    rw [HostMap.remove, SortedMap.get?_alter_self, h id']
    exact (hosts?_remove_self log ⟨kind, id', host⟩).symm
  · rw [HostMap.remove, SortedMap.get?_alter_of_ne m _ hid, h id']
    exact (hosts?_remove_of_ne log fun heq => hid heq.2.symm).symm

theorem Describes.sweep (h : log.Describes kind m) (host : String) :
    (log.sweep host).Describes kind (m.purge host) := by
  intro id
  rw [HostMap.purge, SortedMap.get?_mapValues, h id, hosts?_sweep]

theorem Describes.add_of_ne (h : log.Describes kind m) (hkind : a.kind ≠ kind) :
    (log.add a).Describes kind m := fun id => by
  rw [h id, hosts?_add_of_ne log fun heq => hkind heq.1]

theorem Describes.remove_of_ne (h : log.Describes kind m) (hkind : a.kind ≠ kind) :
    (log.remove a).Describes kind m := fun id => by
  rw [h id, hosts?_remove_of_ne log fun heq => hkind heq.1]

/-! ## Both maps -/

/-- The log describes the host lists of the containers and those of the servers. -/
structure Matches (log : HostLog) (containerHosts serverHosts : HostMap) : Prop where
  containers : log.Describes .container containerHosts
  servers : log.Describes .server serverHosts

variable {containerHosts serverHosts : HostMap}

theorem Matches.addContainer (h : log.Matches containerHosts serverHosts) (id host : String) :
    (log.add ⟨.container, id, host⟩).Matches (containerHosts.add id host) serverHosts :=
  ⟨h.containers.add id host, h.servers.add_of_ne nofun⟩

theorem Matches.removeContainer (h : log.Matches containerHosts serverHosts) (id host : String) :
    (log.remove ⟨.container, id, host⟩).Matches (containerHosts.remove id host) serverHosts :=
  ⟨h.containers.remove id host, h.servers.remove_of_ne nofun⟩

theorem Matches.addServer (h : log.Matches containerHosts serverHosts) (id host : String) :
    (log.add ⟨.server, id, host⟩).Matches containerHosts (serverHosts.add id host) :=
  ⟨h.containers.add_of_ne nofun, h.servers.add id host⟩

theorem Matches.removeServer (h : log.Matches containerHosts serverHosts) (id host : String) :
    (log.remove ⟨.server, id, host⟩).Matches containerHosts (serverHosts.remove id host) :=
  ⟨h.containers.remove_of_ne nofun, h.servers.remove id host⟩

theorem Matches.addContainers (h : log.Matches containerHosts serverHosts) (ids : List String)
    (host : String) :
    ((ids.map fun id => HostEvent.added ⟨.container, id, host⟩).foldl note log).Matches
      (ids.foldl (·.add · host) containerHosts) serverHosts := by
  induction ids generalizing log containerHosts with
  | nil => exact h
  | cons id rest ih => exact ih (h.addContainer id host)

theorem Matches.removeContainers (h : log.Matches containerHosts serverHosts) (ids : List String)
    (host : String) :
    ((ids.map fun id => HostEvent.removed ⟨.container, id, host⟩).foldl note log).Matches
      (ids.foldl (·.remove · host) containerHosts) serverHosts := by
  induction ids generalizing log containerHosts with
  | nil => exact h
  | cons id rest ih => exact ih (h.removeContainer id host)

/-- Each operation but a load does to the host lists what its events do to the log. -/
theorem matches_apply {s : Snapshot} (h : log.Matches s.containerHosts s.serverHosts)
    {op : Operation} (hop : op.isLoad = false) :
    ((op.hostEvents s).foldl note log).Matches (op.apply s).containerHosts
      (op.apply s).serverHosts := by
  cases op with
  | change c =>
    cases c with
    | addContainerHost id host => exact h.addContainer id host
    | removeContainerHost id host => exact h.removeContainer id host
    | addServerHost id host => exact h.addServer id host
    | removeServerHost id host => exact h.removeServer id host
    | addInfo info | removeInfo info => exact h
    | register info server host =>
      rw [Operation.hostEvents, List.foldl_append, ← info.keys_eq_dedup]
      exact (h.addContainers info.keys host).addServer server host
    | unregister info server host =>
      rw [Operation.hostEvents, List.foldl_append, ← info.keys_eq_dedup]
      exact (h.removeContainers info.keys host).removeServer server host
  | sweep url =>
    rw [Operation.hostEvents, Operation.apply, Snapshot.sweep]
    cases s.hostOf? url with
    | none => exact h
    | some host => exact ⟨h.containers.sweep host, h.servers.sweep host⟩
  | load r => cases hop

theorem matches_after {s : Snapshot} (h : log.Matches s.containerHosts s.serverHosts)
    {ops : List Operation} (hops : ∀ op ∈ ops, op.isLoad = false) :
    (log.continued s ops).Matches (s.after ops).containerHosts (s.after ops).serverHosts := by
  -- Log and contents go on side by side, for which host a sweep finds is up to the contents.
  induction ops generalizing s log with
  | nil => exact h
  | cons op rest ih =>
    obtain ⟨hop, hrest⟩ := List.forall_mem_cons.1 hops
    exact ih (matches_apply h hop) hrest

end HostLog

namespace Snapshot

theorem hostLog_describes {ops : List Operation} (hops : ∀ op ∈ ops, op.isLoad = false)
    (kind : Kind) : (hostLog ops).Describes kind ((built ops).hostMap kind) := by
  have hempty : HostLog.Matches [] empty.containerHosts empty.serverHosts :=
    ⟨HostLog.describes_empty .container, HostLog.describes_empty .server⟩
  have hmatches := HostLog.matches_after hempty hops
  cases kind with
  | container => exact hmatches.containers
  | server => exact hmatches.servers

/-- For all operations but loads: an id is known to the containers or the servers when an addition
under it was ever made there, it lists the hosts of its live additions in chronological order, and
a removal tells whether there is a live addition for it to end. -/
theorem hosts_refine_log {ops : List Operation} (hops : ∀ op ∈ ops, op.isLoad = false) :
    (∀ kind id, (id ∈ ((built ops).hostMap kind).keys ↔ (hostLog ops).Knows kind id) ∧
      ((built ops).hostMap kind).hosts id = (hostLog ops).liveHosts kind id) ∧
    ∀ id host,
      ((Change.removeContainerHost id host).finds (built ops) = true ↔
        (hostLog ops).HasLive ⟨.container, id, host⟩) ∧
      ((Change.removeServerHost id host).finds (built ops) = true ↔
        (hostLog ops).HasLive ⟨.server, id, host⟩) := by
  have hdescribes := hostLog_describes hops
  refine ⟨fun kind id => ⟨(hdescribes kind).mem_keys_iff, (hdescribes kind).hosts id⟩,
    fun id host => ⟨?_, ?_⟩⟩
  · exact (hdescribes .container).lists_iff
  · exact (hdescribes .server).lists_iff

/-- Two containers under one alias; a host comes twice, goes once and is swept at last. -/
def crossedDeployments : List Operation :=
  [.change (.register ⟨"c1", "a", ⟨"g", "a", "v1"⟩⟩ "s" "http://1"),
    .change (.register ⟨"c2", "a", ⟨"g", "a", "v2"⟩⟩ "s" "http://2"),
    .change (.addContainerHost "a" "http://1"),
    .change (.unregister ⟨"c1", "a", ⟨"g", "a", "v1"⟩⟩ "s" "http://1"),
    .sweep "http://2/containers"]

theorem hosts_refine_log_crossedDeployments :
    (∀ op ∈ crossedDeployments, op.isLoad = false) ∧
      ((built crossedDeployments).hostMap .container).hosts "a" = ["http://1"] := by
  have hops : ∀ op ∈ crossedDeployments, op.isLoad = false := by decide
  refine ⟨hops, ?_⟩
  rw [((hosts_refine_log hops).1 .container "a").2]
  decide

end Snapshot

end HostRegistry
