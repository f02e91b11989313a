import HostRegistry.Proofs.Json.Layout

/-!
# What lays a record out

A text lays a record out with blanks wherever they may stand, with the members of each object in any
order and among members that nobody knows, with its texts spelled in any way, and with or without
the members that are empty. However that is done, the record is read; and the bytes that store a
record are one way to do it.
-/

namespace HostRegistry

open Json

/-! ## Layouts -/

def HostEntry.slots (e : HostEntry) : List Slot :=
  [⟨"id", Spells e.id, False⟩, ⟨"hosts", ListLaidOut Spells e.hosts, e.hosts = []⟩]

def HostEntry.LaidOut (e : HostEntry) : Bytes → Prop := ObjectLaidOut e.slots

def InfoRow.slots (r : InfoRow) : List Slot :=
  [⟨"containerId", Spells r.containerId, False⟩, ⟨"alias", Spells r.aliasName, False⟩,
    ⟨"groupId", Spells r.group, False⟩, ⟨"artifactId", Spells r.artifact, False⟩,
    ⟨"version", Spells r.version, False⟩]

def InfoRow.LaidOut (r : InfoRow) : Bytes → Prop := ObjectLaidOut r.slots

namespace Record

def slots (r : Record) : List Slot :=
  [⟨"containers", ListLaidOut HostEntry.LaidOut r.containers, r.containers = []⟩,
    ⟨"servers", ListLaidOut HostEntry.LaidOut r.servers, r.servers = []⟩,
    ⟨"containerInfo", ListLaidOut InfoRow.LaidOut r.infos, r.infos = []⟩]

def LaidOut (r : Record) : Bytes → Prop := ObjectLaidOut r.slots

end Record

/-- The text is what satisfies the predicate, between blanks. -/
def Json.Document (P : Bytes → Prop) (text : Bytes) : Prop :=
  ∃ blanks bytes blanks', Blanks blanks ∧ P bytes ∧ Blanks blanks' ∧
    text = blanks ++ (bytes ++ blanks')

/-! ## What is read from a layout -/

/-- A list that may be left out when it is empty. -/
theorem getD_of_complete {α : Type} {values : List α} {name : String} {names : List String}
    (h : values = [] ∨ name ∈ names) :
    (if name ∈ names then some values else none).getD [] = values := by
  split
  · rfl
  next hmissing => exact (h.resolve_right hmissing).symm

namespace HostEntry

/-- What of the entry is given with members of these names. -/
def part (e : HostEntry) (names : List String) : Given where
  id := if "id" ∈ names then some e.id else none
  hosts := if "hosts" ∈ names then some e.hosts else none

theorem gathers (e : HostEntry) : struct.Gathers e.slots e.part e where
  start := rfl
  fills := by
    have hid : ∀ bytes, Spells e.id bytes → Reads readText bytes e.id := fun _ => Spells.reads
    have hhosts : ∀ bytes, ListLaidOut Spells e.hosts bytes →
        Reads (readList readText) bytes e.hosts :=
      fun _ => ListLaidOut.reads fun _ _ => Spells.reads
    intro field hfield
    simp only [struct, List.mem_cons, List.not_mem_nil, or_false] at hfield
    rcases hfield with rfl | rfl
    · refine ⟨_, .head _, Field.fills_setting hid ?_ ?_⟩ <;> simp [part]
    · refine ⟨_, .tail _ (.head _), Field.fills_setting hhosts ?_ ?_⟩ <;> simp [part]
  others := by
    intro name given hunknown
    simp only [struct, List.find?_eq_none, List.forall_mem_cons, decide_eq_true_eq] at hunknown
    simp [part, hunknown]
  finish := by
    intro given hgiven
    simp only [slots, List.forall_mem_cons, false_or] at hgiven
    obtain ⟨hid, hhosts, -⟩ := hgiven
    simp only [struct, part, if_pos hid, getD_of_complete hhosts]
    rfl

theorem LaidOut.reads {e : HostEntry} {bytes : Bytes} (h : e.LaidOut bytes) :
    Reads struct.read bytes e :=
  e.gathers.reads h

end HostEntry

namespace InfoRow

/-- What of the row is given with members of these names. -/
def part (r : InfoRow) (names : List String) : Given where
  containerId := if "containerId" ∈ names then some r.containerId else none
  aliasName := if "alias" ∈ names then some r.aliasName else none
  group := if "groupId" ∈ names then some r.group else none
  artifact := if "artifactId" ∈ names then some r.artifact else none
  version := if "version" ∈ names then some r.version else none

theorem gathers (r : InfoRow) : struct.Gathers r.slots r.part r where
  start := rfl
  fills := by
    have htext : ∀ s bytes, Spells s bytes → Reads readText bytes s := fun _ _ => Spells.reads
    intro field hfield
    simp only [struct, List.mem_cons, List.not_mem_nil, or_false] at hfield
    rcases hfield with rfl | rfl | rfl | rfl | rfl
    · refine ⟨_, .head _, Field.fills_setting (htext _) ?_ ?_⟩ <;> simp [part]
    · refine ⟨_, .tail _ (.head _), Field.fills_setting (htext _) ?_ ?_⟩ <;> simp [part]
    · refine ⟨_, .tail _ (.tail _ (.head _)), Field.fills_setting (htext _) ?_ ?_⟩ <;> simp [part]
    · refine ⟨_, .tail _ (.tail _ (.tail _ (.head _))), Field.fills_setting (htext _) ?_ ?_⟩ <;>
        simp [part]
    · refine ⟨_, .tail _ (.tail _ (.tail _ (.tail _ (.head _)))),
        Field.fills_setting (htext _) ?_ ?_⟩ <;> simp [part]
  others := by
    intro name given hunknown
    simp only [struct, List.find?_eq_none, List.forall_mem_cons, decide_eq_true_eq] at hunknown
    simp [part, hunknown]
  finish := by
    intro given hgiven
    simp only [slots, List.forall_mem_cons, false_or] at hgiven
    obtain ⟨hcontainer, halias, hgroup, hartifact, hversion, -⟩ := hgiven
    simp only [struct, part, if_pos hcontainer, if_pos halias, if_pos hgroup, if_pos hartifact,
      if_pos hversion]
    rfl

theorem LaidOut.reads {r : InfoRow} {bytes : Bytes} (h : r.LaidOut bytes) :
    Reads struct.read bytes r :=
  r.gathers.reads h

end InfoRow

namespace Record

/-- What of the record is given with members of these names. -/
def part (r : Record) (names : List String) : Given where
  containers := if "containers" ∈ names then some r.containers else none
  servers := if "servers" ∈ names then some r.servers else none
  infos := if "containerInfo" ∈ names then some r.infos else none

theorem gathers (r : Record) : struct.Gathers r.slots r.part r where
  start := rfl
  fills := by
    have hentries : ∀ entries bytes, ListLaidOut HostEntry.LaidOut entries bytes →
        Reads (readList HostEntry.struct.read) bytes entries :=
      fun _ _ => ListLaidOut.reads fun _ _ => HostEntry.LaidOut.reads
    have hinfos : ∀ bytes, ListLaidOut InfoRow.LaidOut r.infos bytes →
        Reads (readList InfoRow.struct.read) bytes r.infos :=
      fun _ => ListLaidOut.reads fun _ _ => InfoRow.LaidOut.reads
    intro field hfield
    simp only [struct, List.mem_cons, List.not_mem_nil, or_false] at hfield
    rcases hfield with rfl | rfl | rfl
    · refine ⟨_, .head _, Field.fills_setting (hentries _) ?_ ?_⟩ <;> simp [part]
    · refine ⟨_, .tail _ (.head _), Field.fills_setting (hentries _) ?_ ?_⟩ <;> simp [part]
    · refine ⟨_, .tail _ (.tail _ (.head _)), Field.fills_setting hinfos ?_ ?_⟩ <;> simp [part]
  others := by
    intro name given hunknown
    simp only [struct, List.find?_eq_none, List.forall_mem_cons, decide_eq_true_eq] at hunknown
    simp [part, hunknown]
  finish := by
    intro given hgiven
    simp only [slots, List.forall_mem_cons] at hgiven
    obtain ⟨hcontainers, hservers, hinfos, -⟩ := hgiven
    simp only [struct, part, getD_of_complete hcontainers, getD_of_complete hservers,
      getD_of_complete hinfos]

theorem LaidOut.reads {r : Record} {bytes : Bytes} (h : r.LaidOut bytes) :
    Reads struct.read bytes r :=
  r.gathers.reads h

theorem ofBytes_of_laidOut {r : Record} {bytes : Bytes} (h : Document r.LaidOut bytes) :
    ofBytes bytes = .ok r := by
  obtain ⟨blanks, object, blanks', hblanks, hlaidOut, hblanks', rfl⟩ := h
  have hend : skipBlanks blanks' = [] := by
    rw [← List.append_nil blanks', skipBlanks_append hblanks']
    rfl
  rw [ofBytes, readWhole, hlaidOut.reads.read blanks blanks' hblanks]
  simp only [bind, Except.bind, hend]
  rfl

end Record

/-! ## The stored form -/

theorem HostEntry.laidOut_toJson (level : Nat) (e : HostEntry) :
    e.LaidOut (pretty level e.toJson) := by
  have hhosts : ListLaidOut Spells e.hosts (pretty (level + 1) (texts e.hosts)) :=
    listLaidOut_pretty fun host _ => spells_quoted host
  have hid : Spells e.id (pretty (level + 1) (.text e.id)) := spells_quoted e.id
  apply objectLaidOut_pretty
  · simp only [List.forall_mem_cons, List.not_mem_nil, false_implies, implies_true, and_true]
    exact ⟨.text hid.isText, hhosts.isValue fun _ _ h => .text h.isText⟩
  · simpa [slots] using ⟨hid, hhosts⟩
  · simp
  · simp [slots]

theorem InfoRow.laidOut_toJson (level : Nat) (r : InfoRow) :
    r.LaidOut (pretty level r.toJson) := by
  have htext : ∀ s, Spells s (pretty (level + 1) (.text s)) := spells_quoted
  apply objectLaidOut_pretty
  · simp only [List.forall_mem_cons, List.not_mem_nil, false_implies, implies_true, and_true]
    exact ⟨.text (htext _).isText, .text (htext _).isText, .text (htext _).isText,
      .text (htext _).isText, .text (htext _).isText⟩
  · simp [slots, htext]
  · simp
  · simp [slots]

namespace Record

theorem laidOut_toJson (level : Nat) (r : Record) : r.LaidOut (pretty level r.toJson) := by
  have hentries : ∀ entries : List HostEntry, ListLaidOut HostEntry.LaidOut entries
      (pretty (level + 1) (.list (entries.map HostEntry.toJson))) :=
    fun _ => listLaidOut_pretty fun e _ => e.laidOut_toJson (level + 2)
  have hinfos : ListLaidOut InfoRow.LaidOut r.infos
      (pretty (level + 1) (.list (r.infos.map InfoRow.toJson))) :=
    listLaidOut_pretty fun row _ => row.laidOut_toJson (level + 2)
  have hvalue : ∀ entries : List HostEntry,
      IsValue (pretty (level + 1) (.list (entries.map HostEntry.toJson))) :=
    fun entries => (hentries entries).isValue fun _ _ h => h.isValue
  apply objectLaidOut_pretty
  · simp only [List.forall_mem_cons, List.not_mem_nil, false_implies, implies_true, and_true]
    exact ⟨hvalue _, hvalue _, hinfos.isValue fun _ _ h => h.isValue⟩
  · simp [slots, hentries, hinfos]
  · simp
  · simp [slots]

/-- The bytes that store a record lay it out. -/
theorem laidOut_toBytes (r : Record) : Document r.LaidOut r.toBytes :=
  ⟨[], pretty 0 r.toJson, [0x0A], Blanks.nil, r.laidOut_toJson 0,
    List.forall_mem_singleton.2 rfl, rfl⟩

/-- A stored record is read back. -/
theorem ofBytes_toBytes (r : Record) : ofBytes r.toBytes = .ok r :=
  ofBytes_of_laidOut r.laidOut_toBytes

end Record

end HostRegistry
