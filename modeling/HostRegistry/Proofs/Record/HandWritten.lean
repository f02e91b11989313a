import HostRegistry.Proofs.Json.Flaw
import HostRegistry.Proofs.Record.Layout
import HostRegistry.Repository

/-!
# Records written by hand

A file with a text that lays a record out in its own way is read just like the one that stores the
record. A text in which some object of the record gives a known member twice, or gives null for one,
is never read, whatever else stands in it.
-/

namespace HostRegistry

open Json

/-! ## What is refused -/

def HostEntry.concerns : List Concern := [⟨"id", fun _ => False⟩, ⟨"hosts", fun _ => False⟩]

def HostEntry.Flawed : Bytes → Prop := StructFlawed HostEntry.concerns

def InfoRow.concerns : List Concern :=
  [⟨"containerId", fun _ => False⟩, ⟨"alias", fun _ => False⟩, ⟨"groupId", fun _ => False⟩,
    ⟨"artifactId", fun _ => False⟩, ⟨"version", fun _ => False⟩]

def InfoRow.Flawed : Bytes → Prop := StructFlawed InfoRow.concerns

def Record.concerns : List Concern :=
  [⟨"containers", ListFlawed HostEntry.Flawed⟩, ⟨"servers", ListFlawed HostEntry.Flawed⟩,
    ⟨"containerInfo", ListFlawed InfoRow.Flawed⟩]

/-- Somewhere in the record, a known member is repeated in its object or is null. -/
def Record.Flawed : Bytes → Prop := StructFlawed Record.concerns

/-- A field that is a text guards against null, as nothing else can be wrong with it. -/
theorem Json.guards_text {ρ : Type} {fields : List (Field ρ)} {name : String} {isGiven : ρ → Bool}
    {set : ρ → String → ρ}
    (known : fields.find? (·.name = name) = some ⟨name, isGiven, setting readText set⟩) :
    Field.Guards fields ⟨name, isGiven, setting readText set⟩ ⟨name, fun _ => False⟩ where
  known := known
  null := setting_refuses set readText_refuses_null
  flawed _ h := h.elim

theorem Json.guards_list {α ρ : Type} {fields : List (Field ρ)} {name : String}
    {isGiven : ρ → Bool} {item : Reader α} {set : ρ → List α → ρ} {Flawed : Bytes → Prop}
    (known : fields.find? (·.name = name) = some ⟨name, isGiven, setting (readList item) set⟩)
    (hflawed : ∀ v, Flawed v → Refuses (readList item) v) :
    Field.Guards fields ⟨name, isGiven, setting (readList item) set⟩ ⟨name, Flawed⟩ where
  known := known
  null := setting_refuses set (readList_refuses_null item)
  flawed v h := setting_refuses set (hflawed v h)

namespace HostEntry

theorem orderly : Orderly struct.fields := by
  intro field hfield
  simp only [struct, List.mem_cons, List.not_mem_nil, or_false] at hfield
  rcases hfield with rfl | rfl
  · exact Field.settles_setting readText_stays (by simp) (by simp [struct])
  · exact Field.settles_setting (readList_stays readText_stays) (by simp) (by simp [struct])

theorem refuses {bytes : Bytes} (h : Flawed bytes) : Refuses struct.read bytes := by
  have hguards : List.Forall₂ (Field.Guards struct.fields) struct.fields concerns :=
    .cons (guards_text rfl) (.cons (guards_list rfl fun _ h => h.elim) .nil)
  exact refuses_of_structFlawed orderly hguards h

end HostEntry

namespace InfoRow

theorem orderly : Orderly struct.fields := by
  intro field hfield
  simp only [struct, List.mem_cons, List.not_mem_nil, or_false] at hfield
  rcases hfield with rfl | rfl | rfl | rfl | rfl <;>
    exact Field.settles_setting readText_stays (by simp) (by simp [struct])

theorem refuses {bytes : Bytes} (h : Flawed bytes) : Refuses struct.read bytes := by
  have hguards : List.Forall₂ (Field.Guards struct.fields) struct.fields concerns :=
    .cons (guards_text rfl) (.cons (guards_text rfl) (.cons (guards_text rfl)
      (.cons (guards_text rfl) (.cons (guards_text rfl) .nil))))
  exact refuses_of_structFlawed orderly hguards h

end InfoRow

namespace Record

theorem orderly : Orderly struct.fields := by
  have hentries := readList_stays (Struct.read_stays HostEntry.orderly)
  have hinfos := readList_stays (Struct.read_stays InfoRow.orderly)
  intro field hfield
  simp only [struct, List.mem_cons, List.not_mem_nil, or_false] at hfield
  rcases hfield with rfl | rfl | rfl
  · exact Field.settles_setting hentries (by simp) (by simp [struct])
  · exact Field.settles_setting hentries (by simp) (by simp [struct])
  · exact Field.settles_setting hinfos (by simp) (by simp [struct])

theorem refuses {bytes : Bytes} (h : Flawed bytes) : Refuses struct.read bytes := by
  have hentries : ∀ v, ListFlawed HostEntry.Flawed v →
      Refuses (readList HostEntry.struct.read) v := fun _ =>
    refuses_of_listFlawed (Struct.read_stays HostEntry.orderly) fun _ => HostEntry.refuses
  have hinfos : ∀ v, ListFlawed InfoRow.Flawed v → Refuses (readList InfoRow.struct.read) v :=
    fun _ => refuses_of_listFlawed (Struct.read_stays InfoRow.orderly) fun _ => InfoRow.refuses
  have hguards : List.Forall₂ (Field.Guards struct.fields) struct.fields concerns :=
    .cons (guards_list rfl hentries) (.cons (guards_list rfl hentries)
      (.cons (guards_list rfl hinfos) .nil))
  exact refuses_of_structFlawed orderly hguards h

theorem ofBytes_of_flawed {bytes : Bytes} (h : Document Flawed bytes) :
    ∃ fault, ofBytes bytes = .error fault := by
  obtain ⟨blanks, value, blanks', hblanks, hflawed, -, rfl⟩ := h
  rw [ofBytes, readWhole]
  cases hread : struct.read (blanks ++ (value ++ blanks')) with
  | error fault => exact ⟨fault, rfl⟩
  | ok success => exact absurd hread (refuses hflawed blanks blanks' hblanks success)

end Record

/-! ## Files -/

/-- A file that lays a record out in its own way is read like the file that stores the record. A
file in which a known member is repeated or null is not read at all. -/
theorem FileTree.readSnapshot_handWritten {t : FileTree} {path : String} {bytes : Bytes}
    (hread : t.read path = .ok bytes) :
    (∀ r : Record, Document r.LaidOut bytes →
      (∀ t' : FileTree, t'.read path = .ok r.toBytes →
        t.readSnapshot path = t'.readSnapshot path) ∧
      t.readSnapshot path =
        match r.toSnapshot with
        | .ok contents => .ok (some contents)
        | .error cause => .error (.invalid path cause)) ∧
    (Document Record.Flawed bytes → ∃ fault, Record.ofBytes bytes = .error fault ∧
      t.readSnapshot path = .error (.corrupt path fault)) := by
  constructor
  · intro r hlaidOut
    have hrecord := Record.ofBytes_of_laidOut hlaidOut
    constructor
    · intro t' hread'
      rw [readSnapshot, readSnapshot, hread, hread']
      simp only [hrecord, Record.ofBytes_toBytes]
    · rw [readSnapshot, hread]
      simp only [hrecord]
      cases r.toSnapshot <;> rfl
  · intro hflawed
    obtain ⟨fault, hfault⟩ := Record.ofBytes_of_flawed hflawed
    refine ⟨fault, hfault, ?_⟩
    rw [readSnapshot, hread]
    simp only [hfault]

/-- An entry with its members the other way round, one of their names escaped. -/
def handEntry : Bytes := Bytes.ofText "\x7b\"hosts\":[], \"\\u0069d\":\"c\"\x7d"

/-- A record with that entry, behind a member that nobody knows and without its empty sections. -/
def handText : Bytes :=
  Bytes.ofText " \x7b\"x\":[\x7b\x7d], \"containers\":[" ++ (handEntry ++ Bytes.ofText "]\x7d")

theorem handEntry_laidOut : HostEntry.LaidOut ⟨"c", []⟩ handEntry := by
  have hcode : IsCode [0x30, 0x30, 0x36, 0x39] 'i'.toNat :=
    .digits (x := 0) (y := 0) (z := 6) (w := 9) rfl rfl rfl rfl
  have hbody : SpellsBody ['i', 'd'] (Bytes.ofText "\\u0069d") :=
    .code hcode (.plain (c := 'd') (by decide) (by decide) (by decide) .nil)
  have hname : Spells "id" (Bytes.ofText "\"\\u0069d\"") := ⟨_, hbody, rfl⟩
  have hhosts : ListLaidOut Spells [] [0x5B, 0x5D] := ⟨[], .nothing Blanks.nil, .nil⟩
  have hblank : Blanks [0x20] := List.forall_mem_singleton.2 rfl
  refine ⟨[("hosts", ⟨quoted "hosts", [], [], [0x5B, 0x5D]⟩),
    ("id", ⟨Bytes.ofText "\"\\u0069d\"", [], [], quoted "c"⟩)], ?_, ?_, ?_⟩
  · exact .pieces Blanks.nil (.comma Blanks.nil hblank (.closing Blanks.nil))
  · constructor
    · simp only [List.forall_mem_cons, List.not_mem_nil, false_implies, implies_true, and_true]
      exact ⟨⟨spells_quoted _, (spells_quoted "hosts").isText, Blanks.nil, Blanks.nil⟩,
        hname, hname.isText, Blanks.nil, Blanks.nil⟩
    · simp only [List.forall_mem_cons, List.not_mem_nil, false_implies, implies_true, and_true]
      exact ⟨hhosts.isValue fun _ _ h => .text h.isText, .text (spells_quoted "c").isText⟩
    · simpa [HostEntry.slots] using ⟨hhosts, spells_quoted "c"⟩
    · simp [HostEntry.slots]
  · simp [HostEntry.slots]

theorem handText_laidOut : Document (Record.LaidOut ⟨[⟨"c", []⟩], [], []⟩) handText := by
  have hempty : HasMembers [] [0x7B, 0x7D] := .nothing Blanks.nil
  have hother : IsList [[0x7B, 0x7D]] [0x5B, 0x7B, 0x7D, 0x5D] :=
    .pieces Blanks.nil (.closing Blanks.nil)
  have hentries : ListLaidOut HostEntry.LaidOut [⟨"c", []⟩] (0x5B :: (handEntry ++ [0x5D])) :=
    ⟨[handEntry], .pieces Blanks.nil (.closing Blanks.nil), .cons handEntry_laidOut .nil⟩
  have hblank : Blanks [0x20] := List.forall_mem_singleton.2 rfl
  have hrecord : Record.LaidOut ⟨[⟨"c", []⟩], [], []⟩ (handText.drop 1) := by
    refine ⟨[("x", ⟨quoted "x", [], [], [0x5B, 0x7B, 0x7D, 0x5D]⟩),
      ("containers", ⟨quoted "containers", [], [], 0x5B :: (handEntry ++ [0x5D])⟩)], ?_, ?_, ?_⟩
    · exact .pieces Blanks.nil (.comma Blanks.nil hblank (.closing Blanks.nil))
    · constructor
      · simp only [List.forall_mem_cons, List.not_mem_nil, false_implies, implies_true, and_true]
        exact ⟨⟨spells_quoted _, (spells_quoted "x").isText, Blanks.nil, Blanks.nil⟩,
          spells_quoted _, (spells_quoted "containers").isText, Blanks.nil, Blanks.nil⟩
      · simp only [List.forall_mem_cons, List.not_mem_nil, false_implies, implies_true, and_true]
        exact ⟨.list hother (List.forall_mem_singleton.2 (.object hempty nofun nofun)),
          hentries.isValue fun _ _ h => h.isValue⟩
      · simpa [Record.slots] using hentries
      · simp [Record.slots]
    · simp [Record.slots]
  exact ⟨[0x20], handText.drop 1, [], hblank, hrecord, Blanks.nil, rfl⟩

/-- An entry whose id stands there twice. -/
def doubledEntry : Bytes := Bytes.ofText "\x7b\"id\":\"c\",\"id\":\"d\"\x7d"

def doubledText : Bytes :=
  Bytes.ofText "\x7b\"containers\":[" ++ (doubledEntry ++ Bytes.ofText "]\x7d")

theorem doubledText_flawed : Document Record.Flawed doubledText := by
  have hproper : ∀ name value, Member.Proper ⟨quoted name, [], [], value⟩ :=
    fun name _ => ⟨(spells_quoted name).isText, Blanks.nil, Blanks.nil⟩
  have hentry : IsPlainObject
      [⟨quoted "id", [], [], quoted "c"⟩, ⟨quoted "id", [], [], quoted "d"⟩] doubledEntry := by
    refine ⟨.pieces Blanks.nil (.comma Blanks.nil Blanks.nil (.closing Blanks.nil)), ?_, ?_⟩
    · exact List.forall_mem_cons.2 ⟨hproper _ _, List.forall_mem_singleton.2 (hproper _ _)⟩
    · exact List.forall_mem_cons.2 ⟨.text (spells_quoted _).isText,
        List.forall_mem_singleton.2 (.text (spells_quoted _).isText)⟩
  have hvalue : IsValue doubledEntry := .object hentry.object hentry.proper hentry.values
  have hflawed : HostEntry.Flawed doubledEntry :=
    .repeated hentry (.head _) (spells_quoted "id") (spells_quoted "id") (.refl _)
  have hlist : IsList [doubledEntry] (0x5B :: (doubledEntry ++ [0x5D])) :=
    .pieces Blanks.nil (.closing Blanks.nil)
  have hvalues : ∀ v ∈ [doubledEntry], IsValue v := List.forall_mem_singleton.2 hvalue
  have hrecord : IsPlainObject
      [⟨quoted "containers", [], [], 0x5B :: (doubledEntry ++ [0x5D])⟩] doubledText := by
    refine ⟨.pieces Blanks.nil (.closing Blanks.nil), ?_, ?_⟩
    · exact List.forall_mem_singleton.2 (hproper _ _)
    · exact List.forall_mem_singleton.2 (.list hlist hvalues)
  refine ⟨[], doubledText, [], Blanks.nil, ?_, Blanks.nil, rfl⟩
  exact .member hrecord (.head _) (.head _) (spells_quoted "containers")
    (.inr ⟨[doubledEntry], hlist, hvalues, doubledEntry, .head _, hflawed⟩)

/-- The tree in which a file has the given contents. -/
def treeWith (contents : Bytes) : FileTree :=
  FileTree.empty.set ["work", "f.json"] (.file contents)

theorem read_treeWith (contents : Bytes) : (treeWith contents).read "f.json" = .ok contents := rfl

theorem readSnapshot_handText :
    (treeWith handText).readSnapshot "f.json" =
      (treeWith (Record.toBytes ⟨[⟨"c", []⟩], [], []⟩)).readSnapshot "f.json" ∧
    (∃ contents, Record.toSnapshot ⟨[⟨"c", []⟩], [], []⟩ = .ok contents ∧
      (treeWith handText).readSnapshot "f.json" = .ok (some contents)) ∧
    ∃ fault, (treeWith doubledText).readSnapshot "f.json" = .error (.corrupt "f.json" fault) := by
  obtain ⟨hsame, hcontents⟩ :=
    (FileTree.readSnapshot_handWritten (read_treeWith handText)).1 _ handText_laidOut
  obtain ⟨fault, -, hfault⟩ :=
    (FileTree.readSnapshot_handWritten (read_treeWith doubledText)).2 doubledText_flawed
  exact ⟨hsame _ (read_treeWith _), ⟨_, rfl, hcontents⟩, fault, hfault⟩

end HostRegistry
