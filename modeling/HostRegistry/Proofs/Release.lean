import HostRegistry.Proofs.Text
import HostRegistry.Release
import Mathlib.Data.List.Basic

/-!
# Reading coordinates back

A text with two colons spells exactly one release, and is read as this release when none of its
parts is blank. The text of a release gives the release back exactly when its parts are proper: not
blank, and free of the colon that parts them. The text of any other release is refused, so no text
of one release is ever read as another.
-/

namespace HostRegistry

namespace Release

/-- Each part says something and holds no colon. -/
def Proper (r : Release) : Prop :=
  ∀ part ∈ [Part.group, .artifact, .version],
    Text.isBlank (r.get part) = false ∧ ':' ∉ (r.get part).toList

instance (r : Release) : Decidable r.Proper := by
  unfold Proper
  infer_instance

theorem Part.mem_all (part : Part) : part ∈ [Part.group, .artifact, .version] := by
  cases part <;> decide

/-! ## Blank parts -/

theorem blankPart?_eq_none_iff {r : Release} :
    r.blankPart? = none ↔
      ∀ part ∈ [Part.group, .artifact, .version], Text.isBlank (r.get part) = false := by
  simp [blankPart?]

/-- The part is blank and none before it is. -/
def FirstBlank (r : Release) : Part → Prop
  | .group => Text.isBlank r.group = true
  | .artifact => Text.isBlank r.group = false ∧ Text.isBlank r.artifact = true
  | .version => Text.isBlank r.group = false ∧ Text.isBlank r.artifact = false ∧
      Text.isBlank r.version = true

theorem blankPart?_eq_some_iff {r : Release} {part : Part} :
    r.blankPart? = some part ↔ r.FirstBlank part := by
  have hscan : r.blankPart? =
      if Text.isBlank r.group then some .group
      else if Text.isBlank r.artifact then some .artifact
      else if Text.isBlank r.version then some .version else none := by
    simp only [blankPart?, get, List.find?_cons, List.find?_nil]
    grind
  rw [hscan]
  cases part <;> grind [FirstBlank]

/-! ## What a text spells -/

/-- The text is the parts of the release with colons between them, and no part holds a colon. -/
structure Spells (s : String) (r : Release) : Prop where
  text_eq : r.text = s
  no_colon : ∀ part, ':' ∉ (r.get part).toList

theorem cut_text (r : Release) :
    Text.cut ':' r.text =
      Text.cut ':' r.group ++ (Text.cut ':' r.artifact ++ Text.cut ':' r.version) := by
  have hlist : r.text.toList =
      r.group.toList ++ ':' :: (r.artifact.toList ++ ':' :: r.version.toList) := by
    simp [text, String.toList_append]
  rw [Text.cut, hlist, Text.cutList_append, Text.cutList_append, List.map_append, List.map_append]
  rfl

theorem spells_iff_cut {s : String} {r : Release} :
    Spells s r ↔ Text.cut ':' s = [r.group, r.artifact, r.version] := by
  constructor
  · rintro ⟨rfl, hfree⟩
    have hgroup : Text.cut ':' r.group = [r.group] := Text.cut_of_not_mem (hfree .group)
    have hartifact : Text.cut ':' r.artifact = [r.artifact] :=
      Text.cut_of_not_mem (hfree .artifact)
    have hversion : Text.cut ':' r.version = [r.version] := Text.cut_of_not_mem (hfree .version)
    rw [cut_text, hgroup, hartifact, hversion]
    rfl
  · intro hcut
    refine ⟨?_, fun part => ?_⟩
    · have hjoined := Text.intercalate_cut ':' s
      rw [hcut] at hjoined
      rw [← hjoined]
      rfl
    · apply Text.not_mem_of_mem_cut (s := s)
      rw [hcut]
      cases part <;> simp [get]

/-- A text spells one release at most. -/
theorem Spells.unique {s : String} {r r' : Release} (h : Spells s r) (h' : Spells s r') :
    r = r' := by
  have hcuts := (spells_iff_cut.1 h).symm.trans (spells_iff_cut.1 h')
  cases r
  cases r'
  simpa using hcuts

/-- Two colons make three parts, and no other number of colons does. -/
theorem exists_spells_iff {s : String} : (∃ r, Spells s r) ↔ s.toList.count ':' = 2 := by
  have hlength : s.toList.count ':' = 2 ↔ (Text.cut ':' s).length = 3 := by
    rw [Text.length_cut]
    omega
  simp only [hlength, List.length_eq_three, spells_iff_cut]
  constructor
  · rintro ⟨r, hcut⟩
    exact ⟨_, _, _, hcut⟩
  · rintro ⟨group, artifact, version, hcut⟩
    exact ⟨⟨group, artifact, version⟩, hcut⟩

/-! ## What a text is read as -/

theorem ofText_of_spells {s : String} {r : Release} (h : Spells s r) :
    ofText s = match r.blankPart? with
      | none => .ok r
      | some part => .error (.emptyPart s part) := by
  rw [ofText, spells_iff_cut.1 h]
  cases hblank : r.blankPart? with
  | none => simp only [hblank]
  | some part => simp only [hblank]

theorem ofText_of_not_spells {s : String} (h : ¬∃ r, Spells s r) :
    ofText s = .error (.malformed s) := by
  rw [ofText]
  split
  next group artifact version hcut =>
    exact (h ⟨⟨group, artifact, version⟩, spells_iff_cut.2 hcut⟩).elim
  next => rfl

theorem ofText_eq_ok_iff {s : String} {r : Release} :
    ofText s = .ok r ↔ Spells s r ∧ r.blankPart? = none := by
  by_cases hspells : ∃ r', Spells s r'
  · obtain ⟨r', hr'⟩ := hspells
    rw [ofText_of_spells hr']
    cases hblank : r'.blankPart? with
    | none =>
      refine ⟨fun h => ?_, fun ⟨hr, _⟩ => congrArg Except.ok (hr'.unique hr)⟩
      cases h
      exact ⟨hr', hblank⟩
    | some part =>
      refine iff_of_false nofun fun ⟨hr, hnone⟩ => ?_
      rw [← hr'.unique hr, hblank] at hnone
      cases hnone
  · rw [ofText_of_not_spells hspells]
    exact iff_of_false nofun fun h => hspells ⟨r, h.1⟩

theorem ofText_eq_error_iff {s : String} {cause : ReadError} :
    ofText s = .error cause ↔
      (cause = .malformed s ∧ ¬∃ r, Spells s r) ∨
      ∃ r part, cause = .emptyPart s part ∧ Spells s r ∧ r.FirstBlank part := by
  simp only [← blankPart?_eq_some_iff]
  by_cases hspells : ∃ r, Spells s r
  · rw [or_iff_right fun h => h.2 hspells]
    obtain ⟨r, hr⟩ := hspells
    rw [ofText_of_spells hr]
    cases hblank : r.blankPart? with
    | none =>
      refine iff_of_false nofun ?_
      rintro ⟨r', part, -, hr', hpart⟩
      rw [← hr.unique hr', hblank] at hpart
      cases hpart
    | some part =>
      constructor
      · intro h
        cases h
        exact ⟨r, part, rfl, hr, hblank⟩
      · rintro ⟨r', part', rfl, hr', hpart⟩
        rw [← hr.unique hr', hblank] at hpart
        cases hpart
        rfl
  · rw [ofText_of_not_spells hspells]
    constructor
    · intro h
      cases h
      exact .inl ⟨rfl, hspells⟩
    · rintro (⟨rfl, -⟩ | ⟨r, part, -, hr, -⟩)
      · rfl
      · exact (hspells ⟨r, hr⟩).elim

/-- What is read is proper. -/
theorem proper_of_ofText {s : String} {r : Release} (h : ofText s = .ok r) : r.Proper := by
  obtain ⟨hspells, hblank⟩ := ofText_eq_ok_iff.1 h
  exact fun part hpart => ⟨blankPart?_eq_none_iff.1 hblank part hpart, hspells.no_colon part⟩

/-! ## The text of a release -/

/-- Why the text of a release is refused: a colon in a part makes more pieces of it than there are
parts, and otherwise the first blank part is named. -/
def fault? (r : Release) : Option ReadError :=
  if ∃ part ∈ [Part.group, .artifact, .version], ':' ∈ (r.get part).toList then
    some (.malformed r.text)
  else r.blankPart?.map (.emptyPart r.text)

theorem fault?_eq_none_iff {r : Release} : r.fault? = none ↔ r.Proper := by
  rw [fault?, Proper]
  split
  next hcolon =>
    refine ⟨nofun, ?_⟩
    intro hproper
    obtain ⟨part, hpart, hmem⟩ := hcolon
    exact ((hproper part hpart).2 hmem).elim
  next hcolon =>
    rw [Option.map_eq_none_iff, blankPart?_eq_none_iff]
    constructor
    · intro hblank part hpart
      exact ⟨hblank part hpart, fun hmem => hcolon ⟨part, hpart, hmem⟩⟩
    · intro hproper part hpart
      exact (hproper part hpart).1

theorem count_colon_text (r : Release) :
    r.text.toList.count ':' = 2 + (r.group.toList.count ':' + r.artifact.toList.count ':' +
      r.version.toList.count ':') := by
  have hpieces := congrArg List.length (cut_text r)
  simp only [List.length_append, Text.length_cut] at hpieces
  omega

/-- The text of a release is read as this release or refused, and it is known why. -/
theorem ofText_text (r : Release) :
    ofText r.text = match r.fault? with
      | none => .ok r
      | some cause => .error cause := by
  by_cases hcolon : ∃ part ∈ [Part.group, .artifact, .version], ':' ∈ (r.get part).toList
  · -- Two colons in all leave room for none in any of the parts.
    have hmalformed : ¬∃ r', Spells r.text r' := by
      rw [exists_spells_iff, count_colon_text]
      obtain ⟨part, -, hmem⟩ := hcolon
      have hpositive : 0 < (r.get part).toList.count ':' := List.count_pos_iff.2 hmem
      cases part <;> simp only [get] at hpositive <;> omega
    rw [fault?, if_pos hcolon, ofText_of_not_spells hmalformed]
  · have hspells : Spells r.text r :=
      ⟨rfl, fun part hmem => hcolon ⟨part, part.mem_all, hmem⟩⟩
    rw [fault?, if_neg hcolon, ofText_of_spells hspells]
    cases r.blankPart? <;> rfl

/-- A text is read as a release exactly when it spells it and each part holds more than white space.
It spells a release exactly when it holds two colons. Otherwise it is malformed, and if it spells a
release with a blank part, the first such part is named. The text of a release is read as this
release exactly when the release is proper, and is refused otherwise. -/
theorem ofText_reads_spelled :
    (∀ s r, ofText s = .ok r ↔
      Spells s r ∧ ∀ part, ∃ c ∈ (r.get part).toList, Text.isWhiteSpace c = false) ∧
    (∀ s, (∃ r, Spells s r) ↔ s.toList.count ':' = 2) ∧
    (∀ s cause, ofText s = .error cause ↔
      (cause = .malformed s ∧ s.toList.count ':' ≠ 2) ∨
      ∃ r part, cause = .emptyPart s part ∧ Spells s r ∧ r.FirstBlank part) ∧
    ∀ r, (ofText r.text = .ok r ↔ r.Proper) ∧
      (¬r.Proper → ∃ cause, ofText r.text = .error cause) := by
  refine ⟨fun s r => ?_, fun s => exists_spells_iff, fun s cause => ?_, fun r => ⟨?_, ?_⟩⟩
  · rw [ofText_eq_ok_iff, blankPart?_eq_none_iff]
    refine and_congr_right fun _ => ⟨fun h part => ?_, fun h part _ => ?_⟩
    · exact Text.isBlank_eq_false_iff.1 (h part part.mem_all)
    · exact Text.isBlank_eq_false_iff.2 (h part)
  · rw [ofText_eq_error_iff, exists_spells_iff]
  · rw [← fault?_eq_none_iff, ofText_text]
    cases r.fault? <;> simp
  · intro hnot
    rw [ofText_text]
    cases hfault : r.fault? with
    | none => exact (hnot (fault?_eq_none_iff.1 hfault)).elim
    | some cause => exact ⟨cause, rfl⟩

/-- Both faults at once: of two blank parts the first is named, and a colon too many comes before
either. -/
example : ofText ":a: " = .error (.emptyPart ":a: " .group) ∧
    ofText ":: :" = .error (.malformed ":: :") := by decide

end Release

end HostRegistry
