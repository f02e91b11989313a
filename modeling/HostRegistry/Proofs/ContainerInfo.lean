import HostRegistry.Proofs.Json.Compact
import HostRegistry.Proofs.Json.Struct
import HostRegistry.Proofs.Release

/-!
# Reading infos back

The JSON text of an info gives the info back exactly when its release is proper; its id and alias
may be any texts. Otherwise the text is refused with what is wrong with the release, at the field
that holds it. So whatever text an info was read from, the text that is written for it is read as
the same info.
-/

namespace HostRegistry

open Json

/-! ## Releases -/

theorem Json.reads_release {r : Release} (h : r.Proper) : Reads readRelease (quoted r.text) r := by
  refine ⟨(reads_quoted r.text).begins, fun blanks rest hblanks => ?_⟩
  rw [readRelease, (reads_quoted r.text).read blanks rest hblanks]
  simp only [bind, Except.bind, Release.ofText_text, Release.fault?_eq_none_iff.2 h]
  rfl

theorem Json.readRelease_refuse {r : Release} {cause : Release.ReadError}
    (h : r.fault? = some cause) (rest : Bytes) :
    readRelease (quoted r.text ++ rest) = .error (.shape [] (.rejected cause.message)) := by
  rw [readRelease, (reads_quoted r.text).read_here rest]
  simp only [bind, Except.bind, Release.ofText_text, h]

theorem Json.proper_of_readRelease {input rest : Bytes} {r : Release}
    (h : readRelease input = .ok (r, rest)) : r.Proper := by
  rw [readRelease] at h
  obtain ⟨⟨s, behind⟩, -, h⟩ := bind_eq_ok h
  simp only at h
  split at h
  next release hrelease =>
    cases h
    exact Release.proper_of_ofText hrelease
  next => cases h

namespace ContainerInfo

/-! ## The written text -/

/-- What stands behind the opening brace of the text of an info. -/
def membersText (info : ContainerInfo) : Bytes :=
  lead true ++ (quoted "containerId" ++ 0x3A :: (quoted info.containerId ++
    (lead false ++ (quoted "alias" ++ 0x3A :: (quoted info.aliasName ++
      (lead false ++ (quoted "releaseId" ++ 0x3A :: (quoted info.release.text ++ [0x7D]))))))))

theorem compact_toJson (info : ContainerInfo) :
    compact info.toJson = 0x7B :: info.membersText := by
  simp [toJson, compact, compactMembers, lead, membersText]

theorem length_membersText (info : ContainerInfo) : 3 ≤ info.membersText.length := by
  simp only [membersText, List.length_append, List.length_cons]
  omega

theorem readMembers_membersText (info : ContainerInfo) (fuel : Nat) :
    Struct.readMembers struct.fields (fuel + 4) true struct.start info.membersText =
      match info.release.fault? with
      | none => .ok (⟨some info.containerId, some info.aliasName, some info.release⟩, [])
      | some cause => .error (.shape [.field "releaseId"] (.rejected cause.message)) := by
  rw [membersText, Struct.readMembers_assign rfl rfl (reads_quoted _),
    Struct.readMembers_assign rfl rfl (reads_quoted _)]
  cases hfault : info.release.fault? with
  | none =>
    have hrelease := reads_release (Release.fault?_eq_none_iff.1 hfault)
    rw [Struct.readMembers_assign rfl rfl hrelease]
    rfl
  | some cause =>
    rw [Struct.readMembers_refuse rfl rfl (readRelease_refuse hfault _)]
    rfl

/-- The text of an info is read as the info, or refused for what is wrong with its release. -/
theorem ofBytes_compact (info : ContainerInfo) :
    ofBytes (compact info.toJson) = match info.release.fault? with
      | none => .ok info
      | some cause => .error (.shape [.field "releaseId"] (.rejected cause.message)) := by
  -- Three members and the brace are reached with the fuel that the length of the text gives.
  obtain ⟨fuel, hfuel⟩ : ∃ fuel, info.membersText.length + 1 = fuel + 4 :=
    Nat.exists_eq_add_of_le' (Nat.succ_le_succ info.length_membersText)
  rw [ofBytes, readWhole, compact_toJson, Struct.read_brace, hfuel, info.readMembers_membersText]
  cases info.release.fault? <;> rfl

/-! ## What is read -/

/-- The release, once given, is proper. -/
def Given.Proper (given : Given) : Prop := ∀ release, given.release = some release → release.Proper

theorem keeps_proper : ∀ field ∈ struct.fields, field.Keeps Given.Proper := by
  refine List.forall_mem_cons.2 ⟨?_, List.forall_mem_cons.2 ⟨?_, List.forall_mem_singleton.2 ?_⟩⟩
  · exact Field.keeps_setting fun _ _ _ _ _ hgiven => hgiven
  · exact Field.keeps_setting fun _ _ _ _ _ hgiven => hgiven
  · refine Field.keeps_setting fun _ release _ hread _ _ => ?_
    intro release' hgiven
    cases hgiven
    exact proper_of_readRelease hread

theorem release_of_finish {given : Given} {info : ContainerInfo}
    (h : struct.finish given = .ok info) : given.release = some info.release := by
  obtain ⟨id?, alias?, release?⟩ := given
  obtain ⟨id, -, h⟩ := bind_eq_ok h
  obtain ⟨aliasName, -, h⟩ := bind_eq_ok h
  obtain ⟨release, hrelease, h⟩ := bind_eq_ok h
  cases h
  cases release? with
  | none => cases hrelease
  | some release' =>
    cases hrelease
    rfl

/-- An info that was read has a proper release, whatever text it was read from. -/
theorem proper_of_ofBytes {bytes : Bytes} {info : ContainerInfo} (h : ofBytes bytes = .ok info) :
    info.release.Proper := by
  obtain ⟨⟨info', rest⟩, hread, hend⟩ := bind_eq_ok h
  simp only at hend
  split at hend
  · cases hend
    have hstart : Given.Proper struct.start := nofun
    obtain ⟨given, hgiven, hfinish⟩ := Struct.exists_finish_of_read hstart keeps_proper hread
    exact hgiven info.release (release_of_finish hfinish)
  · cases hend

/-- The text of an info is read as the info exactly when its release is proper. Otherwise it is
refused as a text of another shape with what is wrong with the release, at the field that holds it.
And an info that any text is read as is read back from its own text. -/
theorem ofBytes_compact_iff_proper :
    (∀ info : ContainerInfo, (ofBytes (compact info.toJson) = .ok info ↔ info.release.Proper) ∧
      (¬info.release.Proper → ∃ cause, Release.ofText info.release.text = .error cause ∧
        ofBytes (compact info.toJson) =
          .error (.shape [.field "releaseId"] (.rejected cause.message)))) ∧
    ∀ (bytes : Bytes) (info : ContainerInfo), ofBytes bytes = .ok info →
      ofBytes (compact info.toJson) = .ok info := by
  have hback : ∀ info : ContainerInfo, info.release.Proper →
      ofBytes (compact info.toJson) = .ok info := by
    intro info hproper
    rw [ofBytes_compact, Release.fault?_eq_none_iff.2 hproper]
  refine ⟨fun info => ⟨⟨fun h => ?_, hback info⟩, fun hnot => ?_⟩, fun bytes info h => ?_⟩
  · exact proper_of_ofBytes h
  · rw [ofBytes_compact, Release.ofText_text]
    cases hfault : info.release.fault? with
    | none => exact (hnot (Release.fault?_eq_none_iff.1 hfault)).elim
    | some cause => exact ⟨cause, rfl, rfl⟩
  · exact hback info (proper_of_ofBytes h)

end ContainerInfo

end HostRegistry
