import HostRegistry.Text.Blank
import HostRegistry.Text.Pieces
import Mathlib.Data.List.TakeWhile

/-!
# Cutting, joining and trimming text

Pieces without separators are what their text is cut into, and text is joined from what it is cut
into. A text that is not blank holds a character that is no white space. Trimming takes away the
white space around a word.
-/

namespace HostRegistry.Text

theorem isBlank_eq_false_iff {s : String} :
    isBlank s = false ↔ ∃ c ∈ s.toList, isWhiteSpace c = false := by
  simp [isBlank]

theorem cut_ne_nil (sep : Char) (s : String) : cut sep s ≠ [] :=
  fun h => cutList_ne_nil sep s.toList (List.map_eq_nil_iff.1 h)

theorem cut_of_not_mem {sep : Char} {s : String} (h : sep ∉ s.toList) : cut sep s = [s] := by
  simp [cut, cutList_of_not_mem h]

theorem not_mem_of_mem_cut {sep : Char} {s piece : String} (h : piece ∈ cut sep s) :
    sep ∉ piece.toList := by
  obtain ⟨cs, hcs, rfl⟩ := List.mem_map.1 h
  rw [String.toList_ofList]
  exact not_mem_of_mem_cutList hcs

theorem length_cut (sep : Char) (s : String) : (cut sep s).length = s.toList.count sep + 1 := by
  rw [cut, List.length_map, length_cutList]

theorem cut_append (sep : Char) (s s' : String) :
    cut sep (s ++ String.ofList [sep] ++ s') = cut sep s ++ cut sep s' := by
  simp [cut, cutList_append]

theorem sublist_of_mem_cutList {α : Type} [DecidableEq α] {sep : α} {cs piece : List α}
    (h : piece ∈ cutList sep cs) : piece.Sublist cs := by
  induction cs generalizing piece with
  | nil => exact List.mem_singleton.1 h ▸ List.Sublist.slnil
  | cons c rest ih =>
    obtain ⟨first, pieces, hcut⟩ := List.exists_cons_of_ne_nil (cutList_ne_nil sep rest)
    rw [cutList, hcut] at h
    rw [hcut] at ih
    split at h
    · rcases List.mem_cons.1 h with rfl | hpiece
      · exact List.nil_sublist _
      · exact (ih hpiece).cons c
    · rcases List.mem_cons.1 h with rfl | hpiece
      · exact (ih (.head _)).cons_cons c
      · exact (ih (.tail _ hpiece)).cons c

/-- Pieces without separators are cut out again when each stands behind a separator. -/
theorem cutList_flatMap {α : Type} [DecidableEq α] {sep : α} {pieces : List (List α)}
    (h : ∀ piece ∈ pieces, sep ∉ piece) :
    cutList sep (pieces.flatMap (sep :: ·)) = [] :: pieces := by
  induction pieces with
  | nil => rfl
  | cons piece rest ih =>
    obtain ⟨hpiece, hrest⟩ := List.forall_mem_cons.1 h
    rw [List.flatMap_cons, List.cons_append, cutList, if_pos rfl]
    cases rest with
    | nil => rw [List.flatMap_nil, List.append_nil, cutList_of_not_mem hpiece]
    | cons next rest =>
      have hcut := ih hrest
      rw [List.flatMap_cons, List.cons_append] at hcut ⊢
      rw [cutList, if_pos rfl] at hcut
      rw [cutList_append, cutList_of_not_mem hpiece, (List.cons.inj hcut).2]
      rfl

/-- Pieces without separators, put together with separators between them, are cut out again. -/
theorem cut_intercalate {sep : Char} {pieces : List String} (hne : pieces ≠ [])
    (h : ∀ piece ∈ pieces, sep ∉ piece.toList) :
    cut sep ((String.ofList [sep]).intercalate pieces) = pieces := by
  induction pieces with
  | nil => exact (hne rfl).elim
  | cons piece rest ih =>
    obtain ⟨hpiece, hrest⟩ := List.forall_mem_cons.1 h
    by_cases hnil : rest = []
    · rw [hnil, String.intercalate_singleton, cut_of_not_mem hpiece]
    · rw [String.intercalate_cons_of_ne_nil hnil, cut_append, cut_of_not_mem hpiece, ih hnil hrest,
        List.singleton_append]

theorem intercalate_cut (sep : Char) (s : String) :
    (String.ofList [sep]).intercalate (cut sep s) = s := by
  rw [← String.toList_inj, String.toList_intercalate, String.toList_ofList, cut, List.map_map]
  have hid : String.toList ∘ String.ofList = id := by
    funext cs
    exact String.toList_ofList
  rw [hid, List.map_id, intercalate_cutList]

/-! ## Lower case and white space -/

theorem toLower_cases (c : Char) :
    c.toLower = c ∨ 65 ≤ c.toNat ∧ c.toNat ≤ 90 ∧ c.toLower.toNat = c.toNat + 32 := by
  unfold Char.toLower
  split
  next h =>
    have hfirst : 65 ≤ c.toNat := h.1
    have hlast : c.toNat ≤ 90 := h.2
    have hc : c.toNat = c.val.toNat := rfl
    have hshift : ((97 : UInt32) - 65).toNat = 32 := by decide
    refine .inr ⟨hfirst, hlast, ?_⟩
    show (c.val + (97 - 65)).toNat = _
    rw [UInt32.toNat_add]
    omega
  next => exact .inl rfl

theorem not_isWhiteSpace_of_visible {c : Char} (hfirst : 32 < c.toNat) (hlast : c.toNat < 127) :
    isWhiteSpace c = false := by
  simp only [isWhiteSpace, Bool.or_eq_false_iff, Bool.and_eq_false_iff, decide_eq_false_iff_not,
    beq_eq_false_iff_ne]
  omega

theorem isWhiteSpace_toLower (c : Char) : isWhiteSpace c.toLower = isWhiteSpace c := by
  rcases toLower_cases c with hsame | ⟨hfirst, hlast, hshift⟩
  · rw [hsame]
  · rw [not_isWhiteSpace_of_visible (by omega) (by omega),
      not_isWhiteSpace_of_visible (by omega) (by omega)]

/-- A text is a word with white space around it. -/
def Pads (word : List Char) (s : String) : Prop :=
  ∃ left right, s.toList = left ++ word ++ right ∧ (∀ c ∈ left, isWhiteSpace c = true) ∧
    ∀ c ∈ right, isWhiteSpace c = true

theorem pads_trim (s : String) : Pads (trim s).toList s := by
  have htake {c : Char} {cs : List Char} (h : c ∈ cs.takeWhile isWhiteSpace) :
      isWhiteSpace c = true := List.mem_takeWhile_imp h
  refine ⟨s.toList.takeWhile isWhiteSpace,
    ((s.toList.dropWhile isWhiteSpace).reverse.takeWhile isWhiteSpace).reverse, ?_,
    fun c hc => htake hc, fun c hc => htake (List.mem_reverse.1 hc)⟩
  rw [trim, String.toList_ofList, List.append_assoc, ← List.reverse_append,
    List.takeWhile_append_dropWhile, List.reverse_reverse, List.takeWhile_append_dropWhile]

/-- A word without white space is what is left when the white space around it is taken away. -/
theorem trim_of_pads {word : List Char} {s : String} (h : Pads word s)
    (hword : ∀ c ∈ word, isWhiteSpace c = false) : (trim s).toList = word := by
  obtain ⟨left, right, hs, hleft, hright⟩ := h
  have hright' : ∀ c ∈ right.reverse, isWhiteSpace c = true := fun c hc =>
    hright c (List.mem_reverse.1 hc)
  have hstand {cs : List Char} (hcs : ∀ c ∈ cs, isWhiteSpace c = false) :
      cs.dropWhile isWhiteSpace = cs := by
    cases cs with
    | nil => rfl
    | cons c rest => exact List.dropWhile_cons_of_neg (by simp [hcs c (.head _)])
  rw [trim, String.toList_ofList, hs, List.append_assoc, List.dropWhile_append_of_pos hleft]
  cases word with
  | nil => rw [List.nil_append, List.dropWhile_eq_nil_iff.2 hright]; rfl
  | cons c rest =>
    have hreverse : ∀ c' ∈ (c :: rest).reverse, isWhiteSpace c' = false := fun c' hc' =>
      hword c' (List.mem_reverse.1 hc')
    rw [List.cons_append, List.dropWhile_cons_of_neg (by simp [hword c (.head _)]),
      ← List.cons_append, List.reverse_append, List.dropWhile_append_of_pos hright',
      hstand hreverse, List.reverse_reverse]

end HostRegistry.Text
