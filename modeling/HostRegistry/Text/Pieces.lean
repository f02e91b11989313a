/-!
# Cutting text at a separator

`cut` gives the pieces between the separators, so a text with `n` separators has `n + 1` pieces. No
piece holds a separator, and with the separators put back the pieces are the text.
-/

namespace HostRegistry.Text

/-- The pieces of a list between its occurrences of `sep`; there is always at least one. -/
def cutList {α : Type} [DecidableEq α] (sep : α) : List α → List (List α)
  | [] => [[]]
  | c :: rest =>
    if c = sep then [] :: cutList sep rest
    else
      match cutList sep rest with
      | piece :: pieces => (c :: piece) :: pieces
      | [] => [[c]]

def cut (sep : Char) (s : String) : List String :=
  (cutList sep s.toList).map String.ofList

theorem cutList_ne_nil {α : Type} [DecidableEq α] (sep : α) (cs : List α) :
    cutList sep cs ≠ [] := by
  cases cs with
  | nil => simp [cutList]
  | cons c rest =>
    simp only [cutList]
    split
    · simp
    · split <;> simp

/-- Nothing but the separators is lost. -/
theorem intercalate_cutList {α : Type} [DecidableEq α] (sep : α) (cs : List α) :
    [sep].intercalate (cutList sep cs) = cs := by
  induction cs with
  | nil => rfl
  | cons c rest ih =>
    obtain ⟨piece, pieces, hcut⟩ := List.exists_cons_of_ne_nil (cutList_ne_nil sep rest)
    rw [cutList]
    split
    next hc =>
      rw [hcut] at ih ⊢
      rw [← ih, hc]
      rfl
    next =>
      rw [hcut] at ih
      simp only [hcut]
      rw [← ih]
      cases pieces <;> rfl

theorem not_mem_of_mem_cutList {α : Type} [DecidableEq α] {sep : α} {cs piece : List α}
    (h : piece ∈ cutList sep cs) : sep ∉ piece := by
  induction cs generalizing piece with
  | nil =>
    cases List.mem_singleton.1 h
    exact List.not_mem_nil
  | cons c rest ih =>
    obtain ⟨first, pieces, hcut⟩ := List.exists_cons_of_ne_nil (cutList_ne_nil sep rest)
    rw [cutList] at h
    split at h
    next =>
      rcases List.mem_cons.1 h with h | h
      · rw [h]
        exact List.not_mem_nil
      · exact ih h
    next hc =>
      simp only [hcut] at h ih
      rcases List.mem_cons.1 h with h | h
      · rw [h]
        intro hsep
        rcases List.mem_cons.1 hsep with hsep | hsep
        · exact hc hsep.symm
        · exact ih (.head _) hsep
      · exact ih (.tail _ h)

theorem length_cutList {α : Type} [DecidableEq α] (sep : α) (cs : List α) :
    (cutList sep cs).length = cs.count sep + 1 := by
  induction cs with
  | nil => rfl
  | cons c rest ih =>
    obtain ⟨piece, pieces, hcut⟩ := List.exists_cons_of_ne_nil (cutList_ne_nil sep rest)
    rw [cutList]
    split
    next hc => rw [List.length_cons, ih, hc, List.count_cons_self]
    next hc =>
      rw [List.count_cons_of_ne hc, ← ih]
      simp only [hcut, List.length_cons]

theorem cutList_of_not_mem {α : Type} [DecidableEq α] {sep : α} {cs : List α} (h : sep ∉ cs) :
    cutList sep cs = [cs] := by
  induction cs with
  | nil => rfl
  | cons c rest ih =>
    rw [List.mem_cons, not_or] at h
    rw [cutList, if_neg (Ne.symm h.1), ih h.2]

/-- A separator parts the pieces before it from those behind it. -/
theorem cutList_append {α : Type} [DecidableEq α] (sep : α) (cs rest : List α) :
    cutList sep (cs ++ sep :: rest) = cutList sep cs ++ cutList sep rest := by
  induction cs with
  | nil => simp [cutList]
  | cons c cs ih =>
    obtain ⟨piece, pieces, hcut⟩ := List.exists_cons_of_ne_nil (cutList_ne_nil sep cs)
    rw [List.cons_append, cutList, cutList, ih]
    split
    · rfl
    · simp only [hcut, List.cons_append]

end HostRegistry.Text
