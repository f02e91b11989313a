import HostRegistry.Json.Reader
import HostRegistry.Json.Value

/-!
# Reading from where a value stands

What a reader makes of a value does not depend on what follows it, nor on blanks before it.
-/

namespace HostRegistry.Json

/-- The reader gives the value for these bytes, with any blanks before them and anything behind
them. They begin neither with a blank nor with what closes a list. -/
structure Reads {α : Type} (value : Reader α) (bytes : Bytes) (a : α) : Prop where
  begins : ∃ b tail, bytes = b :: tail ∧ isBlank b = false ∧ b ≠ 0x5D
  read : ∀ blanks rest : Bytes, (∀ b ∈ blanks, isBlank b = true) →
    value (blanks ++ (bytes ++ rest)) = .ok (a, rest)

theorem Reads.read_here {α : Type} {value : Reader α} {bytes : Bytes} {a : α}
    (h : Reads value bytes a) (rest : Bytes) : value (bytes ++ rest) = .ok (a, rest) :=
  h.read [] rest fun _ hb => (List.not_mem_nil hb).elim

theorem skipBlanks_of_not_blank {b : UInt8} (h : isBlank b = false) (rest : Bytes) :
    skipBlanks (b :: rest) = b :: rest := by
  rw [skipBlanks, List.dropWhile_cons_of_neg]
  rw [h]
  decide

theorem skipBlanks_append {blanks : Bytes} (h : ∀ b ∈ blanks, isBlank b = true) (rest : Bytes) :
    skipBlanks (blanks ++ rest) = skipBlanks rest := by
  induction blanks with
  | nil => rfl
  | cons b blanks ih =>
    obtain ⟨hb, hblanks⟩ := List.forall_mem_cons.1 h
    rw [List.cons_append, skipBlanks, List.dropWhile_cons_of_pos hb]
    exact ih hblanks

/-- Behind blanks, a reader of a value stands at the value's first byte. -/
theorem skipBlanks_append_cons {blanks : Bytes} (h : ∀ b ∈ blanks, isBlank b = true) {b : UInt8}
    (hb : isBlank b = false) (rest : Bytes) : skipBlanks (blanks ++ b :: rest) = b :: rest := by
  rw [skipBlanks_append h, skipBlanks_of_not_blank hb]

theorem isBlank_of_mem_newLine {level : Nat} {b : UInt8} (h : b ∈ newLine level) :
    isBlank b = true := by
  rw [newLine, List.mem_cons, List.mem_replicate] at h
  rcases h with h | ⟨-, h⟩ <;> subst h <;> decide

end HostRegistry.Json
