import HostRegistry.Json.Registry
import HostRegistry.Proofs.Json.Members

/-!
# Reading what is written without blanks

The members of an object that is written without blanks are read one after the other. A member whose
value is read sets the field of its name; one whose value is refused is the fault of the whole
object, and the fault names the field.
-/

namespace HostRegistry.Json

/-- What stands before a member: a comma, unless it is the first one. -/
def lead (first : Bool) : Bytes := if first then [] else [comma]

namespace Struct

variable {ρ α β : Type} {fields : List (Field ρ)} {fuel : Nat} {first : Bool} {given : ρ}
  {name field : String} {isGiven : ρ → Bool} {value : Reader β} {set : ρ → β → ρ} {bytes : Bytes}

theorem nextMember_lead (first : Bool) (name : String) (behind : Bytes) :
    nextMember first (lead first ++ (quoted name ++ behind)) = .ok (some name, behind) := by
  obtain ⟨tail, htail, hread⟩ := (spells_quoted name).readQuoted
  rw [htail, List.cons_append]
  cases first with
  | true => exact (nextMember_opened Blanks.nil _).trans (by rw [hread]; rfl)
  | false => exact (nextMember_behind Blanks.nil Blanks.nil _).trans (by rw [hread]; rfl)

theorem readColon_here (rest : Bytes) : readColon (0x3A :: rest) = .ok rest :=
  readColon_colon Blanks.nil rest

theorem readMembers_assign {b : β} (known : fields.find? (·.name = name) =
      some ⟨field, isGiven, setting value set⟩)
    (fresh : isGiven given = false) (h : Reads value bytes b) (rest : Bytes) :
    readMembers fields (fuel + 1) first given
        (lead first ++ (quoted name ++ 0x3A :: (bytes ++ rest))) =
      readMembers fields fuel false (set given b) rest := by
  rw [readMembers_field (nextMember_lead first name _) known fresh (readColon_here _)]
  simp only [setting, h.read_here, bind, Except.bind, pure, Except.pure, mapError_ok]

theorem readMembers_refuse {fault : Fault} {behind : Bytes}
    (known : fields.find? (·.name = name) = some ⟨field, isGiven, setting value set⟩)
    (fresh : isGiven given = false) (h : value behind = .error fault) :
    readMembers fields (fuel + 1) first given (lead first ++ (quoted name ++ 0x3A :: behind)) =
      .error (fault.under (.field name)) := by
  rw [readMembers_field (nextMember_lead first name _) known fresh (readColon_here _)]
  simp only [setting, h, bind, Except.bind]
  rfl

/-- Reading an object comes down to reading its members and making up the structure. -/
theorem read_brace (struct : Struct ρ α) (input : Bytes) :
    struct.read (0x7B :: input) =
      (readMembers struct.fields (input.length + 1) true struct.start input).bind
        fun (given, rest) =>
          match struct.finish given with
          | .ok a => .ok (a, rest)
          | .error missing => .error (.shape [] (.missingField missing)) := by
  rw [read, skipBlanks_of_not_blank (by decide)]
  rfl

end Struct

end HostRegistry.Json
