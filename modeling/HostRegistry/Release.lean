import HostRegistry.Text.Blank
import HostRegistry.Text.Pieces

/-!
# Release coordinates

A release is named by its group, artifact and version, written `group:artifact:version`. Reading
takes the three pieces verbatim: it refuses a text with another number of pieces, and one whose
pieces are not all more than white space.
-/

namespace HostRegistry

structure Release where
  group : String
  artifact : String
  version : String
deriving DecidableEq, Repr

namespace Release

inductive Part
  | group
  | artifact
  | version
deriving DecidableEq, Repr

def Part.name : Part → String
  | .group => "group"
  | .artifact => "artifact"
  | .version => "version"

inductive ReadError
  | malformed (text : String)
  | emptyPart (text : String) (part : Part)
deriving DecidableEq, Repr

def ReadError.message : ReadError → String
  | .malformed text => s!"release id '{text}' must have the form group:artifact:version"
  | .emptyPart text part => s!"release id '{text}' has an empty {part.name}"

/-- The coordinates as one text. -/
def text (r : Release) : String := r.group ++ ":" ++ r.artifact ++ ":" ++ r.version

def get (r : Release) : Part → String
  | .group => r.group
  | .artifact => r.artifact
  | .version => r.version

/-- The first part that is blank, in the order they are written. -/
def blankPart? (r : Release) : Option Part :=
  [Part.group, .artifact, .version].find? fun part => Text.isBlank (r.get part)

def ofText (s : String) : Except ReadError Release :=
  match Text.cut ':' s with
  | [group, artifact, version] =>
    let release : Release := ⟨group, artifact, version⟩
    match release.blankPart? with
    | some part => .error (.emptyPart s part)
    | none => .ok release
  | _ => .error (.malformed s)

instance : Ord Release where
  compare := compareLex (compareOn group) (compareLex (compareOn artifact) (compareOn version))

instance : Std.TransOrd Release :=
  inferInstanceAs (Std.TransCmp
    (compareLex (compareOn group) (compareLex (compareOn artifact) (compareOn version))))

instance : Std.LawfulEqOrd Release where
  eq_of_compare {a b} h := by
    obtain ⟨hgroup, h⟩ := compareLex_eq_eq.1 h
    obtain ⟨hartifact, hversion⟩ := compareLex_eq_eq.1 h
    have hgroup : a.group = b.group := Std.LawfulEqOrd.eq_of_compare hgroup
    have hartifact : a.artifact = b.artifact := Std.LawfulEqOrd.eq_of_compare hartifact
    have hversion : a.version = b.version := Std.LawfulEqOrd.eq_of_compare hversion
    cases a
    cases b
    rw [mk.injEq]
    exact ⟨hgroup, hartifact, hversion⟩

end Release

end HostRegistry
