import HostRegistry.Release

/-!
# Container infos

What is known of one deployed container: its id, the alias that clients route by, and the release
it was deployed from. An info is found under its keys, the id and, when it differs, the alias.
-/

namespace HostRegistry

structure ContainerInfo where
  containerId : String
  aliasName : String
  release : Release
deriving DecidableEq, Repr

namespace ContainerInfo

/-- The info of a container that clients route to by the artifact of its release. -/
def ofRelease (containerId : String) (release : Release) : ContainerInfo :=
  ⟨containerId, release.artifact, release⟩

/-- The distinct keys that the info is registered under. -/
def keys (info : ContainerInfo) : List String :=
  if info.aliasName = info.containerId then [info.containerId]
  else [info.containerId, info.aliasName]

/-- Infos are listed by container id, then alias, then release. -/
instance : Ord ContainerInfo where
  compare :=
    compareLex (compareOn containerId) (compareLex (compareOn aliasName) (compareOn release))

instance : Std.TransOrd ContainerInfo :=
  inferInstanceAs (Std.TransCmp
    (compareLex (compareOn containerId) (compareLex (compareOn aliasName) (compareOn release))))

instance : Std.LawfulEqOrd ContainerInfo where
  eq_of_compare {a b} h := by
    obtain ⟨hid, h⟩ := compareLex_eq_eq.1 h
    obtain ⟨halias, hrelease⟩ := compareLex_eq_eq.1 h
    have hid : a.containerId = b.containerId := Std.LawfulEqOrd.eq_of_compare hid
    have halias : a.aliasName = b.aliasName := Std.LawfulEqOrd.eq_of_compare halias
    have hrelease : a.release = b.release := Std.LawfulEqOrd.eq_of_compare hrelease
    cases a
    cases b
    rw [mk.injEq]
    exact ⟨hid, halias, hrelease⟩

end ContainerInfo

end HostRegistry
