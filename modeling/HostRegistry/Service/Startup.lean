import HostRegistry.Repository

/-!
# Opening the registry

At its start the service loads the registry from its file, and attaches the listener that announces
what is served after each reload.
-/

namespace HostRegistry

/-- The live registry of the given name, with the repository that it came from. -/
def openRegistry {σ ι : Type} (st : Store ι) (name : ι) (memory : σ) :
    Except RepositoryError (Session σ) × Store ι :=
  match st.load name with
  | (.error e, st) => (.error e, st)
  | (.ok contents, st) =>
    let registry := (Registry.ofSnapshot contents).attach reloadLogger
    (.ok ⟨registry, memory, []⟩, st)

end HostRegistry
