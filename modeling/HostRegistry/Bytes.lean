/-!
# Bytes

Files and message bodies are lists of bytes. A text stands for its UTF-8 encoding.
-/

namespace HostRegistry

abbrev Bytes := List UInt8

namespace Bytes

def ofText (s : String) : Bytes := s.toUTF8.data.toList

/-- The text that the bytes encode, if they are UTF-8. -/
def toText? (bs : Bytes) : Option String := String.fromUTF8? ⟨bs.toArray⟩

theorem toText?_ofText (s : String) : toText? (ofText s) = some s := by
  simp only [toText?, ofText, String.fromUTF8?, String.toUTF8_eq_toByteArray, Array.toArray_toList,
    dif_pos s.isValidUTF8]
  rfl

end Bytes

end HostRegistry
