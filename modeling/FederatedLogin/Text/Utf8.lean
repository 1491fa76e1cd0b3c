/-!
# UTF-8

The bytes of a text, and the text of bytes.
-/

namespace FederatedLogin.Text

/-- The bytes of a text. -/
def toBytes (cs : List Char) : List UInt8 := cs.flatMap String.utf8EncodeChar

/-- The text of bytes, if they are well formed. -/
def ofBytes? (bytes : List UInt8) : Option (List Char) :=
  (ByteArray.mk bytes.toArray).utf8Decode?.map Array.toList

/-- The bytes of a text are read as that text. -/
theorem ofBytes?_toBytes (cs : List Char) : ofBytes? (toBytes cs) = some cs := by
  have same : ByteArray.mk (toBytes cs).toArray = cs.utf8Encode := by
    apply ByteArray.ext
    unfold List.utf8Encode toBytes
    rw [List.data_toByteArray]
  unfold ofBytes?
  rw [same, List.utf8Decode?_utf8Encode, Option.map_some]

end FederatedLogin.Text
