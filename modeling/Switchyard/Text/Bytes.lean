/-!
# Bytes of text

Files hold bytes, and text reaches them in UTF-8. Reading is strict: bytes that
are not the UTF-8 form of a text, such as encoded surrogates or overlong forms,
read as nothing.
-/

namespace Switchyard

abbrev Bytes := List UInt8

namespace Bytes

def ofText (text : String) : Bytes :=
  text.toByteArray.data.toList

def text? (bytes : Bytes) : Option String :=
  String.fromUTF8? (ByteArray.mk bytes.toArray)

@[simp]
theorem text?_ofText (text : String) : text? (ofText text) = some text := by
  have whole : ByteArray.mk (ofText text).toArray = text.toByteArray := by
    simp [ofText]
  unfold text? String.fromUTF8?
  rw [whole]
  have valid : text.toByteArray.IsValidUTF8 := text.isValidUTF8
  simp only [valid, dite_true]
  rfl

end Bytes

end Switchyard
