/-!
# Text as bytes

The UTF-8 form of a text, as a list of bytes.
-/

namespace Credentials.Bytes

/-- The UTF-8 bytes of some characters. -/
def utf8 (chars : List Char) : List UInt8 := chars.flatMap String.utf8EncodeChar

/-- The characters that some bytes are the UTF-8 form of. -/
def ofUtf8? (bytes : List UInt8) : Option (List Char) :=
  (String.fromUTF8? bytes.toByteArray).map String.toList

/-- Reading the bytes of a text gives the text back. -/
theorem ofUtf8?_utf8 (chars : List Char) : ofUtf8? (utf8 chars) = some chars := by
  have h : (utf8 chars).toByteArray = (String.ofList chars).toByteArray := by
    simp [utf8, List.utf8Encode, String.toByteArray_ofList]
  unfold ofUtf8? String.fromUTF8?
  rw [h, dif_pos (String.ofList chars).isValidUTF8]
  change some (String.ofList chars).toList = some chars
  rw [String.toList_ofList]

end Credentials.Bytes
