/-! The bytes of a text. -/

namespace Warden.Text

/-- The UTF-8 form of the characters, one after another. -/
def utf8 (text : List Char) : List UInt8 :=
  text.flatMap String.utf8EncodeChar

@[simp] theorem utf8_append (first second : List Char) :
    utf8 (first ++ second) = utf8 first ++ utf8 second := by
  -- Each character is encoded without regard to its neighbours.
  simp [utf8]

/-- The bytes of a text are those that it is kept in. -/
theorem utf8_toList (text : String) : utf8 text.toList = text.toUTF8.data.toList := by
  have kept : text.toList.utf8Encode = text.toUTF8 := String.utf8Encode_toList
  rw [← kept]
  simp [utf8, List.utf8Encode]

/-- The lower-case hexadecimal digits of the bytes, two for each. -/
def hexBytes (bytes : List UInt8) : List Char :=
  bytes.flatMap fun b =>
    [Nat.digitChar (b.toNat / 16), Nat.digitChar (b.toNat % 16)]

end Warden.Text
