import PolledNet.Bytes

/-!
# Text as octets

UTF-8 text in datagrams. Text that must be right is refused as a whole; text that is only shown is
kept as far as it is right.
-/

namespace PolledNet.Text

/-- The UTF-8 octets of a text. -/
def octets (s : String) : Bytes := s.toByteArray.data.toList

/-- The text of octets that are UTF-8 throughout. -/
def ofOctets? (b : Bytes) : Option String := String.fromUTF8? ⟨b.toArray⟩

/-- The characters from position `i` on, up to the first octet that starts none. Every character
takes an octet, so `fuel` characters are enough for as many octets. -/
def leadingChars (b : ByteArray) (i : Nat) : (fuel : Nat) → List Char
  | 0 => []
  | fuel + 1 =>
    match b.utf8DecodeChar? i with
    | some c => c :: leadingChars b (i + c.utf8Size) fuel
    | none => []

/-- The text of octets as far as they are UTF-8. -/
def ofOctetsPrefix (b : Bytes) : String :=
  match ofOctets? b with
  | some s => s
  | none => String.ofList (leadingChars ⟨b.toArray⟩ 0 b.length)

/-- Reading the octets of a text gives the text back. -/
theorem ofOctets?_octets (s : String) : ofOctets? (octets s) = some s := by
  have valid : (ByteArray.mk (octets s).toArray).IsValidUTF8 := s.isValidUTF8
  simp only [ofOctets?, String.fromUTF8?, dif_pos valid]
  rfl

/-- Octets that read as a text are the octets of that text. -/
theorem octets_of_ofOctets? {b : Bytes} {s : String} (h : ofOctets? b = some s) : octets s = b := by
  simp only [ofOctets?, String.fromUTF8?] at h
  split at h
  · cases h
    rfl
  · cases h

/-- A text is read back from its octets. -/
theorem ofOctetsPrefix_octets (s : String) : ofOctetsPrefix (octets s) = s := by
  simp [ofOctetsPrefix, ofOctets?_octets]

end PolledNet.Text
