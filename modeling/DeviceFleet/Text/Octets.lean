/-! Octet strings, and texts as UTF-8. A text has one octet form, and the octets
that are the form of some text are the ones `decode?` accepts. -/

namespace DeviceFleet

abbrev Bytes := List UInt8

namespace Text

/-- The UTF-8 form of a text. -/
def encode (s : String) : Bytes := s.toByteArray.data.toList

def decode? (bs : Bytes) : Option String := String.fromUTF8? ⟨bs.toArray⟩

theorem decode?_encode (s : String) : decode? (encode s) = some s := by
  have h : (⟨(encode s).toArray⟩ : ByteArray) = s.toByteArray := by simp [encode]
  simp [decode?, h, String.fromUTF8?, String.fromUTF8, s.isValidUTF8]

theorem eq_encode_of_decode? {bs : Bytes} {s : String} (h : decode? bs = some s) :
    bs = encode s := by
  simp only [decode?, String.fromUTF8?] at h
  split at h
  · obtain rfl := Option.some.inj h
    simp [encode, String.fromUTF8]
  · cases h

end Text

end DeviceFleet
