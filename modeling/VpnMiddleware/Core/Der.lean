import Mathlib.Data.Nat.Digits.Defs

/-!
# DER

The encoding of a value as its tag, its length and its content.  Lengths below
128 take one octet; longer ones are led by the number of their octets.
-/

namespace VpnMiddleware.Der

def lengthOctets (length : ℕ) : List UInt8 :=
  if length < 128 then [UInt8.ofNat length]
  else
    let octets := (Nat.digits 256 length).reverse.map UInt8.ofNat
    UInt8.ofNat (128 + octets.length) :: octets

/-- Tag, length, content. -/
def tlv (tag : UInt8) (content : List UInt8) : List UInt8 :=
  tag :: (lengthOctets content.length ++ content)

variable {tag : UInt8} {content : List UInt8}

theorem tlv_of_short (hshort : content.length < 128) :
    tlv tag content = tag :: UInt8.ofNat content.length :: content := by
  rw [tlv, lengthOctets, if_pos hshort]
  rfl

end VpnMiddleware.Der
