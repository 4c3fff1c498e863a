/-!
# Octets as characters

A script works on octets and knows no other characters. Each octet is held as
the character of its number, so that ASCII text reads as itself.
-/

namespace LayeredConfig.Script

/-- A text whose characters are octets. -/
abbrev Octets := List Char

namespace Octets

/-- The character of an octet. -/
def charOf (octet : UInt8) : Char := Char.ofNat octet.toNat

/-- The octet of a character. -/
def octetOf (c : Char) : UInt8 := UInt8.ofNat c.toNat

/-- The octets of some bytes. -/
def ofBytes (bytes : ByteArray) : Octets := bytes.toList.map charOf

/-- The octets of a text. -/
def ofText (text : String) : Octets := ofBytes text.toUTF8

/-- The bytes of octets. -/
def toBytes (octets : Octets) : ByteArray := ⟨(octets.map octetOf).toArray⟩

/-- The text of octets, if they are one. -/
def toText? (octets : Octets) : Option String := String.fromUTF8? (toBytes octets)

/-- The text of octets, or nothing. -/
def toText (octets : Octets) : String := (toText? octets).getD ""

/-- The character is a blank. -/
def isBlank (c : Char) : Bool := c == ' ' || c == '\t'

/-- The character may start a name. -/
def startsName (c : Char) : Bool := c.isAlpha || c == '_'

/-- The character may stand in a name. -/
def inName (c : Char) : Bool := c.isAlphanum || c == '_'

/-- The octets are the name of a variable. -/
def isName : Octets → Bool
  | [] => false
  | c :: rest => startsName c && rest.all inName

end Octets

end LayeredConfig.Script
