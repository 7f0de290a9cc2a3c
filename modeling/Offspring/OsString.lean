import Offspring.Text.Lossy

/-!
# Strings of the operating system

Paths, arguments and environment entries are octets to the operating system: any but NUL may occur and
nothing says that they are text. They are shown with a replacement character where they are not.
-/

namespace Offspring

/-- Octets as the operating system takes them. -/
abbrev OsString := ByteArray

namespace OsString

-- The priority keeps this comparison the one in use where another library brings a second one.
instance (priority := 1100) decEq : DecidableEq OsString :=
  ByteArray.instDecidableEq

/-- The octets of a text. -/
def ofString (s : String) : OsString :=
  s.toUTF8

/-- The octets as text for people. -/
def shown (s : OsString) : String :=
  Text.lossy s

/-- Whether an octet is NUL, which no call of the operating system can take. -/
def hasNul (s : OsString) : Bool :=
  s.toList.contains 0

end OsString

end Offspring
