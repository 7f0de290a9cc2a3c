/-!
# Text in 16-bit units

A character below U+10000 is one unit, any other a high and a low surrogate. `decode` reads units
back and refuses a surrogate without its partner.
-/

namespace Offspring.Text

/-- The one or two units of a character. -/
def units (c : Char) : List UInt16 :=
  let v := c.toNat
  if v < 0x10000 then [v.toUInt16]
  else [(0xD800 + (v - 0x10000) / 0x400).toUInt16, (0xDC00 + (v - 0x10000) % 0x400).toUInt16]

/-- The units of a text, in order. -/
def utf16 (s : String) : List UInt16 :=
  s.toList.flatMap units

/-- Whether a unit is the first half of a pair. -/
def isHighSurrogate (u : UInt16) : Bool := 0xD800 ≤ u && u < 0xDC00

/-- Whether a unit is the second half of a pair. -/
def isLowSurrogate (u : UInt16) : Bool := 0xDC00 ≤ u && u < 0xE000

/-- Units read back as characters; a surrogate without its partner has no reading. -/
def decodeUtf16 : List UInt16 → Option (List Char)
  | [] => some []
  | u :: rest =>
    if isLowSurrogate u then none
    else if isHighSurrogate u then
      match rest with
      | [] => none
      | v :: rest =>
        if isLowSurrogate v then
          let bits := 0x10000 + (u.toNat - 0xD800) * 0x400 + (v.toNat - 0xDC00)
          (decodeUtf16 rest).map (Char.ofNat bits :: ·)
        else none
    else (decodeUtf16 rest).map (Char.ofNat u.toNat :: ·)

end Offspring.Text
