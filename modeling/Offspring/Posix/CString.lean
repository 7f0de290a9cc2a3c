import Offspring.Error

/-!
# Strings and arrays in memory

What a new program gets lies in memory: a text is its octets with a NUL behind them, an array of texts is
pointers to them with a null pointer behind them. Readers get as far as the first NUL and the first null
pointer, so octets that hold a NUL are refused when they are laid out.
-/

namespace Offspring.Posix

/-- Octets without a NUL, which end in memory with one. -/
structure CString where
  octets : OsString
  whole : octets.hasNul = false

namespace CString

/-- Lays octets out, if they hold no NUL. -/
def ofOctets (what : String) (octets : OsString) : Except LaunchError CString :=
  if whole : octets.hasNul = false then .ok ⟨octets, whole⟩ else .error (.nulByte what)

/-- Lays texts out, if none holds a NUL. -/
def ofTexts (what : String) (texts : List String) : Except LaunchError (List CString) :=
  texts.mapM fun text => ofOctets what (.ofString text)

/-- What lies in memory. -/
def memory (s : CString) : ByteArray :=
  s.octets.push 0

/-- What a reader gets. -/
def read (s : CString) : OsString :=
  ⟨(s.memory.data.toList.takeWhile (· ≠ 0)).toArray⟩

end CString

/-- Pointers to texts in memory. -/
structure StringArray where
  texts : List CString
  /-- The texts' places; the null pointer has none. -/
  pointers : List (Option Nat)

namespace StringArray

/-- Points to every text in order, and then nowhere. -/
def ofTexts (texts : List CString) : StringArray :=
  ⟨texts, (List.range texts.length).map some ++ [none]⟩

/-- What a reader gets who follows pointers to texts up to the first null pointer. -/
def follow (texts : List CString) : List (Option Nat) → List OsString
  | some place :: rest => (texts[place]?.map CString.read).toList ++ follow texts rest
  | _ => []

/-- What a reader gets. -/
def read (a : StringArray) : List OsString :=
  follow a.texts a.pointers

end StringArray

end Offspring.Posix
