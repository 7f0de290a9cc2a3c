import Offspring.Posix.Launch
import Offspring.Proofs.Posix.System

/-!
# The report of a failed step

A number of 32 bits comes out of its four octets as it went in.
-/

namespace Offspring.Posix

/-- Four octets in order. -/
theorem toList_four (a b c d : UInt8) : ByteArray.toList ⟨#[a, b, c, d]⟩ = [a, b, c, d] := by
  simp [ByteArray.toList, ByteArray.toList.loop, ByteArray.size, ByteArray.get!]

/-- A report takes four octets. -/
theorem size_reportOctets (e : Errno) : (ExecPlan.reportOctets e).size = 4 := rfl

/-- The octets of a number below 2 ^ 32 add up to it. -/
theorem octets_add_up {n : Nat} (h : n < 0x100000000) :
    n % 256 + 0x100 * (n / 0x100 % 256 + 0x100 * (n / 0x10000 % 256 + 0x100 * (n / 0x1000000 % 256 + 0x100 * 0))) =
      n := by
  omega

/-- The number of an error is reported unchanged. -/
theorem number_reportOctets {e : Errno} (h : IsWord e) : Report.number (ExecPlan.reportOctets e) = e.number := by
  obtain ⟨hlow, hhigh⟩ := h
  have hn : (e.number % 0x100000000).toNat < 0x100000000 := by omega
  simp only [Report.number, ExecPlan.reportOctets, toList_four, List.foldr_cons, List.foldr_nil,
    UInt8.toNat_ofNat', Nat.toUInt8_eq, Nat.reducePow, octets_add_up hn]
  split <;> omega

/-- A whole report tells the error that it was made for. -/
theorem ofOctets_reportOctets {e : Errno} (h : IsWord e) :
    Report.ofOctets (ExecPlan.reportOctets e) = .failed e := by
  simp only [Report.ofOctets, size_reportOctets, number_reportOctets h]
  rfl

end Offspring.Posix
