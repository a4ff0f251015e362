/-
# Keys of UUIDs

The hyphens of a UUID stand behind digits 8, 12, 16 and 20. The key is cut around the first
one and ends at the second one, so it is the first 12 of the 32 digits, and these are the
number divided by `16 ^ 20`:

| bits | digits | what they are |
| --- | --- | --- |
| 80 … 127 | 1 … 12 | the key |
| 76 … 79 | 13 | the version |
| 62, 63 | in 17 | the variant |
| 0 … 61, 64 … 75 | the rest | random |

So nothing of a random UUID that is known beforehand is in the key.
-/

import Hotspot.Proofs.Config.Acceptable
import Hotspot.Proofs.Text.Hexadecimal

namespace Hotspot
namespace Uuid

variable {u v : Uuid} {t : Text}

/-- Forty-eight bits are left of the UUID, which is twelve digits. -/
theorem shiftRight_lt (u : Uuid) : u.val >>> 80 < 16 ^ 12 := by
  have hlt := u.isLt
  rw [Nat.shiftRight_eq_div_pow]
  omega

/-- The key is the digits of the upper bits. -/
theorem key_eq_hexDigits (u : Uuid) : u.key = Text.hexDigits 12 (u.val >>> 80) := by
  have hlt : u.val < 16 ^ 32 := u.isLt
  have hpow : 16 ^ 20 = 2 ^ 80 := by decide
  rw [key_eq, Text.ofHex_eq_hexDigits (by decide) hlt, Text.hexDigits_add 12 20,
    List.take_left' (Text.length_hexDigits _ _), hpow, Nat.shiftRight_eq_div_pow]

/-- The twelve digits of these bits are the key and nothing else is. -/
theorem isHexNumeral_key_iff : Text.IsHexNumeral 12 (u.val >>> 80) t ↔ u.key = t := by
  rw [key_eq_hexDigits, Text.isHexNumeral_iff (shiftRight_lt u), eq_comm]

/-- So the key is a numeral of them. -/
theorem isHexNumeral_key (u : Uuid) : Text.IsHexNumeral 12 (u.val >>> 80) u.key :=
  isHexNumeral_key_iff.2 rfl

/-- No digit is a hyphen. -/
theorem hyphen_notMem_key (u : Uuid) : 0x2D ∉ u.key := by
  have hhyphen : 0x2D ∉ Text.hexAlphabet := by decide
  exact fun h => hhyphen ((isHexNumeral_key u).digits 0x2D h)

/-- Two keys are the same just if these bits are. -/
theorem key_eq_iff : u.key = v.key ↔ u.val >>> 80 = v.val >>> 80 := by
  constructor
  · intro h
    rw [← (isHexNumeral_key u).value, h, (isHexNumeral_key v).value]
  · intro h
    rw [key_eq_hexDigits, h, ← key_eq_hexDigits]

/-- A UUID with the version in bits 76 … 79 and the variant in bits 62 and 63, all others
kept. A random UUID has the version 4 and the variant 2. -/
def marked (version : Fin 16) (variant : Fin 4) (u : Uuid) : Uuid :=
  ⟨u.val / 2 ^ 80 * 2 ^ 80 + version.val * 2 ^ 76 + u.val / 2 ^ 64 % 2 ^ 12 * 2 ^ 64 +
    variant.val * 2 ^ 62 + u.val % 2 ^ 62, by
    have hu := u.isLt
    have hversion := version.isLt
    have hvariant := variant.isLt
    omega⟩

/-- Version and variant are marked in bits that the key does not show. -/
theorem shiftRight_marked (version : Fin 16) (variant : Fin 4) (u : Uuid) :
    (u.marked version variant).val >>> 80 = u.val >>> 80 := by
  have hversion := version.isLt
  have hvariant := variant.isLt
  rw [Nat.shiftRight_eq_div_pow, Nat.shiftRight_eq_div_pow, marked]
  dsimp only
  omega

/-- **The key is the upper 48 bits of the UUID**: their numeral of twelve hexadecimal digits,
in lower case and with zeros in front. There is no hyphen in it, two UUIDs have the same key
just if they agree in these bits, and version and variant are not among them. -/
theorem key_is_upper_bits :
    (∀ (u : Uuid) (t : Text), u.key = t ↔ Text.IsHexNumeral 12 (u.val >>> 80) t) ∧
    (∀ u : Uuid, 0x2D ∉ u.key) ∧
    (∀ u v : Uuid, u.key = v.key ↔ u.val >>> 80 = v.val >>> 80) ∧
    ∀ (u : Uuid) (version : Fin 16) (variant : Fin 4), (u.marked version variant).key = u.key := by
  refine ⟨fun _ _ => isHexNumeral_key_iff.symm, hyphen_notMem_key, fun _ _ => key_eq_iff, ?_⟩
  intro u version variant
  exact key_eq_iff.2 (shiftRight_marked version variant u)

end Uuid
end Hotspot
