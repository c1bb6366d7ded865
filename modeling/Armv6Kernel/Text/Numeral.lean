/-!
# Written numbers

Numerals in base two and base sixteen, padded with zeros to a fixed number of digits.  Addresses are
written in upper case with eight digits, register images and program counters in lower case, and raw
descriptor words as thirty-two binary digits.
-/

namespace Armv6Kernel.Numeral

/-- The digits of `number` in `base`, in lower case and padded on the left to `width` digits. -/
def padded (base width number : Nat) : String :=
  let digits := Nat.toDigits base number
  String.ofList (List.replicate (width - digits.length) '0' ++ digits)

/-- A number in base sixteen without padding: `0x8124`. -/
def hex (number : Nat) : String :=
  "0x" ++ padded 16 1 number

/-- A word in base sixteen with eight lower-case digits: `0x00c50078`. -/
def hexWord (number : Nat) : String :=
  "0x" ++ padded 16 8 number

/-- A word in base sixteen with eight upper-case digits: `0x00C50078`. -/
def upperHexWord (number : Nat) : String :=
  "0x" ++ (padded 16 8 number).toUpper

/-- A number in base two with at least `width` digits. -/
def binary (width number : Nat) : String :=
  "0b" ++ padded 2 width number

end Armv6Kernel.Numeral
