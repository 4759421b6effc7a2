import Mathlib.Data.List.Basic
import Mathlib.Logic.Function.Iterate

/-!
# CRC-32C

The Castagnoli polynomial, lowest bit first; the remainder is inverted before and after.

* `bitStep`, `byteStep`    one bit and one byte into the remainder;
* `crc32cAppend`           the checksum of more bytes, **`crc32cAppend_append`**: piece by piece it is the
                           checksum of all of them.
-/

namespace Base

def crc32cPolynomial : UInt32 := 0x82F63B78

namespace Crc32c

def bitStep (r : UInt32) : UInt32 :=
  if r &&& 1 = 1 then (r >>> 1) ^^^ crc32cPolynomial else r >>> 1

def byteStep (r : UInt32) (byte : UInt8) : UInt32 := bitStep^[8] (r ^^^ byte.toUInt32)

end Crc32c

/-- the checksum of what `crc` is the checksum of, and these bytes behind it -/
def crc32cAppend (crc : UInt32) (bytes : List UInt8) : UInt32 := ~~~ (bytes.foldl Crc32c.byteStep (~~~ crc))

def crc32c (bytes : List UInt8) : UInt32 := crc32cAppend 0 bytes

example : crc32c ("123456789".toList.map fun c => UInt8.ofNat c.toNat) = 0xE3069283 := by decide +kernel

theorem crc32cAppend_nil (crc : UInt32) : crc32cAppend crc [] = crc := UInt32.not_not

theorem crc32cAppend_append (crc : UInt32) (a b : List UInt8) :
    crc32cAppend crc (a ++ b) = crc32cAppend (crc32cAppend crc a) b := by
  unfold crc32cAppend
  rw [UInt32.not_not, List.foldl_append]

end Base
