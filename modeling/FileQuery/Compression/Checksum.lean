/-!
# Checksums

The checksum of bytes is the remainder of a division of polynomials over two elements: the bytes,
lowest bit first, by a polynomial of degree 32 or 64. Start and result are inverted. In another
order, highest bit first, the remainder has the same polynomial the other way round.

There is also a checksum of two sums: one of the bytes, and one of what the first sum was after
each byte.
-/

namespace FileQuery.Compression

/-- The polynomial, with the coefficient of its lowest power in the highest bit. -/
def polynomial : UInt32 := 0xEDB88320

/-- The remainder after another bit. -/
def shiftBit (remainder : UInt32) : UInt32 :=
  if remainder &&& 1 = 1 then (remainder >>> 1) ^^^ polynomial else remainder >>> 1

/-- The remainder after a number of bits. -/
def shiftBits : Nat → UInt32 → UInt32
  | 0, remainder => remainder
  | count + 1, remainder => shiftBits count (shiftBit remainder)

/-- The remainder after another byte. -/
def shiftByte (remainder : UInt32) (byte : UInt8) : UInt32 :=
  shiftBits 8 (remainder ^^^ byte.toUInt32)

/-- The checksum of bytes. -/
def checksum (bytes : List UInt8) : Nat :=
  (bytes.foldl shiftByte 0xFFFFFFFF ^^^ 0xFFFFFFFF).toNat

/-- The polynomial of degree 64, with the coefficient of its lowest power in the highest bit. -/
def longPolynomial : UInt64 := 0xC96C5795D7870F42

/-- The remainder of degree 64 after a number of bits. -/
def shiftLong : Nat → UInt64 → UInt64
  | 0, remainder => remainder
  | count + 1, remainder =>
    shiftLong count
      (if remainder &&& 1 = 1 then (remainder >>> 1) ^^^ longPolynomial else remainder >>> 1)

/-- The checksum of bytes by the polynomial of degree 64. -/
def longChecksum (bytes : List UInt8) : Nat :=
  let start : UInt64 := 0xFFFFFFFFFFFFFFFF
  (bytes.foldl (fun remainder byte => shiftLong 8 (remainder ^^^ byte.toUInt64)) start
    ^^^ start).toNat

/-- The polynomial with the coefficient of its lowest power in the lowest bit. -/
def forwardPolynomial : UInt32 := 0x04C11DB7

/-- The remainder after a number of bits, highest bit first. -/
def shiftForward : Nat → UInt32 → UInt32
  | 0, remainder => remainder
  | count + 1, remainder =>
    shiftForward count
      (if remainder &&& 0x80000000 = 0 then remainder <<< 1
       else (remainder <<< 1) ^^^ forwardPolynomial)

/-- The checksum of bytes, highest bit of each first. -/
def forwardChecksum (bytes : List UInt8) : Nat :=
  let start : UInt32 := 0xFFFFFFFF
  let shift (remainder : UInt32) (byte : UInt8) : UInt32 :=
    shiftForward 8 (remainder ^^^ byte.toUInt32 <<< (24 : UInt32))
  (bytes.foldl shift start ^^^ start).toNat

/-- The checksum of two sums, each modulo the largest prime below 65536. -/
def sumChecksum (bytes : List UInt8) : Nat :=
  let (sum, sums) := bytes.foldl (fun (sum, sums) byte =>
    let sum := (sum + byte.toNat) % 65521
    (sum, (sums + sum) % 65521)) (1, 0)
  sums * 0x10000 + sum

/-- No bytes have the checksum zero. -/
theorem checksum_nil : checksum [] = 0 := by decide

end FileQuery.Compression
