import TreeOutline.Number.Binary64

namespace TreeOutline

/-!
# The bits of doubles

A double is stored in 64 bits: its sign, eleven bits for the exponent and 52 for the mantissa, whose
first bit is left out where the exponent is not the least one.

* `Binary64.ofBits` — the double that 64 bits store.
* `Binary64.toBits` — the bits that store a double.
* `Binary64.ofFloat`, `Binary64.toFloat` — from and to the machine's own doubles.
-/

namespace Binary64

/-- The number behind the last mantissa whose first bit is left out. -/
def hiddenBit : Nat := 0x10000000000000

/-- The bit of the sign. -/
def signBit : Nat := 0x8000000000000000

/-- The bits of the exponent in infinities and in what is no number. -/
def exponentBits : Nat := 0x7FF

/-- The double that 64 bits store. -/
def ofBits (bits : Nat) : Binary64 :=
  let negative : Bool := signBit ≤ bits
  let exponent := bits / hiddenBit % (exponentBits + 1)
  let fraction := bits % hiddenBit
  if exponent = exponentBits then (if fraction = 0 then .infinite negative else .nan)
  else if exponent = 0 then .finite negative fraction leastExponent
  else .finite negative (hiddenBit + fraction) ((exponent : Int) - 1 + leastExponent)

/-- The bits that store a double. -/
def toBits : Binary64 → Nat
  | .finite negative mantissa exponent =>
    (if negative then signBit else 0) +
      (if mantissa < hiddenBit then mantissa
        else ((exponent - leastExponent).toNat + 1) * hiddenBit + (mantissa - hiddenBit))
  | .infinite negative => (if negative then signBit else 0) + exponentBits * hiddenBit
  | .nan => exponentBits * hiddenBit + hiddenBit / 2

/-- The value of one of the machine's doubles. -/
def ofFloat (x : Float) : Binary64 := ofBits x.toBits.toNat

/-- The machine's double of a value. -/
def toFloat (x : Binary64) : Float := Float.ofBits (UInt64.ofNat x.toBits)

end Binary64

end TreeOutline
