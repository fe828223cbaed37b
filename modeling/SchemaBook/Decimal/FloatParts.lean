import SchemaBook.Decimal.Shortest

/-!
Floating-point numbers taken apart into sign and exact size, and the whole number that one equals.
-/

namespace SchemaBook.Decimal

/-- The biased exponent of infinity and of results that are no number. -/
def infiniteExponent : Nat := 0x7ff

/-- The bits of a 64-bit float taken apart: sign, biased exponent and fraction. -/
def parts (x : Float) : Bool × Nat × Nat :=
  let bits := x.toBits.toNat
  let upper := bits / Binary.leastNormal
  (upper > infiniteExponent, upper % (infiniteExponent + 1), bits % Binary.leastNormal)

def size? (biased fraction : Nat) : Option Binary :=
  if biased = 0 then
    if fraction = 0 then none else some ⟨fraction, Binary.leastExponent⟩
  else some ⟨Binary.leastNormal + fraction, Binary.leastExponent + (biased - 1 : Nat)⟩

def whole? (x : Float) : Option Int :=
  let (negative, biased, fraction) := parts x
  let signed (n : Nat) : Int := if negative then -(n : Int) else n
  if biased = infiniteExponent then none
  else
    match size? biased fraction with
    | none => some 0
    | some size =>
      let unit := Nat.pow 2 (-size.exponent).toNat
      if size.mantissa % unit = 0 then
        some (signed (size.mantissa / unit * Nat.pow 2 size.exponent.toNat))
      else none

end SchemaBook.Decimal
