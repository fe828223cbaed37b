/-!
The floating-point number nearest to a decimal. Beyond the range of the floating-point numbers the
answer is infinity or zero, found from the place of the first digit alone, so that an exponent of
any size is read at once.
-/

namespace SchemaBook.Decimal

/-- The place of the first digit from which on every decimal is infinite. -/
def infinitePlace : Int := 400

/-- The float nearest to `digits · 10 ^ exponent`; `count` bounds the number of digits. -/
def nearestFloat (digits : Nat) (count : Nat) (exponent : Int) : Float :=
  if digits = 0 then 0
  else if infinitePlace < exponent then 1.0 / 0.0
  else if exponent + count < -infinitePlace then 0
  else if exponent < 0 then Float.ofScientific digits true exponent.natAbs
  else Float.ofScientific digits false exponent.natAbs

end SchemaBook.Decimal
