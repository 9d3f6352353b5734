import LocalSwarm.Fault
import LocalSwarm.Time

/-! Spans of time written as seconds. A decimal is first brought to the nearest number of
fifty-three significant bits, and that number to the nearest nanosecond; ties go to even. -/
namespace LocalSwarm.Seconds

/-- The natural number nearest to a quotient, of two the even one. -/
def roundDiv (numerator denominator : Nat) : Nat :=
  let q := numerator / denominator
  let r := numerator % denominator
  if 2 * r < denominator then q
  else if denominator < 2 * r then q + 1
  else q + q % 2

/-- `numerator / (denominator * 2 ^ exponent)` as a quotient of natural numbers. -/
def scaled (numerator denominator : Nat) (exponent : Int) : Nat × Nat :=
  match exponent with
  | .ofNat e => (numerator, denominator <<< e)
  | .negSucc e => (numerator <<< (e + 1), denominator)

/-- The binary exponent at which a quotient has fifty-three bits before the point, but no less
than the least one there is. -/
def exponentOf (numerator denominator : Nat) : Int :=
  let guess : Int := (numerator.log2 : Int) - denominator.log2 - 52
  let (n, d) := scaled numerator denominator guess
  max (if n < d <<< 52 then guess - 1 else guess) (-1074)

/-- The nearest number of fifty-three significant bits: a natural number and a power of two. -/
def nearest (numerator denominator : Nat) : Nat × Int :=
  let e := exponentOf numerator denominator
  let (n, d) := scaled numerator denominator e
  (roundDiv n d, e)

/-- The span of so many seconds. Seconds have sixty-four bits. -/
def toSpan (mantissa places : Nat) : Except Fault Span :=
  let (m, e) := nearest mantissa (Nat.pow 10 places)
  let (n, d) := scaled m 1 (-e)
  if n / d < UInt64.size then .ok (Span.ofNanoseconds (roundDiv (n * 1000000000) d))
  else .error .overflow

end LocalSwarm.Seconds
