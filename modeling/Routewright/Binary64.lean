/-!
# Binary floating-point numbers

The numbers of the 64-bit binary format as exact values: a sign, a significand below `2 ^ 53` and a
power of two. `ofRatio` is the number nearest to a quotient, an exact tie going to the even
significand; decimal text, products and sums are rounded through it. `digits` is the other way: the
fewest decimal digits that read back, and of those the nearest to the value.
-/

namespace Routewright

/-- A number of the 64-bit binary format. A finite one is `significand * 2 ^ exponent`. -/
inductive Binary64
  | nan
  | infinite (negative : Bool)
  | finite (negative : Bool) (significand : Nat) (exponent : Int)
  deriving DecidableEq, Repr

namespace Binary64

/-- The least exponent, that of zero and of the subnormal numbers. -/
def minExponent : Int := -1074

/-- Zero of either sign. -/
def zero (negative : Bool) : Binary64 :=
  .finite negative 0 minExponent

/-- A quotient divided by a power of two, as numerator and denominator. -/
def scaled (num den : Nat) (q : Int) : Nat × Nat :=
  if 0 ≤ q then (num, den * Nat.pow 2 q.toNat) else (num * Nat.pow 2 (-q).toNat, den)

/-- The natural number nearest to a quotient; a tie goes to the even one. -/
def roundDiv (num den : Nat) : Nat :=
  let n := num / den
  let twice := 2 * (num % den)
  if twice < den then n
  else if den < twice then n + 1
  else n + n % 2

/-- The number nearest to `num / den`. -/
def ofRatio (negative : Bool) (num den : Nat) : Binary64 :=
  if num = 0 then zero negative
  else
    let guess : Int := (num.log2 : Int) - den.log2 - 52
    let low := scaled num den guess
    let tight := if low.1 < low.2 * Nat.pow 2 52 then guess - 1 else guess
    let q := max tight minExponent
    let s := scaled num den q
    let m := roundDiv s.1 s.2
    let (m, q) := if m = Nat.pow 2 53 then (Nat.pow 2 52, q + 1) else (m, q)
    if 971 < q then .infinite negative else .finite negative m q

/-- The number nearest to `significand * 10 ^ exponent`. Powers so large or so small that the digits
cannot bring them back into the range are decided without being computed. -/
def ofDecimal (negative : Bool) (significand : Nat) (exponent : Int) : Binary64 :=
  if significand = 0 then zero negative
  else if 400 < exponent then .infinite negative
  else if exponent + (significand.log2 : Int) < -400 then zero negative
  else if 0 ≤ exponent then ofRatio negative (significand * Nat.pow 10 exponent.toNat) 1
  else ofRatio negative significand (Nat.pow 10 (-exponent).toNat)

/-- A finite magnitude as a quotient. -/
def ratio (significand : Nat) (exponent : Int) : Nat × Nat :=
  if 0 ≤ exponent then (significand * Nat.pow 2 exponent.toNat, 1)
  else (significand, Nat.pow 2 (-exponent).toNat)

/-- A finite number as a quotient with the sign in the numerator. -/
def signedRatio (negative : Bool) (significand : Nat) (exponent : Int) : Int × Nat :=
  let r := ratio significand exponent
  (if negative then -(r.1 : Int) else r.1, r.2)

/-- Whether a number is negative, zero of the negative sign included. -/
def isNegative : Binary64 → Bool
  | .nan => false
  | .infinite s => s
  | .finite s _ _ => s

/-- The product of two numbers. -/
def mul : Binary64 → Binary64 → Binary64
  | .nan, _ | _, .nan => .nan
  | .finite s m p, .finite t n q =>
    let r := ratio (m * n) (p + q)
    ofRatio (s != t) r.1 r.2
  | .finite _ 0 _, _ | _, .finite _ 0 _ => .nan
  | a, b => .infinite (a.isNegative != b.isNegative)

/-- The sum of two numbers. A sum of zero is negative only if both summands are. -/
def add : Binary64 → Binary64 → Binary64
  | .nan, _ | _, .nan => .nan
  | .finite s m p, .finite t n q =>
    let a := signedRatio s m p
    let b := signedRatio t n q
    let sum : Int := a.1 * b.2 + b.1 * a.2
    ofRatio (if sum = 0 then s && t else decide (sum < 0)) sum.natAbs (a.2 * b.2)
  | .infinite s, .infinite t => if s = t then .infinite s else .nan
  | .infinite s, _ | _, .infinite s => .infinite s

/-- A number with its sign turned. -/
def neg : Binary64 → Binary64
  | .nan => .nan
  | .infinite s => .infinite !s
  | .finite s m q => .finite (!s) m q

/-- Whether a number is zero. -/
def isZero : Binary64 → Bool
  | .finite _ 0 _ => true
  | _ => false

/-- The integer that a number equals, if it does. -/
def toInt? : Binary64 → Option Int
  | .finite s m q =>
    let r := ratio m q
    if r.1 % r.2 = 0 then
      let n : Int := (r.1 / r.2 : Nat)
      some (if s then -n else n)
    else none
  | _ => none

/-- Equality of values: zeros of both signs are equal, and no number equals `nan`. -/
def same : Binary64 → Binary64 → Bool
  | .nan, _ | _, .nan => false
  | a, b => (a.isZero && b.isZero) || a = b

/-- The number of decimal digits of `n`. -/
def decimalLength (n : Nat) : Nat :=
  (Nat.toDigits 10 n).length

/-- The power of ten of the first decimal digit of a positive quotient. -/
def decimalExponent (num den : Nat) : Int :=
  if den ≤ num then (decimalLength (num / den) : Int) - 1
  else -(decimalLength ((den + num - 1) / num - 1) : Int)

/-- A decimal of the grid of multiples of `10 ^ k`, as the multiple, when it reads back as `m * 2 ^
q`. Of the two neighbours of the value the nearer is taken, of two equally near the even. -/
def nearestOnGrid? (m : Nat) (q : Int) (k : Int) : Option Nat :=
  -- everything is measured in quarters of the last place of the significand
  let lowGap := if m = Nat.pow 2 52 && minExponent < q then 1 else 2
  let unit := ratio 1 (q - 2)
  let grid : Nat × Nat := if 0 ≤ k then (Nat.pow 10 k.toNat, 1) else (1, Nat.pow 10 (-k).toNat)
  -- a quarter is `unit.1 / unit.2`, a grid step `grid.1 / grid.2`
  let quarter := unit.1 * grid.2
  let step := grid.1 * unit.2
  let value := 4 * m * quarter
  let low := (4 * m - lowGap) * quarter
  let high := (4 * m + 2) * quarter
  let inside (t : Nat) : Bool :=
    let x := t * step
    if m % 2 = 0 then low ≤ x && x ≤ high else low < x && x < high
  let below := value / step
  let above := below + 1
  let toBelow := value - below * step
  let toAbove := above * step - value
  match inside below, inside above with
  | false, false => none
  | true, false => some below
  | false, true => some above
  | true, true =>
    if toBelow < toAbove then some below
    else if toAbove < toBelow then some above
    else some (if below % 2 = 0 then below else above)

/-- The shortest decimal of at least `17 - more` digits that reads back, as `(n, k)` for
`n * 10 ^ k`. -/
def shortestFrom (m : Nat) (q first : Int) : Nat → Nat × Int
  | 0 => (0, 0)
  | more + 1 =>
    let k := first - (17 - (more + 1) : Nat)
    match nearestOnGrid? m q k with
    | some n => (n, k)
    | none => shortestFrom m q first more

/-- The digits of a positive magnitude without zeros at the end, and the power of ten that
`0.digits` is multiplied by. -/
def digits (m : Nat) (q : Int) : List Char × Int :=
  let r := ratio m q
  let (n, k) := shortestFrom m q (decimalExponent r.1 r.2) 17
  let ds := Nat.toDigits 10 n
  ((ds.reverse.dropWhile (· = '0')).reverse, (ds.length : Int) + k)

/-- Decimal digits with a point after the first `point` of them; zeros are added where digits are
missing, and there is at least one digit on either side. -/
def positional (ds : List Char) (point : Int) : List Char :=
  if point ≤ 0 then '0' :: '.' :: List.replicate (-point).toNat '0' ++ ds
  else
    let p := point.toNat
    if ds.length ≤ p then ds ++ List.replicate (p - ds.length) '0' ++ ['.', '0']
    else ds.take p ++ '.' :: ds.drop p

/-- Decimal digits with a power of ten, whose sign is written and which has at least two digits. -/
def scientific (ds : List Char) (power : Int) : List Char :=
  let mantissa := match ds with
    | [] => []
    | [d] => [d]
    | d :: rest => d :: '.' :: rest
  let size := Nat.toDigits 10 power.natAbs
  mantissa ++ 'e' :: (if power < 0 then '-' else '+') ::
    (List.replicate (2 - size.length) '0' ++ size)

/-- A magnitude in decimal: positional from `0.0001` up to below `10 ^ 16`. -/
def magnitude (m : Nat) (q : Int) : List Char :=
  if m = 0 then ['0', '.', '0']
  else
    let (ds, point) := digits m q
    if -4 < point && point ≤ 16 then positional ds point else scientific ds (point - 1)

/-- The text of a number. -/
def text : Binary64 → String
  | .nan => "nan"
  | .infinite s => if s then "-inf" else "inf"
  | .finite s m q => String.ofList (if s then '-' :: magnitude m q else magnitude m q)

end Binary64

end Routewright
