/-!
# The shortest decimal of a binary fraction

A finite positive double is `m · 2 ^ e`. Every real near it rounds to it, and among the decimals in
that interval `Binary.shortest` picks one with the fewest digits and, of those, the one nearest to
the double. All of it is exact arithmetic on natural numbers: a grid of decimals with a given number
of digits meets the interval exactly when one of the two neighbours of the value on that grid does.
-/

namespace SheetPress

/-- A decimal `digits · 10 ^ exponent`. -/
structure Decimal where
  digits : Nat
  exponent : Int
  deriving DecidableEq, Repr

/-- A finite double without its sign: `mantissa · 2 ^ exponent`. -/
structure Binary where
  mantissa : Nat
  exponent : Int
  deriving DecidableEq, Repr

/-- A power of two. -/
def powerOfTwo (n : Nat) : Nat := Nat.pow 2 n

/-- A power of ten. -/
def powerOfTen (n : Nat) : Nat := Nat.pow 10 n

/-- The number of bits of the mantissa of a double, but for the leading one. -/
def mantissaBits : Nat := 52

/-- The magnitude of a finite double, read off its bits. -/
def Binary.ofBits (bits : Nat) : Binary :=
  let fraction := bits % powerOfTwo mantissaBits
  let field := bits / powerOfTwo mantissaBits % powerOfTwo 11
  if field = 0 then ⟨fraction, -1074⟩
  else ⟨powerOfTwo mantissaBits + fraction, Int.ofNat field - 1075⟩

/-- What happens when two shortest decimals are equally near. -/
inductive Tie where
  /-- The larger of the two is taken. -/
  | up
  /-- The one with an even last digit is taken. -/
  | even
  deriving DecidableEq, Repr

/-- The reals that round to a double, as multiples of `1 / unit`. -/
structure RoundingInterval where
  low : Nat
  value : Nat
  high : Nat
  unit : Nat
  /-- Whether the two ends round to the double as well. -/
  closed : Bool

/-- The interval around a double reaches half way to its two neighbours. The lower neighbour of a
power of two is twice as near, but for the smallest exponent. Ends go to the even mantissa. -/
def Binary.interval (b : Binary) : RoundingInterval :=
  let low := if b.mantissa = powerOfTwo mantissaBits ∧ b.exponent > -1074 then 4 * b.mantissa - 1
    else 4 * b.mantissa - 2
  let scale := powerOfTwo (b.exponent - 2).toNat
  { low := low * scale
    value := 4 * b.mantissa * scale
    high := (4 * b.mantissa + 2) * scale
    unit := powerOfTwo (2 - b.exponent).toNat
    closed := b.mantissa % 2 == 0 }

/-- The number of decimal digits of a natural number. -/
def digitCount (n : Nat) : Nat := (Nat.toDigits 10 n).length

/-- The place of the leading digit of `num / den`: the largest `k` with `10 ^ k ≤ num / den`. -/
def leadingPlace (num den : Nat) : Int :=
  let guess := Int.ofNat (digitCount num) - Int.ofNat (digitCount den)
  if den * powerOfTen guess.toNat ≤ num * powerOfTen (-guess).toNat then guess else guess - 1

namespace RoundingInterval

/-- The nearest multiple of `10 ^ place` in the interval, if there is one: of the two neighbours of
the value the nearer that lies inside; the rule of ties decides when both are equally near. -/
def onGrid? (tie : Tie) (iv : RoundingInterval) (place : Int) : Option Nat :=
  let up := powerOfTen (-place).toNat
  let step := iv.unit * powerOfTen place.toNat
  let value := iv.value * up
  let below := value / step
  let inside (d : Nat) : Bool :=
    if iv.closed then iv.low * up ≤ d * step && d * step ≤ iv.high * up
    else iv.low * up < d * step && d * step < iv.high * up
  let pick := match compare (value - below * step) ((below + 1) * step - value) with
    | .lt => below
    | .gt => below + 1
    | .eq => if tie = .even ∧ below % 2 = 0 then below else below + 1
  match inside below, inside (below + 1) with
  | true, true => some pick
  | true, false => some below
  | false, true => some (below + 1)
  | false, false => none

/-- The first grid, from `count` digits on, that meets the interval. -/
def search (tie : Tie) (iv : RoundingInterval) (lead : Int) (count : Nat) : Nat → Decimal
  | 0 =>
    let place := lead + 1 - Int.ofNat count
    ⟨iv.value * powerOfTen (-place).toNat / (iv.unit * powerOfTen place.toNat), place⟩
  | tries + 1 =>
    let place := lead + 1 - Int.ofNat count
    match onGrid? tie iv place with
    | some digits => ⟨digits, place⟩
    | none => search tie iv lead (count + 1) tries

end RoundingInterval

/-- The same decimal without zeros at its end. -/
def Decimal.stripZeros (d : Decimal) : Decimal :=
  if h : d.digits ≠ 0 ∧ d.digits % 10 = 0 then
    Decimal.stripZeros ⟨d.digits / 10, d.exponent + 1⟩
  else d
termination_by d.digits
decreasing_by exact Nat.div_lt_self (Nat.pos_of_ne_zero h.1) (by decide)

/-- The shortest decimal that rounds to the double, and of those the nearest. -/
def Binary.shortest (tie : Tie) (b : Binary) : Decimal :=
  if b.mantissa = 0 then ⟨0, 0⟩
  else
    let iv := b.interval
    (RoundingInterval.search tie iv (leadingPlace iv.value iv.unit) 1 17).stripZeros

end SheetPress
