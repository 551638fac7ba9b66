/-!
# Decimal texts of binary fractions

A double is `mantissa · 2 ^ exponent`.  Its text has the fewest digits that read back as the same
double, and of those the ones nearest to it.  They are found by trying one digit more each time: the
two neighbours of the value on the grid of that many digits either read back or do not, which is
decided in whole numbers.
-/

namespace Rechristen.Decimal

/-- A finite double, taken apart: its value is `mantissa · 2 ^ exponent`, with its sign. -/
structure Binary where
  negative : Bool
  mantissa : Nat
  exponent : Int
  deriving DecidableEq, Repr

/-- A double taken apart, if it is finite. -/
def Binary.ofFloat? (x : Float) : Option Binary :=
  let bits := x.toBits.toNat
  let negative := bits / Nat.pow 2 63 == 1
  let power : Nat := bits / Nat.pow 2 52 % Nat.pow 2 11
  let fraction := bits % Nat.pow 2 52
  if power = 2047 then none
  else if power = 0 then some ⟨negative, fraction, -1074⟩
  else some ⟨negative, fraction + Nat.pow 2 52, Int.ofNat power - 1075⟩

/-- `n · 2 ^ e` as a fraction of whole numbers. -/
def scaled (n : Nat) (e : Int) : Nat × Nat :=
  if 0 ≤ e then (n * Nat.pow 2 e.toNat, 1) else (n, Nat.pow 2 (-e).toNat)

/-- The least `j ≤ bound` for which `num · 10 ^ j` is at least `den`. -/
def shiftUp (num den : Nat) : Nat → Nat → Nat
  | 0, j => j
  | bound + 1, j => if den ≤ num * Nat.pow 10 j then j else shiftUp num den bound (j + 1)

/-- The power of ten of the first digit of a positive fraction. -/
def leading (num den : Nat) : Int :=
  if den ≤ num then ((Nat.toDigits 10 (num / den)).length : Int) - 1
  else -(shiftUp num den 400 1 : Int)

/-- `c · 10 ^ e` compared with a fraction. -/
def compareTo (c : Nat) (e : Int) (num den : Nat) : Ordering :=
  if 0 ≤ e then compare (c * Nat.pow 10 e.toNat * den) num
  else compare (c * den) (num * Nat.pow 10 (-e).toNat)

/-- Digits and the power of ten of the last one. -/
structure Digits where
  digits : Nat
  power : Int
  deriving DecidableEq, Repr

/-- The reals that read back as a positive double lie between two fractions with a common
denominator; the ends belong to them if the mantissa is even. -/
structure Basin where
  low : Nat
  value : Nat
  high : Nat
  den : Nat
  closed : Bool

/-- The basin of a positive double: half a step to each side, and a quarter below the first double
of a power of two. -/
def Binary.basin (b : Binary) : Basin :=
  let below := if b.mantissa = Nat.pow 2 52 && b.exponent > -1074 then 1 else 2
  let (value, den) := scaled (4 * b.mantissa) (b.exponent - 2)
  let unit := (scaled 1 (b.exponent - 2)).1
  ⟨value - below * unit, value, value + 2 * unit, den, b.mantissa % 2 == 0⟩

/-- Whether a decimal reads back. -/
def Basin.holds (s : Basin) (c : Nat) (e : Int) : Bool :=
  match compareTo c e s.low s.den, compareTo c e s.high s.den with
  | .gt, .lt => true
  | .eq, _ => s.closed
  | _, .eq => s.closed
  | _, _ => false

/-- The first grid, from `count` digits on, with a point that reads back. -/
def Basin.search (s : Basin) (top : Int) : Nat → Nat → Digits
  | 0, count => ⟨s.value / s.den, 1 - (count : Int)⟩
  | tries + 1, count =>
    let power := top - (count : Int) + 1
    let floor :=
      if 0 ≤ power then s.value / (s.den * Nat.pow 10 power.toNat)
      else s.value * Nat.pow 10 (-power).toNat / s.den
    let lower := s.holds floor power
    let upper := s.holds (floor + 1) power
    if lower && upper then
      match compareTo (2 * floor + 1) power (2 * s.value) s.den with
      | .gt => ⟨floor, power⟩
      | .lt => ⟨floor + 1, power⟩
      | .eq => ⟨if floor % 2 = 0 then floor else floor + 1, power⟩
    else if lower then ⟨floor, power⟩
    else if upper then ⟨floor + 1, power⟩
    else s.search top tries (count + 1)

/-- The fewest digits that read back as a positive double. -/
def Binary.shortest (b : Binary) : Digits :=
  let s := b.basin
  s.search (leading s.value s.den) 17 1

/-- Digits without trailing zeros. -/
def strip : Nat → Digits → Digits
  | 0, d => d
  | fuel + 1, d =>
    if d.digits % 10 = 0 && d.digits ≠ 0 then strip fuel ⟨d.digits / 10, d.power + 1⟩ else d

/-- Digits written out: with a point between `10 ^ -4` and `10 ^ 16`, with an exponent of at least
two digits outside. -/
def Digits.render (d : Digits) : String :=
  let text := Nat.toDigits 10 d.digits
  let top := d.power + (text.length : Int) - 1
  if -4 ≤ top && top < 16 then
    if 0 ≤ d.power then
      String.ofList (text ++ List.replicate d.power.toNat '0') ++ ".0"
    else if 0 ≤ top then
      let whole := (top + 1).toNat
      String.ofList (text.take whole) ++ "." ++ String.ofList (text.drop whole)
    else
      "0." ++ String.ofList (List.replicate (-top - 1).toNat '0' ++ text)
  else
    let fraction := text.drop 1
    let power := toString top.natAbs
    let sign := if top < 0 then "-" else "+"
    String.ofList (text.take 1) ++
      (if fraction.isEmpty then "" else "." ++ String.ofList fraction) ++
      "e" ++ sign ++ (if power.length < 2 then "0" ++ power else power)

/-- The text of a double. -/
def ofFloat (x : Float) : String :=
  match Binary.ofFloat? x with
  | none => if x.isNaN then "nan" else if x < 0 then "-inf" else "inf"
  | some b =>
    let sign := if b.negative then "-" else ""
    if b.mantissa = 0 then sign ++ "0.0" else sign ++ (strip 400 b.shortest).render

/-- A fraction rounded to a whole number; a half goes to the even neighbour. -/
def roundHalfEven (num den : Nat) : Nat :=
  let floor := num / den
  let rest := 2 * (num % den)
  if rest < den then floor
  else if den < rest then floor + 1
  else if floor % 2 = 0 then floor else floor + 1

/-- A double rounded to two decimal places. -/
def roundToCents (x : Float) : Float :=
  match Binary.ofFloat? x with
  | none => x
  | some b =>
    let (num, den) := scaled b.mantissa b.exponent
    let rounded := Float.ofScientific (roundHalfEven (num * 100) den) true 2
    if b.negative then -rounded else rounded

/-- The double nearest to `digits · 10 ^ power`.  Beyond the range of doubles it is infinite or
zero. -/
def toFloat (digits : Nat) (power : Int) : Float :=
  let top := power + ((Nat.toDigits 10 digits).length : Int)
  if digits = 0 || top < -400 then 0
  else if top > 400 then 1 / 0
  else Float.ofScientific digits (decide (power < 0)) power.natAbs

/-- The whole number a double is, if it is one. -/
def wholeOf? (x : Float) : Option Int :=
  match Binary.ofFloat? x with
  | none => none
  | some b =>
    let (num, den) := scaled b.mantissa b.exponent
    if num % den = 0 then
      some (if b.negative then -((num / den : Nat) : Int) else (num / den : Nat))
    else none

end Rechristen.Decimal
