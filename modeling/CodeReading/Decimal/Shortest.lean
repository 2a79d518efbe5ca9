import CodeReading.Decimal.Numeral

set_option autoImplicit false

/-!
# Shortest decimals of binary numbers

The decimal with the fewest digits that reads back as a given finite number, and of those the
nearest to it. The reals that read back as `m * 2 ^ q` form an interval around it, whose ends belong
to it when `m` is even. For one digit, then two, and so on, the two multiples of the power of ten
around the number are tested against the interval in exact arithmetic; seventeen digits always do.
-/
namespace CodeReading.Shortest

/-- A positive binary number `4 * m * 2 ^ q` with the distances, in units of `2 ^ q`, to the ends of
    the interval that rounds to it. -/
structure Interval where
  value : Nat
  below : Nat
  above : Nat
  exponent : Int
  closed : Bool

def hiddenBit : Nat := 0x10000000000000

/-- The interval of a positive finite number, given by its bits. A power of two has its lower
    neighbour at half the distance of the upper one. -/
def Interval.ofBits (bits : Nat) : Interval :=
  let field := bits / hiddenBit % 2048
  let low := bits % hiddenBit
  let m := if field = 0 then low else hiddenBit + low
  let q : Int := if field = 0 then -1074 else Int.ofNat field - 1075
  ⟨4 * m, if low = 0 ∧ 1 < field then 1 else 2, 2, q - 2, m % 2 = 0⟩

/-- `n * 2 ^ e * 10 ^ -p` as a fraction. -/
def scaled (n : Nat) (e p : Int) : Nat × Nat :=
  (n * Nat.pow 2 e.toNat * Nat.pow 10 (-p).toNat, Nat.pow 2 (-e).toNat * Nat.pow 10 p.toNat)

def Interval.holds (i : Interval) (p : Int) (n : Nat) : Bool :=
  let (low, unit) := scaled (i.value - i.below) i.exponent p
  let (high, _) := scaled (i.value + i.above) i.exponent p
  if i.closed then low ≤ n * unit && n * unit ≤ high else low < n * unit && n * unit < high

/-- The multiple of `10 ^ p` in the interval that is nearest to the value, if a neighbour of the
    value is one; an exact tie goes to the even multiple. -/
def Interval.nearest? (i : Interval) (p : Int) : Option Nat :=
  let (value, unit) := scaled i.value i.exponent p
  let down := value / unit
  let twice := 2 * (value - down * unit)
  match i.holds p down, i.holds p (down + 1) with
  | true, true => some (if twice < unit ∨ (twice = unit ∧ down % 2 = 0) then down else down + 1)
  | true, false => some down
  | false, true => some (down + 1)
  | false, false => none

def Interval.leading (i : Interval) : Int :=
  let (value, unit) := scaled i.value i.exponent 0
  if unit ≤ value then (value / unit).repr.length - 1
  else
    let p : Int := -(unit / value).repr.length
    let (value', unit') := scaled i.value i.exponent (p + 1)
    if unit' ≤ value' then p + 1 else p

/-- The first power of ten, from `p` downwards, that has a multiple in the interval. -/
def Interval.search (i : Interval) (p : Int) : Nat → Nat × Int
  | 0 => (0, p)
  | steps + 1 =>
    match i.nearest? p with
    | some n => (n, p)
    | none => i.search (p - 1) steps

/-- Without its trailing zeros, `n * 10 ^ p`; a number of at most `steps` digits is done. -/
def dropZeros (n : Nat) (p : Int) : Nat → Nat × Int
  | 0 => (n, p)
  | steps + 1 => if n % 10 = 0 then dropZeros (n / 10) (p + 1) steps else (n, p)

def ofBits (bits : Nat) : Nat × Int :=
  let i := Interval.ofBits bits
  let (n, p) := i.search i.leading 17
  dropZeros n p 17

/-- Numbers from `10 ^ -5` up to `10 ^ 16` are written without exponent, always with a point; the
    others with one digit before the point and no point when that is the only digit. -/
def layout (negative : Bool) (n : Nat) (p : Int) : Numeral :=
  let digits := n.repr.toList
  let point := digits.length + p
  if 0 ≤ p ∧ point ≤ 16 then ⟨negative, n * Nat.pow 10 p.toNat, ['0'], none⟩
  else if 0 < point ∧ point ≤ 16 then
    ⟨negative, Nat.ofDigitChars 10 (digits.take point.toNat) 0, digits.drop point.toNat, none⟩
  else if -5 < point ∧ point ≤ 0 then
    ⟨negative, 0, List.replicate (-point).toNat '0' ++ digits, none⟩
  else ⟨negative, Nat.ofDigitChars 10 (digits.take 1) 0, digits.drop 1, some (point - 1)⟩

end Shortest

def signBit : Nat := 0x8000000000000000

/-- The shortest numeral of a number; infinities and NaN have none. -/
def Numeral.ofFloat? (x : Float) : Option Numeral :=
  let bits := x.toBits.toNat
  let negative := signBit ≤ bits
  let bits := bits % signBit
  if 0x7FF0000000000000 ≤ bits then none
  else if bits = 0 then some ⟨negative, 0, ['0'], none⟩
  else
    let (n, p) := Shortest.ofBits bits
    some (Shortest.layout negative n p)

end CodeReading
