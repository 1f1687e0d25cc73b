import ChatScribe.Text.Basic

/-!
# Numbers of single precision

A number in a selector is kept as a binary fraction of 24 digits. `Single.renderDecimal` writes a decimal number
as it looks after that: with the fewest digits that still lead to the same binary fraction, and without
an exponent.
-/

namespace ChatScribe.Css

/-- The number `mantissa * 2 ^ exponent`. A number that is not tiny has a mantissa of 24 digits. -/
structure Single where
  mantissa : Nat
  exponent : Int
deriving DecidableEq, Repr

namespace Single

/-- The digits of a mantissa. -/
def precision : Nat := 24

def minExponent : Int := -149

def maxExponent : Int := 104

/-- A fraction times a power of a base, as a fraction. -/
def scale (base num den : Nat) (power : Int) : Nat × Nat :=
  if 0 ≤ power then (num * Nat.pow base power.toNat, den)
  else (num, den * Nat.pow base (-power).toNat)

/-- The whole number nearest to a fraction. Between two of them the even one is taken. -/
def nearest (num den : Nat) : Nat :=
  let q := num / den
  let twice := 2 * (num % den)
  if twice < den || (twice == den && q % 2 == 0) then q else q + 1

/-- The single nearest to a fraction, unless it is too large for one. -/
def ofFraction? (num den : Nat) : Option Single :=
  if num = 0 then some ⟨0, minExponent⟩
  else
    let guess : Int := (num.log2 : Int) - (den.log2 : Int) - (precision : Int)
    let wholeAt (e : Int) : Nat := let (n, d) := scale 2 num den (-e); n / d
    let e := max minExponent (if wholeAt guess < Nat.pow 2 precision then guess else guess + 1)
    let (n, d) := scale 2 num den (-e)
    let m := nearest n d
    let s : Single :=
      if m = Nat.pow 2 precision then ⟨Nat.pow 2 (precision - 1), e + 1⟩ else ⟨m, e⟩
    if maxExponent < s.exponent then none else some s

/-- The bounds of the numbers that become a single, in quarters of its last digit. -/
def bounds (s : Single) : Nat × Nat :=
  let isLowest := s.mantissa = Nat.pow 2 (precision - 1) && s.exponent != minExponent
  (4 * s.mantissa - (if isLowest then 1 else 2), 4 * s.mantissa + 2)

/-- Does the number `d * 10 ^ power` become the single? The bounds themselves do if its mantissa is
even. -/
def holds (s : Single) (d : Nat) (power : Int) : Bool :=
  let (low, high) := s.bounds
  let (n, unit) := scale 10 d 1 power
  let (n, den) := scale 2 n unit (2 - s.exponent)
  if s.mantissa % 2 = 0 then low * den ≤ n && n ≤ high * den else low * den < n && n < high * den

/-- The decimal digits of a single and the power of ten of the last of them, looked for from a power
downwards. The first power that has a number in the bounds gives the fewest digits. -/
def shortest (s : Single) : Nat → Int → Nat × Int
  | 0, power => (0, power)
  | fuel + 1, power =>
    let (n, d) := scale 2 s.mantissa 1 s.exponent
    let (n, d) := scale 10 n d (-power)
    let near := nearest n d
    let other := if near * d ≤ n then near + 1 else near - 1
    if near != 0 && s.holds near power then (near, power)
    else if other != 0 && s.holds other power then (other, power)
    else shortest s fuel (power - 1)

/-- A whole number times a power of ten, in positional notation. -/
def positional (digits : Nat) (power : Int) : Text :=
  if 0 ≤ power then Text.ofNat digits ++ List.replicate power.toNat '0'
  else
    let places := (-power).toNat
    let unit := Nat.pow 10 places
    let part := Text.ofNat (digits % unit)
    Text.ofNat (digits / unit) ++ '.' :: (List.replicate (places - part.length) '0' ++ part)

/-- The largest power of ten below all singles that are too large. -/
def topPower : Int := 38

/-- The number of powers of ten between the largest and the smallest single. -/
def powers : Nat := 100

def render (s : Single) : Text :=
  if s.mantissa = 0 then ['0']
  else
    let (digits, power) := s.shortest powers topPower
    positional digits power

/-- The single of a decimal number. A number beyond all powers is not worked out. -/
def ofDecimal? (digits : Nat) (power : Int) : Option Single :=
  let size : Int := (Text.ofNat digits).length + power
  if digits = 0 || size < -60 then some ⟨0, minExponent⟩
  else if 60 < size then none
  else
    let (num, den) := scale 10 digits 1 power
    ofFraction? num den

/-- A decimal number as it is shown. -/
def renderDecimal (digits : Nat) (power : Int) : Text :=
  match ofDecimal? digits power with
  | some s => s.render
  | none => "inf".toList

end Single

end ChatScribe.Css
