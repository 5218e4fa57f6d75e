/-!
# Shortest decimal forms of binary64 numbers

A finite binary64 number is `m * 2 ^ q`.  Every real closer to it than to
its neighbours reads back as it, so among the decimals in that interval the
ones with the fewest digits are searched, and of two of the same length the
nearer one is taken.  The search runs in exact arithmetic on naturals.
-/

namespace InterfaceManager.Text

/-- A finite nonzero binary64 magnitude with the interval of the reals that
round to it, all in units of `2 ^ unit`. -/
structure Magnitude where
  value : Nat
  low : Nat
  high : Nat
  /-- Whether the ends of the interval round to the number too. -/
  closed : Bool
  unit : Int

/-- The magnitude behind the exponent and fraction fields of a binary64
number. -/
def Magnitude.ofFields (exponent fraction : Nat) : Magnitude :=
  let m := if exponent = 0 then fraction else fraction + (1 <<< 52)
  let e : Int := if exponent = 0 then -1074 else (exponent : Int) - 1075
  { value := 4 * m
    low := 4 * m - (if fraction = 0 ∧ 1 < exponent then 1 else 2)
    high := 4 * m + 2
    closed := m % 2 = 0
    unit := e - 2 }

/-- A decimal: `digits * 10 ^ exponent`. -/
structure DecimalForm where
  digits : Nat
  exponent : Int
  deriving DecidableEq, Repr

/-- `n * 2 ^ unit / 10 ^ power` as a numerator and a denominator. -/
def Magnitude.scaled (x : Magnitude) (n : Nat) (power : Int) : Nat × Nat :=
  ((n <<< x.unit.toNat) * Nat.pow 10 (-power).toNat,
    (1 <<< (-x.unit).toNat) * Nat.pow 10 power.toNat)

/-- The order of magnitude: the greatest `k` with `10 ^ k` at most the
value, searched downwards from `k`. -/
def Magnitude.order (x : Magnitude) : Nat → Int → Int
  | 0, k => k
  | fuel + 1, k =>
    let (n, d) := x.scaled x.value k
    if d ≤ n then k else x.order fuel (k - 1)

/-- Whether a decimal reads back as the number. -/
def Magnitude.readsBack (x : Magnitude) (form : DecimalForm) : Bool :=
  let (lowN, lowD) := x.scaled x.low form.exponent
  let (highN, highD) := x.scaled x.high form.exponent
  let c := form.digits
  if x.closed then lowN ≤ c * lowD && c * highD ≤ highN
  else lowN < c * lowD && c * highD < highN

/-- The decimal with steps of `10 ^ power` that is nearest to the value
among its two neighbours there, if one of them reads back. -/
def Magnitude.onGrid? (x : Magnitude) (power : Int) : Option DecimalForm :=
  let (n, d) := x.scaled x.value power
  let below : DecimalForm := ⟨n / d, power⟩
  let above : DecimalForm := ⟨n / d + 1, power⟩
  match x.readsBack below, x.readsBack above with
  | true, true =>
    let twice := 2 * (n % d)
    if twice < d ∨ (twice = d ∧ below.digits % 2 = 0) then some below
    else some above
  | true, false => some below
  | false, true => some above
  | false, false => none

/-- The first grid with a hit, from coarse to fine. -/
def Magnitude.search (x : Magnitude) : Nat → Int → DecimalForm
  | 0, power => ⟨(x.scaled x.value power).1 / (x.scaled x.value power).2, power⟩
  | fuel + 1, power => (x.onGrid? power).getD (x.search fuel (power - 1))

/-- The shortest decimal that reads back, without trailing zeros. -/
def Magnitude.shortest (x : Magnitude) : DecimalForm :=
  strip 17 (x.search 17 (x.order 660 309))
where
  /-- Moves trailing zeros of the digits into the exponent. -/
  strip : Nat → DecimalForm → DecimalForm
    | 0, form => form
    | fuel + 1, form =>
      if form.digits ≠ 0 ∧ form.digits % 10 = 0 then
        strip fuel ⟨form.digits / 10, form.exponent + 1⟩
      else form

/-- How a decimal is laid out: the scientific exponents that are written
out in positions, and the least number of digits of any other exponent. -/
structure DecimalLayout where
  leastPositional : Int
  greatestPositional : Int
  exponentDigits : Nat

/-- Writes a decimal with at least one digit on either side of the point,
or in scientific form with a signed exponent. -/
def DecimalLayout.render (layout : DecimalLayout) (form : DecimalForm) :
    List Char :=
  let ds := Nat.toDigits 10 form.digits
  let scientific := form.exponent + ds.length - 1
  if layout.leastPositional ≤ scientific
      ∧ scientific ≤ layout.greatestPositional then
    if 0 ≤ form.exponent then
      ds ++ List.replicate form.exponent.toNat '0' ++ ['.', '0']
    else if 0 ≤ scientific then
      ds.take (scientific.toNat + 1) ++ '.' :: ds.drop (scientific.toNat + 1)
    else
      ['0', '.'] ++ List.replicate (-scientific - 1).toNat '0' ++ ds
  else
    let power := Nat.toDigits 10 scientific.natAbs
    let fraction := ds.drop 1
    ds.take 1 ++ (if fraction = [] then [] else '.' :: fraction)
      ++ ['e', if scientific < 0 then '-' else '+']
      ++ List.replicate (layout.exponentDigits - power.length) '0' ++ power

/-- The shortest text of a finite binary64 number. -/
def shortestFloat (layout : DecimalLayout) (x : Float) : String :=
  let bits := x.toBits.toNat
  let sign := if bits >>> 63 = 1 then ['-'] else []
  let exponent := (bits >>> 52) % 2048
  let fraction := bits % (1 <<< 52)
  String.ofList <| sign ++
    if exponent = 0 ∧ fraction = 0 then ['0', '.', '0']
    else layout.render (Magnitude.ofFields exponent fraction).shortest

end InterfaceManager.Text
