/-!
# Decimals

Binary floating-point numbers as decimals: with as few digits as possible, or with a fixed number of places.
-/

namespace WarehouseMigration.Decimal

/-! ### Shortest decimals

The decimal with the fewest digits that reads back as a given binary floating-point number, and of several such
decimals the nearest one.  Its layout is positional for moderate sizes and scientific otherwise.
-/

/-- A positive binary number `mantissa * 2 ^ exponent`; `narrow` tells that the gap below it is half the gap above. -/
structure Binary where
  mantissa : Nat
  exponent : Int
  narrow : Bool

/-- The parts of a finite, non-zero number, without its sign. -/
def Binary.ofBits (bits : Nat) : Binary :=
  let fraction : Nat := bits % Nat.pow 2 52
  let raised : Nat := bits / Nat.pow 2 52 % Nat.pow 2 11
  if raised = 0 then ⟨fraction, -1074, false⟩
  else ⟨fraction + Nat.pow 2 52, (raised : Int) - 1075, fraction = 0 && raised != 1⟩

structure Ratio where
  num : Nat
  den : Nat

/-- `n * b ^ e` as a fraction. -/
def Ratio.scaled (n base : Nat) : Int → Ratio
  | .ofNat e => ⟨n * Nat.pow base e, 1⟩
  | .negSucc e => ⟨n, Nat.pow base (e + 1)⟩

def Ratio.lt (a b : Ratio) : Bool := a.num * b.den < b.num * a.den

/-- The whole part of a quotient of fractions. -/
def Ratio.floorDiv (a b : Ratio) : Nat := a.num * b.den / (a.den * b.num)

/-- Whether `r` lies between the midpoints to the neighbours of `x`; the midpoints themselves count for an even
mantissa. -/
def Binary.readsBack (x : Binary) (r : Ratio) : Bool :=
  let low := Ratio.scaled (4 * x.mantissa - if x.narrow then 1 else 2) 2 (x.exponent - 2)
  let high := Ratio.scaled (4 * x.mantissa + 2) 2 (x.exponent - 2)
  if x.mantissa % 2 = 0 then !r.lt low && !high.lt r else low.lt r && r.lt high

/-- The decimal exponent of the leading digit, found by trying the exponents below `start`. -/
def leadingExponent (r : Ratio) (start : Int) : Nat → Int
  | 0 => start
  | fuel + 1 => if r.lt (Ratio.scaled 1 10 start) then leadingExponent r (start - 1) fuel else start

/-- The nearer of the two decimals of the grid `10 ^ step` around `x` that reads back. -/
def Binary.onGrid (x : Binary) (step : Int) : Option Nat :=
  let value := Ratio.scaled x.mantissa 2 x.exponent
  let below := value.floorDiv (Ratio.scaled 1 10 step)
  let belowReads := x.readsBack (Ratio.scaled below 10 step)
  let aboveReads := x.readsBack (Ratio.scaled (below + 1) 10 step)
  let half := Ratio.scaled (2 * below + 1) 10 step
  let double : Ratio := ⟨2 * value.num, value.den⟩
  if belowReads && aboveReads then
    if double.lt half then some below
    else if half.lt double then some (below + 1)
    else some (if below % 2 = 0 then below else below + 1)
  else if belowReads then some below
  else if aboveReads then some (below + 1)
  else none

def Binary.shortestFrom (x : Binary) (lead : Int) (digits : Nat) : Nat → Nat × Int
  | 0 => (0, 0)
  | fuel + 1 =>
    let step := lead - digits + 1
    match x.onGrid step with
    | some n => (n, step)
    | none => x.shortestFrom lead (digits + 1) fuel

def dropZeros (n : Nat) (step : Int) : Nat → Nat × Int
  | 0 => (n, step)
  | fuel + 1 => if n != 0 && n % 10 = 0 then dropZeros (n / 10) (step + 1) fuel else (n, step)

/-- The shortest decimal `(n, e)`, standing for `n * 10 ^ e`. -/
def Binary.shortest (x : Binary) : Nat × Int :=
  let value := Ratio.scaled x.mantissa 2 x.exponent
  let lead := leadingExponent value 309 640
  let (n, step) := x.shortestFrom lead 1 17
  dropZeros n step 20

def nearestInt (x : Float) : Int :=
  let bits := x.toBits.toNat
  let binary := Binary.ofBits bits
  let size : Nat := match binary.exponent with
    | .ofNat e => binary.mantissa * Nat.pow 2 e
    | .negSucc e =>
      let unit := Nat.pow 2 (e + 1)
      let below := binary.mantissa / unit
      let rest := 2 * (binary.mantissa % unit)
      if rest < unit || (rest = unit && below % 2 = 0) then below else below + 1
  if bits / Nat.pow 2 63 = 1 then -(size : Int) else size

def digits (n : Nat) : List Char := Nat.toDigits 10 n

/-- Where a decimal changes from positional to scientific notation, and how special numbers are written. -/
structure Layout where
  /-- least exponent of the leading digit that is written positionally -/
  least : Int
  /-- first exponent of the leading digit that is written scientifically -/
  most : Int
  infinity : String
  undefined : String

/-- Lays out `n * 10 ^ step`. -/
def layOut (format : Layout) (n : Nat) (step : Int) : String :=
  let ds := digits n
  let lead := step + ds.length - 1
  if format.least ≤ lead && lead < format.most then
    if 0 ≤ step then String.ofList (ds ++ List.replicate step.toNat '0') ++ ".0"
    else if 0 ≤ lead then
      String.ofList (ds.take (lead.toNat + 1)) ++ "." ++ String.ofList (ds.drop (lead.toNat + 1))
    else "0." ++ String.ofList (List.replicate (-lead - 1).toNat '0' ++ ds)
  else
    let exponent := digits lead.natAbs
    let sign := if lead < 0 then "-" else "+"
    let rest := ds.drop 1
    String.ofList (ds.take 1) ++ (if rest.isEmpty then "" else "." ++ String.ofList rest) ++ "e" ++ sign ++
      (if exponent.length < 2 then "0" else "") ++ String.ofList exponent

def render (format : Layout) (x : Float) : String :=
  let bits := x.toBits.toNat
  let negative := bits / Nat.pow 2 63 = 1
  if x.isNaN then format.undefined
  else
    let body :=
      if x.isInf then format.infinity
      else if bits % Nat.pow 2 63 = 0 then "0.0"
      else
        let (n, step) := (Binary.ofBits bits).shortest
        layOut format n step
    if negative then "-" ++ body else body

/-! ### Decimals with fixed places

The decimal with a given number of places that is nearest to a binary floating-point number; a tie goes to the even
neighbour.
-/

def Ratio.nearest (r : Ratio) : Nat :=
  let below := r.num / r.den
  let rest := 2 * (r.num % r.den)
  if rest < r.den || rest = r.den && below % 2 = 0 then below else below + 1

def pointed (places n : Nat) : String :=
  let ds := digits n
  let padded := List.replicate (places + 1 - ds.length) '0' ++ ds
  let whole := padded.take (padded.length - places)
  String.ofList (if places = 0 then whole else whole ++ ['.'] ++ padded.drop (padded.length - places))

def fixed (places : Nat) (x : Float) : String :=
  let bits := x.toBits.toNat
  if x.isNaN then "nan"
  else
    let binary := Binary.ofBits bits
    let exact := Ratio.scaled binary.mantissa 2 binary.exponent
    let body := if x.isInf then "inf" else pointed places (Ratio.nearest ⟨exact.num * Nat.pow 10 places, exact.den⟩)
    if bits / Nat.pow 2 63 = 1 then "-" ++ body else body

def percent (x : Float) : String := fixed 2 (x * 100) ++ "%"

end WarehouseMigration.Decimal
