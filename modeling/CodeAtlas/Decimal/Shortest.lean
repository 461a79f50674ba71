/-!
The shortest decimal of a binary number.

A double is `mantissa * 2 ^ exponent`. Of the decimals that lie closer to it than to any other double, the one with
the fewest digits is chosen, and of those the nearest. All comparisons are made with whole numbers.
-/
namespace CodeAtlas.Decimal

/-- A finite double that is not negative: `mantissa * 2 ^ exponent`. -/
structure Binary where
  mantissa : Nat
  exponent : Int
  /-- Whether the next smaller double is only half a step away. -/
  narrowBelow : Bool

/-- The digits of a decimal and the power of ten of its last digit. -/
structure Digits where
  digits : Nat
  exponent : Int
deriving DecidableEq, Repr

/-- A power of a base, split into a factor for the numerator and one for the denominator. -/
def powerParts (base : Nat) (e : Int) : Nat × Nat :=
  if 0 ≤ e then (base.pow e.toNat, 1) else (1, base.pow (-e).toNat)

/-- The decimal that `n` steps of `10 ^ s` make, compared with `quarters * 2 ^ e / 4`. -/
def compareStep (n : Nat) (s : Int) (quarters : Nat) (e : Int) : Ordering :=
  let (tenUp, tenDown) := powerParts 10 s
  let (twoUp, twoDown) := powerParts 2 (e - 2)
  compare (n * tenUp * twoDown) (quarters * twoUp * tenDown)

/-- Whether a decimal is closer to the number than to any other double. -/
def Binary.owns (b : Binary) (n : Nat) (s : Int) : Bool :=
  let even := b.mantissa % 2 == 0
  let low := compareStep n s (4 * b.mantissa - (if b.narrowBelow then 1 else 2)) b.exponent
  let high := compareStep n s (4 * b.mantissa + 2) b.exponent
  (low == .gt || (even && low == .eq)) && (high == .lt || (even && high == .eq))

/-- How often a number has to be multiplied by ten to be at least another one; at most `fuel` times. -/
def tensUntil : Nat → Nat → Nat → Nat
  | 0, _, _ => 0
  | fuel + 1, n, d => if d ≤ n then 0 else tensUntil fuel (n * 10) d + 1

/-- The power of ten just above the number. -/
def Binary.magnitude (b : Binary) : Int :=
  let (up, down) := powerParts 2 b.exponent
  let n := b.mantissa * up
  if down ≤ n then (Nat.toDigits 10 (n / down)).length
  else 1 - (tensUntil 400 n down : Int)

/-- The nearer of the two neighbours of the number on the grid of `count` digits, if it may stand for it. -/
def Binary.onGrid? (b : Binary) (count : Nat) : Option Digits :=
  let s : Int := b.magnitude - count
  let (tenUp, tenDown) := powerParts 10 s
  let (twoUp, twoDown) := powerParts 2 b.exponent
  let num := b.mantissa * twoUp * tenDown
  let den := twoDown * tenUp
  let floor := num / den
  let rest := num % den
  let nearFloor := 2 * rest < den || (2 * rest == den && floor % 2 == 0)
  let first := if nearFloor then floor else floor + 1
  let second := if nearFloor then floor + 1 else floor
  if b.owns first s then some ⟨first, s⟩
  else if b.owns second s then some ⟨second, s⟩
  else none

/-- The decimal without zeros at its end. -/
def Digits.trimmed : Nat → Digits → Digits
  | 0, d => d
  | fuel + 1, d =>
    if d.digits ≠ 0 && d.digits % 10 == 0 then trimmed fuel ⟨d.digits / 10, d.exponent + 1⟩ else d

/-- The shortest decimal of a number. Seventeen digits always suffice. -/
def Binary.shortest (b : Binary) : Digits :=
  match (List.range 17).findSome? (fun i => b.onGrid? (i + 1)) with
  | some d => d.trimmed 20
  | none => ⟨0, 0⟩

/-- The parts of a double, without its sign. -/
def Binary.ofFloat (x : Float) : Binary :=
  let bits : Nat := x.toBits.toNat % Nat.pow 2 63
  let raw : Nat := bits / Nat.pow 2 52
  let fraction : Nat := bits % Nat.pow 2 52
  if raw = 0 then ⟨fraction, -1074, false⟩
  else ⟨fraction + Nat.pow 2 52, (raw : Int) - 1075, fraction == 0 && 1 < raw⟩

/-- How numbers are written: positionally from `10 ^ -5` up to `10 ^ 16`, else with an exponent; a whole number keeps
one zero after its point. -/
def Digits.text (d : Digits) : String :=
  let ds := toString d.digits
  let length : Int := ds.length
  let point := length + d.exponent
  if 0 ≤ d.exponent && point ≤ 16 then
    ds ++ "".pushn '0' d.exponent.toNat ++ ".0"
  else if 0 < point && point ≤ 16 then
    String.ofList (ds.toList.take point.toNat) ++ "." ++ String.ofList (ds.toList.drop point.toNat)
  else if -5 < point && point ≤ 0 then
    "0." ++ "".pushn '0' (-point).toNat ++ ds
  else
    let tail := String.ofList (ds.toList.drop 1)
    String.ofList (ds.toList.take 1) ++ (if tail.isEmpty then "" else "." ++ tail) ++ "e" ++ toString (point - 1)

/-- The text of a finite double. -/
def text (x : Float) : String :=
  let negative := Nat.pow 2 63 ≤ x.toBits.toNat
  let body := if x == 0 then "0.0" else (Binary.ofFloat x).shortest.text
  if negative then "-" ++ body else body

end CodeAtlas.Decimal
