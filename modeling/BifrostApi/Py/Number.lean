import Mathlib.Data.Rat.Defs
import BifrostApi.Py.Text

/-!
# Numbers

`Number` is a `float`: NaN, an infinity, or a finite value. Finite values are exact rationals, so
rounding to 53 bits is not modelled below the largest finite value, and zero has no sign; NaN and infinity
behave as IEEE 754 has them (every comparison with NaN is false). `Number.ofText` is `float(text)`,
`intOfText` is `int(text)`.
-/

namespace Py

inductive Number
  | nan
  | inf (neg : Bool)
  | fin (q : ℚ)
  deriving DecidableEq, Repr

/-- The exceptions the modelled code raises or catches. -/
inductive Exc
  | typeError | valueError | overflowError | attributeError | keyError
  deriving DecidableEq, Repr

namespace Number

/-! ## Comparison -/

def lt : Number → Number → Bool
  | nan, _ | _, nan => false
  | inf a, inf b => a && !b
  | inf a, fin _ => a
  | fin _, inf b => !b
  | fin p, fin q => p < q

def le : Number → Number → Bool
  | nan, _ | _, nan => false
  | inf a, inf b => a || !b
  | inf a, fin _ => a
  | fin _, inf b => !b
  | fin p, fin q => p ≤ q

/-! ## Arithmetic -/

def neg : Number → Number
  | nan => nan
  | inf a => inf (!a)
  | fin q => fin (-q)

def abs : Number → Number
  | nan => nan
  | inf _ => inf false
  | fin q => fin (if q < 0 then -q else q)

def add : Number → Number → Number
  | nan, _ | _, nan => nan
  | inf a, inf b => if a = b then inf a else nan
  | inf a, fin _ => inf a
  | fin _, inf b => inf b
  | fin p, fin q => fin (p + q)

def sub (x y : Number) : Number := add x (neg y)

/-- The sign bit of a product with an infinite factor; `none` for `0 * inf`. -/
def signOf : Number → Option Bool
  | nan => none
  | inf a => some a
  | fin q => if q = 0 then none else some (q < 0)

def mul (x y : Number) : Number :=
  match x, y with
  | fin p, fin q => fin (p * q)
  | x, y => match signOf x, signOf y with
    | some a, some b => inf (a != b)
    | _, _ => nan

/-- `x / y`; dividing by zero raises in the source language and is nowhere reached. -/
def div : Number → Number → Number
  | nan, _ | _, nan | inf _, inf _ => nan
  | fin _, inf _ => fin 0
  | inf a, fin q => inf (a != decide (q < 0))
  | fin p, fin q => fin (p / q)

/-! ## Rational values -/

def Finite (x : Number) : Prop := ∃ q, x = fin q

theorem finite_fin (q : ℚ) : Finite (fin q) := ⟨q, rfl⟩

theorem Finite.add {x y : Number} : Finite x → Finite y → Finite (add x y)
  | ⟨_, hx⟩, ⟨_, hy⟩ => by subst hx hy; exact finite_fin _

theorem Finite.sub {x y : Number} : Finite x → Finite y → Finite (sub x y)
  | ⟨_, hx⟩, ⟨_, hy⟩ => by subst hx hy; exact finite_fin _

theorem Finite.mul {x y : Number} : Finite x → Finite y → Finite (mul x y)
  | ⟨_, hx⟩, ⟨_, hy⟩ => by subst hx hy; exact finite_fin _

theorem Finite.div {x y : Number} : Finite x → Finite y → Finite (div x y)
  | ⟨_, hx⟩, ⟨_, hy⟩ => by subst hx hy; exact finite_fin _

/-- Between rational values one of `x < y` and `y ≤ x` holds. -/
theorem le_of_not_lt {x y : Number} (hx : Finite x) (hy : Finite y) (h : x.lt y = false) : y.le x = true := by
  obtain ⟨p, rfl⟩ := hx
  obtain ⟨q, rfl⟩ := hy
  simp only [lt, decide_eq_false_iff_not, Rat.not_lt] at h
  simpa [le] using h

/-- Without NaN, `x ≤ y` is the negation of `y < x`. -/
theorem le_eq_not_lt : ∀ {x y : Number}, x ≠ nan → y ≠ nan → x.le y = !y.lt x
  | nan, _, hx, _ => absurd rfl hx
  | _, nan, _, hy => absurd rfl hy
  | inf a, inf b, _, _ => by cases a <;> cases b <;> rfl
  | inf a, fin q, _, _ => by cases a <;> rfl
  | fin p, inf b, _, _ => by cases b <;> rfl
  | fin p, fin q, _, _ => by
    rw [le, lt, ← decide_not, decide_eq_decide]
    exact Rat.not_lt.symm

/-- Multiplying by a positive number keeps the sign. -/
theorem zero_lt_mul {x : Number} {q : ℚ} (hq : 0 < q) : (fin 0).lt (x.mul (fin q)) = (fin 0).lt x := by
  have hne : q ≠ 0 := fun h => by simp [h] at hq
  have hneg : ¬ q < 0 := Rat.not_lt.2 (Rat.le_of_lt hq)
  match x with
  | nan => rfl
  | inf neg => cases neg <;> simp [mul, signOf, lt, hne, hneg]
  | fin p =>
    simp only [mul, lt, decide_eq_decide]
    exact Rat.mul_pos_iff_of_pos_right hq

/-! ## Rounding -/

/-- Round to the nearest integer, ties to even. -/
def roundHalfEven (q : ℚ) : Int :=
  let n := q.floor
  let r := q - n
  if r < 1 / 2 then n else if 1 / 2 < r then n + 1 else if n % 2 = 0 then n else n + 1

/-- `round(q, digits)`. -/
def roundRat (digits : Nat) (q : ℚ) : ℚ := roundHalfEven (q * 10 ^ digits) / 10 ^ digits

def round (digits : Nat) : Number → Number
  | fin q => fin (roundRat digits q)
  | x => x

/-! ## Reading text -/

def digitAhead : List Char → Bool
  | c :: _ => (decimalDigit? c).isSome
  | [] => false

/-- A run of digits, single underscores between digits allowed, and what follows. -/
def takeDigits (afterDigit : Bool) : List Char → List Nat × List Char
  | [] => ([], [])
  | c :: cs => match decimalDigit? c with
    | some d => let r := takeDigits true cs; (d :: r.1, r.2)
    | none => if c = '_' && afterDigit && digitAhead cs then takeDigits false cs else ([], c :: cs)

def natOfDigits (ds : List Nat) : Nat := ds.foldl (fun n d => 10 * n + d) 0

def takeSign : List Char → Bool × List Char
  | '-' :: cs => (true, cs)
  | '+' :: cs => (false, cs)
  | cs => (false, cs)

/-- The exponent part, empty or `e`, sign and digits to the end of the text. -/
def exponentOf : List Char → Option Int
  | [] => some 0
  | c :: cs =>
    if c = 'e' ∨ c = 'E' then
      let (neg, cs) := takeSign cs
      let (ds, rest) := takeDigits false cs
      if ds = [] ∨ rest ≠ [] then none
      else some (if neg then -natOfDigits ds else natOfDigits ds)
    else none

/-- The least magnitude that rounds to infinity in binary64. -/
def overflowBound : ℚ := 2 ^ 1024 - 2 ^ 970

/-- The largest finite value. -/
def maxFloat : ℚ := 2 ^ 1024 - 2 ^ 971

/-- The value of a literal: what is beyond the largest finite value rounds to it or to an infinity. -/
def ofRat (q : ℚ) : Number :=
  if overflowBound ≤ q then inf false
  else if q ≤ -overflowBound then inf true
  else if maxFloat < q then fin maxFloat
  else if q < -maxFloat then fin (-maxFloat)
  else fin q

/-- An unsigned decimal literal. -/
def decimalOf (cs : List Char) : Option ℚ :=
  let (whole, rest) := takeDigits false cs
  let (frac, rest) := match rest with
    | '.' :: rest => takeDigits false rest
    | rest => ([], rest)
  if whole = [] ∧ frac = [] then none
  else (exponentOf rest).map fun e : Int => natOfDigits (whole ++ frac) * (10 : ℚ) ^ (e - (frac.length : Int))

/-- `float(text)`; `none` is `ValueError`. -/
def ofText (s : String) : Option Number :=
  let (neg, cs) := takeSign (stripChars s.toList)
  let word := String.ofList (cs.map lowerChar)
  if word = "nan" then some nan
  else if word = "inf" ∨ word = "infinity" then some (inf neg)
  else (decimalOf cs).map fun q => ofRat (if neg then -q else q)

/-! ## Printing -/

/-- Decimal places of a terminating expansion (17 for the others). -/
def decimals (q : ℚ) : Nat :=
  ((List.range (Nat.log2 q.den + 2)).find? fun k => (q * 10 ^ k).den = 1).getD 17

/-- `repr(x)`: positional from 1e-4 up to 1e16, scientific outside. -/
def repr : Number → String
  | nan => "nan"
  | inf a => if a then "-inf" else "inf"
  | fin q =>
    let k := decimals q
    let ds := Nat.toDigits 10 (q * 10 ^ k).num.natAbs
    let point : Int := ds.length - k
    let sign := if q < 0 then "-" else ""
    if q = 0 then "0.0"
    else if -4 < point ∧ point ≤ 16 then
      if k = 0 then sign ++ String.ofList ds ++ ".0"
      else if 0 < point then
        sign ++ String.ofList (ds.take point.toNat) ++ "." ++ String.ofList (ds.drop point.toNat)
      else sign ++ "0." ++ String.ofList (List.replicate (-point).toNat '0') ++ String.ofList ds
    else
      let ms := ds.rdropWhile (· == '0')
      let e := point - 1
      let exp := toString e.natAbs
      sign ++ String.ofList (ms.take 1) ++ (if ms.length ≤ 1 then "" else "." ++ String.ofList (ms.drop 1))
        ++ (if e < 0 then "e-" else "e+") ++ (if exp.length < 2 then "0" ++ exp else exp)

end Number

/-- `int(text)`; `none` is `ValueError` (also past the 4300 digit limit). -/
def intOfText (s : String) : Option Int :=
  let (neg, cs) := Number.takeSign (stripChars s.toList)
  let (ds, rest) := Number.takeDigits false cs
  if ds = [] ∨ rest ≠ [] ∨ 4300 < ds.length then none
  else some (if neg then -Number.natOfDigits ds else Number.natOfDigits ds)

end Py
