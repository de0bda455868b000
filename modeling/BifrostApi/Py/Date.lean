import Mathlib.Data.Prod.Lex
import BifrostApi.Py.Text

/-!
# Calendar dates

`Date` is `datetime.date`, a day of the proleptic Gregorian calendar; `ordinal?` gives its ordinal, day 1
being 1 January of year 1. `Date.parseIso` is `strptime(s, "%Y-%m-%d")`, `strptimeYmd` is
`strptime(s, "%Y%m%d")` on eight characters, `Date.fromIsoformat` is `date.fromisoformat` on ten and
`Date.ofIsoText?` on any number of them.
-/

namespace Py

def isLeap (y : Nat) : Bool := y % 4 == 0 && (y % 100 != 0 || y % 400 == 0)

def daysInMonth (y m : Nat) : Nat :=
  if m = 2 then (if isLeap y then 29 else 28) else if m ∈ [4, 6, 9, 11] then 30 else 31

/-- The days of the year before month `m`. -/
def daysBeforeMonth (y : Nat) : Nat → Nat
  | m + 2 => daysBeforeMonth y (m + 1) + daysInMonth y (m + 1)
  | _ => 0

/-- `date(y, m, d).toordinal()`; `none` is `ValueError`. -/
def ordinal? (y m d : Nat) : Option Int :=
  if 1 ≤ y ∧ y ≤ 9999 ∧ 1 ≤ m ∧ m ≤ 12 ∧ 1 ≤ d ∧ d ≤ daysInMonth y m then
    let before := y - 1
    some (365 * before + before / 4 - before / 100 + before / 400 + daysBeforeMonth y m + d : Nat)
  else none

/-- `datetime.strptime(s, "%Y%m%d")` on eight characters: month and day are two digits each, in ASCII
but for the last digit of a day in 10 to 29. -/
def strptimeYmd (s : String) : Option Int :=
  match s.toList with
  | [y₁, y₂, y₃, y₄, m₁, m₂, d₁, d₂] => do
    let a ← decimalDigit? y₁
    let b ← decimalDigit? y₂
    let c ← decimalDigit? y₃
    let d ← decimalDigit? y₄
    let m₂' ← decimalDigit? m₂
    let d₂' ← decimalDigit? d₂
    let ascii := m₁.toNat < 128 && m₂.toNat < 128 && d₁.toNat < 128 &&
      (d₂.toNat < 128 || d₁ = '1' || d₁ = '2')
    let m₁' ← decimalDigit? m₁
    let d₁' ← decimalDigit? d₁
    if ascii then ordinal? (1000 * a + 100 * b + 10 * c + d) (10 * m₁' + m₂') (10 * d₁' + d₂') else none
  | _ => none

/-! ## Dates -/

/-- `datetime.date`. -/
structure Date where
  year : Nat
  month : Nat
  day : Nat
  valid : 1 ≤ year ∧ year ≤ 9999 ∧ 1 ≤ month ∧ month ≤ 12 ∧ 1 ≤ day ∧ day ≤ daysInMonth year month
  deriving DecidableEq

/-- `date(y, m, d)`; `none` is `ValueError`. -/
def date? (y m d : Nat) : Option Date :=
  if h : 1 ≤ y ∧ y ≤ 9999 ∧ 1 ≤ m ∧ m ≤ 12 ∧ 1 ≤ d ∧ d ≤ daysInMonth y m then some ⟨y, m, d, h⟩ else none

namespace Date

/-- Dates compare by year, then month, then day. -/
instance : LinearOrder Date :=
  LinearOrder.lift' (fun d => toLex (d.year, toLex (d.month, d.day))) fun d e h => by
    obtain ⟨hy, h⟩ := Prod.mk.inj (congrArg ofLex h)
    obtain ⟨hm, hd⟩ := Prod.mk.inj (congrArg ofLex h)
    cases d
    cases e
    subst hy hm hd
    rfl

/-- The days before 1 January of year `y`. -/
def daysBeforeYear (y : Nat) : Nat := 365 * (y - 1) + (y - 1) / 4 - (y - 1) / 100 + (y - 1) / 400

/-- `d.toordinal()`. -/
def ordinal (d : Date) : Int := (daysBeforeYear d.year + daysBeforeMonth d.year d.month + d.day : Nat)

/-- `date.max.toordinal()`. -/
def maxOrdinal : Int := 3652059

/-- `date.fromordinal(n)`; `none` is `ValueError`. The year is found near its average length. -/
def ofOrdinal? (n : Nat) : Option Date :=
  let near := (n - 1) * 400 / 146097
  [near, near + 1, near + 2].findSome? fun y =>
    ((List.range 12).map (· + 1)).findSome? fun m =>
      (date? y m (n - daysBeforeYear y - daysBeforeMonth y m)).filter fun d => d.ordinal = n

/-- Zero-padded decimal digits, for numbers of at most two or four digits. -/
def pad2 (n : Nat) : List Char := [Nat.digitChar (n / 10), Nat.digitChar (n % 10)]

def pad4 (n : Nat) : List Char := pad2 (n / 100) ++ pad2 (n % 100)

/-- `d.strftime("%Y%m%d")`: the C library does not pad the year. -/
def compact (d : Date) : String := String.ofList (Nat.toDigits 10 d.year ++ pad2 d.month ++ pad2 d.day)

/-- `d.strftime("%Y-%m-%d")`. -/
def dashed (d : Date) : String :=
  String.ofList (Nat.toDigits 10 d.year ++ '-' :: pad2 d.month ++ '-' :: pad2 d.day)

/-- `d.isoformat()`. -/
def isoformat (d : Date) : String :=
  String.ofList (pad4 d.year ++ '-' :: pad2 d.month ++ '-' :: pad2 d.day)

/-- `d.weekday()`, Monday being 0. -/
def weekday (d : Date) : Int := (d.ordinal + 6) % 7

/-! ## Reading a date -/

def asciiDigit? (c : Char) : Option Nat := if '0' ≤ c ∧ c ≤ '9' then some (c.toNat - 48) else none

/-- A run of digits, each read by `digit`. -/
def digits? (digit : Char → Option Nat) (cs : List Char) : Option Nat :=
  cs.foldlM (fun n c => (digit c).map (10 * n + ·)) 0

/-- The month of `%m` before a dash, one or two ASCII digits. -/
def monthField? : List Char → Option Nat
  | ['1', c] => if c = '0' ∨ c = '1' ∨ c = '2' then (asciiDigit? c).map (10 + ·) else none
  | ['0', c] => (asciiDigit? c).filter (0 < ·)
  | [c] => (asciiDigit? c).filter (0 < ·)
  | _ => none

/-- The day of `%d` at the end of the text. -/
def dayField? : List Char → Option Nat
  | ['3', c] => if c = '0' ∨ c = '1' then (asciiDigit? c).map (30 + ·) else none
  | ['1', c] => (decimalDigit? c).map (10 + ·)
  | ['2', c] => (decimalDigit? c).map (20 + ·)
  | ['0', c] | [' ', c] | [c] => (asciiDigit? c).filter (0 < ·)
  | _ => none

/-- `datetime.strptime(s, "%Y-%m-%d").date()`. -/
def parseIso (s : String) : Option Date :=
  match s.toList with
  | y₁ :: y₂ :: y₃ :: y₄ :: '-' :: rest => do
    let y ← digits? decimalDigit? [y₁, y₂, y₃, y₄]
    match splitChars '-' rest with
    | [month, day] => do
      let m ← monthField? month
      let d ← dayField? day
      date? y m d
    | _ => none
  | _ => none

/-- `datetime.strptime(s, "%Y%m%d").date()` on eight characters. -/
def parseCompact (s : String) : Option Date :=
  match s.toList with
  | [y₁, y₂, y₃, y₄, m₁, m₂, d₁, d₂] => do
    let y ← digits? decimalDigit? [y₁, y₂, y₃, y₄]
    let m ← monthField? [m₁, m₂]
    let d ← dayField? [d₁, d₂]
    date? y m d
  | _ => none

/-- The weekday of 1 January, Monday being 0. -/
def newYearWeekday (y : Nat) : Nat := (daysBeforeYear y + 1 + 6) % 7

/-- The day of an ISO week; `none` is `ValueError`. -/
def ofIsoWeek? (y week day : Nat) : Option Date :=
  let longYear := newYearWeekday y = 3 ∨ (newYearWeekday y = 2 ∧ isLeap y)
  if 1 ≤ y ∧ 1 ≤ week ∧ (week ≤ 52 ∨ week = 53 ∧ longYear) ∧ 1 ≤ day ∧ day ≤ 7 then
    let newYear := daysBeforeYear y + 1
    let monday : Int := newYear - newYearWeekday y + (if 3 < newYearWeekday y then 7 else 0)
    ofOrdinal? (monday + 7 * (week - 1) + (day - 1)).toNat
  else none

/-- `date.fromisoformat` on ten characters: `YYYY-MM-DD`, `YYYY-Www-D`, and without dashes the same with two
more characters, which are not read. -/
def fromIsoformat (cs : List Char) : Option Date :=
  if cs.all fun c => c.toNat < 128 then
    match cs with
    | [y₁, y₂, y₃, y₄, '-', 'W', w₁, w₂, '-', d] | [y₁, y₂, y₃, y₄, 'W', w₁, w₂, d, _, _] => do
      ofIsoWeek? (← digits? asciiDigit? [y₁, y₂, y₃, y₄]) (← digits? asciiDigit? [w₁, w₂]) (← asciiDigit? d)
    | [y₁, y₂, y₃, y₄, '-', m₁, m₂, '-', d₁, d₂] | [y₁, y₂, y₃, y₄, m₁, m₂, d₁, d₂, _, _] => do
      date? (← digits? asciiDigit? [y₁, y₂, y₃, y₄]) (← digits? asciiDigit? [m₁, m₂])
        (← digits? asciiDigit? [d₁, d₂])
    | _ => none
  else none

/-- `date.fromisoformat` on text of any length: seven, eight or ten bytes, of which some may be left unread. A week
without a day is its Monday. -/
def ofIsoText? (cs : List Char) : Option Date :=
  if cs.foldl (fun n c => n + c.utf8Size) 0 ∈ [7, 8, 10] then
    match cs with
    | y₁ :: y₂ :: y₃ :: y₄ :: '-' :: 'W' :: w₁ :: w₂ :: rest => do
      let y ← digits? asciiDigit? [y₁, y₂, y₃, y₄]
      let w ← digits? asciiDigit? [w₁, w₂]
      match rest with
      | [] => ofIsoWeek? y w 1
      | '-' :: d :: _ => ofIsoWeek? y w (← asciiDigit? d)
      | _ => none
    | y₁ :: y₂ :: y₃ :: y₄ :: 'W' :: w₁ :: w₂ :: rest => do
      let y ← digits? asciiDigit? [y₁, y₂, y₃, y₄]
      let w ← digits? asciiDigit? [w₁, w₂]
      match rest with
      | [] => ofIsoWeek? y w 1
      | d :: _ => ofIsoWeek? y w (← asciiDigit? d)
    | y₁ :: y₂ :: y₃ :: y₄ :: '-' :: m₁ :: m₂ :: '-' :: d₁ :: d₂ :: _
    | y₁ :: y₂ :: y₃ :: y₄ :: m₁ :: m₂ :: d₁ :: d₂ :: _ => do
      date? (← digits? asciiDigit? [y₁, y₂, y₃, y₄]) (← digits? asciiDigit? [m₁, m₂])
        (← digits? asciiDigit? [d₁, d₂])
    | _ => none
  else none

end Date

end Py
