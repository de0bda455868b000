import Mathlib.Tactic.NormNum
import BifrostApi.Lib.Stage
import BifrostApi.Py.Date
import BifrostApi.Py.Json
import BifrostApi.Py.Rounding

/-!
# The fiscal quarter of a period (`research/sepa/financials_data.py`)

`derive_fiscal_quarter` counts back in quarters of 91.3125 days from the year's end, or from a neighbouring
year's end moved by 365 days. Whole days over 91.3125 are never halfway between two integers, so the nearest
quarter is unique (`quarterBack_eq_some`). Two inputs raise `OverflowError` instead of answering `None`: an
infinite fiscal year, which `_as_int` does not guard, and an anchor that moves out of the calendar.

A year end is kept as a `Date`; a moved one as its ordinal, of which only differences are taken.

| here | there |
| --- | --- |
| `asFloat`, `asInt`, `asDate` | `_as_float` (financials_data.py:118), `_as_int` (:189), `_as_date` (:196) |
| `quarterDays` | `_QUARTER_DAYS` (:209) |
| `anchor` | the three lookups (:229-233) |
| `deriveFiscalQuarter` | `derive_fiscal_quarter` (:212) |
-/

namespace BifrostApi.Research

open Py Stage

/-- A period end: a JSON value, a `date` or a `datetime` of that day. -/
inductive PeriodEnd
  | json (j : Json)
  | date (d : Date)
  | datetime (day : Date)

/-- `read(v) if v is not None and v != "" else None`, and `None` for a value that cannot be read. -/
def readPresent {α : Type} (read : Json → Except Exc α) : Json → Except Exc (Option α)
  | .null => .ok none
  | .str s => if s = "" then .ok none else Json.guarded (read (.str s))
  | v => Json.guarded (read v)

def asFloat : Json → Except Exc (Option Number) := readPresent Json.toFloat

def asInt : Json → Except Exc (Option Int) := readPresent Json.toInt

/-- The first ten characters of a text are read. -/
def asDate : PeriodEnd → Option Date
  | .datetime day => some day
  | .date d => some d
  | .json (.str s) => if 10 ≤ s.toList.length then Date.fromIsoformat (s.toList.take 10) else none
  | .json _ => none

def quarterDays : ℚ := 365.25 / 4

/-- `d + timedelta(days=days)`, as an ordinal. -/
def moved (d : Date) (days : Int) : Except Exc Int :=
  if 1 ≤ d.ordinal + days ∧ d.ordinal + days ≤ Date.maxOrdinal then .ok (d.ordinal + days)
  else .error .overflowError

/-- The end of the fiscal year, else of the year before or after it moved by 365 days. -/
def anchor (fiscalYearEnds : Dict Int Date) (fy : Int) : Except Exc (Option Int) :=
  match fiscalYearEnds.lookup fy with
  | some e => .ok (some e.ordinal)
  | none => match fiscalYearEnds.lookup (fy - 1) with
    | some e => (moved e 365).map some
    | none => match fiscalYearEnds.lookup (fy + 1) with
      | some e => (moved e (-365)).map some
      | none => .ok none

/-- The quarter that many days before the anchor; `none` outside the year's four. -/
def quarterBack (days : Int) : Option Int :=
  let quarter := 4 - Number.roundHalfEven (days / quarterDays)
  if 1 ≤ quarter ∧ quarter ≤ 4 then some quarter else none

def deriveFiscalQuarter (fiscalYear : Json) (periodEnd : PeriodEnd) (fiscalYearEnds : Dict Int Date) :
    Except Exc (Option Int) :=
  match asInt fiscalYear with
  | .error e => .error e
  | .ok fy => match fy, asDate periodEnd with
    | some fy, some pe => match anchor fiscalYearEnds fy with
      | .error e => .error e
      | .ok none => .ok none
      | .ok (some e) => .ok (quarterBack (e - pe.ordinal))
    | _, _ => .ok none

/-! ## The nearest quarter -/

/-- `days` before the year's end lies within half a quarter of the end of quarter `k`. -/
def NearQuarter (days k : Int) : Prop := |(days : ℚ) - (4 - k) * quarterDays| < quarterDays / 2

theorem quarterDays_eq : quarterDays = 1461 / 16 := by norm_num [quarterDays]

theorem nearQuarter_iff {days k : Int} :
    NearQuarter days k ↔ |(days : ℚ) / quarterDays - (4 - k : Int)| < 1 / 2 := by
  have hpos : (0 : ℚ) < quarterDays := by norm_num [quarterDays]
  have hdiv : (days : ℚ) / quarterDays * quarterDays = days := div_mul_cancel₀ _ (ne_of_gt hpos)
  rw [NearQuarter, abs_lt, abs_lt]
  push_cast
  constructor
  · rintro ⟨hlow, hhigh⟩
    constructor <;> nlinarith
  · rintro ⟨hlow, hhigh⟩
    constructor <;> nlinarith

/-- In whole days: the quarter's end is `1461 * (4 - k) / 16` days before the year's. -/
theorem nearQuarter_iff_days {days k : Int} :
    NearQuarter days k ↔ -1461 < 32 * days - 2922 * (4 - k) ∧ 32 * days - 2922 * (4 - k) < 1461 := by
  rw [NearQuarter, abs_lt, quarterDays_eq]
  constructor
  · rintro ⟨hlow, hhigh⟩
    constructor
    · have : (-1461 : ℚ) < 32 * days - 2922 * (4 - k) := by linarith
      exact_mod_cast this
    · have : (32 * days - 2922 * (4 - k) : ℚ) < 1461 := by linarith
      exact_mod_cast this
  · rintro ⟨hlow, hhigh⟩
    have hlow' : (-1461 : ℚ) < 32 * days - 2922 * (4 - k) := by exact_mod_cast hlow
    have hhigh' : (32 * days - 2922 * (4 - k) : ℚ) < 1461 := by exact_mod_cast hhigh
    constructor <;> linarith

/-- The quarter found is the one whose end is less than half a quarter away; whole days never tie. -/
theorem quarterBack_eq_some {days k : Int} : quarterBack days = some k ↔ 1 ≤ k ∧ k ≤ 4 ∧ NearQuarter days k := by
  unfold quarterBack
  dsimp only
  constructor
  · intro h
    split at h
    · rename_i hrange
      obtain rfl := Option.some.inj h
      refine ⟨hrange.1, hrange.2, nearQuarter_iff_days.2 ?_⟩
      have hround := Number.abs_sub_roundHalfEven (days / quarterDays)
      generalize Number.roundHalfEven (days / quarterDays) = r at hround
      rw [abs_le, quarterDays_eq] at hround
      have hlow : (-1461 : Int) ≤ 32 * days - 2922 * r := by
        have : (-1461 : ℚ) ≤ 32 * days - 2922 * r := by linarith [hround.1]
        exact_mod_cast this
      have hhigh : 32 * days - 2922 * r ≤ (1461 : Int) := by
        have : (32 * days - 2922 * r : ℚ) ≤ 1461 := by linarith [hround.2]
        exact_mod_cast this
      -- the difference is even, the bound is odd
      omega
    · cases h
  · rintro ⟨hlow, hhigh, hnear⟩
    rw [Number.roundHalfEven_of_near (nearQuarter_iff.1 hnear)]
    have hback : 4 - (4 - k) = k := by omega
    simp only [hback, hlow, hhigh, and_self, if_true]

theorem quarterBack_eq_none {days : Int} :
    quarterBack days = none ↔ ∀ k, 1 ≤ k → k ≤ 4 → ¬ NearQuarter days k := by
  constructor
  · intro hnone k hlow hhigh hnear
    rw [quarterBack_eq_some.2 ⟨hlow, hhigh, hnear⟩] at hnone
    cases hnone
  · intro hfar
    cases hback : quarterBack days with
    | none => rfl
    | some k =>
      obtain ⟨hlow, hhigh, hnear⟩ := quarterBack_eq_some.1 hback
      exact absurd hnear (hfar k hlow hhigh)

/-! ## The anchor -/

/-- A neighbouring year's end moved by 365 days, in the calendar or not. -/
def neighbour (fiscalYearEnds : Dict Int Date) (fy : Int) : Option Int :=
  match fiscalYearEnds.lookup (fy - 1) with
  | some e => some (e.ordinal + 365)
  | none => (fiscalYearEnds.lookup (fy + 1)).map fun e => e.ordinal - 365

theorem anchor_of_own {fiscalYearEnds : Dict Int Date} {fy : Int} {e : Date}
    (h : fiscalYearEnds.lookup fy = some e) : anchor fiscalYearEnds fy = .ok (some e.ordinal) := by
  rw [anchor, h]

/-- Without an end of its own the year has the neighbour's, if that is in the calendar. -/
theorem anchor_of_neighbour {fiscalYearEnds : Dict Int Date} {fy : Int} (h : fiscalYearEnds.lookup fy = none) :
    anchor fiscalYearEnds fy = match neighbour fiscalYearEnds fy with
      | none => .ok none
      | some a => if 1 ≤ a ∧ a ≤ Date.maxOrdinal then .ok (some a) else .error .overflowError := by
  rw [anchor, h, neighbour]
  cases hbefore : fiscalYearEnds.lookup (fy - 1) with
  | some e =>
    dsimp only [moved]
    split <;> rfl
  | none =>
    cases hafter : fiscalYearEnds.lookup (fy + 1) with
    | some e =>
      dsimp only [moved, Option.map_some]
      rw [← sub_eq_add_neg]
      split <;> rfl
    | none => rfl

/-- Only an infinite year raises. -/
theorem asInt_eq_error {j : Json} {e : Exc} (h : asInt j = .error e) : ∃ neg, j = .float (.inf neg) := by
  match j with
  | .null | .bool _ | .int _ | .arr _ | .obj _ | .float (.fin _) | .float .nan => cases h
  | .float (.inf neg) => exact ⟨neg, rfl⟩
  | .str s =>
    simp only [asInt, readPresent, Json.toInt] at h
    split at h
    · cases h
    · cases hs : intOfText s with
      | none =>
        rw [hs] at h
        cases h
      | some n =>
        rw [hs] at h
        cases h

theorem asInt_inf (neg : Bool) : asInt (.float (.inf neg)) = .error .overflowError := rfl

theorem derive_of_read {fiscalYear : Json} {periodEnd : PeriodEnd} {fy : Int} {pe : Date}
    (hfy : asInt fiscalYear = .ok (some fy)) (hpe : asDate periodEnd = some pe) (fiscalYearEnds : Dict Int Date) :
    deriveFiscalQuarter fiscalYear periodEnd fiscalYearEnds = match anchor fiscalYearEnds fy with
      | .error e => .error e
      | .ok none => .ok none
      | .ok (some e) => .ok (quarterBack (e - pe.ordinal)) := by
  rw [deriveFiscalQuarter, hfy, hpe]

/-! ## Right within half a quarter -/

/-- What the derived quarter has to be for an input. -/
structure DerivesRight (fiscalYear : Json) (periodEnd : PeriodEnd) (fiscalYearEnds : Dict Int Date) : Prop where
  /-- Counted from the year's own end. -/
  own : ∀ (fy : Int) (pe e : Date) (k : Int), asInt fiscalYear = .ok (some fy) → asDate periodEnd = some pe →
    fiscalYearEnds.lookup fy = some e → 1 ≤ k → k ≤ 4 → NearQuarter (e.ordinal - pe.ordinal) k →
    deriveFiscalQuarter fiscalYear periodEnd fiscalYearEnds = .ok (some k)
  /-- Counted from a moved end no more than a week off the true end `e`. -/
  moved : ∀ (fy : Int) (pe e : Date) (a k : Int), asInt fiscalYear = .ok (some fy) → asDate periodEnd = some pe →
    fiscalYearEnds.lookup fy = none → neighbour fiscalYearEnds fy = some a → |a - e.ordinal| ≤ 7 →
    1 ≤ k → k ≤ 4 → |((e.ordinal - pe.ordinal : Int) : ℚ) - (4 - k) * quarterDays| ≤ 38 →
    deriveFiscalQuarter fiscalYear periodEnd fiscalYearEnds = .ok (some k)
  range : ∃ q, deriveFiscalQuarter fiscalYear periodEnd fiscalYearEnds = .ok q ∧ ∀ k ∈ q, 1 ≤ k ∧ k ≤ 4
  /-- Without a quarter the year or the date is unreadable, no end of the year or a neighbouring one is known,
  or the date lies outside the four quarters. -/
  unknown : deriveFiscalQuarter fiscalYear periodEnd fiscalYearEnds = .ok none →
    asInt fiscalYear = .ok none ∨ asDate periodEnd = none ∨
    ∃ (fy : Int) (pe : Date), asInt fiscalYear = .ok (some fy) ∧ asDate periodEnd = some pe ∧
      (fiscalYearEnds.lookup fy = none ∧ fiscalYearEnds.lookup (fy - 1) = none ∧
          fiscalYearEnds.lookup (fy + 1) = none ∨
        ∃ a, anchor fiscalYearEnds fy = .ok (some a) ∧
          ∀ k, 1 ≤ k → k ≤ 4 → ¬ NearQuarter (a - pe.ordinal) k)

/-- The year is not infinite, and a moved end stays in the calendar. -/
structure InCalendar (fiscalYear : Json) (periodEnd : PeriodEnd) (fiscalYearEnds : Dict Int Date) : Prop where
  year : ∀ neg, fiscalYear ≠ .float (.inf neg)
  anchor : ∀ (fy : Int) (pe : Date) (a : Int), asInt fiscalYear = .ok (some fy) → asDate periodEnd = some pe →
    fiscalYearEnds.lookup fy = none → neighbour fiscalYearEnds fy = some a → 1 ≤ a ∧ a ≤ Date.maxOrdinal

theorem neighbour_eq_none {fiscalYearEnds : Dict Int Date} {fy : Int} :
    neighbour fiscalYearEnds fy = none ↔
      fiscalYearEnds.lookup (fy - 1) = none ∧ fiscalYearEnds.lookup (fy + 1) = none := by
  rw [neighbour]
  cases fiscalYearEnds.lookup (fy - 1) with
  | some e => simp
  | none => simp

/-- A week of the anchor and 38 days of the period are less than half a quarter. -/
theorem nearQuarter_of_week {days days' k : Int} (hweek : |days' - days| ≤ 7)
    (hnear : |(days : ℚ) - (4 - k) * quarterDays| ≤ 38) : NearQuarter days' k := by
  rw [abs_le] at hweek hnear
  rw [quarterDays_eq] at hnear
  have hlow : (-608 : Int) ≤ 16 * days - 1461 * (4 - k) := by
    have : (-608 : ℚ) ≤ 16 * days - 1461 * (4 - k) := by linarith [hnear.1]
    exact_mod_cast this
  have hhigh : 16 * days - 1461 * (4 - k) ≤ (608 : Int) := by
    have : (16 * days - 1461 * (4 - k) : ℚ) ≤ 608 := by linarith [hnear.2]
    exact_mod_cast this
  exact nearQuarter_iff_days.2 (by omega)

/-- In the calendar no anchor raises. -/
theorem anchor_of_inCalendar {fiscalYear : Json} {periodEnd : PeriodEnd} {fiscalYearEnds : Dict Int Date} {fy : Int}
    {pe : Date} (hin : InCalendar fiscalYear periodEnd fiscalYearEnds) (hfy : asInt fiscalYear = .ok (some fy))
    (hpe : asDate periodEnd = some pe) :
    anchor fiscalYearEnds fy =
      .ok (((fiscalYearEnds.lookup fy).map Date.ordinal).or (neighbour fiscalYearEnds fy)) := by
  cases hown : fiscalYearEnds.lookup fy with
  | some e => exact anchor_of_own hown
  | none =>
    rw [anchor_of_neighbour hown]
    cases ha : neighbour fiscalYearEnds fy with
    | none => rfl
    | some a => exact if_pos (hin.anchor fy pe a hfy hpe hown ha)

theorem derive_of_inCalendar {fiscalYear : Json} {periodEnd : PeriodEnd} {fiscalYearEnds : Dict Int Date} {fy : Int}
    {pe : Date} (hin : InCalendar fiscalYear periodEnd fiscalYearEnds) (hfy : asInt fiscalYear = .ok (some fy))
    (hpe : asDate periodEnd = some pe) :
    deriveFiscalQuarter fiscalYear periodEnd fiscalYearEnds =
      .ok ((((fiscalYearEnds.lookup fy).map Date.ordinal).or (neighbour fiscalYearEnds fy)).bind fun e =>
        quarterBack (e - pe.ordinal)) := by
  rw [derive_of_read hfy hpe, anchor_of_inCalendar hin hfy hpe]
  cases ((fiscalYearEnds.lookup fy).map Date.ordinal).or (neighbour fiscalYearEnds fy) with
  | none => rfl
  | some e => rfl

/-- An unreadable year or date has no quarter. -/
theorem derive_of_unread {fiscalYear : Json} {periodEnd : PeriodEnd} {fy : Option Int}
    (hfy : asInt fiscalYear = .ok fy) (hunread : fy = none ∨ asDate periodEnd = none)
    (fiscalYearEnds : Dict Int Date) : deriveFiscalQuarter fiscalYear periodEnd fiscalYearEnds = .ok none := by
  rw [deriveFiscalQuarter, hfy]
  rcases hunread with rfl | hpe
  · rfl
  · rw [hpe]
    cases fy <;> rfl

/-- Either the year and the date are read, or there is no quarter. -/
theorem read_of_inCalendar {fiscalYear : Json} {periodEnd : PeriodEnd} {fiscalYearEnds : Dict Int Date}
    (hin : InCalendar fiscalYear periodEnd fiscalYearEnds) :
    (∃ fy pe, asInt fiscalYear = .ok (some fy) ∧ asDate periodEnd = some pe) ∨
      (asInt fiscalYear = .ok none ∨ asDate periodEnd = none) ∧
        deriveFiscalQuarter fiscalYear periodEnd fiscalYearEnds = .ok none := by
  cases hfy : asInt fiscalYear with
  | error e =>
    obtain ⟨neg, hinf⟩ := asInt_eq_error hfy
    exact absurd hinf (hin.year neg)
  | ok fy =>
    cases hpe : asDate periodEnd with
    | none => exact Or.inr ⟨Or.inr rfl, derive_of_unread hfy (Or.inr hpe) fiscalYearEnds⟩
    | some pe =>
      cases fy with
      | none => exact Or.inr ⟨Or.inl rfl, derive_of_unread hfy (Or.inl rfl) fiscalYearEnds⟩
      | some fy => exact Or.inl ⟨fy, pe, rfl, rfl⟩

theorem derivesRight_of_inCalendar {fiscalYear : Json} {periodEnd : PeriodEnd} {fiscalYearEnds : Dict Int Date}
    (hin : InCalendar fiscalYear periodEnd fiscalYearEnds) : DerivesRight fiscalYear periodEnd fiscalYearEnds where
  own := by
    intro fy pe e k hfy hpe hown hlow hhigh hnear
    rw [derive_of_inCalendar hin hfy hpe, hown]
    exact congrArg Except.ok (quarterBack_eq_some.2 ⟨hlow, hhigh, hnear⟩)
  moved := by
    intro fy pe e a k hfy hpe hown ha hweek hlow hhigh hnear
    rw [derive_of_inCalendar hin hfy hpe, hown, ha]
    have hshift : |a - pe.ordinal - (e.ordinal - pe.ordinal)| ≤ 7 := by
      rw [sub_sub_sub_cancel_right]
      exact hweek
    exact congrArg Except.ok (quarterBack_eq_some.2 ⟨hlow, hhigh, nearQuarter_of_week hshift hnear⟩)
  range := by
    rcases read_of_inCalendar hin with ⟨fy, pe, hfy, hpe⟩ | ⟨-, hnone⟩
    · refine ⟨_, derive_of_inCalendar hin hfy hpe, fun k hk => ?_⟩
      obtain ⟨e, -, hback⟩ := Option.bind_eq_some_iff.1 hk
      obtain ⟨hlow, hhigh, -⟩ := quarterBack_eq_some.1 hback
      exact ⟨hlow, hhigh⟩
    · exact ⟨none, hnone, fun k hk => by cases hk⟩
  unknown := by
    intro hnone
    rcases read_of_inCalendar hin with ⟨fy, pe, hfy, hpe⟩ | ⟨hunread, -⟩
    · refine Or.inr (Or.inr ⟨fy, pe, hfy, hpe, ?_⟩)
      have hanchor := anchor_of_inCalendar hin hfy hpe
      rw [derive_of_inCalendar hin hfy hpe] at hnone
      cases hend : ((fiscalYearEnds.lookup fy).map Date.ordinal).or (neighbour fiscalYearEnds fy) with
      | none =>
        obtain ⟨hown, hneighbour⟩ := Option.or_eq_none_iff.1 hend
        exact Or.inl ⟨Option.map_eq_none_iff.1 hown, neighbour_eq_none.1 hneighbour⟩
      | some a =>
        rw [hend] at hanchor hnone
        exact Or.inr ⟨a, hanchor, quarterBack_eq_none.1 (Except.ok.inj hnone)⟩
    · exact hunread.imp_right Or.inl

/-- **Main.** The derived quarter is right exactly when the year is not infinite and the anchor, where it is a
neighbouring year's moved by 365 days, is a date of the calendar. -/
theorem deriveFiscalQuarter_right (fiscalYear : Json) (periodEnd : PeriodEnd) (fiscalYearEnds : Dict Int Date) :
    DerivesRight fiscalYear periodEnd fiscalYearEnds ↔ InCalendar fiscalYear periodEnd fiscalYearEnds := by
  refine ⟨fun hright => ?_, derivesRight_of_inCalendar⟩
  obtain ⟨q, hq, -⟩ := hright.range
  constructor
  · rintro neg rfl
    rw [deriveFiscalQuarter, asInt_inf] at hq
    cases hq
  · intro fy pe a hfy hpe hown ha
    rw [derive_of_read hfy hpe, anchor_of_neighbour hown, ha] at hq
    by_contra hout
    dsimp only at hq
    rw [if_neg hout] at hq
    cases hq

/-- Neither the year after a year that ends with the calendar nor an infinite year is answered. -/
theorem deriveFiscalQuarter_right_fails :
    (∃ lastDay : Date, lastDay.dashed = "9999-12-31" ∧
      ¬ DerivesRight (.int 9999) (.json (.str "9999-12-31")) [(9998, lastDay)]) ∧
    ¬ DerivesRight (.float (.inf false)) (.json (.str "2025-12-31")) [] := by
  constructor
  · refine ⟨⟨9999, 12, 31, by decide⟩, by decide, fun hright => ?_⟩
    obtain ⟨q, hq, -⟩ := hright.range
    have hraises : deriveFiscalQuarter (.int 9999) (.json (.str "9999-12-31"))
        [(9998, ⟨9999, 12, 31, by decide⟩)] = .error .overflowError := by decide +kernel
    rw [hraises] at hq
    cases hq
  · intro hright
    obtain ⟨q, hq, -⟩ := hright.range
    cases hq

end BifrostApi.Research
