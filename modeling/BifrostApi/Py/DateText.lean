import BifrostApi.Py.Date
import BifrostApi.Py.Printing

/-!
# Printing a date and reading it back

From year 1000 on, `strftime("%Y%m%d")` gives eight ASCII digits and `strftime("%Y-%m-%d")` the same with two
dashes; four, two and two of the digits are the year, the month and the day.
-/

namespace Py.Date

open Number

/-! ## Fields of digits -/

theorem isDigit_digitChar {n : Nat} (h : n < 10) : (Nat.digitChar n).isDigit = true := by
  interval_cases n <;> rfl

theorem decimalDigit?_digitChar {n : Nat} (h : n < 10) : decimalDigit? (Nat.digitChar n) = some n := by
  interval_cases n <;> decide

theorem digits_pad2 {n : Nat} (h : n < 100) : Digits (pad2 n) :=
  digits_cons.2 ⟨isDigit_digitChar (by omega), digits_cons.2 ⟨isDigit_digitChar (by omega), digits_nil⟩⟩

theorem digits_pad4 {n : Nat} (h : n < 10000) : Digits (pad4 n) :=
  digits_append.2 ⟨digits_pad2 (by omega), digits_pad2 (by omega)⟩

theorem digits?_pad2 {n : Nat} (h : n < 100) : digits? decimalDigit? (pad2 n) = some n := by
  rw [digits?, pad2, List.foldlM_cons, decimalDigit?_digitChar (by omega)]
  simp only [Option.map_some, Option.bind_eq_bind, Option.bind_some, List.foldlM_cons,
    decimalDigit?_digitChar (show n % 10 < 10 by omega), List.foldlM_nil, Option.pure_def, Option.some.injEq]
  omega

theorem digits?_pad4 {n : Nat} (h : n < 10000) : digits? decimalDigit? (pad4 n) = some n := by
  simp only [digits?, pad4, pad2, List.cons_append, List.nil_append, List.foldlM_cons, List.foldlM_nil,
    decimalDigit?_digitChar (show n / 100 / 10 < 10 by omega),
    decimalDigit?_digitChar (show n / 100 % 10 < 10 by omega),
    decimalDigit?_digitChar (show n % 100 / 10 < 10 by omega),
    decimalDigit?_digitChar (show n % 100 % 10 < 10 by omega),
    Option.map_some, Option.bind_eq_bind, Option.bind_some, Option.pure_def, Option.some.injEq]
  omega

theorem toDigits_pad4 {n : Nat} (hlow : 1000 ≤ n) (hhigh : n < 10000) : Nat.toDigits 10 n = pad4 n := by
  rw [Nat.toDigits_of_base_le (by decide) (by omega), Nat.toDigits_of_base_le (by decide) (by omega),
    Nat.toDigits_of_base_le (by decide) (by omega), Nat.toDigits_of_lt_base (by omega)]
  simp only [pad4, pad2, List.cons_append, List.nil_append, List.cons.injEq, and_true]
  refine ⟨?_, ?_, ?_, ?_⟩ <;> congr 1 <;> omega

theorem decimalDigit_lt {c : Char} {n : Nat} (h : decimalDigit? c = some n) : n < 10 := by
  obtain ⟨z, -, hz⟩ := List.exists_of_findSome?_eq_some h
  split at hz
  · rename_i hrange
    rw [Bool.and_eq_true, decide_eq_true_eq, decide_eq_true_eq] at hrange
    cases hz
    omega
  · cases hz

/-- A run is read when each of its characters is a digit. -/
theorem forall_of_digits? {digit : Char → Option Nat} {cs : List Char} {n : Nat} (h : digits? digit cs = some n) :
    ∀ c ∈ cs, (digit c).isSome = true := by
  have hfrom : ∀ (cs : List Char) (m : Nat), cs.foldlM (fun n c => (digit c).map (10 * n + ·)) m = some n →
      ∀ c ∈ cs, (digit c).isSome = true := by
    intro cs
    induction cs with
    | nil => exact fun _ _ _ hc => absurd hc List.not_mem_nil
    | cons c cs ih =>
      intro m hm
      rw [List.foldlM_cons, Option.bind_eq_bind, Option.bind_eq_some_iff] at hm
      obtain ⟨k, hk, hrest⟩ := hm
      obtain ⟨v, hv, -⟩ := Option.map_eq_some_iff.1 hk
      rw [List.forall_mem_cons]
      exact ⟨by rw [hv]; rfl, ih k hrest⟩
  exact hfrom cs 0 h

/-- A digit reader that knows more characters reads the same number. -/
theorem digits?_of_le {digit digit' : Char → Option Nat} (hle : ∀ c v, digit c = some v → digit' c = some v)
    {cs : List Char} {n : Nat} (h : digits? digit cs = some n) : digits? digit' cs = some n := by
  have hfrom : ∀ (cs : List Char) (m : Nat), cs.foldlM (fun n c => (digit c).map (10 * n + ·)) m = some n →
      cs.foldlM (fun n c => (digit' c).map (10 * n + ·)) m = some n := by
    intro cs
    induction cs with
    | nil => exact fun _ h => h
    | cons c cs ih =>
      intro m hm
      rw [List.foldlM_cons, Option.bind_eq_bind, Option.bind_eq_some_iff] at hm ⊢
      obtain ⟨k, hk, hrest⟩ := hm
      obtain ⟨v, hv, rfl⟩ := Option.map_eq_some_iff.1 hk
      exact ⟨10 * m + v, by rw [hle c v hv]; rfl, ih _ hrest⟩
  exact hfrom cs 0 h

theorem decimalDigit?_of_ascii {c : Char} {n : Nat} (h : asciiDigit? c = some n) : decimalDigit? c = some n := by
  unfold asciiDigit? at h
  split at h
  · rename_i hc
    have hdigit : c.isDigit = true := by
      rw [Char.isDigit, Bool.and_eq_true, decide_eq_true_eq, decide_eq_true_eq]
      exact hc
    rw [decimalDigit?_of_isDigit hdigit]
    exact h
  · cases h

/-! ## The two spellings -/

theorem month_lt (d : Date) : d.month < 100 := by
  have := d.valid
  omega

theorem day_lt (d : Date) : d.day < 100 := by
  obtain ⟨-, -, -, -, -, hday⟩ := d.valid
  have hle : daysInMonth d.year d.month ≤ 31 := by
    unfold daysInMonth
    split
    · split <;> omega
    · split <;> omega
  omega

theorem year_lt (d : Date) : d.year < 10000 := by
  have := d.valid
  omega

theorem toList_compact {d : Date} (h : 1000 ≤ d.year) :
    d.compact.toList = pad4 d.year ++ pad2 d.month ++ pad2 d.day := by
  rw [compact, String.toList_ofList, toDigits_pad4 h d.year_lt]

theorem toList_dashed {d : Date} (h : 1000 ≤ d.year) :
    d.dashed.toList = pad4 d.year ++ '-' :: pad2 d.month ++ '-' :: pad2 d.day := by
  rw [dashed, String.toList_ofList, toDigits_pad4 h d.year_lt]

theorem pad2_injective {m n : Nat} (hm : m < 100) (hn : n < 100) (h : pad2 m = pad2 n) : m = n :=
  Option.some.inj ((digits?_pad2 hm).symm.trans (h ▸ digits?_pad2 hn))

theorem pad4_injective {m n : Nat} (hm : m < 10000) (hn : n < 10000) (h : pad4 m = pad4 n) : m = n :=
  Option.some.inj ((digits?_pad4 hm).symm.trans (h ▸ digits?_pad4 hn))

/-- Dates printed alike are the same. -/
theorem isoformat_injective : Function.Injective isoformat := by
  intro d e h
  have hlist := String.ofList_injective h
  obtain ⟨hleft, hday⟩ := List.append_inj' hlist rfl
  obtain ⟨hyear, hmonth⟩ := List.append_inj' hleft rfl
  have hy := pad4_injective d.year_lt e.year_lt hyear
  have hm := pad2_injective d.month_lt e.month_lt (List.cons.inj hmonth).2
  have hd := pad2_injective d.day_lt e.day_lt (List.cons.inj hday).2
  cases d
  cases e
  subst hy hm hd
  rfl

theorem digits_compact {d : Date} (h : 1000 ≤ d.year) : Digits d.compact.toList := by
  rw [toList_compact h]
  exact digits_append.2 ⟨digits_append.2 ⟨digits_pad4 d.year_lt, digits_pad2 d.month_lt⟩, digits_pad2 d.day_lt⟩

theorem date?_self (d : Date) : date? d.year d.month d.day = some d := by
  rw [date?, dif_pos d.valid]

end Py.Date
