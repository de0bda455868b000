import BifrostApi.Common.QueryVocab
import BifrostApi.Research.ContractKeyBridge

/-!
# The readers of an expiry

Five functions read an expiry from text: by a regular expression, by fixed slices, by stripping what is not a
digit, by `date.fromisoformat` and by the last with a fallback. On text with a dash at index 4 the slices skip
index 7 without looking at it, while the fallback of `_parse_expiry_date` takes it for the first digit of the day
(`expiryReaders_fail`); the sibling `_expiry_to_date` has no fallback there.

| here | there |
| --- | --- |
| `Common.normalizeExpiry` | `normalize_expiry` (common/query_vocab.py:146) |
| `normExpiryDb` | `_norm_expiry_db` (research/market_pg.py:42) |
| `expiryToDateParam` | `_expiry_to_date_param` (research/market_pg.py:49) |
| `expiryToDate` | `_expiry_to_date` (contract_key_bridge.py:113), `_norm_expiry_date` (market_pg.py:23) |
| `parseExpiryDate` | `_parse_expiry_date` on text (research/sepa_engine/stock_option_pcr.py:27) |
-/

namespace BifrostApi.Research

open Py Date

def normExpiryDb (expiry : String) : String := normExpiry expiry

/-- The expiry as `YYYY-MM-DD`, for a date column. -/
def expiryToDateParam (expiry : String) : Option String :=
  let e := (normExpiryDb (strip expiry)).toList
  if e.length = 8 ∧ e.all isDigit then
    some (String.ofList (e.take 4 ++ '-' :: (e.drop 4).take 2 ++ '-' :: (e.drop 6).take 2))
  else
    let raw := (strip expiry).toList
    if 10 ≤ raw.length ∧ raw[4]? = some '-' then some (String.ofList (raw.take 10)) else none

/-- The day of three runs of digits, in any script. -/
def dayOfDigits (y m d : List Char) : Option Date := do
  date? (← digits? decimalDigit? y) (← digits? decimalDigit? m) (← digits? decimalDigit? d)

/-- The first eight characters but for dashes, when they are digits. -/
def compactDay (s : List Char) : Option Date :=
  let digits := (s.filter (· ≠ '-')).take 8
  if digits.length = 8 ∧ digits.all isDigit then
    dayOfDigits (digits.take 4) ((digits.drop 4).take 2) ((digits.drop 6).take 2)
  else none

def parseExpiryDate (expiry : String) : Option Date :=
  let s := (strip expiry).toList
  if s = [] then none
  else if 10 ≤ s.length ∧ s[4]? = some '-' then (fromIsoformat (s.take 10)).or (compactDay s)
  else compactDay s

/-! ## What is promised -/

/-- The day a text names, as `YYYYMMDD` or `YYYY-MM-DD`. -/
def namedDay (t : String) : Option Date :=
  match t.toList with
  | [y₁, y₂, y₃, y₄, m₁, m₂, d₁, d₂] => dayOfDigits [y₁, y₂, y₃, y₄] [m₁, m₂] [d₁, d₂]
  | [y₁, y₂, y₃, y₄, '-', m₁, m₂, '-', d₁, d₂] => dayOfDigits [y₁, y₂, y₃, y₄] [m₁, m₂] [d₁, d₂]
  | _ => none

inductive Reader
  | normalizeExpiry
  | normExpiryDb
  | expiryToDateParam
  | expiryToDate
  | parseExpiryDate
  deriving DecidableEq

/-- The calendar date a reader gives, if its result is one. -/
def Reader.day (s : String) : Reader → Option Date
  | .normalizeExpiry => namedDay (Common.normalizeExpiry s)
  | .normExpiryDb => namedDay (Research.normExpiryDb s)
  | .expiryToDateParam => (Research.expiryToDateParam s).bind namedDay
  | .expiryToDate => Research.expiryToDate s
  | .parseExpiryDate => Research.parseExpiryDate s

def ReadersAgree (s : String) : Prop :=
  ∀ (r r' : Reader) (d d' : Date), r.day s = some d → r'.day s = some d' → d = d'

/-- The stripped text starts with four digits, a dash, and five digits: the month, and three of which the first two
and the last two are different days of it. -/
def TwoDays (s : String) : Prop :=
  ∃ (ys ms : List Char) (c₁ c₂ c₃ : Char) (rest : List Char) (y m i j k : Nat),
    (strip s).toList = ys ++ '-' :: ms ++ c₁ :: c₂ :: c₃ :: rest ∧ ys.length = 4 ∧ ms.length = 2 ∧
    digits? decimalDigit? ys = some y ∧ digits? decimalDigit? ms = some m ∧
    decimalDigit? c₁ = some i ∧ decimalDigit? c₂ = some j ∧ decimalDigit? c₃ = some k ∧
    (date? y m (10 * i + j)).isSome ∧ (date? y m (10 * j + k)).isSome ∧ ¬ (i = j ∧ j = k)

/-! ## Runs of digits -/

/-- Three runs name a day only if every character in them is a digit. -/
theorem digits_of_day {y m d : List Char} {D : Date} (h : dayOfDigits y m d = some D) :
    ∀ c ∈ y ++ m ++ d, (decimalDigit? c).isSome = true := by
  unfold dayOfDigits at h
  simp only [Option.bind_eq_bind, Option.bind_eq_some_iff] at h
  obtain ⟨_, hy, _, hm, _, hd, -⟩ := h
  intro c hc
  rcases List.mem_append.1 hc with hc | hc
  · rcases List.mem_append.1 hc with hc | hc
    · exact forall_of_digits? hy c hc
    · exact forall_of_digits? hm c hc
  · exact forall_of_digits? hd c hc

theorem isDigit_of_decimal {c : Char} (h : (decimalDigit? c).isSome = true) : isDigit c = true := by
  rw [isDigit, h, Bool.true_or]

theorem ne_dash_of_decimal {c : Char} (h : (decimalDigit? c).isSome = true) : c ≠ '-' := by
  rintro rfl
  revert h
  decide

/-- Eight characters are printed with dashes and read back. -/
theorem namedDay_dashed (y₁ y₂ y₃ y₄ m₁ m₂ d₁ d₂ : Char) :
    namedDay (String.ofList [y₁, y₂, y₃, y₄, '-', m₁, m₂, '-', d₁, d₂]) =
      dayOfDigits [y₁, y₂, y₃, y₄] [m₁, m₂] [d₁, d₂] := by
  rw [namedDay, String.toList_ofList]
  rfl

theorem namedDay_compact (y₁ y₂ y₃ y₄ m₁ m₂ d₁ d₂ : Char) :
    namedDay (String.ofList [y₁, y₂, y₃, y₄, m₁, m₂, d₁, d₂]) = dayOfDigits [y₁, y₂, y₃, y₄] [m₁, m₂] [d₁, d₂] := by
  rw [namedDay, String.toList_ofList]

/-- Text with a dash at index 4 that `fromisoformat` reads is a week, or the slices read the same day. -/
theorem fromIsoformat_dash {y₁ y₂ y₃ y₄ a b c d e : Char} {D : Date}
    (h : fromIsoformat [y₁, y₂, y₃, y₄, '-', a, b, c, d, e] = some D) :
    a = 'W' ∨ c = '-' ∧ dayOfDigits [y₁, y₂, y₃, y₄] [a, b] [d, e] = some D := by
  unfold fromIsoformat at h
  split at h
  · split at h
    · rename_i heq
      simp only [List.cons.injEq] at heq
      exact Or.inl heq.2.2.2.2.2.1
    · rename_i heq
      simp only [List.cons.injEq] at heq
      exact absurd heq.2.2.2.2.1 (by decide)
    · rename_i heq
      simp only [List.cons.injEq] at heq
      obtain ⟨rfl, rfl, rfl, rfl, -, rfl, rfl, rfl, rfl, rfl, -⟩ := heq
      simp only [Option.bind_eq_bind, Option.bind_eq_some_iff] at h
      obtain ⟨y, hy, m, hm, d, hd, hdate⟩ := h
      refine Or.inr ⟨rfl, ?_⟩
      have hle : ∀ c v, asciiDigit? c = some v → decimalDigit? c = some v := fun _ _ => decimalDigit?_of_ascii
      rw [dayOfDigits, digits?_of_le hle hy, digits?_of_le hle hm, digits?_of_le hle hd]
      exact hdate
    · rename_i heq
      simp only [List.cons.injEq] at heq
      obtain ⟨rfl, rfl, rfl, rfl, rfl, -⟩ := heq
      simp only [Option.bind_eq_bind, Option.bind_eq_some_iff] at h
      obtain ⟨y, hy, m, hm, -⟩ := h
      exact absurd (forall_of_digits? hm '-' (List.mem_cons_self ..)) (by decide)
    · cases h
  · cases h

/-! ## Text with a dash at index 4 -/

/-- At least ten characters, the fifth a dash. -/
abbrev Dashed (cs : List Char) : Prop := 10 ≤ cs.length ∧ cs[4]? = some '-'

theorem dashed_iff {cs : List Char} : Dashed cs ↔ ∃ y₁ y₂ y₃ y₄ a b c d e rest,
    cs = y₁ :: y₂ :: y₃ :: y₄ :: '-' :: a :: b :: c :: d :: e :: rest := by
  constructor
  · rintro ⟨hlen, hdash⟩
    match cs, hlen, hdash with
    | y₁ :: y₂ :: y₃ :: y₄ :: x :: a :: b :: c :: d :: e :: rest, _, hdash =>
      obtain rfl : x = '-' := Option.some.inj hdash
      exact ⟨y₁, y₂, y₃, y₄, a, b, c, d, e, rest, rfl⟩
  · rintro ⟨y₁, y₂, y₃, y₄, a, b, c, d, e, rest, rfl⟩
    exact ⟨by simp, rfl⟩

section

variable {s : String} {y₁ y₂ y₃ y₄ a b c d e : Char} {rest : List Char}

theorem normExpiryDb_dashed (h : (strip s).toList = y₁ :: y₂ :: y₃ :: y₄ :: '-' :: a :: b :: c :: d :: e :: rest) :
    normExpiryDb s = String.ofList [y₁, y₂, y₃, y₄, a, b, d, e] := by
  have hdashed : 10 ≤ (strip s).toList.length ∧ (strip s).toList[4]? = some '-' := by
    rw [h]
    exact ⟨by simp, rfl⟩
  rw [normExpiryDb, normExpiry, if_pos hdashed, h]
  rfl

theorem day_normExpiryDb_dashed
    (h : (strip s).toList = y₁ :: y₂ :: y₃ :: y₄ :: '-' :: a :: b :: c :: d :: e :: rest) :
    Reader.normExpiryDb.day s = dayOfDigits [y₁, y₂, y₃, y₄] [a, b] [d, e] := by
  rw [Reader.day, normExpiryDb_dashed h, namedDay_compact]

/-- The text of the first ten characters. -/
theorem namedDay_of_dash {D : Date} (h : namedDay (String.ofList [y₁, y₂, y₃, y₄, '-', a, b, c, d, e]) = some D) :
    dayOfDigits [y₁, y₂, y₃, y₄] [a, b] [d, e] = some D := by
  rw [namedDay, String.toList_ofList] at h
  split at h
  · rename_i heq
    simp at heq
  · rename_i heq
    simp only [List.cons.injEq] at heq
    obtain ⟨rfl, rfl, rfl, rfl, -, rfl, rfl, rfl, rfl, rfl, -⟩ := heq
    exact h
  · cases h

theorem day_normalizeExpiry_dashed {D : Date}
    (h : (strip s).toList = y₁ :: y₂ :: y₃ :: y₄ :: '-' :: a :: b :: c :: d :: e :: rest)
    (hD : Reader.normalizeExpiry.day s = some D) : dayOfDigits [y₁, y₂, y₃, y₄] [a, b] [d, e] = some D := by
  -- what the pattern does not match comes back as it is, and then names no day unless it is ten characters long
  have hself : namedDay (strip s) = some D → dayOfDigits [y₁, y₂, y₃, y₄] [a, b] [d, e] = some D := by
    intro hnamed
    cases rest with
    | nil =>
      rw [← @String.ofList_toList (strip s), h] at hnamed
      exact namedDay_of_dash hnamed
    | cons x rest =>
      rw [namedDay, h] at hnamed
      cases hnamed
  rw [Reader.day, Common.normalizeExpiry] at hD
  split at hD
  · rename_i heq
    rw [h] at heq
    simp only [List.cons.injEq] at heq
    obtain ⟨rfl, rfl, rfl, rfl, -, rfl, rfl, rfl, rfl, rfl, -⟩ := heq
    rw [Common.isoDay] at hD
    split at hD
    · rw [Option.getD_some] at hD
      exact namedDay_of_dash hD
    · exact hself hD
  · rename_i heq
    rw [h] at heq
    simp at heq
  · exact hself hD

theorem day_expiryToDateParam_dashed {D : Date}
    (h : (strip s).toList = y₁ :: y₂ :: y₃ :: y₄ :: '-' :: a :: b :: c :: d :: e :: rest)
    (hD : Reader.expiryToDateParam.day s = some D) : dayOfDigits [y₁, y₂, y₃, y₄] [a, b] [d, e] = some D := by
  have hstrip : (strip (strip s)).toList = y₁ :: y₂ :: y₃ :: y₄ :: '-' :: a :: b :: c :: d :: e :: rest := by
    rw [strip_strip, h]
  have hraw : 10 ≤ (strip s).toList.length ∧ (strip s).toList[4]? = some '-' := by
    rw [h]
    exact ⟨by simp, rfl⟩
  rw [Reader.day, expiryToDateParam, normExpiryDb_dashed hstrip, String.toList_ofList] at hD
  by_cases hdigits : ([y₁, y₂, y₃, y₄, a, b, d, e].length = 8 ∧ [y₁, y₂, y₃, y₄, a, b, d, e].all isDigit = true)
  · rw [if_pos hdigits, Option.bind_some] at hD
    exact (namedDay_dashed ..).symm.trans hD
  · rw [if_neg hdigits, if_pos hraw, h, Option.bind_some] at hD
    exact namedDay_of_dash hD

theorem day_expiryToDate_dashed
    (h : (strip s).toList = y₁ :: y₂ :: y₃ :: y₄ :: '-' :: a :: b :: c :: d :: e :: rest) :
    Reader.expiryToDate.day s = fromIsoformat [y₁, y₂, y₃, y₄, '-', a, b, c, d, e] := by
  rw [Reader.day, expiryToDate, h, if_neg (List.cons_ne_nil _ _), if_pos ⟨by simp, rfl⟩]
  rfl

theorem day_parseExpiryDate_dashed
    (h : (strip s).toList = y₁ :: y₂ :: y₃ :: y₄ :: '-' :: a :: b :: c :: d :: e :: rest) :
    Reader.parseExpiryDate.day s = (fromIsoformat [y₁, y₂, y₃, y₄, '-', a, b, c, d, e]).or
      (compactDay (y₁ :: y₂ :: y₃ :: y₄ :: '-' :: a :: b :: c :: d :: e :: rest)) := by
  rw [Reader.day, parseExpiryDate, h, if_neg (List.cons_ne_nil _ _), if_pos ⟨by simp, rfl⟩]
  rfl

/-- Every reader takes the day from the slices, from `fromisoformat` or, when that fails, from the fallback. -/
theorem day_dashed {D : Date}
    (h : (strip s).toList = y₁ :: y₂ :: y₃ :: y₄ :: '-' :: a :: b :: c :: d :: e :: rest) (r : Reader)
    (hD : r.day s = some D) :
    dayOfDigits [y₁, y₂, y₃, y₄] [a, b] [d, e] = some D ∨
    fromIsoformat [y₁, y₂, y₃, y₄, '-', a, b, c, d, e] = some D ∨
    fromIsoformat [y₁, y₂, y₃, y₄, '-', a, b, c, d, e] = none ∧
      compactDay (y₁ :: y₂ :: y₃ :: y₄ :: '-' :: a :: b :: c :: d :: e :: rest) = some D := by
  cases r with
  | normalizeExpiry => exact Or.inl (day_normalizeExpiry_dashed h hD)
  | normExpiryDb => exact Or.inl ((day_normExpiryDb_dashed h).symm.trans hD)
  | expiryToDateParam => exact Or.inl (day_expiryToDateParam_dashed h hD)
  | expiryToDate => exact Or.inr (Or.inl ((day_expiryToDate_dashed h).symm.trans hD))
  | parseExpiryDate =>
    rw [day_parseExpiryDate_dashed h] at hD
    exact Or.inr (Option.or_eq_some_iff.1 hD)

/-- When the slices name a day, the fallback takes index 7 for a digit unless it is a dash. -/
theorem compactDay_of_sliced {D : Date} (h : dayOfDigits [y₁, y₂, y₃, y₄] [a, b] [d, e] = some D) :
    compactDay (y₁ :: y₂ :: y₃ :: y₄ :: '-' :: a :: b :: c :: d :: e :: rest) =
      if c = '-' then some D else dayOfDigits [y₁, y₂, y₃, y₄] [a, b] [c, d] := by
  have hdigits := digits_of_day h
  simp only [List.cons_append, List.nil_append, List.forall_mem_cons] at hdigits
  obtain ⟨h₁, h₂, h₃, h₄, ha, hb, hd, he, -⟩ := hdigits
  have hne : ∀ x, (decimalDigit? x).isSome = true → decide (x ≠ '-') = true := fun x hx =>
    decide_eq_true (ne_dash_of_decimal hx)
  unfold compactDay
  simp only [List.filter_cons, hne _ h₁, hne _ h₂, hne _ h₃, hne _ h₄, hne _ ha, hne _ hb, hne _ hd, hne _ he]
  by_cases hc : c = '-'
  · subst hc
    simp [isDigit_of_decimal, h₁, h₂, h₃, h₄, ha, hb, hd, he, h]
  · simp only [ne_eq, hc, not_false_eq_true, decide_true, if_true, if_false, not_true_eq_false, decide_false]
    by_cases hcd : isDigit c = true
    · simp [isDigit_of_decimal, h₁, h₂, h₃, h₄, ha, hb, hd, hcd]
    · have hnone : dayOfDigits [y₁, y₂, y₃, y₄] [a, b] [c, d] = none := by
        rw [Option.eq_none_iff_forall_ne_some]
        intro D' hD'
        exact hcd (isDigit_of_decimal (digits_of_day hD' c (by simp)))
      simp [hcd, hnone]

end

/-! ## Other text -/

section

variable {s : String}

/-- Without a dash at index 4 only eight characters name a day. -/
theorem eq_of_namedDay {t : String} {D : Date} (h : ¬ Dashed t.toList) (hD : namedDay t = some D) :
    ∃ y₁ y₂ y₃ y₄ m₁ m₂ d₁ d₂, t.toList = [y₁, y₂, y₃, y₄, m₁, m₂, d₁, d₂] ∧
      dayOfDigits [y₁, y₂, y₃, y₄] [m₁, m₂] [d₁, d₂] = some D := by
  rw [namedDay] at hD
  split at hD
  · rename_i heq
    exact ⟨_, _, _, _, _, _, _, _, heq, hD⟩
  · rename_i heq
    exact absurd (dashed_iff.2 ⟨_, _, _, _, _, _, _, _, _, [], heq⟩) h
  · cases hD

theorem expiryToDate_of_eight {y₁ y₂ y₃ y₄ m₁ m₂ d₁ d₂ : Char} {D : Date}
    (h : (strip s).toList = [y₁, y₂, y₃, y₄, m₁, m₂, d₁, d₂])
    (hD : dayOfDigits [y₁, y₂, y₃, y₄] [m₁, m₂] [d₁, d₂] = some D) : expiryToDate s = some D := by
  have hfilter : [y₁, y₂, y₃, y₄, m₁, m₂, d₁, d₂].filter isDigit = [y₁, y₂, y₃, y₄, m₁, m₂, d₁, d₂] :=
    List.filter_eq_self.2 fun c hc => isDigit_of_decimal (digits_of_day hD c hc)
  rw [expiryToDate, h, if_neg (List.cons_ne_nil _ _), if_neg fun hlong => absurd hlong.1 (by simp)]
  dsimp only
  rw [hfilter, if_pos (by simp)]
  exact hD

theorem day_normalizeExpiry {D : Date} (h : ¬ Dashed (strip s).toList)
    (hD : Reader.normalizeExpiry.day s = some D) : expiryToDate s = some D := by
  have hself : namedDay (strip s) = some D → expiryToDate s = some D := by
    intro hnamed
    obtain ⟨_, _, _, _, _, _, _, _, heq, hday⟩ := eq_of_namedDay h hnamed
    exact expiryToDate_of_eight heq hday
  rw [Reader.day, Common.normalizeExpiry] at hD
  split at hD
  · rename_i heq
    exact absurd (dashed_iff.2 ⟨_, _, _, _, _, _, _, _, _, _, heq⟩) h
  · rename_i heq
    rw [Common.isoDay] at hD
    split at hD
    · exact expiryToDate_of_eight heq ((namedDay_dashed ..).symm.trans hD)
    · exact hself hD
  · exact hself hD

theorem day_normExpiryDb {D : Date} (h : ¬ Dashed (strip s).toList) (hD : Reader.normExpiryDb.day s = some D) :
    expiryToDate s = some D := by
  rw [Reader.day, normExpiryDb, normExpiry, if_neg h] at hD
  obtain ⟨_, _, _, _, _, _, _, _, heq, hday⟩ := eq_of_namedDay h hD
  exact expiryToDate_of_eight heq hday

theorem eight_of_length {cs : List Char} (h : cs.length = 8) :
    ∃ y₁ y₂ y₃ y₄ m₁ m₂ d₁ d₂, cs = [y₁, y₂, y₃, y₄, m₁, m₂, d₁, d₂] := by
  match cs, h with
  | [y₁, y₂, y₃, y₄, m₁, m₂, d₁, d₂], _ => exact ⟨y₁, y₂, y₃, y₄, m₁, m₂, d₁, d₂, rfl⟩

theorem day_expiryToDateParam {D : Date} (h : ¬ Dashed (strip s).toList)
    (hD : Reader.expiryToDateParam.day s = some D) : expiryToDate s = some D := by
  have hstrip : normExpiryDb (strip s) = strip s := by
    rw [normExpiryDb, normExpiry, strip_strip, if_neg h]
  rw [Reader.day, expiryToDateParam, hstrip] at hD
  by_cases hdigits : (strip s).toList.length = 8 ∧ (strip s).toList.all isDigit = true
  · rw [if_pos hdigits, Option.bind_some] at hD
    obtain ⟨y₁, y₂, y₃, y₄, m₁, m₂, d₁, d₂, hs⟩ := eight_of_length hdigits.1
    rw [hs] at hD
    exact expiryToDate_of_eight hs ((namedDay_dashed ..).symm.trans hD)
  · rw [if_neg hdigits, if_neg h] at hD
    cases hD

/-- The first eight characters but for dashes are the first eight digits, if they are digits. -/
theorem take_filter_isDigit {cs : List Char} (hlen : ((cs.filter (· ≠ '-')).take 8).length = 8)
    (hall : ((cs.filter (· ≠ '-')).take 8).all isDigit = true) :
    (cs.filter isDigit).take 8 = (cs.filter (· ≠ '-')).take 8 := by
  -- a dash is no digit
  have hsub : ∀ c : Char, isDigit c = (isDigit c && decide (c ≠ '-')) := by
    intro c
    by_cases hc : c = '-'
    · subst hc
      decide
    · simp [hc]
  have hboth : cs.filter isDigit = (cs.filter (· ≠ '-')).filter isDigit := by
    rw [List.filter_filter]
    exact List.filter_congr fun c _ => hsub c
  rw [hboth]
  calc ((cs.filter (· ≠ '-')).filter isDigit).take 8
      = (((cs.filter (· ≠ '-')).take 8 ++ (cs.filter (· ≠ '-')).drop 8).filter isDigit).take 8 := by
        rw [List.take_append_drop]
    _ = ((cs.filter (· ≠ '-')).take 8 ++ ((cs.filter (· ≠ '-')).drop 8).filter isDigit).take 8 := by
        rw [List.filter_append, List.filter_eq_self.2 (List.all_eq_true.1 hall)]
    _ = (cs.filter (· ≠ '-')).take 8 := List.take_left' hlen

theorem day_parseExpiryDate {D : Date} (h : ¬ Dashed (strip s).toList)
    (hD : Reader.parseExpiryDate.day s = some D) : expiryToDate s = some D := by
  rw [Reader.day, parseExpiryDate] at hD
  split at hD
  · cases hD
  · rename_i hne
    rw [compactDay] at hD
    split at hD
    · rename_i hdigits
      have hfilter := take_filter_isDigit hdigits.1 hdigits.2
      have hlong : 8 ≤ ((strip s).toList.filter isDigit).length := by
        have hlen := hdigits.1
        rw [← hfilter, List.length_take] at hlen
        omega
      rw [expiryToDate, if_neg hne, if_neg h]
      dsimp only
      rw [if_pos hlong]
      rw [← hfilter, List.take_take, List.drop_take, List.take_take, List.drop_take, List.take_take] at hD
      exact hD
    · cases hD

end

/-! ## The two days -/

theorem readersAgree_of_not_dashed {s : String} (h : ¬ Dashed (strip s).toList) : ReadersAgree s := by
  have hone : ∀ (r : Reader) (D : Date), r.day s = some D → expiryToDate s = some D := by
    intro r D hD
    cases r with
    | normalizeExpiry => exact day_normalizeExpiry h hD
    | normExpiryDb => exact day_normExpiryDb h hD
    | expiryToDateParam => exact day_expiryToDateParam h hD
    | expiryToDate => exact hD
    | parseExpiryDate => exact day_parseExpiryDate h hD
  intro r r' D D' hD hD'
  exact Option.some.inj ((hone r D hD).symm.trans (hone r' D' hD'))

theorem digits?_two {c d : Char} {i j : Nat} (hc : decimalDigit? c = some i) (hd : decimalDigit? d = some j) :
    digits? decimalDigit? [c, d] = some (10 * i + j) := by
  simp [digits?, hc, hd]

/-- Two digits in a row are a number. -/
theorem digits?_pair {c d : Char} {n : Nat} (h : digits? decimalDigit? [c, d] = some n) :
    ∃ i j, decimalDigit? c = some i ∧ decimalDigit? d = some j ∧ n = 10 * i + j := by
  have hdigits := forall_of_digits? h
  obtain ⟨i, hi⟩ := Option.isSome_iff_exists.1 (hdigits c (by simp))
  obtain ⟨j, hj⟩ := Option.isSome_iff_exists.1 (hdigits d (by simp))
  rw [digits?_two hi hj] at h
  exact ⟨i, j, hi, hj, (Option.some.inj h).symm⟩

theorem dayOfDigits_eq_some {y m d : List Char} {D : Date} : dayOfDigits y m d = some D ↔
    ∃ i j k, digits? decimalDigit? y = some i ∧ digits? decimalDigit? m = some j ∧
      digits? decimalDigit? d = some k ∧ date? i j k = some D := by
  simp [dayOfDigits, Option.bind_eq_some_iff]

theorem date?_inj {y m d d' : Nat} {D : Date} (h : date? y m d = some D) (h' : date? y m d' = some D) : d = d' := by
  unfold date? at h h'
  split at h
  · split at h'
    · cases h
      cases h'
      rfl
    · cases h'
  · cases h

section

variable {s : String} {y₁ y₂ y₃ y₄ a b c d e : Char} {rest : List Char}

/-- In terms of the two readings of the day. -/
theorem twoDays_iff (h : (strip s).toList = y₁ :: y₂ :: y₃ :: y₄ :: '-' :: a :: b :: c :: d :: e :: rest) :
    TwoDays s ↔ ∃ D D', dayOfDigits [y₁, y₂, y₃, y₄] [a, b] [c, d] = some D ∧
      dayOfDigits [y₁, y₂, y₃, y₄] [a, b] [d, e] = some D' ∧ D ≠ D' := by
  constructor
  · rintro ⟨ys, ms, c₁, c₂, c₃, rest', y, m, i, j, k, heq, hys, hms, hy, hm, h₁, h₂, h₃, hD, hD', hne⟩
    match ys, hys with
    | [z₁, z₂, z₃, z₄], _ => match ms, hms with
      | [u, v], _ =>
        rw [h] at heq
        simp only [List.cons_append, List.nil_append, List.cons.injEq] at heq
        obtain ⟨rfl, rfl, rfl, rfl, -, rfl, rfl, rfl, rfl, rfl, -⟩ := heq
        obtain ⟨D, hD⟩ := Option.isSome_iff_exists.1 hD
        obtain ⟨D', hD'⟩ := Option.isSome_iff_exists.1 hD'
        refine ⟨D, D', dayOfDigits_eq_some.2 ⟨y, m, _, hy, hm, digits?_two h₁ h₂, hD⟩,
          dayOfDigits_eq_some.2 ⟨y, m, _, hy, hm, digits?_two h₂ h₃, hD'⟩, ?_⟩
        rintro rfl
        have hi := decimalDigit_lt h₁
        have hj := decimalDigit_lt h₂
        have hk := decimalDigit_lt h₃
        have hsame : 10 * i + j = 10 * j + k := date?_inj hD hD'
        omega
  · rintro ⟨D, D', hD, hD', hne⟩
    obtain ⟨y, m, n, hy, hm, hn, hdate⟩ := dayOfDigits_eq_some.1 hD
    obtain ⟨y', m', n', hy', hm', hn', hdate'⟩ := dayOfDigits_eq_some.1 hD'
    cases hy.symm.trans hy'
    cases hm.symm.trans hm'
    obtain ⟨i, j, hi, hj, rfl⟩ := digits?_pair hn
    obtain ⟨j', k, hj', hk, rfl⟩ := digits?_pair hn'
    cases hj.symm.trans hj'
    refine ⟨[y₁, y₂, y₃, y₄], [a, b], c, d, e, rest, y, m, i, j, k, h, rfl, rfl, hy, hm, hi, hj, hk,
      by rw [hdate]; rfl, by rw [hdate']; rfl, ?_⟩
    rintro ⟨rfl, rfl⟩
    exact hne (Option.some.inj (hdate.symm.trans hdate'))

/-- A day of the slices with a digit at index 7 is none to `fromisoformat`. -/
theorem fromIsoformat_of_digit {D : Date} (h : dayOfDigits [y₁, y₂, y₃, y₄] [a, b] [d, e] = some D) (hc : c ≠ '-') :
    fromIsoformat [y₁, y₂, y₃, y₄, '-', a, b, c, d, e] = none := by
  rw [Option.eq_none_iff_forall_ne_some]
  intro D' hD'
  rcases fromIsoformat_dash hD' with rfl | ⟨hdash, -⟩
  · exact absurd (digits_of_day h 'W' (by simp)) (by decide)
  · exact hc hdash

theorem sliced_eq_other {D D' : Date} (htwo : ¬ TwoDays s)
    (h : (strip s).toList = y₁ :: y₂ :: y₃ :: y₄ :: '-' :: a :: b :: c :: d :: e :: rest)
    (hD : dayOfDigits [y₁, y₂, y₃, y₄] [a, b] [d, e] = some D)
    (hD' : fromIsoformat [y₁, y₂, y₃, y₄, '-', a, b, c, d, e] = some D' ∨
      compactDay (y₁ :: y₂ :: y₃ :: y₄ :: '-' :: a :: b :: c :: d :: e :: rest) = some D') : D = D' := by
  rcases hD' with hiso | hcompact
  · rcases fromIsoformat_dash hiso with rfl | ⟨-, hsame⟩
    · exact absurd (digits_of_day hD 'W' (by simp)) (by decide)
    · exact Option.some.inj (hD.symm.trans hsame)
  · rw [compactDay_of_sliced hD] at hcompact
    split at hcompact
    · exact Option.some.inj hcompact
    · by_contra hne
      exact htwo ((twoDays_iff h).2 ⟨D', D, hcompact, hD, Ne.symm hne⟩)

theorem readersAgree_of_dashed
    (h : (strip s).toList = y₁ :: y₂ :: y₃ :: y₄ :: '-' :: a :: b :: c :: d :: e :: rest) (htwo : ¬ TwoDays s) :
    ReadersAgree s := by
  intro r r' D D' hD hD'
  rcases day_dashed h r hD with hD | hD | ⟨hnone, hD⟩ <;> rcases day_dashed h r' hD' with hD' | hD' | ⟨hnone', hD'⟩
  · exact Option.some.inj (hD.symm.trans hD')
  · exact sliced_eq_other htwo h hD (Or.inl hD')
  · exact sliced_eq_other htwo h hD (Or.inr hD')
  · exact (sliced_eq_other htwo h hD' (Or.inl hD)).symm
  · exact Option.some.inj (hD.symm.trans hD')
  · cases hD.symm.trans hnone'
  · exact (sliced_eq_other htwo h hD' (Or.inr hD)).symm
  · cases hD'.symm.trans hnone
  · exact Option.some.inj (hD.symm.trans hD')

end

theorem dashed_of_twoDays {s : String} (h : TwoDays s) : Dashed (strip s).toList := by
  obtain ⟨ys, ms, c₁, c₂, c₃, rest, -, -, -, -, -, heq, hys, hms, -⟩ := h
  match ys, hys with
  | [z₁, z₂, z₃, z₄], _ => match ms, hms with
    | [u, v], _ => exact dashed_iff.2 ⟨z₁, z₂, z₃, z₄, u, v, c₁, c₂, c₃, rest, heq⟩

/-- **Main.** Any two readers whose results are a calendar date give the same one, unless two pairs of the three
digits after the month are different days. -/
theorem expiryReaders_agree (s : String) : ReadersAgree s ↔ ¬ TwoDays s := by
  constructor
  · intro hagree htwo
    obtain ⟨y₁, y₂, y₃, y₄, a, b, c, d, e, rest, h⟩ := dashed_iff.1 (dashed_of_twoDays htwo)
    obtain ⟨D, D', hD, hD', hne⟩ := (twoDays_iff h).1 htwo
    have hc : c ≠ '-' := ne_dash_of_decimal (digits_of_day hD c (by simp))
    have hslices : Reader.normExpiryDb.day s = some D' := (day_normExpiryDb_dashed h).trans hD'
    have hfallback : Reader.parseExpiryDate.day s = some D := by
      rw [day_parseExpiryDate_dashed h, fromIsoformat_of_digit hD' hc, Option.none_or, compactDay_of_sliced hD',
        if_neg hc, hD]
    exact hne (hagree _ _ _ _ hfallback hslices)
  · intro htwo
    by_cases hdashed : Dashed (strip s).toList
    · obtain ⟨y₁, y₂, y₃, y₄, a, b, c, d, e, rest, h⟩ := dashed_iff.1 hdashed
      exact readersAgree_of_dashed h htwo
    · exact readersAgree_of_not_dashed hdashed

/-- `"2026-01115"`: the slices read 15 January, the fallback 11 January, and the sibling reads no date. -/
theorem expiryReaders_fail :
    (Reader.normExpiryDb.day "2026-01115").map Date.dashed = some "2026-01-15" ∧
    (Reader.parseExpiryDate.day "2026-01115").map Date.dashed = some "2026-01-11" ∧
    Reader.expiryToDate.day "2026-01115" = none ∧ ¬ ReadersAgree "2026-01115" := by
  have hslices : (Reader.normExpiryDb.day "2026-01115").map Date.dashed = some "2026-01-15" := by decide +kernel
  have hfallback : (Reader.parseExpiryDate.day "2026-01115").map Date.dashed = some "2026-01-11" := by decide +kernel
  refine ⟨hslices, hfallback, by decide +kernel, fun hagree => ?_⟩
  obtain ⟨D, hD, hprint⟩ := Option.map_eq_some_iff.1 hslices
  obtain ⟨D', hD', hprint'⟩ := Option.map_eq_some_iff.1 hfallback
  have hsame : D = D' := hagree _ _ _ _ hD hD'
  rw [hsame, hprint'] at hprint
  exact absurd hprint (by decide)

end BifrostApi.Research
