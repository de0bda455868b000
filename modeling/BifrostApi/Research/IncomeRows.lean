import Mathlib.Data.String.Basic
import BifrostApi.Lib.FirstByKey
import BifrostApi.Lib.LastWrite
import BifrostApi.Lib.StableSort
import BifrostApi.Research.FiscalQuarter

/-!
# The inspector's income tables (`research/sepa/financials_data.py`)

`income_rows_for_inspector` shows a quarterly and an annual table: of one vendor format, newest first, the
first row of each key, cut to a number of rows. A row whose quarter is neither stored nor derived has no key
and skips the duplicate check, so a fiscal year may stand there twice without a quarter
(`incomeRows_distinct_fails`); annual rows always have a key.

`str()` of a list or an object is the parameter `container`.

| here | there |
| --- | --- |
| `incomeFields`, `unpackFinancialData` | `_INCOME_FIELDS` (financials_data.py:30), `unpack_financial_data` (:149) |
| `isLegacyFinancialData`, `oneFormat` | `is_legacy_financial_data` (:166), `_one_format` (:178) |
| `newestFirst` | `_newest_first` (:240) |
| `fiscalYearEnds`, `quarterTable`, `annualTable` | the three loops of `income_rows_for_inspector` (:262-303) |
-/

namespace BifrostApi.Research

open Py Stage FirstByKey StableSort

/-- A row as the plugin returns it. -/
abbrev PluginRow := Dict String Json

/-! ## Unpacking -/

/-- Field of the answer, and the keys of `data` that may hold it. -/
def incomeFields : Dict String (List String) :=
  [("basic_earnings_per_share", ["basic_earnings_per_share"]),
    ("diluted_earnings_per_share", ["diluted_earnings_per_share"]),
    ("revenue", ["revenues", "revenue"]),
    ("revenues", ["revenues", "revenue"]),
    ("gross_profit", ["gross_profit"]),
    ("operating_income", ["operating_income_loss", "operating_income"]),
    ("ebitda", ["ebitda", "earnings_before_interest_taxes_depreciation_amortization"]),
    ("cost_of_revenue", ["cost_of_revenue"]),
    ("consolidated_net_income_loss", ["net_income_loss", "consolidated_net_income_loss", "net_income"]),
    ("interest_expense", ["interest_expense"]),
    ("diluted_shares_outstanding", ["diluted_average_shares", "diluted_shares_outstanding"]),
    ("basic_shares_outstanding", ["basic_average_shares", "basic_shares_outstanding"])]

/-- The `value` of a legacy field. -/
def jsonScalar (v : Json) : Json :=
  match v with
  | .obj kvs => (kvs.lookup "value").getD v
  | v => v

/-- The first key of each field that `data` has. -/
def unpackFinancialData (data : Json) (fieldMap : Dict String (List String)) : Dict String Json :=
  let raw := data.items?.getD []
  Dict.mapVal (fun _ keys => ((keys.findSome? fun k => raw.lookup k).map jsonScalar).getD .null) fieldMap

/-! ## One format, newest first -/

/-- Some field is an object with a `value`. -/
def isLegacyFinancialData (data : Json) : Bool :=
  match data.items? with
  | some fields => fields.any fun kv => match kv.2.items? with
    | some v => Dict.has v "value"
    | none => false
  | none => false

def isLegacy (r : PluginRow) : Bool := isLegacyFinancialData (Json.getD r "data" .null)

/-- A non-empty object that is not legacy. -/
def isV1 (r : PluginRow) : Bool :=
  (Json.getD r "data" .null).isDict && (Json.getD r "data" .null).truthy && !isLegacy r

def oneFormat (rows : List PluginRow) : List PluginRow :=
  if rows.any isV1 then rows.filter fun r => !isLegacy r else rows

variable (container : Json → String)

/-- `str(r.get("period_date") or "")`. -/
def periodText (r : PluginRow) : String := (Json.getOr r "period_date" (.str "")).text container

def newestFirst (rows : List PluginRow) : List PluginRow := sortDesc (periodText container) rows

/-! ## The tables -/

/-- The year end of a row; a later row of the year replaces an earlier one. -/
def endYear (ends : Dict Int Date) (r : PluginRow) : Except Exc (Dict Int Date) :=
  match asInt (Json.getD r "fiscal_year" .null) with
  | .error e => .error e
  | .ok fy => match fy, asDate (.json (Json.getD r "period_date" .null)) with
    | some fy, some pe => .ok (Dict.set ends fy pe)
    | _, _ => .ok ends

def fiscalYearEnds (annual : List PluginRow) : Except Exc (Dict Int Date) := annual.foldlM endYear []

theorem fiscalYearEnds_concat {annual : List PluginRow} {r : PluginRow} {ends' : Dict Int Date}
    (h : fiscalYearEnds (annual ++ [r]) = .ok ends') : ∃ ends, fiscalYearEnds annual = .ok ends ∧
      endYear ends r = .ok ends' := by
  unfold fiscalYearEnds at h ⊢
  rw [List.foldlM_append] at h
  obtain ⟨ends, hold, hlast⟩ := Stage.bind_eq_ok.1 h
  refine ⟨ends, hold, ?_⟩
  rw [List.foldlM_cons] at hlast
  obtain ⟨ends'', hr, hnil⟩ := Stage.bind_eq_ok.1 hlast
  rw [hr]
  exact hnil

structure QuarterRow where
  fiscalYear : Option Int
  fiscalQuarter : Option Int
  eps : Option Number
  revenues : Option Number
  deriving DecidableEq, Repr

structure AnnualRow where
  fiscalYear : Option Int
  eps : Option Number
  revenues : Option Number
  deriving DecidableEq, Repr

/-- `_as_int(fiscal_year)` as the argument it is passed on as. -/
def yearJson (fy : Option Int) : Json := (fy.map Json.int).getD .null

/-- Fiscal year and quarter of a row, the quarter stored (and not 0) or derived. -/
def readQuarter (ends : Dict Int Date) (r : PluginRow) : Except Exc (Option Int × Option Int) :=
  match asInt (Json.getD r "fiscal_year" .null) with
  | .error e => .error e
  | .ok fy => match asInt (Json.getD r "fiscal_quarter" .null) with
    | .error e => .error e
    | .ok fq =>
      if fq = none ∨ fq = some 0 then
        (deriveFiscalQuarter (yearJson fy) (.json (Json.getD r "period_date" .null)) ends).map (fy, ·)
      else .ok (fy, fq)

def readYear (r : PluginRow) : Except Exc (Option Int) := asInt (Json.getD r "fiscal_year" .null)

/-- Earnings per share and revenues of a row. -/
def readNumbers (r : PluginRow) : Except Exc (Option Number × Option Number) :=
  let flat := unpackFinancialData (Json.getD r "data" .null) incomeFields
  match asFloat (Json.getD flat "basic_earnings_per_share" .null) with
  | .error e => .error e
  | .ok eps => (asFloat (Json.getD flat "revenue" .null)).map (eps, ·)

def quarterRow (r : PluginRow) (key : Option Int × Option Int) : Except Exc QuarterRow :=
  (readNumbers r).map fun n => ⟨key.1, key.2, n.1, n.2⟩

def annualRow (r : PluginRow) (fy : Option Int) : Except Exc AnnualRow :=
  (readNumbers r).map fun n => ⟨fy, n.1, n.2⟩

/-- A row without a quarter has no key. -/
def quarterKey (key : Option Int × Option Int) : Option (Option Int × Int) := key.2.map (key.1, ·)

def quarterTable (ends : Dict Int Date) (quarters : Nat) (quarterly : List PluginRow) :
    Except Exc (List QuarterRow) :=
  showFirst (readQuarter ends) quarterKey quarterRow quarters [] 0 (newestFirst container (oneFormat quarterly))

def annualTable (years : Nat) (annual : List PluginRow) : Except Exc (List AnnualRow) :=
  showFirst readYear some annualRow years [] 0 (newestFirst container (oneFormat annual))

def incomeRowsForInspector (quarterly annual : List PluginRow) (quarters years : Nat) :
    Except Exc (List QuarterRow × List AnnualRow) :=
  match fiscalYearEnds annual with
  | .error e => .error e
  | .ok ends => match quarterTable container ends quarters quarterly with
    | .error e => .error e
    | .ok q => (annualTable container years annual).map (q, ·)

/-! ## What a table shows -/

variable {container}

theorem getD_data {r : PluginRow} {fields : Dict String Json} :
    Json.getD r "data" .null = .obj fields ↔ r.lookup "data" = some (.obj fields) := by
  unfold Json.getD
  cases r.lookup "data" <;> simp

/-- What the data of a row holds under the first of some names it has, of a legacy field its `value`. -/
inductive Figure (r : PluginRow) (names : List String) : Json → Prop
  | absent : (∀ n ∈ names, ∀ fields, r.lookup "data" = some (.obj fields) → n ∉ Dict.keys fields) → Figure r names .null
  | flat {before after n fields v} : names = before ++ n :: after → r.lookup "data" = some (.obj fields) →
      (∀ m ∈ before, m ∉ Dict.keys fields) → fields.lookup n = some v →
      (∀ kvs, v = .obj kvs → "value" ∉ Dict.keys kvs) → Figure r names v
  | legacy {before after n fields kvs v} : names = before ++ n :: after → r.lookup "data" = some (.obj fields) →
      (∀ m ∈ before, m ∉ Dict.keys fields) → fields.lookup n = some (.obj kvs) → kvs.lookup "value" = some v →
      Figure r names v

theorem figure_unpack {r : PluginRow} {fieldMap : Dict String (List String)} {name : String} {names : List String}
    (h : fieldMap.lookup name = some names) :
    Figure r names (Json.getD (unpackFinancialData (Json.getD r "data" .null) fieldMap) name .null) := by
  rw [Json.getD, unpackFinancialData, Dict.lookup_mapVal, h, Option.map_some, Option.getD_some]
  cases hitems : (Json.getD r "data" .null).items? with
  | none =>
    have habsent : names.findSome? (fun k => (Option.getD (none : Option (Dict String Json)) []).lookup k) = none :=
      List.findSome?_eq_none_iff.2 fun _ _ => rfl
    rw [habsent]
    refine .absent fun n _ fields hfields => ?_
    rw [getD_data.2 hfields] at hitems
    cases hitems
  | some fields =>
    have hdata := getD_data.1 (Json.items?_eq_some.1 hitems)
    rw [Option.getD_some]
    cases hfind : names.findSome? fun k => fields.lookup k with
    | none =>
      refine .absent fun n hn fields' hfields' => ?_
      cases hdata.symm.trans hfields'
      exact Dict.lookup_eq_none.1 (List.findSome?_eq_none_iff.1 hfind n hn)
    | some v =>
      obtain ⟨before, n, after, hnames, hn, hbefore⟩ := List.findSome?_eq_some_iff.1 hfind
      have hfirst : ∀ m ∈ before, m ∉ Dict.keys fields := fun m hm => Dict.lookup_eq_none.1 (hbefore m hm)
      rw [Option.map_some, Option.getD_some]
      cases v with
      | obj kvs =>
        cases hvalue : kvs.lookup "value" with
        | none =>
          rw [jsonScalar, hvalue]
          refine .flat hnames hdata hfirst hn fun kvs' heq => ?_
          obtain rfl := Json.obj.inj heq
          exact Dict.lookup_eq_none.1 hvalue
        | some v =>
          rw [jsonScalar, hvalue]
          exact .legacy hnames hdata hfirst hn hvalue
      | _ => exact .flat hnames hdata hfirst hn fun kvs heq => by cases heq

/-- Fiscal year and quarter of a row: the quarter is the one that is stored, unless none or 0 is, else the one
derived from its period end. -/
structure QuarterIs (ends : Dict Int Date) (r : PluginRow) (fy fq : Option Int) : Prop where
  year : asInt (Json.getD r "fiscal_year" .null) = .ok fy
  quarter : ∃ stored, asInt (Json.getD r "fiscal_quarter" .null) = .ok stored ∧
    ((stored ≠ none ∧ stored ≠ some 0 ∧ fq = stored) ∨ ((stored = none ∨ stored = some 0) ∧
      deriveFiscalQuarter (yearJson fy) (.json (Json.getD r "period_date" .null)) ends = .ok fq))

theorem readQuarter_iff {ends : Dict Int Date} {r : PluginRow} {fy fq : Option Int} :
    readQuarter ends r = .ok (fy, fq) ↔ QuarterIs ends r fy fq := by
  unfold readQuarter
  constructor
  · intro h
    split at h
    · cases h
    · rename_i fy' hfy
      split at h
      · cases h
      · rename_i stored hstored
        split at h
        · rename_i hnone
          cases hderived : deriveFiscalQuarter (yearJson fy') (.json (Json.getD r "period_date" .null)) ends with
          | error e =>
            rw [hderived] at h
            cases h
          | ok q =>
            rw [hderived] at h
            obtain ⟨rfl, rfl⟩ := Prod.mk.inj (Except.ok.inj h)
            exact ⟨hfy, stored, hstored, Or.inr ⟨hnone, hderived⟩⟩
        · rename_i hsome
          rw [not_or] at hsome
          obtain ⟨rfl, rfl⟩ := Prod.mk.inj (Except.ok.inj h)
          exact ⟨hfy, stored, hstored, Or.inl ⟨hsome.1, hsome.2, rfl⟩⟩
  · rintro ⟨hfy, stored, hstored, ⟨hne, hzero, rfl⟩ | ⟨hnone, hderived⟩⟩
    · simp only [hfy, hstored, hne, hzero, or_self, if_false]
    · simp only [hfy, hstored, if_pos hnone, hderived, Except.map]

/-- Earnings per share and revenues are the figures of the row. -/
structure ShowsFigures (r : PluginRow) (eps revenues : Option Number) : Prop where
  eps : ∃ j, Figure r ["basic_earnings_per_share"] j ∧ asFloat j = .ok eps
  revenues : ∃ j, Figure r ["revenues", "revenue"] j ∧ asFloat j = .ok revenues

theorem showsFigures {r : PluginRow} {n : Option Number × Option Number} (h : readNumbers r = .ok n) :
    ShowsFigures r n.1 n.2 := by
  have heps := @figure_unpack r incomeFields "basic_earnings_per_share" _ rfl
  have hrevenues := @figure_unpack r incomeFields "revenue" _ rfl
  unfold readNumbers at h
  dsimp only at h
  split at h
  · cases h
  · rename_i eps hread
    cases hread' : asFloat
        (Json.getD (unpackFinancialData (Json.getD r "data" .null) incomeFields) "revenue" .null) with
    | error e =>
      rw [hread'] at h
      cases h
    | ok revenues =>
      rw [hread'] at h
      obtain rfl := Except.ok.inj h
      exact ⟨⟨_, heps, hread⟩, ⟨_, hrevenues, hread'⟩⟩

/-- A row of the quarterly table shows this plugin row. -/
structure ShowsQuarter (ends : Dict Int Date) (r : PluginRow) (row : QuarterRow) : Prop where
  key : QuarterIs ends r row.fiscalYear row.fiscalQuarter
  figures : ShowsFigures r row.eps row.revenues

structure ShowsYear (r : PluginRow) (row : AnnualRow) : Prop where
  key : asInt (Json.getD r "fiscal_year" .null) = .ok row.fiscalYear
  figures : ShowsFigures r row.eps row.revenues

theorem showsQuarter {ends : Dict Int Date} {r : PluginRow} {row : QuarterRow} {key : Option Int × Option Int}
    (hread : readQuarter ends r = .ok key) (hrow : quarterRow r key = .ok row) : ShowsQuarter ends r row := by
  unfold quarterRow at hrow
  cases hn : readNumbers r with
  | error e =>
    rw [hn] at hrow
    cases hrow
  | ok n =>
    rw [hn] at hrow
    obtain rfl := Except.ok.inj hrow
    exact ⟨readQuarter_iff.1 hread, showsFigures hn⟩

theorem showsYear {r : PluginRow} {row : AnnualRow} {fy : Option Int} (hread : readYear r = .ok fy)
    (hrow : annualRow r fy = .ok row) : ShowsYear r row := by
  unfold annualRow at hrow
  cases hn : readNumbers r with
  | error e =>
    rw [hn] at hrow
    cases hrow
  | ok n =>
    rw [hn] at hrow
    obtain rfl := Except.ok.inj hrow
    exact ⟨hread, showsFigures hn⟩

/-- The quarterly rows in their table's order, each known key once. -/
def quarterlyKept (container : Json → String) (ends : Dict Int Date) (quarterly : List PluginRow) :
    List PluginRow :=
  firstByKey (keyOf (readQuarter ends) quarterKey) (newestFirst container (oneFormat quarterly))

def annualKept (container : Json → String) (annual : List PluginRow) : List PluginRow :=
  firstByKey (keyOf readYear some) (newestFirst container (oneFormat annual))

theorem quarterTable_shows {ends : Dict Int Date} {quarters : Nat} {quarterly : List PluginRow}
    {q : List QuarterRow} (hq : 0 < quarters) (h : quarterTable container ends quarters quarterly = .ok q) :
    List.Forall₂ (ShowsQuarter ends) ((quarterlyKept container ends quarterly).take quarters) q :=
  (showFirst_eq_ok hq h).imp fun _ _ ⟨_, hread, hrow⟩ => showsQuarter hread hrow

theorem annualTable_shows {years : Nat} {annual : List PluginRow} {a : List AnnualRow} (hy : 0 < years)
    (h : annualTable container years annual = .ok a) :
    List.Forall₂ ShowsYear ((annualKept container annual).take years) a :=
  (showFirst_eq_ok hy h).imp fun _ _ ⟨_, hread, hrow⟩ => showsYear hread hrow

theorem incomeRows_eq_ok {quarterly annual : List PluginRow} {quarters years : Nat} {q : List QuarterRow}
    {a : List AnnualRow} :
    incomeRowsForInspector container quarterly annual quarters years = .ok (q, a) ↔
      ∃ ends, fiscalYearEnds annual = .ok ends ∧ quarterTable container ends quarters quarterly = .ok q ∧
        annualTable container years annual = .ok a := by
  unfold incomeRowsForInspector
  cases fiscalYearEnds annual with
  | error e => simp
  | ok ends =>
    simp only [Except.ok.injEq, exists_eq_left']
    cases quarterTable container ends quarters quarterly with
    | error e => simp
    | ok q' => cases annualTable container years annual <;> simp [Except.map]

/-! ## Distinct row keys -/

/-- The row keys the inspector uses are distinct in both tables. -/
structure DistinctKeys (q : List QuarterRow) (a : List AnnualRow) : Prop where
  quarterly : (q.map fun row => (row.fiscalYear, row.fiscalQuarter)).Nodup
  annual : (a.map AnnualRow.fiscalYear).Nodup

/-- No row without a known quarter repeats the fiscal year of a newer one, but behind enough rows that are
shown: those without a quarter, and one for each known key. -/
def NoRepeat (container : Json → String) (ends : Dict Int Date) (quarters : Nat) (quarterly : List PluginRow) :
    Prop :=
  ∀ before r after fy, newestFirst container (oneFormat quarterly) = before ++ r :: after →
    readQuarter ends r = .ok (fy, none) → (∃ r' ∈ before, readQuarter ends r' = .ok (fy, none)) →
    quarters ≤ (firstByKey (keyOf (readQuarter ends) quarterKey) before).length

theorem map_read {α β γ : Type} {read : α → Except Exc γ} {key : β → γ} {shows : α → β → Prop}
    {shown : List α} {table : List β} (h : List.Forall₂ shows shown table)
    (hshows : ∀ x b, shows x b → read x = .ok (key b)) : shown.map read = (table.map key).map Except.ok := by
  induction h with
  | nil => rfl
  | cons hxb _ ih => rw [List.map_cons, List.map_cons, List.map_cons, ih, hshows _ _ hxb]

/-- Keys that are read from shown rows repeat where the rows do. -/
theorem nodup_keys {α β γ : Type} {read : α → Except Exc γ} {key : β → γ} {shown : List α} {table : List β}
    (h : shown.map read = (table.map key).map Except.ok) : (table.map key).Nodup ↔ (shown.map read).Nodup := by
  rw [h, List.nodup_map_iff fun _ _ => Except.ok.inj]

theorem read_of_mem {α β γ : Type} {read : α → Except Exc γ} {key : β → γ} {shown : List α} {table : List β}
    (h : shown.map read = (table.map key).map Except.ok) {x : α} (hx : x ∈ shown) : ∃ c, read x = .ok c := by
  have hmem := @List.mem_map_of_mem _ _ _ _ read hx
  rw [h] at hmem
  obtain ⟨c, -, hc⟩ := List.mem_map.1 hmem
  exact ⟨c, hc.symm⟩

theorem keyOf_congr {α κ γ : Type} {read : α → Except Exc γ} {key : γ → Option κ} (x y : α)
    (h : read x = read y) : keyOf read key x = keyOf read key y := by
  rw [keyOf, keyOf, h]

theorem quarterly_distinct {ends : Dict Int Date} {quarters : Nat} {quarterly : List PluginRow}
    {q : List QuarterRow}
    (hshows : List.Forall₂ (ShowsQuarter ends) ((quarterlyKept container ends quarterly).take quarters) q) :
    (q.map fun row => (row.fiscalYear, row.fiscalQuarter)).Nodup ↔ NoRepeat container ends quarters quarterly := by
  have hread := map_read hshows fun _ _ h => readQuarter_iff.2 h.key
  rw [nodup_keys hread, quarterlyKept, nodup_take_firstByKey keyOf_congr]
  constructor
  · intro h before r after fy hsplit hr hrepeat
    obtain ⟨r', hr', hsame⟩ := hrepeat
    exact h before r after hsplit (by rw [keyOf, hr]; rfl) ⟨r', hr', hsame.trans hr.symm⟩
  · intro h before r after hsplit hkey hrepeat
    obtain ⟨r', hr', hsame⟩ := hrepeat
    by_contra hfew
    -- `r` would be shown, so it was read
    have hkept : r ∈ (quarterlyKept container ends quarterly).take quarters := by
      rw [quarterlyKept, hsplit]
      exact mem_take_firstByKey hkey (Nat.lt_of_not_le hfew)
    obtain ⟨⟨fy, fq⟩, hr⟩ := read_of_mem hread hkept
    rw [keyOf, hr] at hkey
    obtain rfl : fq = none := Option.map_eq_none_iff.1 hkey
    exact hfew (h before r after fy hsplit hr ⟨r', hr', hsame.trans hr⟩)

theorem annual_distinct {years : Nat} {annual : List PluginRow} {a : List AnnualRow}
    (hshows : List.Forall₂ ShowsYear ((annualKept container annual).take years) a) :
    (a.map AnnualRow.fiscalYear).Nodup := by
  have hread : ((annualKept container annual).take years).map readYear = (a.map AnnualRow.fiscalYear).map Except.ok :=
    map_read hshows fun _ _ h => h.key
  rw [nodup_keys hread, annualKept, nodup_take_firstByKey keyOf_congr]
  intro before r after hsplit hkey _
  by_contra hfew
  have hkept : r ∈ (annualKept container annual).take years := by
    rw [annualKept, hsplit]
    exact mem_take_firstByKey hkey (Nat.lt_of_not_le hfew)
  obtain ⟨fy, hr⟩ := read_of_mem hread hkept
  rw [keyOf, hr] at hkey
  cases hkey

/-- **Main.** In every answer the annual rows are distinct, and the quarterly ones are exactly when no row without
a known quarter repeats the fiscal year of a newer one among the rows shown. -/
theorem incomeRows_distinct {quarterly annual : List PluginRow} {quarters years : Nat} {q : List QuarterRow}
    {a : List AnnualRow} {ends : Dict Int Date} (hq : 0 < quarters) (hy : 0 < years)
    (hends : fiscalYearEnds annual = .ok ends)
    (hanswer : incomeRowsForInspector container quarterly annual quarters years = .ok (q, a)) :
    DistinctKeys q a ↔ NoRepeat container ends quarters quarterly := by
  obtain ⟨ends', hends', hqt, hat⟩ := incomeRows_eq_ok.1 hanswer
  obtain rfl := Except.ok.inj (hends.symm.trans hends')
  have hquarterly := quarterly_distinct (quarterTable_shows hq hqt)
  exact ⟨fun h => hquarterly.1 h.quarterly, fun h => ⟨hquarterly.2 h, annual_distinct (annualTable_shows hy hat)⟩⟩

/-! ## The newest readings -/

/-- Some field of the row's data is an object with a `value`. -/
def LegacyRow (r : PluginRow) : Prop :=
  ∃ fields k v, r.lookup "data" = some (.obj fields) ∧ (k, Json.obj v) ∈ fields ∧ "value" ∈ Dict.keys v

/-- The row has data, and none of its fields is an object with a `value`. -/
def V1Row (r : PluginRow) : Prop :=
  ∃ fields, r.lookup "data" = some (.obj fields) ∧ fields ≠ [] ∧ ¬ LegacyRow r

theorem isLegacy_iff {r : PluginRow} : isLegacy r = true ↔ LegacyRow r := by
  simp only [LegacyRow, ← getD_data]
  unfold isLegacy isLegacyFinancialData
  split
  · rename_i fields hfields
    rw [Json.items?_eq_some] at hfields
    simp only [hfields, Json.obj.injEq, exists_and_left, exists_eq_left', List.any_eq_true]
    constructor
    · rintro ⟨⟨k, v⟩, hmem, hvalue⟩
      split at hvalue
      · rename_i v' hv
        rw [Json.items?_eq_some] at hv
        subst hv
        obtain ⟨x, hx⟩ := Option.isSome_iff_exists.1 hvalue
        exact ⟨k, v', hmem, Dict.exists_lookup.1 ⟨x, hx⟩⟩
      · cases hvalue
    · rintro ⟨k, v, hmem, hvalue⟩
      exact ⟨(k, .obj v), hmem, Option.isSome_iff_exists.2 (Dict.exists_lookup.2 hvalue)⟩
  · rename_i hnone
    refine iff_of_false Bool.false_ne_true ?_
    rintro ⟨fields, k, v, hfields, -⟩
    rw [hfields] at hnone
    cases hnone

instance (r : PluginRow) : Decidable (LegacyRow r) := decidable_of_iff _ isLegacy_iff

theorem isV1_iff {r : PluginRow} : isV1 r = true ↔ V1Row r := by
  simp only [V1Row, ← getD_data, ← isLegacy_iff, isV1]
  cases Json.getD r "data" .null <;> simp [Json.isDict, Json.truthy]

/-- The rows of the format a table shows: the legacy rows are dropped exactly when there is a v1 row. -/
structure KeptFormat (rows kept : List PluginRow) : Prop where
  mixed : (∃ r ∈ rows, V1Row r) → kept = rows.filter fun r => ¬ LegacyRow r
  legacy : (¬ ∃ r ∈ rows, V1Row r) → kept = rows

theorem oneFormat_kept (rows : List PluginRow) : KeptFormat rows (oneFormat rows) := by
  have hany : rows.any isV1 = true ↔ ∃ r ∈ rows, V1Row r := by simp only [List.any_eq_true, isV1_iff]
  constructor
  · intro h
    rw [oneFormat, if_pos (hany.2 h)]
    exact List.filter_congr fun r _ => by simp [← isLegacy_iff]
  · intro h
    rw [oneFormat, if_neg (mt hany.1 h)]

theorem KeptFormat.subset {rows kept : List PluginRow} (h : KeptFormat rows kept) {r : PluginRow} (hr : r ∈ kept) :
    r ∈ rows := by
  by_cases hv1 : ∃ r ∈ rows, V1Row r
  · rw [h.mixed hv1] at hr
    exact (List.mem_filter.1 hr).1
  · rwa [h.legacy hv1] at hr

/-- Beside a v1 row stands no legacy row. -/
theorem KeptFormat.not_legacy {rows kept : List PluginRow} (h : KeptFormat rows kept) {r r' : PluginRow}
    (hr : r ∈ kept) (hv1 : V1Row r) (hr' : r' ∈ kept) : ¬ LegacyRow r' := by
  rw [h.mixed ⟨r, h.subset hr, hv1⟩] at hr'
  simpa using (List.mem_filter.1 hr').2

/-- A key of the quarterly rows: fiscal year and quarter where the quarter is known. -/
def QuarterKey (ends : Dict Int Date) (key : PluginRow → Option (Option Int × Int)) : Prop :=
  ∀ r fy fq, QuarterIs ends r fy fq → key r = fq.map (fy, ·)

/-- A key of the annual rows: the fiscal year. -/
def YearKey (key : PluginRow → Option (Option Int)) : Prop :=
  ∀ r fy, asInt (Json.getD r "fiscal_year" .null) = .ok fy → key r = some fy

theorem quarterKey_keyOf (ends : Dict Int Date) : QuarterKey ends (keyOf (readQuarter ends) quarterKey) := by
  intro r fy fq h
  rw [keyOf, readQuarter_iff.2 h]
  rfl

theorem yearKey_keyOf : YearKey (keyOf readYear some) := by
  intro r fy h
  rw [keyOf, readYear, h]

/-- The row ends this fiscal year on this day. -/
structure EndsYear (r : PluginRow) (fy : Int) (d : Date) : Prop where
  year : asInt (Json.getD r "fiscal_year" .null) = .ok (some fy)
  periodEnd : asDate (.json (Json.getD r "period_date" .null)) = some d

/-- The last of the rows that end this fiscal year ends it on this day. -/
def EndsLast (annual : List PluginRow) (fy : Int) (d : Date) : Prop :=
  ∃ before r after, annual = before ++ r :: after ∧ EndsYear r fy d ∧ ∀ r' ∈ after, ∀ d', ¬ EndsYear r' fy d'

/-- Each fiscal year's end is that of the last row that ends it. -/
def YearEnds (annual : List PluginRow) (ends : Dict Int Date) : Prop :=
  ∀ fy d, ends.lookup fy = some d ↔ EndsLast annual fy d

theorem endsLast_concat_other {annual : List PluginRow} {r : PluginRow} {fy : Int} {d : Date}
    (h : ∀ d, ¬ EndsYear r fy d) : EndsLast (annual ++ [r]) fy d ↔ EndsLast annual fy d := by
  constructor
  · rintro ⟨before, r', after, hsplit, hends, hafter⟩
    rcases LastWrite.concat_eq_split hsplit with ⟨-, rfl, -⟩ | ⟨after', rfl, hannual⟩
    · exact absurd hends (h d)
    · exact ⟨before, r', after', hannual, hends, fun x hx => hafter x (List.mem_append_left _ hx)⟩
  · rintro ⟨before, r', after, rfl, hends, hafter⟩
    refine ⟨before, r', after ++ [r], by rw [List.append_assoc, List.cons_append], hends, fun x hx => ?_⟩
    rcases List.mem_append.1 hx with hx | hx
    · exact hafter x hx
    · exact List.mem_singleton.1 hx ▸ h

theorem endsLast_concat_self {annual : List PluginRow} {r : PluginRow} {fy : Int} {d d' : Date}
    (h : EndsYear r fy d) : EndsLast (annual ++ [r]) fy d' ↔ d = d' := by
  constructor
  · rintro ⟨before, r', after, hsplit, hends, hafter⟩
    rcases LastWrite.concat_eq_split hsplit with ⟨-, rfl, -⟩ | ⟨after', rfl, -⟩
    · exact Option.some.inj (h.periodEnd.symm.trans hends.periodEnd)
    · exact absurd h (hafter r (List.mem_append_right _ (List.mem_singleton.2 rfl)) d)
  · rintro rfl
    exact ⟨annual, r, [], rfl, h, fun x hx => absurd hx List.not_mem_nil⟩

theorem fiscalYearEnds_yearEnds {annual : List PluginRow} : ∀ {ends : Dict Int Date},
    fiscalYearEnds annual = .ok ends → YearEnds annual ends := by
  induction annual using List.reverseRecOn with
  | nil =>
    intro ends h fy d
    cases h
    simp [EndsLast]
  | append_singleton annual r ih =>
    intro ends h fy d
    obtain ⟨old, hold, hstep⟩ := fiscalYearEnds_concat h
    unfold endYear at hstep
    split at hstep
    · cases hstep
    · rename_i y hyear
      split at hstep
      · rename_i _ _ y d' hend
        obtain rfl := Except.ok.inj hstep
        rw [Dict.lookup_set]
        by_cases hfy : fy = y
        · subst hfy
          rw [if_pos rfl, Option.some.injEq, endsLast_concat_self ⟨hyear, hend⟩]
        · rw [if_neg hfy, ih hold fy d, endsLast_concat_other]
          intro d'' hends
          exact hfy (Option.some.inj (Except.ok.inj (hyear.symm.trans hends.year))).symm
      · rename_i hnone
        obtain rfl := Except.ok.inj hstep
        rw [ih hold fy d, endsLast_concat_other]
        intro d'' hends
        exact hnone fy d'' (Except.ok.inj (hyear.symm.trans hends.year)) hends.periodEnd

/-- A table of `rows`: `kept` those of its format, `sorted` these newest first, `shown` the first row of each key of
these, cut to `limit`, and read row by row. -/
structure NewestReadings {κ β : Type} [DecidableEq κ] (container : Json → String) (key : PluginRow → Option κ)
    (limit : Nat) (shows : PluginRow → β → Prop) (rows kept sorted shown : List PluginRow) (table : List β) : Prop where
  format : KeptFormat rows kept
  order : SortedDesc (periodText container) kept sorted
  first : shown = (firstByKey key sorted).take limit
  readings : List.Forall₂ shows shown table
  /-- No row of the kept format is newer than the one shown for its key. -/
  newest : ∀ r ∈ shown, ∀ k, key r = some k → ∀ r' ∈ kept, key r' = some k →
    periodText container r' ≤ periodText container r
  unmixed : (∃ r ∈ shown, V1Row r) → ∀ r ∈ shown, ¬ LegacyRow r

theorem newestReadings_of_shows {κ β : Type} [DecidableEq κ] {key : PluginRow → Option κ} {limit : Nat}
    {shows : PluginRow → β → Prop} {rows : List PluginRow} {table : List β}
    (h : List.Forall₂ shows ((firstByKey key (newestFirst container (oneFormat rows))).take limit) table) :
    NewestReadings container key limit shows rows (oneFormat rows) (newestFirst container (oneFormat rows))
      ((firstByKey key (newestFirst container (oneFormat rows))).take limit) table := by
  have horder := sortDesc_sorted (periodText container) (oneFormat rows)
  have hformat := oneFormat_kept rows
  have hkept : ∀ r ∈ (firstByKey key (newestFirst container (oneFormat rows))).take limit, r ∈ oneFormat rows :=
    fun r hr => horder.perm.subset ((firstByKey_sublist _).subset (List.mem_of_mem_take hr))
  refine ⟨hformat, horder, rfl, h, fun r hr k hk r' hr' hk' => ?_, fun ⟨r, hr, hv1⟩ r' hr' => ?_⟩
  · have hfirst := find?_of_mem_firstByKey (List.mem_of_mem_take hr) hk
    obtain ⟨-, before, after, hsplit, hbefore⟩ := List.find?_eq_some_iff_append.1 hfirst
    have hsorted : SortedDesc (periodText container) (oneFormat rows) (before ++ r :: after) := hsplit ▸ horder
    have hmem : r' ∈ before ++ r :: after := hsorted.perm.mem_iff.2 hr'
    rcases List.mem_append.1 hmem with hb | ha
    · have hne := hbefore r' hb
      simp [hk'] at hne
    · rcases List.mem_cons.1 ha with rfl | ha
      · exact le_refl _
      · exact hsorted.le_of_split ha
  · exact hformat.not_legacy (hkept r hr) hv1 (hkept r' hr')

/-- Nothing in the rows is out of range: no infinite year or quarter, no integer too large for a `float`, no year
end that moves out of the calendar. -/
structure Readable (quarterly annual : List PluginRow) : Prop where
  years : ∀ r ∈ annual, Answers (readYear r)
  quarters : ∀ ends, fiscalYearEnds annual = .ok ends → ∀ r ∈ quarterly, Answers (readQuarter ends r)
  numbers : ∀ r ∈ quarterly ++ annual, Answers (readNumbers r)

theorem answers_foldlM {α β : Type} {f : β → α → Except Exc β} : ∀ {xs : List α} {b : β},
    (∀ x ∈ xs, ∀ b, Answers (f b x)) → Answers (xs.foldlM f b)
  | [], b, _ => ⟨b, rfl⟩
  | x :: xs, b, h => by
    rw [List.forall_mem_cons] at h
    obtain ⟨b', hb'⟩ := h.1 b
    rw [List.foldlM_cons, hb']
    exact answers_foldlM h.2

theorem answers_fiscalYearEnds {annual : List PluginRow} (h : ∀ r ∈ annual, Answers (readYear r)) :
    Answers (fiscalYearEnds annual) := by
  refine answers_foldlM fun r hr ends => ?_
  obtain ⟨fy, hfy⟩ := h r hr
  rw [readYear] at hfy
  rw [endYear, hfy]
  dsimp only
  split
  · exact ⟨_, rfl⟩
  · exact ⟨_, rfl⟩

theorem mem_of_newestFirst {rows : List PluginRow} {r : PluginRow}
    (h : r ∈ newestFirst container (oneFormat rows)) : r ∈ rows :=
  (oneFormat_kept rows).subset ((sortDesc_sorted (periodText container) (oneFormat rows)).perm.subset h)

theorem answers_incomeRows {quarterly annual : List PluginRow} (h : Readable quarterly annual)
    (quarters years : Nat) : Answers (incomeRowsForInspector container quarterly annual quarters years) := by
  obtain ⟨ends, hends⟩ := answers_fiscalYearEnds h.years
  have hq : Answers (quarterTable container ends quarters quarterly) := by
    refine answers_showFirst fun r hr => ?_
    have hmem := mem_of_newestFirst hr
    obtain ⟨c, hc⟩ := h.quarters ends hends r hmem
    exact ⟨c, hc, answers_map.2 (h.numbers r (List.mem_append_left _ hmem))⟩
  have ha : Answers (annualTable container years annual) := by
    refine answers_showFirst fun r hr => ?_
    have hmem := mem_of_newestFirst hr
    obtain ⟨fy, hfy⟩ := h.years r hmem
    exact ⟨fy, hfy, answers_map.2 (h.numbers r (List.mem_append_right _ hmem))⟩
  obtain ⟨q, hq⟩ := hq
  obtain ⟨a, ha⟩ := ha
  exact ⟨(q, a), incomeRows_eq_ok.2 ⟨ends, hends, hq, ha⟩⟩

/-- **Main.** Every answer is made of two tables of the newest readings, and every readable input is answered. -/
theorem incomeRows_newest (quarterly annual : List PluginRow) {quarters years : Nat} (hq : 0 < quarters)
    (hy : 0 < years) :
    (∀ q a, incomeRowsForInspector container quarterly annual quarters years = .ok (q, a) →
      ∃ ends, YearEnds annual ends ∧
        (∃ key, QuarterKey ends key ∧ ∃ kept sorted shown, NewestReadings container key quarters (ShowsQuarter ends)
          quarterly kept sorted shown q) ∧
        ∃ key, YearKey key ∧ ∃ kept sorted shown, NewestReadings container key years ShowsYear annual kept sorted
          shown a) ∧
    (Readable quarterly annual → Answers (incomeRowsForInspector container quarterly annual quarters years)) := by
  refine ⟨fun q a hanswer => ?_, fun h => answers_incomeRows h quarters years⟩
  obtain ⟨ends, hends, hqt, hat⟩ := incomeRows_eq_ok.1 hanswer
  have hquarterly := newestReadings_of_shows (quarterTable_shows hq hqt)
  have hannual := newestReadings_of_shows (annualTable_shows hy hat)
  exact ⟨ends, fiscalYearEnds_yearEnds hends, ⟨_, quarterKey_keyOf ends, _, _, _, hquarterly⟩,
    _, yearKey_keyOf, _, _, _, hannual⟩

/-! ## Two rows of one year -/

def sampleQuarter (periodDate : String) (fiscalYear : Int) (fiscalQuarter data : Json) : PluginRow :=
  [("period_date", .str periodDate), ("fiscal_year", .int fiscalYear), ("fiscal_quarter", fiscalQuarter),
    ("data", data)]

def sampleIncome (periodDate : String) (fiscalYear : Int) (data : Json) : PluginRow :=
  sampleQuarter periodDate fiscalYear .null data

def legacyData (eps : Int) : Json := .obj [("basic_earnings_per_share", .obj [("value", .int eps)])]

def v1Data (eps : Int) : Json := .obj [("basic_earnings_per_share", .int eps)]

def noText (_ : Json) : String := ""

theorem newestFirst_of_pairwise {rows : List PluginRow}
    (h : rows.Pairwise fun a b => decide (periodText noText b ≤ periodText noText a) = true) :
    newestFirst noText rows = rows :=
  List.mergeSort_of_pairwise h

/-- A derived quarter, a stored one, an unknown one, a repeated key and a legacy row. -/
def mixedQuarterly : List PluginRow :=
  [sampleIncome "2024-06-30" 2024 (v1Data 2), sampleQuarter "2024-09-30" 2024 (.int 3) (v1Data 3),
    sampleIncome "2021-03-31" 2021 (v1Data 1), sampleQuarter "2024-06-29" 2024 (.int 2) (v1Data 5),
    sampleQuarter "2024-12-31" 2024 (.int 4) (legacyData 9)]

def mixedAnnual : List PluginRow :=
  [sampleIncome "2023-12-31" 2023 (legacyData 7), sampleIncome "2024-12-31" 2024 (v1Data 8)]

def mixedEnds : Dict Int Date :=
  [(2023, ⟨2023, 12, 31, by decide⟩), (2024, ⟨2024, 12, 31, by decide⟩)]

def shownQuarters : List QuarterRow :=
  [⟨some 2024, some 3, some (.fin 3), none⟩, ⟨some 2024, some 2, some (.fin 2), none⟩,
    ⟨some 2021, none, some (.fin 1), none⟩]

def shownYears : List AnnualRow := [⟨some 2024, some (.fin 8), none⟩]

theorem mixed_ends : fiscalYearEnds mixedAnnual = .ok mixedEnds := by decide +kernel

theorem mixed_newestFirst : newestFirst noText (oneFormat mixedQuarterly) =
    [sampleQuarter "2024-09-30" 2024 (.int 3) (v1Data 3), sampleIncome "2024-06-30" 2024 (v1Data 2),
      sampleQuarter "2024-06-29" 2024 (.int 2) (v1Data 5), sampleIncome "2021-03-31" 2021 (v1Data 1)] := by
  refine sortDesc_eq_of_strict ?_ (by decide +kernel)
  exact (List.Perm.swap _ _ _).trans ((List.Perm.swap _ _ _).cons _ |>.cons _)

theorem mixed_answer :
    incomeRowsForInspector noText mixedQuarterly mixedAnnual 10 5 = .ok (shownQuarters, shownYears) := by
  refine incomeRows_eq_ok.2 ⟨mixedEnds, mixed_ends, ?_, by decide +kernel⟩
  rw [quarterTable, mixed_newestFirst]
  decide +kernel

theorem incomeRows_distinct_sample : DistinctKeys shownQuarters shownYears ∧
    (DistinctKeys shownQuarters shownYears ↔ NoRepeat noText mixedEnds 10 mixedQuarterly) :=
  ⟨⟨by decide, by decide⟩, incomeRows_distinct (by decide) (by decide) mixed_ends mixed_answer⟩

/-- Without an annual row both quarters of a year are unknown, and both are shown. -/
theorem incomeRows_distinct_fails :
    ∃ q, incomeRowsForInspector noText
        [sampleIncome "2025-06-30" 2025 (v1Data 2), sampleIncome "2025-03-31" 2025 (v1Data 1)] [] 10 5 =
      .ok (q, []) ∧
      ¬ DistinctKeys q [] := by
  refine ⟨[⟨some 2025, none, some (.fin 2), none⟩, ⟨some 2025, none, some (.fin 1), none⟩], ?_, ?_⟩
  · have hsort : newestFirst noText (oneFormat
        [sampleIncome "2025-06-30" 2025 (v1Data 2), sampleIncome "2025-03-31" 2025 (v1Data 1)]) =
        [sampleIncome "2025-06-30" 2025 (v1Data 2), sampleIncome "2025-03-31" 2025 (v1Data 1)] :=
      newestFirst_of_pairwise (by decide +kernel)
    refine incomeRows_eq_ok.2 ⟨[], rfl, ?_, by decide +kernel⟩
    rw [quarterTable, hsort]
    decide +kernel
  · intro h
    exact absurd h.quarterly (by decide)

theorem incomeRows_newest_sample : ∃ ends, YearEnds mixedAnnual ends ∧
    (∃ key, QuarterKey ends key ∧ ∃ kept sorted shown, NewestReadings noText key 10 (ShowsQuarter ends) mixedQuarterly
      kept sorted shown shownQuarters) ∧
    ∃ key, YearKey key ∧ ∃ kept sorted shown, NewestReadings noText key 5 ShowsYear mixedAnnual kept sorted shown
      shownYears :=
  (incomeRows_newest mixedQuarterly mixedAnnual (by decide) (by decide)).1 _ _ mixed_answer

/-- A legacy row that is newer than the v1 row of its year is not shown. -/
theorem incomeRows_newest_fails :
    incomeRowsForInspector noText []
        [sampleIncome "2025-12-29" 2025 (v1Data 2), sampleIncome "2025-12-31" 2025 (legacyData 1)] 10 5 =
      .ok ([], [⟨some 2025, some (.fin 2), none⟩]) ∧
    readNumbers (sampleIncome "2025-12-29" 2025 (v1Data 2)) = .ok (some (.fin 2), none) ∧
    readNumbers (sampleIncome "2025-12-31" 2025 (legacyData 1)) = .ok (some (.fin 1), none) ∧
    readYear (sampleIncome "2025-12-29" 2025 (v1Data 2)) =
      readYear (sampleIncome "2025-12-31" 2025 (legacyData 1)) ∧
    periodText noText (sampleIncome "2025-12-29" 2025 (v1Data 2)) <
      periodText noText (sampleIncome "2025-12-31" 2025 (legacyData 1)) := by
  refine ⟨?_, by decide +kernel, by decide +kernel, by decide +kernel, by decide +kernel⟩
  decide +kernel

end BifrostApi.Research
