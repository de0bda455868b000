import BifrostApi.Lib.Loop
import BifrostApi.Research.IncomeRows
import BifrostApi.Research.MarketDataClient

/-!
# The statement tables of a symbol (`research/routers/data_readiness.py`)

`GET /research/data/readiness/symbol-statements` reads five series from the plugin and shows each as a table, newest
period first. The plugin keeps a figure either as the figure itself or in a `value` (the legacy layout), under the key
of its vendor response; both layouts may stand in one series. What is shown depends on neither the layout of a row nor
on the order in which the plugin sends the periods, only on the order of rows of one period (`statements_preserved`).

| here | there |
| --- | --- |
| `balanceFields`, `cashFlowFields`, … | the field maps of research/sepa/financials_data.py:45-114 |
| `shortVolumeRatio` | `short_volume_ratio` (financials_data.py:125) |
| `sortRows` | `rows.sort` of `_fetch_rows` (data_readiness.py:444) |
| `balanceSheets`, `cashFlows`, … | the five reads and loops (:450-519) |
| `serialize` | `_serialize` (:524), on JSON values |
| `getSymbolStatements` | `get_symbol_statements` (:419) |
-/

namespace BifrostApi.Research.Statements

open Py StableSort

/-! ## Field maps -/

def balanceFields : Dict String (List String) :=
  [("cash_and_equivalents", ["cash", "cash_and_equivalents", "cash_and_cash_equivalents"]),
   ("short_term_investments", ["short_term_investments"]),
   ("receivables", ["accounts_receivable", "receivables"]),
   ("inventories", ["inventory", "inventories"]),
   ("total_current_assets", ["current_assets", "total_current_assets"]),
   ("total_current_liabilities", ["current_liabilities", "total_current_liabilities"]),
   ("total_assets", ["assets", "total_assets"]),
   ("total_liabilities", ["liabilities", "total_liabilities"]),
   ("total_equity", ["equity", "total_equity"]),
   ("debt_current", ["debt_current", "current_debt"]),
   ("long_term_debt_and_capital_lease_obligations",
    ["long_term_debt", "long_term_debt_and_capital_lease_obligations"]),
   ("goodwill", ["goodwill"]),
   ("intangible_assets_net", ["intangible_assets", "intangible_assets_net"]),
   ("property_plant_equipment_net", ["property_plant_equipment_net", "fixed_assets"]),
   ("retained_earnings_deficit", ["retained_earnings", "retained_earnings_deficit"])]

def cashFlowFields : Dict String (List String) :=
  [("net_income", ["net_income_loss", "net_income"]),
   ("net_cash_from_operating_activities", ["net_cash_from_operating_activities"]),
   ("net_cash_from_investing_activities", ["net_cash_from_investing_activities"]),
   ("net_cash_from_financing_activities", ["net_cash_from_financing_activities"]),
   ("purchase_of_property_plant_and_equipment", ["purchase_of_property_plant_and_equipment"]),
   ("depreciation_depletion_and_amortization",
    ["depreciation_depletion_and_amortization", "depreciation_and_amortization"]),
   ("change_in_cash_and_equivalents", ["change_in_cash_and_equivalents"])]

def ratiosFields : Dict String (List String) :=
  [("price_to_earnings", ["price_to_earnings"]), ("price_to_sales", ["price_to_sales"]),
   ("price_to_book", ["price_to_book"]), ("price_to_free_cash_flow", ["price_to_free_cash_flow"]),
   ("price_to_cash_flow", ["price_to_cash_flow"]), ("debt_to_equity", ["debt_to_equity"]),
   ("return_on_equity", ["return_on_equity"]), ("return_on_assets", ["return_on_assets"]),
   ("market_cap", ["market_cap"]), ("free_cash_flow", ["free_cash_flow"]),
   ("earnings_per_share", ["earnings_per_share"]), ("average_volume", ["average_volume"]),
   ("dividend_yield", ["dividend_yield"]), ("enterprise_value", ["enterprise_value"]),
   ("ev_to_ebitda", ["ev_to_ebitda"]), ("ev_to_sales", ["ev_to_sales"]),
   ("current_ratio_from_ratios", ["current", "current_ratio"]),
   ("quick_ratio_from_ratios", ["quick", "quick_ratio"])]

def shortInterestFields : Dict String (List String) :=
  [("short_interest", ["short_interest"]), ("avg_daily_volume", ["avg_daily_volume"]),
   ("days_to_cover", ["days_to_cover"])]

def shortVolumeFields : Dict String (List String) :=
  [("short_volume", ["short_volume"]), ("short_volume_ratio", ["short_volume_ratio"]),
   ("total_volume", ["total_volume"])]

/-! ## Entries -/

/-- `r.get(k)`. -/
def column (r : PluginRow) (k : String) : Json := Json.getD r k .null

/-- The row's figures under the names of the answer. -/
def figures (fields : Dict String (List String)) (r : PluginRow) : Dict String Json :=
  unpackFinancialData (column r "data") fields

/-- `{k: flat.get(k) for k in ks}`. -/
def shown (flat : Dict String Json) (ks : List String) : Dict String Json :=
  ks.map fun k => (k, Json.getD flat k .null)

def period (r : PluginRow) : Dict String Json :=
  [("period_end", column r "period_date"), ("fiscal_year", column r "fiscal_year"),
   ("fiscal_quarter", column r "fiscal_quarter")]

/-- A volume that is known and not 0. -/
def known (volume : Option Number) : Option Number := volume.filter fun x => x ≠ .fin 0

/-- The quotient of the two volumes, else the vendor's percentage over 100. -/
def shortVolumeRatio (flat : Dict String Json) : Except Exc (Option Number) := do
  let short ← asFloat (Json.getD flat "short_volume" .null)
  let total ← asFloat (Json.getD flat "total_volume" .null)
  match known short, known total with
  | some short, some total => .ok (some (short.div total))
  | _, _ => (asFloat (Json.getD flat "short_volume_ratio" .null)).map fun pct => pct.map fun x => x.div (.fin 100)

/-- A series of the plugin, and how the table shows a row of it. -/
structure Statement where
  reportType : String
  periodType : Option String
  limit : Int
  entry : PluginRow → Except Exc (Dict String Json)

def balanceSheets : Statement := ⟨"balance_sheet", some "quarterly", 6, fun r => .ok (period r ++
  shown (figures balanceFields r)
    ["cash_and_equivalents", "total_current_assets", "total_current_liabilities", "total_assets", "total_liabilities",
     "total_equity", "receivables", "inventories", "debt_current", "long_term_debt_and_capital_lease_obligations",
     "property_plant_equipment_net", "retained_earnings_deficit"])⟩

def cashFlows : Statement := ⟨"cash_flow_statement", some "quarterly", 6, fun r => .ok (period r ++
  shown (figures cashFlowFields r)
    ["net_income", "net_cash_from_operating_activities", "net_cash_from_investing_activities",
     "net_cash_from_financing_activities", "depreciation_depletion_and_amortization",
     "purchase_of_property_plant_and_equipment", "change_in_cash_and_equivalents"])⟩

def ratios : Statement := ⟨"ratios", none, 8, fun r => .ok (("date", column r "period_date") ::
  shown (figures ratiosFields r)
    ["price_to_earnings", "price_to_sales", "price_to_book", "price_to_free_cash_flow", "debt_to_equity",
     "return_on_equity", "return_on_assets", "market_cap", "free_cash_flow", "earnings_per_share", "average_volume",
     "dividend_yield"])⟩

def shortInterest : Statement := ⟨"short_interest", none, 8, fun r =>
  .ok (("settlement_date", column r "period_date") ::
    shown (figures shortInterestFields r) ["short_interest", "avg_daily_volume", "days_to_cover"])⟩

def shortVolume : Statement := ⟨"short_volume", none, 12, fun r =>
  let flat := figures shortVolumeFields r
  (shortVolumeRatio flat).map fun ratio =>
    [("trade_date", column r "period_date"), ("short_volume", Json.getD flat "short_volume" .null),
     ("short_volume_ratio", (ratio.map Json.float).getD .null), ("total_volume", Json.getD flat "total_volume" .null)]⟩

/-- In the order in which they are read. -/
def statements : List (String × Statement) :=
  [("balance_sheets", balanceSheets), ("cash_flows", cashFlows), ("ratios", ratios), ("short_interest", shortInterest),
   ("short_volume", shortVolume)]

/-! ## Tables -/

/-- `r.get("period_date") or ""` -/
def periodKey (r : PluginRow) : Json := Json.getOr r "period_date" (.str "")

def periodText? (r : PluginRow) : Option String :=
  match periodKey r with
  | .str s => some s
  | _ => none

/-- A period that is a number but NaN. -/
def periodNumber? (r : PluginRow) : Option Number :=
  match periodKey r with
  | .bool b => some (.fin (if b then 1 else 0))
  | .int n => some (.fin n)
  | .float x => if x = .nan then none else some x
  | _ => none

/-- `otherSort` is what `list.sort` makes of other periods: lists compare with lists, NaN with numbers, the rest
raises. -/
def sortRows (otherSort : List PluginRow → Except Exc (List PluginRow)) (rows : List PluginRow) :
    Except Exc (List PluginRow) :=
  if rows.all fun r => (periodText? r).isSome then .ok (sortDesc (fun r => (periodText? r).getD "") rows)
  else if rows.all fun r => (periodNumber? r).isSome then
    .ok (rows.mergeSort fun a b => !((periodNumber? a).getD .nan).lt ((periodNumber? b).getD .nan))
  else if rows.length ≤ 1 then .ok rows
  else otherSort rows

def readRow (j : Json) : Except Exc PluginRow :=
  match j.items? with
  | some r => .ok r
  | none => .error .attributeError

def table (otherSort : List PluginRow → Except Exc (List PluginRow)) (s : Statement) (rows : List Json) :
    Except Exc (List (Dict String Json)) := do
  let rows ← rows.mapM readRow
  let rows ← sortRows otherSort rows
  rows.mapM s.entry

/-- A list or an object is printed, everything else is passed on. -/
def serialize (container : Json → String) : Json → Json
  | .arr xs => .str (container (.arr xs))
  | .obj kvs => .str (container (.obj kvs))
  | v => v

/-- What a request is answered. -/
inductive Answer
  | body (content : Json)
  /-- 400 -/
  | symbolRequired
  /-- 503, the detail is the exception's text -/
  | unavailable (e : Exc)
  | raised (e : Exc)

section Route

variable (otherSort : List PluginRow → Except Exc (List PluginRow)) (plugin : Plugin) (fault : String → Option Exc)
  (container : Json → String)

/-- The symbol's rows of a series; `fault` is what the read raises, if it does. -/
def series (sym : String) (s : Statement) : Except Exc (List Json) :=
  match fault s.reportType with
  | some e => .error e
  | none => (fetchSepaFinancials plugin [sym] s.reportType s.periodType s.limit).map fun data =>
      (data.lookup sym).getD []

def readTable (sym : String) (named : String × Statement) : Except Exc (String × Json) := do
  let rows ← series plugin fault sym named.2
  let entries ← table otherSort named.2 rows
  .ok (named.1, .arr (entries.map fun entry => .obj (Dict.mapVal (fun _ v => serialize container v) entry)))

def getSymbolStatements (symbol : String) : Answer :=
  let sym := upper (strip symbol)
  if sym = "" then .symbolRequired
  else match statements.mapM (readTable otherSort plugin fault container sym) with
    | .error e => .unavailable e
    | .ok tables =>
      let body : Json := .obj ([("ok", .bool true), ("symbol", .str sym)] ++ tables)
      -- the answer is rendered without NaN and infinity
      if body.allFinite then .body body else .raised .valueError

end Route

/-! ## Layouts -/

/-- What a value says: a dict its `value` if it has one, anything else itself. -/
inductive Says : Json → Json → Prop
  | nested {kvs : Dict String Json} {v : Json} : kvs.lookup "value" = some v → Says (.obj kvs) v
  | plain {v : Json} : (∀ kvs, v = .obj kvs → "value" ∉ Dict.keys kvs) → Says v v

/-- Every field has one figure in both, or is missing in both. -/
def SameFigures (d d' : Json) : Prop :=
  ∀ k j, (∃ v, d.get? k = some v ∧ Says v j) ↔ ∃ v, d'.get? k = some v ∧ Says v j

theorem says_iff {v j : Json} : Says v j ↔ jsonScalar v = j := by
  constructor
  · intro h
    cases h with
    | nested hvalue => rw [jsonScalar, hvalue, Option.getD_some]
    | plain hplain =>
      cases v with
      | obj kvs => rw [jsonScalar, Dict.lookup_eq_none.2 (hplain kvs rfl), Option.getD_none]
      | _ => rfl
  · rintro rfl
    cases v with
    | obj kvs =>
      cases hvalue : kvs.lookup "value" with
      | some v =>
        rw [jsonScalar, hvalue]
        exact .nested hvalue
      | none =>
        rw [jsonScalar, hvalue]
        refine .plain fun kvs' heq => ?_
        obtain rfl := Json.obj.inj heq
        exact Dict.lookup_eq_none.1 hvalue
    | _ => exact .plain fun kvs heq => by cases heq

theorem sameFigures_iff {d d' : Json} :
    SameFigures d d' ↔ ∀ k, (d.get? k).map jsonScalar = (d'.get? k).map jsonScalar := by
  have hread : ∀ (d : Json) k j, (∃ v, d.get? k = some v ∧ Says v j) ↔ (d.get? k).map jsonScalar = some j := by
    intro d k j
    rw [Option.map_eq_some_iff]
    exact exists_congr fun v => and_congr_right fun _ => says_iff
  refine forall_congr' fun k => ?_
  simp only [hread]
  exact ⟨Option.ext, fun h j => by rw [h]⟩

/-- Two rows of one period with the same figures, whatever their layouts. -/
structure SameRow (r r' : PluginRow) : Prop where
  columns : ∀ k, k ≠ "data" → r.lookup k = r'.lookup k
  figures : SameFigures (column r "data") (column r' "data")

/-- The figures themselves, where an object keeps them in its `value`. -/
def flatten (data : Json) : Json :=
  match data with
  | .obj fields => .obj (Dict.mapVal (fun _ v => jsonScalar v) fields)
  | data => data

/-- A legacy row has the figures of its flat layout. -/
theorem sameFigures_flatten (data : Json)
    (h : ∀ k v, data.get? k = some v → jsonScalar (jsonScalar v) = jsonScalar v) :
    SameFigures data (flatten data) := by
  refine sameFigures_iff.2 fun k => ?_
  cases data with
  | obj fields =>
    have hlookup : (flatten (.obj fields)).get? k = ((Json.obj fields).get? k).map jsonScalar :=
      Dict.lookup_mapVal _ fields k
    rw [hlookup, Option.map_map]
    cases hk : (Json.obj fields).get? k with
    | none => rfl
    | some v => exact congrArg some (h k v hk).symm
  | _ => rfl

theorem unpack_congr {d d' : Json} (h : SameFigures d d') (fields : Dict String (List String)) :
    unpackFinancialData d fields = unpackFinancialData d' fields := by
  have hget : ∀ (j : Json) (k : String), (j.items?.getD []).lookup k = j.get? k := by
    intro j k
    cases j <;> rfl
  unfold unpackFinancialData
  refine congrArg (fun f => Dict.mapVal f fields) (funext fun _ => funext fun keys => ?_)
  simp only [List.map_findSome?, Function.comp_def, hget]
  exact congrArg (fun f => (keys.findSome? f).getD Json.null) (funext (sameFigures_iff.1 h))

theorem SameRow.column {r r' : PluginRow} (h : SameRow r r') {k : String} (hk : k ≠ "data") :
    column r k = column r' k :=
  congrArg (fun v => v.getD Json.null) (h.columns k hk)

theorem SameRow.figures_eq {r r' : PluginRow} (h : SameRow r r') (fields : Dict String (List String)) :
    Statements.figures fields r = Statements.figures fields r' :=
  unpack_congr h.figures fields

theorem SameRow.period {r r' : PluginRow} (h : SameRow r r') : Statements.period r = Statements.period r' := by
  unfold Statements.period
  rw [h.column (by decide : "period_date" ≠ "data"), h.column (by decide : "fiscal_year" ≠ "data"),
    h.column (by decide : "fiscal_quarter" ≠ "data")]

/-- A table shows rows with the same figures alike. -/
theorem entry_congr {r r' : PluginRow} (h : SameRow r r') :
    ∀ named ∈ statements, named.2.entry r = named.2.entry r' := by
  have hdate := h.column (by decide : "period_date" ≠ "data")
  intro named hnamed
  simp only [statements, List.mem_cons, List.not_mem_nil, or_false] at hnamed
  rcases hnamed with rfl | rfl | rfl | rfl | rfl
  · simp only [balanceSheets, h.period, h.figures_eq]
  · simp only [cashFlows, h.period, h.figures_eq]
  · simp only [ratios, hdate, h.figures_eq]
  · simp only [shortInterest, hdate, h.figures_eq]
  · simp only [shortVolume, hdate, h.figures_eq]

/-! ## Series -/

/-- All periods are texts, and each period has the same rows, in one order. -/
structure SameSeries (rows rows' : List PluginRow) : Prop where
  dated : ∀ r ∈ rows, (periodText? r).isSome
  dated' : ∀ r ∈ rows', (periodText? r).isSome
  periods : ∀ t, List.Forall₂ SameRow (rows.filter (periodText? · = some t)) (rows'.filter (periodText? · = some t))

theorem sortRows_dated {otherSort : List PluginRow → Except Exc (List PluginRow)} {rows : List PluginRow}
    (h : ∀ r ∈ rows, (periodText? r).isSome) :
    sortRows otherSort rows = .ok (sortDesc (fun r => (periodText? r).getD "") rows) :=
  if_pos (List.all_eq_true.2 h)

theorem filter_dated {rows : List PluginRow} (h : ∀ r ∈ rows, (periodText? r).isSome) (t : String) :
    rows.filter (fun r => (periodText? r).getD "" = t) = rows.filter (periodText? · = some t) := by
  refine List.filter_congr fun r hr => ?_
  obtain ⟨s, hs⟩ := Option.isSome_iff_exists.1 (h r hr)
  rw [hs, Option.getD_some, decide_eq_decide, Option.some.injEq]

theorem mapM_readRow (rows : List PluginRow) : (rows.map Json.obj).mapM readRow = .ok rows := by
  induction rows with
  | nil => rfl
  | cons r rows ih =>
    rw [List.map_cons, List.mapM_cons, ih]
    rfl

/-- Sorting brings the rows of a period to one place in both series. -/
theorem SameSeries.sorted {rows rows' : List PluginRow} (h : SameSeries rows rows') :
    List.Forall₂ SameRow (sortDesc (fun r => (periodText? r).getD "") rows)
      (sortDesc (fun r => (periodText? r).getD "") rows') := by
  refine forall₂_sortDesc fun t => ?_
  rw [filter_dated h.dated, filter_dated h.dated']
  exact h.periods t

variable {otherSort : List PluginRow → Except Exc (List PluginRow)}

theorem table_congr {rows rows' : List PluginRow} (h : SameSeries rows rows') {named : String × Statement}
    (hnamed : named ∈ statements) :
    table otherSort named.2 (rows.map .obj) = table otherSort named.2 (rows'.map .obj) := by
  unfold table
  rw [mapM_readRow, mapM_readRow]
  change (sortRows otherSort rows >>= fun rows => rows.mapM named.2.entry) =
    sortRows otherSort rows' >>= fun rows => rows.mapM named.2.entry
  rw [sortRows_dated h.dated, sortRows_dated h.dated']
  exact Loop.mapM_congr h.sorted fun r r' hr => entry_congr hr named hnamed

/-- The two plugins have the same series of a symbol, where the read of a series does not fail. -/
def SameSource (fault : String → Option Exc) (plugin plugin' : Plugin) (sym : String) : Prop :=
  ∀ named ∈ statements, fault named.2.reportType = none → ∃ rows rows', SameSeries rows rows' ∧
    series plugin fault sym named.2 = .ok (rows.map .obj) ∧ series plugin' fault sym named.2 = .ok (rows'.map .obj)

theorem readTable_congr {fault : String → Option Exc} {container : Json → String} {plugin plugin' : Plugin}
    {sym : String} (h : SameSource fault plugin plugin' sym) {named : String × Statement}
    (hnamed : named ∈ statements) :
    readTable otherSort plugin fault container sym named = readTable otherSort plugin' fault container sym named := by
  unfold readTable
  cases hfault : fault named.2.reportType with
  | some e => simp only [series, hfault]
  | none =>
    obtain ⟨rows, rows', hsame, hrows, hrows'⟩ := h named hnamed hfault
    have htable := @table_congr otherSort _ _ hsame _ hnamed
    simp only [hrows, hrows', bind, Except.bind, htable]

/-- **Main.** Rewriting rows into the other layout, and sending the periods in another order, changes no answer. -/
theorem statements_preserved (otherSort : List PluginRow → Except Exc (List PluginRow)) (fault : String → Option Exc)
    (container : Json → String) {plugin plugin' : Plugin} (symbol : String)
    (h : SameSource fault plugin plugin' (upper (strip symbol))) :
    getSymbolStatements otherSort plugin fault container symbol =
      getSymbolStatements otherSort plugin' fault container symbol := by
  have htables : statements.mapM (readTable otherSort plugin fault container (upper (strip symbol))) =
      statements.mapM (readTable otherSort plugin' fault container (upper (strip symbol))) := by
    refine @Loop.mapM_congr _ _ _ _ (fun named named' => named = named' ∧ named ∈ statements) _ _ _ _
      (List.forall₂_same.2 fun named hnamed => ⟨rfl, hnamed⟩) ?_
    rintro named _ ⟨rfl, hnamed⟩
    exact readTable_congr h hnamed
  unfold getSymbolStatements
  dsimp only
  rw [htables]

/-- A row of one figure, legacy and flat. -/
def legacyRow (day : String) (n : Int) : PluginRow :=
  [("period_date", .str day), ("data", .obj [("assets", .obj [("value", .int n), ("unit", .str "USD")])])]

def flatRow (day : String) (n : Int) : PluginRow := [("period_date", .str day), ("data", .obj [("assets", .int n)])]

theorem sameRow_flat (day : String) (n : Int) : SameRow (legacyRow day n) (flatRow day n) := by
  constructor
  · intro k hk
    have hdata : (k == "data") = false := beq_false_of_ne hk
    simp only [legacyRow, flatRow, List.lookup_cons, hdata]
  · have hfigures : column (legacyRow day n) "data" =
        .obj [("assets", .obj [("value", .int n), ("unit", .str "USD")])] := rfl
    have hflat : column (flatRow day n) "data" = flatten (column (legacyRow day n) "data") := rfl
    rw [hflat]
    refine sameFigures_flatten _ fun k v hv => ?_
    rw [hfigures] at hv
    obtain ⟨-, rfl⟩ := Prod.mk.inj (List.mem_singleton.1 (Dict.mem_of_lookup hv))
    rfl

/-- A plugin with these rows of one symbol in every series. -/
def onePlugin (rows : List PluginRow) : Plugin := fun _ _ => [("data", .obj [("AAPL", .arr (rows.map .obj))])]

/-- Legacy rows newest first, and the same figures flat and oldest first. -/
theorem statements_preserved_restated :
    getSymbolStatements (fun _ => .error .typeError) (onePlugin [legacyRow "2026-06-30" 5, legacyRow "2026-03-31" 4])
      (fun _ => none) (fun _ => "") "aapl" =
    getSymbolStatements (fun _ => .error .typeError) (onePlugin [flatRow "2026-03-31" 4, flatRow "2026-06-30" 5])
      (fun _ => none) (fun _ => "") "aapl" := by
  have hsym : upper (strip "aapl") = "AAPL" := by decide +kernel
  have hother : ∀ (rows : List PluginRow) (t : String), t ≠ "2026-06-30" → t ≠ "2026-03-31" →
      (∀ r ∈ rows, periodText? r = some "2026-06-30" ∨ periodText? r = some "2026-03-31") →
      rows.filter (periodText? · = some t) = [] := by
    intro rows t hjune hmarch hrows
    rw [List.filter_eq_nil_iff]
    intro r hr ht
    rcases hrows r hr with hday | hday
    · exact hjune (Option.some.inj ((of_decide_eq_true ht).symm.trans hday))
    · exact hmarch (Option.some.inj ((of_decide_eq_true ht).symm.trans hday))
  refine statements_preserved (fun _ => .error .typeError) (fun _ => none) (fun _ => "") "aapl" fun named _ _ => ?_
  rw [hsym]
  refine ⟨_, _, ⟨?_, ?_, fun t => ?_⟩, rfl, rfl⟩
  · decide +kernel
  · decide +kernel
  · by_cases hjune : t = "2026-06-30"
    · subst hjune
      exact List.Forall₂.cons (sameRow_flat "2026-06-30" 5) List.Forall₂.nil
    · by_cases hmarch : t = "2026-03-31"
      · subst hmarch
        exact List.Forall₂.cons (sameRow_flat "2026-03-31" 4) List.Forall₂.nil
      · rw [hother _ t hjune hmarch (by decide +kernel), hother _ t hjune hmarch (by decide +kernel)]
        exact List.Forall₂.nil

end BifrostApi.Research.Statements
