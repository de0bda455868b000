import BifrostApi.Lib.Batch
import BifrostApi.Py.Json

/-!
# Batched requests to the market-data plugin (`research/market_data_client.py`)

Lists of symbols go to the plugin in batches of 100, lists of contract keys in batches of 120, and the
answers are put together with `extend`. A name that stands in two batches is asked for twice and its rows
come back twice (`fetch_transparent_fails`); within one batch the plugin names it once. The sibling
`fetch_sepa_ratios_latest` puts its batches together with `update`, which repeats nothing.

The plugin is a parameter: path and query parameters (after URL decoding) to the JSON object it answers.
`PluginAnswers` is what it documents, a request being answered with the rows of each distinct name in it.

| here | there |
| --- | --- |
| `rowList` | `_rows` (market_data_client.py:61) |
| `fetchRows` | the loop of `fetch_option_chain_latest` (:98) and `fetch_option_chain_eod` (:114) |
| `fetchBySymbol` | the loop of the `fetch_sepa_…` functions (:370, :405-459, :478) |
| `size` | `_OPTION_CHAIN_BATCH_SIZE` (:19), `_SEPA_BATCH_SIZE` (:367) |
-/

namespace BifrostApi.Research

open Py Batch

/-- The plugin: path and parameters to the object it answers. -/
abbrev Plugin := String → Dict String String → Dict String Json

/-- A list endpoint with the parameters that are the same for every batch. -/
structure Endpoint where
  path : String
  params : Dict String String
  deriving DecidableEq, Repr

/-- The row list of an answer. -/
def rowList (data : Dict String Json) : Json :=
  match Json.getD data "rows" .null with
  | .null => Json.getOr data "data" (.arr [])
  | rows => if rows.truthy then rows else .arr []

/-- `out.extend(_rows(data))` for one batch. -/
def extendRows (plugin : Plugin) (e : Endpoint) (out : List Json) (batch : List String) :
    Except Exc (List Json) :=
  match (rowList (plugin e.path (("keys", join "," batch) :: e.params))).iter? with
  | some rows => .ok (out ++ rows)
  | none => .error .typeError

/-- The rows of all keys, `size` keys a request. -/
def fetchRows (plugin : Plugin) (e : Endpoint) (size : Nat) (keys : List String) : Except Exc (List Json) :=
  (batches size keys).foldlM (extendRows plugin e) []

/-- `out.setdefault(sym, []).extend(rows)`. -/
def extendEntry (out : Dict String (List Json)) (entry : String × Json) :
    Except Exc (Dict String (List Json)) :=
  match entry.2.iter? with
  | some rows => .ok (Dict.set out entry.1 ((out.lookup entry.1).getD [] ++ rows))
  | none => .error .typeError

/-- One batch of symbols. -/
def extendSymbols (plugin : Plugin) (e : Endpoint) (out : Dict String (List Json)) (batch : List String) :
    Except Exc (Dict String (List Json)) :=
  match (Json.getOr (plugin e.path (("symbols", join "," batch) :: e.params)) "data" (.obj [])).items? with
  | some entries => entries.foldlM extendEntry out
  | none => .error .attributeError

/-- The rows by symbol, `size` symbols a request. -/
def fetchBySymbol (plugin : Plugin) (e : Endpoint) (size : Nat) (symbols : List String) :
    Except Exc (Dict String (List Json)) :=
  (batches size symbols).foldlM (extendSymbols plugin e) []

/-! ## The endpoints -/

/-- `if value: params[name] = value`. -/
def optionalParam (name : String) (value : Option String) : Dict String String :=
  match value with
  | some v => if v = "" then [] else [(name, v)]
  | none => []

def optionChainBatchSize : Nat := 120

def sepaBatchSize : Nat := 100

def optionChainLatest : Endpoint := ⟨"/options/chain/latest", []⟩

def optionChainEod (since : Option String) : Endpoint := ⟨"/options/chain/eod", optionalParam "since" since⟩

def sepaFinancials (reportType : String) (periodType : Option String) (limit : Int) : Endpoint :=
  ⟨"/stocks/fundamentals/sepa/financials",
    [("report_type", reportType), ("limit", toString limit)] ++ optionalParam "period_type" periodType⟩

def sepaIncomeExt : Endpoint := ⟨"/stocks/fundamentals/sepa/income-ext", []⟩

def sepaBalanceSheetExt (maxQuarters : Int) : Endpoint :=
  ⟨"/stocks/fundamentals/sepa/balance-sheet-ext", [("max_quarters", toString maxQuarters)]⟩

def sepaCashFlowExt (maxQuarters : Int) : Endpoint :=
  ⟨"/stocks/fundamentals/sepa/cash-flow-ext", [("max_quarters", toString maxQuarters)]⟩

def sepaShortInterestLatest (maxRows : Int) : Endpoint :=
  ⟨"/stocks/fundamentals/sepa/short-interest-latest", [("max_rows", toString maxRows)]⟩

def fetchOptionChainLatest (plugin : Plugin) (keys : List String) : Except Exc (List Json) :=
  fetchRows plugin optionChainLatest optionChainBatchSize keys

def fetchOptionChainEod (plugin : Plugin) (keys : List String) (since : Option String) :
    Except Exc (List Json) :=
  fetchRows plugin (optionChainEod since) optionChainBatchSize keys

def fetchSepaFinancials (plugin : Plugin) (symbols : List String) (reportType : String)
    (periodType : Option String) (limit : Int) : Except Exc (Dict String (List Json)) :=
  fetchBySymbol plugin (sepaFinancials reportType periodType limit) sepaBatchSize symbols

def fetchSepaIncomeExt (plugin : Plugin) (symbols : List String) : Except Exc (Dict String (List Json)) :=
  fetchBySymbol plugin sepaIncomeExt sepaBatchSize symbols

def fetchSepaBalanceSheetExt (plugin : Plugin) (symbols : List String) (maxQuarters : Int) :
    Except Exc (Dict String (List Json)) :=
  fetchBySymbol plugin (sepaBalanceSheetExt maxQuarters) sepaBatchSize symbols

def fetchSepaCashFlowExt (plugin : Plugin) (symbols : List String) (maxQuarters : Int) :
    Except Exc (Dict String (List Json)) :=
  fetchBySymbol plugin (sepaCashFlowExt maxQuarters) sepaBatchSize symbols

def fetchSepaShortInterestLatest (plugin : Plugin) (symbols : List String) (maxRows : Int) :
    Except Exc (Dict String (List Json)) :=
  fetchBySymbol plugin (sepaShortInterestLatest maxRows) sepaBatchSize symbols

/-- `fetch_option_daily` (:276). -/
def fetchOptionDaily (plugin : Plugin) (symbol : String) (expiry : Option String) (days limit : Nat) :
    Dict String Json :=
  plugin "/options/daily"
    ([("symbol", symbol), ("days", toString days), ("limit", toString limit)] ++ optionalParam "expiry" expiry)

/-- `fetch_stock_bars_daily` (:74). -/
def fetchStockBarsDaily (plugin : Plugin) (symbols : List String) (days : Nat) : Json :=
  Json.getD (plugin "/stocks/db/bars/daily" [("symbols", join "," symbols), ("days", toString days)]) "data"
    (.obj [])

/-! ## What the plugin answers -/

/-- The endpoints that take contract keys. -/
def keyPaths : List String := ["/options/chain/latest", "/options/chain/eod"]

/-- The endpoints that take symbols. -/
def symbolPaths : List String :=
  ["/stocks/fundamentals/sepa/financials", "/stocks/fundamentals/sepa/income-ext",
   "/stocks/fundamentals/sepa/balance-sheet-ext", "/stocks/fundamentals/sepa/cash-flow-ext",
   "/stocks/fundamentals/sepa/short-interest-latest"]

/-- The rows of one symbol, if it is asked for. -/
def rowsFor (rows : String → List Json) (symbols : List String) (s : String) : List Json :=
  if s ∈ symbols then rows s else []

/-- The rows a table holds for a symbol. -/
def rowsAt (table : Dict String (List Json)) (s : String) : List Json := (table.lookup s).getD []

/-- A request is answered with the rows of each distinct name in it, each row once, in any order. -/
structure PluginAnswers (plugin : Plugin) (rows : Endpoint → String → List Json) : Prop where
  keys : ∀ e : Endpoint, e.path ∈ keyPaths → ∀ text, ∃ rs,
    (plugin e.path (("keys", text) :: e.params)).lookup "rows" = some (.arr rs) ∧
      rs.Perm (answered (rows e) (split ',' text))
  symbols : ∀ e : Endpoint, e.path ∈ symbolPaths → ∀ text, ∃ table : Dict String (List Json),
    table.Distinct ∧
      (plugin e.path (("symbols", text) :: e.params)).lookup "data" =
        some (.obj (table.mapVal fun _ rs => .arr rs)) ∧
      ∀ s, (rowsAt table s).Perm (rowsFor (rows e) (split ',' text) s)

/-- No name has a comma. -/
def NoComma (names : List String) : Prop := ∀ n ∈ names, ',' ∉ n.toList

/-! ## All batches together -/

/-- Extending by a table appends its rows, symbol by symbol. -/
theorem foldlM_extendEntry : ∀ {table : Dict String (List Json)}, table.Distinct →
    ∀ out : Dict String (List Json), ∃ out',
      (table.mapVal fun _ rs => Json.arr rs).foldlM extendEntry out = .ok out' ∧
        ∀ s, rowsAt out' s = rowsAt out s ++ rowsAt table s
  | [], _, out => ⟨out, rfl, fun s => (List.append_nil _).symm⟩
  | (k, rs) :: table, hd, out => by
    obtain ⟨hk, hd⟩ := Dict.distinct_cons.1 hd
    obtain ⟨out', hrest, hrows⟩ := foldlM_extendEntry hd (Dict.set out k (rowsAt out k ++ rs))
    refine ⟨out', hrest, fun s => ?_⟩
    rw [hrows]
    unfold rowsAt
    rw [Dict.lookup_set, Dict.lookup_cons_eq]
    by_cases hs : s = k
    · subst hs
      simp [Dict.lookup_eq_none.2 hk]
    · simp [hs]

section Batches

variable {plugin : Plugin} {rows : Endpoint → String → List Json} (h : PluginAnswers plugin rows)
include h

/-- One batch of keys appends the rows of the distinct keys in it. -/
theorem extendRows_spec {e : Endpoint} (he : e.path ∈ keyPaths) {batch : List String} (hne : batch ≠ [])
    (hcomma : NoComma batch) (out : List Json) :
    ∃ rs, extendRows plugin e out batch = .ok (out ++ rs) ∧ rs.Perm (answered (rows e) batch) := by
  obtain ⟨rs, hlookup, hperm⟩ := h.keys e he (join "," batch)
  rw [split_join rfl hne hcomma] at hperm
  refine ⟨rs, ?_, hperm⟩
  have hlist : (rowList (plugin e.path (("keys", join "," batch) :: e.params))).iter? = some rs := by
    cases rs with
    | nil => simp [rowList, Json.getD, hlookup, Json.truthy, Json.iter?]
    | cons r rs => simp [rowList, Json.getD, hlookup, Json.truthy, Json.iter?]
  rw [extendRows, hlist]

theorem foldlM_extendRows {e : Endpoint} (he : e.path ∈ keyPaths) : ∀ {bs : List (List String)},
    (∀ b ∈ bs, b ≠ [] ∧ NoComma b) → ∀ out : List Json,
    ∃ rs, bs.foldlM (extendRows plugin e) out = .ok (out ++ rs) ∧ rs.Perm (bs.flatMap (answered (rows e)))
  | [], _, out => ⟨[], by rw [List.foldlM_nil, List.append_nil]; rfl, List.Perm.refl _⟩
  | b :: bs, hbs, out => by
    obtain ⟨hne, hcomma⟩ := hbs b (by simp)
    obtain ⟨rs, hstep, hperm⟩ := extendRows_spec h he hne hcomma out
    obtain ⟨rs', hrest, hperm'⟩ :=
      foldlM_extendRows he (fun b' hb' => hbs b' (List.mem_cons_of_mem b hb')) (out ++ rs)
    refine ⟨rs ++ rs', ?_, ?_⟩
    · rw [List.foldlM_cons, hstep, ← List.append_assoc]
      exact hrest
    · rw [List.flatMap_cons]
      exact hperm.append hperm'

/-- One batch of symbols appends, for each symbol in it, its rows. -/
theorem extendSymbols_spec {e : Endpoint} (he : e.path ∈ symbolPaths) {batch : List String} (hne : batch ≠ [])
    (hcomma : NoComma batch) (out : Dict String (List Json)) :
    ∃ out', extendSymbols plugin e out batch = .ok out' ∧ ∀ s, ∃ rs,
      rowsAt out' s = rowsAt out s ++ rs ∧ rs.Perm (rowsFor (rows e) batch s) := by
  obtain ⟨table, hd, hlookup, hperm⟩ := h.symbols e he (join "," batch)
  rw [split_join rfl hne hcomma] at hperm
  have hitems : (Json.getOr (plugin e.path (("symbols", join "," batch) :: e.params)) "data" (.obj [])).items? =
      some (table.mapVal fun _ rs => .arr rs) := by
    cases table with
    | nil => simp [Json.getOr, Json.orDefault, hlookup, Json.truthy, Json.items?, Dict.mapVal]
    | cons entry table => simp [Json.getOr, Json.orDefault, hlookup, Json.truthy, Json.items?, Dict.mapVal]
  obtain ⟨out', hfold, hrows⟩ := foldlM_extendEntry hd out
  refine ⟨out', ?_, fun s => ⟨rowsAt table s, hrows s, hperm s⟩⟩
  rw [extendSymbols, hitems]
  exact hfold

theorem foldlM_extendSymbols {e : Endpoint} (he : e.path ∈ symbolPaths) : ∀ {bs : List (List String)},
    (∀ b ∈ bs, b ≠ [] ∧ NoComma b) → ∀ out : Dict String (List Json),
    ∃ out', bs.foldlM (extendSymbols plugin e) out = .ok out' ∧ ∀ s, ∃ rs,
      rowsAt out' s = rowsAt out s ++ rs ∧ rs.Perm (bs.flatMap fun b => rowsFor (rows e) b s)
  | [], _, out => ⟨out, rfl, fun s => ⟨[], (List.append_nil _).symm, List.Perm.refl _⟩⟩
  | b :: bs, hbs, out => by
    obtain ⟨hne, hcomma⟩ := hbs b (by simp)
    obtain ⟨out₁, hstep, hrows₁⟩ := extendSymbols_spec h he hne hcomma out
    obtain ⟨out₂, hrest, hrows₂⟩ :=
      foldlM_extendSymbols he (fun b' hb' => hbs b' (List.mem_cons_of_mem b hb')) out₁
    refine ⟨out₂, ?_, fun s => ?_⟩
    · rw [List.foldlM_cons, hstep]
      exact hrest
    · obtain ⟨rs₁, heq₁, hperm₁⟩ := hrows₁ s
      obtain ⟨rs₂, heq₂, hperm₂⟩ := hrows₂ s
      refine ⟨rs₁ ++ rs₂, ?_, ?_⟩
      · rw [heq₂, heq₁, List.append_assoc]
      · rw [List.flatMap_cons]
        exact hperm₁.append hperm₂

/-- What `fetchRows` answers: every batch's distinct keys, batch after batch. -/
theorem fetchRows_spec {e : Endpoint} (he : e.path ∈ keyPaths) (size : Nat) {keys : List String}
    (hcomma : NoComma keys) : ∃ out, fetchRows plugin e size keys = .ok out ∧
      out.Perm ((batches size keys).flatMap (answered (rows e))) := by
  have hbs : ∀ b ∈ batches size keys, b ≠ [] ∧ NoComma b := fun b hb =>
    ⟨ne_nil_of_mem_batches hb, fun k hk => hcomma k (mem_of_mem_batches hb hk)⟩
  obtain ⟨out, hok, hperm⟩ := foldlM_extendRows h he hbs []
  exact ⟨out, hok, hperm⟩

theorem fetchBySymbol_spec {e : Endpoint} (he : e.path ∈ symbolPaths) (size : Nat) {symbols : List String}
    (hcomma : NoComma symbols) : ∃ out, fetchBySymbol plugin e size symbols = .ok out ∧
      ∀ s, (rowsAt out s).Perm ((batches size symbols).flatMap fun b => rowsFor (rows e) b s) := by
  have hbs : ∀ b ∈ batches size symbols, b ≠ [] ∧ NoComma b := fun b hb =>
    ⟨ne_nil_of_mem_batches hb, fun k hk => hcomma k (mem_of_mem_batches hb hk)⟩
  obtain ⟨out, hok, hrows⟩ := foldlM_extendSymbols h he hbs []
  refine ⟨out, hok, fun s => ?_⟩
  obtain ⟨rs, heq, hperm⟩ := hrows s
  have hempty : rowsAt [] s = [] := rfl
  rw [heq, hempty, List.nil_append]
  exact hperm

end Batches

/-! ## Batching is transparent for names asked for in one batch -/

/-- No name with rows stands at two positions that fall into different batches. -/
def AskedOnce (size : Nat) (rows : String → List Json) (names : List String) : Prop :=
  ∀ i j n, names[i]? = some n → names[j]? = some n → i / size ≠ j / size → rows n = []

/-- The batched answer is the answer to the whole list, and that is each distinct key's rows once. -/
def SameRows (batched whole : Except Exc (List Json)) (rows : String → List Json) (keys : List String) : Prop :=
  ∃ out out', batched = .ok out ∧ whole = .ok out' ∧ out.Perm out' ∧ out.Perm (answered rows keys)

/-- The same, symbol by symbol. -/
def SameTable (batched whole : Except Exc (Dict String (List Json))) (rows : String → List Json)
    (symbols : List String) : Prop :=
  ∃ out out', batched = .ok out ∧ whole = .ok out' ∧
    ∀ s, (rowsAt out s).Perm (rowsAt out' s) ∧ (rowsAt out s).Perm (rowsFor rows symbols s)

/-- Of the batches only what they say about `s` counts. -/
theorem flatMap_rowsFor {size : Nat} (hsize : 0 < size) (r : String → List Json) (symbols : List String)
    (s : String) :
    ((batches size symbols).flatMap fun b => rowsFor r b s).Perm (rowsFor r symbols s) ↔
      ∀ i j, symbols[i]? = some s → symbols[j]? = some s → i / size ≠ j / size → r s = [] := by
  have hiff := flatMap_answered_batches hsize (fun n => if n = s then r n else []) symbols
  have hsingle : (fun b => rowsFor r b s) = answered fun n => if n = s then r n else [] := by
    funext b
    rw [answered_single]
    rfl
  have hwhole : rowsFor r symbols s = answered (fun n => if n = s then r n else []) symbols := by
    rw [answered_single]
    rfl
  rw [hsingle, hwhole, hiff]
  constructor
  · intro hall i j hi hj hne
    have := hall i j s hi hj hne
    simpa using this
  · intro hall i j n hi hj hne
    by_cases hn : n = s
    · subst hn
      simp [hall i j hi hj hne]
    · simp [hn]

section Transparent

variable {plugin : Plugin} {rows : Endpoint → String → List Json} (h : PluginAnswers plugin rows)
include h

theorem fetchRows_transparent {e : Endpoint} (he : e.path ∈ keyPaths) {size : Nat} (hsize : 0 < size)
    {keys : List String} (hcomma : NoComma keys) :
    SameRows (fetchRows plugin e size keys) (fetchRows plugin e keys.length keys) (rows e) keys ↔
      AskedOnce size (rows e) keys := by
  obtain ⟨out, hok, hperm⟩ := fetchRows_spec h he size hcomma
  obtain ⟨out', hok', hperm'⟩ := fetchRows_spec h he keys.length hcomma
  rw [flatMap_batches_length rfl] at hperm'
  have hiff := flatMap_answered_batches hsize (rows e) keys
  constructor
  · rintro ⟨xs, ys, hxs, -, -, honce⟩
    obtain rfl := Except.ok.inj (hok.symm.trans hxs)
    exact hiff.1 (hperm.symm.trans honce)
  · intro hcond
    have honce := hperm.trans (hiff.2 hcond)
    exact ⟨out, out', hok, hok', honce.trans hperm'.symm, honce⟩

theorem fetchBySymbol_transparent {e : Endpoint} (he : e.path ∈ symbolPaths) {size : Nat} (hsize : 0 < size)
    {symbols : List String} (hcomma : NoComma symbols) :
    SameTable (fetchBySymbol plugin e size symbols) (fetchBySymbol plugin e symbols.length symbols) (rows e)
      symbols ↔ AskedOnce size (rows e) symbols := by
  obtain ⟨out, hok, hperm⟩ := fetchBySymbol_spec h he size hcomma
  obtain ⟨out', hok', hperm'⟩ := fetchBySymbol_spec h he symbols.length hcomma
  constructor
  · rintro ⟨xs, ys, hxs, -, hsame⟩ i j n hi hj hne
    obtain rfl := Except.ok.inj (hok.symm.trans hxs)
    exact (flatMap_rowsFor hsize (rows e) symbols n).1 ((hperm n).symm.trans (hsame n).2) i j hi hj hne
  · intro hcond
    refine ⟨out, out', hok, hok', fun s => ?_⟩
    have honce := (hperm s).trans ((flatMap_rowsFor hsize (rows e) symbols s).2 fun i j => hcond i j s)
    have hwhole := hperm' s
    rw [flatMap_batches_length rfl] at hwhole
    exact ⟨honce.trans hwhole.symm, honce⟩

/-- **Main.** Each of the seven functions returns what one request for the whole list returns, every
name's rows once, exactly when no name with rows stands in two batches. -/
theorem fetch_transparent :
    (∀ keys, NoComma keys →
      (SameRows (fetchOptionChainLatest plugin keys) (fetchRows plugin optionChainLatest keys.length keys)
        (rows optionChainLatest) keys ↔ AskedOnce 120 (rows optionChainLatest) keys)) ∧
    (∀ keys since, NoComma keys →
      (SameRows (fetchOptionChainEod plugin keys since) (fetchRows plugin (optionChainEod since) keys.length keys)
        (rows (optionChainEod since)) keys ↔ AskedOnce 120 (rows (optionChainEod since)) keys)) ∧
    (∀ symbols reportType periodType limit, NoComma symbols →
      let e := sepaFinancials reportType periodType limit
      (SameTable (fetchSepaFinancials plugin symbols reportType periodType limit)
        (fetchBySymbol plugin e symbols.length symbols) (rows e) symbols ↔ AskedOnce 100 (rows e) symbols)) ∧
    (∀ symbols, NoComma symbols →
      (SameTable (fetchSepaIncomeExt plugin symbols) (fetchBySymbol plugin sepaIncomeExt symbols.length symbols)
        (rows sepaIncomeExt) symbols ↔ AskedOnce 100 (rows sepaIncomeExt) symbols)) ∧
    (∀ symbols maxQuarters, NoComma symbols →
      let e := sepaBalanceSheetExt maxQuarters
      (SameTable (fetchSepaBalanceSheetExt plugin symbols maxQuarters)
        (fetchBySymbol plugin e symbols.length symbols) (rows e) symbols ↔ AskedOnce 100 (rows e) symbols)) ∧
    (∀ symbols maxQuarters, NoComma symbols →
      let e := sepaCashFlowExt maxQuarters
      (SameTable (fetchSepaCashFlowExt plugin symbols maxQuarters)
        (fetchBySymbol plugin e symbols.length symbols) (rows e) symbols ↔ AskedOnce 100 (rows e) symbols)) ∧
    (∀ symbols maxRows, NoComma symbols →
      let e := sepaShortInterestLatest maxRows
      (SameTable (fetchSepaShortInterestLatest plugin symbols maxRows)
        (fetchBySymbol plugin e symbols.length symbols) (rows e) symbols ↔ AskedOnce 100 (rows e) symbols)) := by
  refine ⟨fun keys hc => ?_, fun keys since hc => ?_, fun symbols rt pt limit hc => ?_, fun symbols hc => ?_,
    fun symbols n hc => ?_, fun symbols n hc => ?_, fun symbols n hc => ?_⟩
  · exact fetchRows_transparent h (by simp [keyPaths, optionChainLatest]) (by decide) hc
  · exact fetchRows_transparent h (by simp [keyPaths, optionChainEod]) (by decide) hc
  · exact fetchBySymbol_transparent h (by simp [symbolPaths, sepaFinancials]) (by decide) hc
  · exact fetchBySymbol_transparent h (by simp [symbolPaths, sepaIncomeExt]) (by decide) hc
  · exact fetchBySymbol_transparent h (by simp [symbolPaths, sepaBalanceSheetExt]) (by decide) hc
  · exact fetchBySymbol_transparent h (by simp [symbolPaths, sepaCashFlowExt]) (by decide) hc
  · exact fetchBySymbol_transparent h (by simp [symbolPaths, sepaShortInterestLatest]) (by decide) hc

end Transparent

/-! ## A symbol asked for in two batches -/

/-- One row a name. -/
def sampleRows (_ : Endpoint) (n : String) : List Json := [.obj [("symbol", .str n)]]

/-- A plugin with one row for every name. -/
def samplePlugin : Plugin := fun path params =>
  if path ∈ keyPaths then
    [("rows", .arr (answered (sampleRows optionChainLatest) (split ',' ((params.lookup "keys").getD ""))))]
  else
    [("data", .obj (Dict.mapVal (fun _ rs => .arr rs)
      ((split ',' ((params.lookup "symbols").getD "")).dedup.map fun s => (s, sampleRows sepaIncomeExt s))))]

theorem rowsAt_map (f : String → List Json) (s : String) : ∀ symbols : List String,
    rowsAt (symbols.map fun n => (n, f n)) s = if s ∈ symbols then f s else []
  | [] => rfl
  | n :: symbols => by
    have ih := rowsAt_map f s symbols
    unfold rowsAt at ih ⊢
    rw [List.map_cons, Dict.lookup_cons_eq]
    by_cases hs : s = n
    · simp [hs]
    · simp [hs, ih]

theorem samplePlugin_answers : PluginAnswers samplePlugin sampleRows := by
  constructor
  · intro e he text
    refine ⟨answered (sampleRows e) (split ',' text), ?_, List.Perm.refl _⟩
    rw [samplePlugin, if_pos he]
    rfl
  · intro e he text
    have hpath : e.path ∉ keyPaths := by
      intro hkey
      simp only [keyPaths, symbolPaths, List.mem_cons, List.not_mem_nil, or_false] at he hkey
      rcases hkey with hkey | hkey <;> rw [hkey] at he <;> revert he <;> decide
    refine ⟨(split ',' text).dedup.map fun s => (s, sampleRows sepaIncomeExt s), ?_, ?_, fun s => ?_⟩
    · have hkeys : Dict.keys ((split ',' text).dedup.map fun s => (s, sampleRows sepaIncomeExt s)) =
          (split ',' text).dedup := by
        simp [Dict.keys, Function.comp_def]
      rw [Dict.Distinct, hkeys]
      exact List.nodup_dedup _
    · rw [samplePlugin, if_neg hpath]
      rfl
    · rw [rowsAt_map]
      simp only [List.mem_dedup]
      exact List.Perm.refl _

/-- A first batch of one symbol, and another one in the second. -/
def twoBatches : List String := List.replicate 100 "AAPL" ++ ["MSFT"]

theorem mem_twoBatches {i : Nat} {n : String} (h : twoBatches[i]? = some n) :
    (n = "AAPL" ∧ i < 100) ∨ (n = "MSFT" ∧ i = 100) := by
  unfold twoBatches at h
  rcases Nat.lt_or_ge i 100 with hi | hi
  · rw [List.getElem?_append_left (by rw [List.length_replicate]; exact hi), List.getElem?_replicate, if_pos hi] at h
    exact Or.inl ⟨(Option.some.inj h).symm, hi⟩
  · rw [List.getElem?_append_right (by rw [List.length_replicate]; exact hi), List.length_replicate] at h
    obtain ⟨hlt, hn⟩ := List.getElem?_eq_some_iff.1 h
    rw [List.length_singleton] at hlt
    exact Or.inr ⟨by rw [← hn, List.getElem_singleton], by omega⟩

theorem fetch_transparent_sample :
    SameTable (fetchSepaIncomeExt samplePlugin twoBatches)
      (fetchBySymbol samplePlugin sepaIncomeExt twoBatches.length twoBatches) (sampleRows sepaIncomeExt)
      twoBatches := by
  have hcomma : NoComma twoBatches := by
    intro n hn
    obtain ⟨i, hi⟩ := List.mem_iff_getElem?.1 hn
    rcases mem_twoBatches hi with ⟨rfl, -⟩ | ⟨rfl, -⟩ <;> decide
  refine ((fetch_transparent samplePlugin_answers).2.2.2.1 _ hcomma).2 fun i j n hi hj hne => absurd ?_ hne
  rcases mem_twoBatches hi with ⟨rfl, hi'⟩ | ⟨rfl, rfl⟩
  · rcases mem_twoBatches hj with ⟨-, hj'⟩ | ⟨h, -⟩
    · omega
    · exact absurd h (by decide)
  · rcases mem_twoBatches hj with ⟨h, -⟩ | ⟨-, rfl⟩
    · exact absurd h (by decide)
    · rfl

/-- A list with one symbol 101 times asks for it in both batches. -/
theorem fetch_transparent_fails :
    PluginAnswers samplePlugin sampleRows ∧ NoComma (List.replicate 101 "AAPL") ∧
      ¬ SameTable (fetchSepaIncomeExt samplePlugin (List.replicate 101 "AAPL"))
        (fetchBySymbol samplePlugin sepaIncomeExt 101 (List.replicate 101 "AAPL")) (sampleRows sepaIncomeExt)
        (List.replicate 101 "AAPL") := by
  have hcomma : NoComma (List.replicate 101 "AAPL") := by
    intro n hn
    obtain rfl := List.eq_of_mem_replicate hn
    decide
  refine ⟨samplePlugin_answers, hcomma, fun hsame => ?_⟩
  have hpath : sepaIncomeExt.path ∈ symbolPaths := by simp [symbolPaths, sepaIncomeExt]
  have honce := (fetchBySymbol_transparent samplePlugin_answers hpath (by decide) hcomma).1 hsame
  have hrows := honce 0 100 "AAPL" (by decide) (by decide) (by decide)
  simp [sampleRows] at hrows

end BifrostApi.Research
