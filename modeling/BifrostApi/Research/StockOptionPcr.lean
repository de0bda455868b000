import Mathlib.Data.List.Dedup
import Mathlib.Data.String.Basic
import BifrostApi.Lib.Latest
import BifrostApi.Lib.Loop
import BifrostApi.Lib.StableSort
import BifrostApi.Py.Rounding
import BifrostApi.Py.Upper
import BifrostApi.Research.ExpiryReaders

/-!
# Put/call ratios and the option chain by expiry

Open interest and volume come as two series of rows with a trade date. `_fetch_pcr_trend_via_plugin` joins them
into one point a day; a day that one series did not measure reads 0 in it, not null, unless that is the volume
series and it has no row at all. The chain rows are then read in three loops under one `try`: the largest counts,
the rows with an expiry, the entries of those that are kept. An error in the second leaves no entry, one in the
third the entries before it, and neither looks at the snapshot days (`mergeFaithful`).

| here | there |
| --- | --- |
| `safeRatio`, `pcRatio` | `_safe_ratio`, on the `float` of two counts |
| `readSeries`, `trendPoint`, `fetchPcrTrend` | `_fetch_pcr_trend_via_plugin` |
| `expiryDate?` | `_parse_expiry_date` on what a row holds |
| `expirationLabel`, `serializeText` | `_format_expiry_label` with `_expiry_suffix`, `_serialize_date` |
| `largest`, `chainStep`, `chainEntry`, `chainPart` | the `try` of `fetch_symbol_option_pcr` |
| `fetchSymbolOptionPcr` | `fetch_symbol_option_pcr` |
-/

namespace BifrostApi.Research.StockOptionPcr

open Py Latest Loop StableSort

/-! ## Ratios -/

/-- `_safe_ratio`. -/
def safeRatio (num den : Number) : Option Number :=
  if den.le (.fin 0) || num.lt (.fin 0) then none else some ((num.div den).round 3)

/-- `_safe_ratio(float(put), float(call))`. -/
def pcRatio (put call : Int) : Except Exc (Option Number) := do
  let num ← (Json.int put).toFloat
  let den ← (Json.int call).toFloat
  pure (safeRatio num den)

/-! ## The trend -/

/-- A row of a put/call aggregate; what it does not hold is `none`. -/
structure PcrPoint where
  tradeDate : Option String
  putValue : Option Int
  callValue : Option Int

/-- The rows of an answer that is `ok`; `none` when it is not, or when the call raised. -/
abbrev PcrResponse := Option (List PcrPoint)

/-- Puts and calls. -/
abbrev Counts := Int × Int

abbrev ByDay := Dict String Counts

def PcrPoint.counts (pt : PcrPoint) : Counts := (pt.putValue.getD 0, pt.callValue.getD 0)

/-- `date.fromisoformat(td_key[:10])`. -/
def dayOf? (tradeDate : String) : Option Date := Date.ofIsoText? (tradeDate.toList.take 10)

def readPoint (acc : ByDay × Option Date) (pt : PcrPoint) : ByDay × Option Date :=
  match pt.tradeDate with
  | none => acc
  | some td =>
    if td = "" then acc
    else (acc.1.set td pt.counts, match dayOf? td with
      | some d => some (later acc.2 d)
      | none => acc.2)

/-- One series by its days, and the latest day so far. -/
def readSeries (asOf : Option Date) (resp : PcrResponse) : ByDay × Option Date :=
  (resp.getD []).foldl readPoint ([], asOf)

structure TrendPoint where
  tradeDate : String
  putOi : Option Int
  callOi : Option Int
  oiRatio : Option Number
  putVol : Option Int
  callVol : Option Int
  volRatio : Option Number
  deriving DecidableEq

def trendPoint (oiByDay volByDay : ByDay) (td : String) : Except Exc TrendPoint := do
  let oi := (oiByDay.lookup td).getD (0, 0)
  let vol := (volByDay.lookup td).getD (0, 0)
  let oiRatio ← pcRatio oi.1 oi.2
  let volRatio ← if volByDay.isEmpty then pure none else pcRatio vol.1 vol.2
  pure {
    tradeDate := td
    putOi := some oi.1
    callOi := some oi.2
    oiRatio
    putVol := if volByDay.isEmpty then none else some vol.1
    callVol := if volByDay.isEmpty then none else some vol.2
    volRatio }

structure Trend where
  points : List TrendPoint
  asOf : Option Date
  oiBasis : Json

def fetchPcrTrend (oiResp volResp : PcrResponse) : Except Exc Trend := do
  let (oiByDay, asOf) := readSeries none oiResp
  let (volByDay, asOf) := readSeries asOf volResp
  let allDates := sortAsc id (oiByDay.keys ++ volByDay.keys).dedup
  pure { points := ← allDates.mapM (trendPoint oiByDay volByDay), asOf, oiBasis := .str "plugin_api" }

/-! ## Reading a chain row -/

/-- A row of the chain; a count it does not hold is `none`, any other field `None`. -/
structure ChainRow where
  expiry : Json
  putOi : Option Int
  callOi : Option Int
  putVol : Option Int
  callVol : Option Int
  snapDay : Json

structure ChainResponse where
  chain : List ChainRow
  basis : Json

namespace ChainRow

def putOiCount (r : ChainRow) : Int := r.putOi.getD 0
def callOiCount (r : ChainRow) : Int := r.callOi.getD 0
def putVolCount (r : ChainRow) : Int := r.putVol.getD 0
def callVolCount (r : ChainRow) : Int := r.callVol.getD 0
def totalOi (r : ChainRow) : Int := r.putOiCount + r.callOiCount
def totalVol (r : ChainRow) : Int := r.putVolCount + r.callVolCount

end ChainRow

section

variable (container : Json → String)

/-- `_parse_expiry_date`. -/
def expiryDate? : Json → Option Date
  | .null => none
  | j => parseExpiryDate (j.text container)

/-- `date.fromisoformat(str(snap_day)[:10])`, when there is a snapshot day. -/
def snapDate? (snapDay : Json) : Option Date :=
  if snapDay.truthy then Date.ofIsoText? ((snapDay.text container).toList.take 10) else none

/-- `_serialize_date` on what is no date. -/
def serializeText : Json → Option String
  | .null => none
  | j =>
    let s := strip (j.text container)
    if 10 ≤ s.length then some (String.ofList (s.toList.take 10)) else if s = "" then none else some s

/-- `_serialize_date(exp) or str(exp or "")`. -/
def expiryText (j : Json) : String :=
  match serializeText container j with
  | some s => if s = "" then (if j.truthy then j.text container else "") else s
  | none => if j.truthy then j.text container else ""

end

/-- US equity monthly option expiry is typically the third Friday. -/
def thirdFridayOfMonth (d : Date) : Bool :=
  if d.weekday ≠ 4 then false
  else
    let first := d.ordinal - (d.day - 1)
    let untilFriday := (4 - (first + 6) % 7) % 7
    d.ordinal == first + untilFriday + 14

def expirySuffix (d : Date) : String :=
  if thirdFridayOfMonth d then " (m)" else if d.weekday = 4 then " (w)" else " (m)"

def expirationLabel (d : Date) : String :=
  String.ofList (Date.pad2 d.month ++ '/' :: Date.pad2 d.day ++ '/' :: (Nat.toDigits 10 d.year).drop 2)
    ++ expirySuffix d

/-- A row with an expiry; its counts are read. -/
structure ParsedRow where
  expiry : String
  expiryDate : Date
  expirationLabel : String
  dte : Int
  putVol : Int
  callVol : Int
  totalVol : Int
  pcVol : Option Number
  putOi : Int
  callOi : Int
  totalOi : Int
  pcOi : Option Number
  deriving DecidableEq

def ParsedRow.kept (row : ParsedRow) : Bool := 0 < row.totalOi || 0 < row.totalVol || -14 ≤ row.dte

/-! ## The chain -/

/-- `m = 1; for r in chain: m = max(m, f(r))`. -/
def largest (f : ChainRow → Int) (chain : List ChainRow) : Int := chain.foldl (fun m r => max m (f r)) 1

/-- One turn of the second loop. -/
def chainStep (container : Json → String) (today : Date) (acc : Option Date × List ParsedRow) (r : ChainRow) :
    Except Exc (Option Date × List ParsedRow) :=
  match expiryDate? container r.expiry with
  | none => .ok acc
  | some d => do
    let snapshotAsOf := match snapDate? container r.snapDay with
      | some sd => some (later acc.1 sd)
      | none => acc.1
    let pcVol ← pcRatio r.putVolCount r.callVolCount
    let pcOi ← pcRatio r.putOiCount r.callOiCount
    pure (snapshotAsOf, acc.2 ++ [{
      expiry := expiryText container r.expiry
      expiryDate := d
      expirationLabel := expirationLabel d
      dte := d.ordinal - today.ordinal
      putVol := r.putVolCount
      callVol := r.callVolCount
      totalVol := r.totalVol
      pcVol
      putOi := r.putOiCount
      callOi := r.callOiCount
      totalOi := r.totalOi
      pcOi }])

/-- `x / max`; a quotient too large for a `float` raises. -/
def intDiv (x max : Int) : Except Exc Number :=
  if Number.overflowBound ≤ |(x / max : ℚ)| then .error .overflowError else .ok (.fin (x / max))

/-- `round(x / max * 100, 1) if max else 0`. -/
def barPct (x max : Int) : Except Exc Number :=
  if max = 0 then .ok (.fin 0) else do pure (((← intDiv x max).mul (.fin 100)).round 1)

/-- The bars of an entry; the answer has the fields of `row` but for its date. -/
structure ChainEntry where
  row : ParsedRow
  barPutVolPct : Number
  barCallVolPct : Number
  barTotalVolPct : Number
  barPutOiPct : Number
  barCallOiPct : Number
  barTotalOiPct : Number
  deriving DecidableEq

def ChainEntry.bars (e : ChainEntry) : List Number :=
  [e.barPutVolPct, e.barCallVolPct, e.barTotalVolPct, e.barPutOiPct, e.barCallOiPct, e.barTotalOiPct]

def chainEntry (chain : List ChainRow) (row : ParsedRow) : Except Exc ChainEntry := do
  pure {
    row
    barPutVolPct := ← barPct row.putVol (largest ChainRow.putVolCount chain)
    barCallVolPct := ← barPct row.callVol (largest ChainRow.callVolCount chain)
    barTotalVolPct := ← barPct row.totalVol (largest ChainRow.totalVol chain)
    barPutOiPct := ← barPct row.putOi (largest ChainRow.putOiCount chain)
    barCallOiPct := ← barPct row.callOi (largest ChainRow.callOiCount chain)
    barTotalOiPct := ← barPct row.totalOi (largest ChainRow.totalOi chain) }

structure ChainPart where
  rows : List ChainEntry
  asOf : Option Date
  oiBasis : Json
  chainBasis : Json

/-- The date and basis after the chain: a snapshot day later than the trend's date takes its place. -/
def moveAsOf (trend : Trend) (chainBasis : Json) : Option Date → Option Date × Json
  | none => (trend.asOf, trend.oiBasis)
  | some sd =>
    if trend.asOf.all (· < sd) then (some sd, Json.orDefault (some chainBasis) trend.oiBasis)
    else (trend.asOf, trend.oiBasis)

/-- The `try` around the chain; `none` when the request raised. -/
def chainPart (container : Json → String) (today : Date) (trend : Trend) : Option ChainResponse → ChainPart
  | none => ⟨[], trend.asOf, trend.oiBasis, .null⟩
  | some resp =>
    match resp.chain.foldlM (chainStep container today) (none, []) with
    | .error _ => ⟨[], trend.asOf, trend.oiBasis, resp.basis⟩
    | .ok (snapshotAsOf, parsedChain) =>
      let entries := appendEach (chainEntry resp.chain)
        (sortAsc ParsedRow.expiryDate (parsedChain.filter ParsedRow.kept))
      -- an error in the last loop leaves its entries and skips the snapshot days
      let moved := if entries.2.isSome then (trend.asOf, trend.oiBasis) else moveAsOf trend resp.basis snapshotAsOf
      ⟨entries.1, moved.1, moved.2, resp.basis⟩

/-! ## The answer -/

inductive PcrType
  | oi
  | volume
  deriving DecidableEq

/-- What the plugin answers: an aggregate of a symbol over some days, and its chain with the date to fall back to. -/
structure Plugin where
  pcrAggregate : String → PcrType → Int → PcrResponse
  chainByExpiry : String → Option String → Option ChainResponse

structure OptionPcr where
  symbol : String
  asOfDate : Option String
  staleDays : Option Int
  oiBasis : Json
  chainBasis : Json
  oiRatio : Option Number
  volRatio : Option Number
  avgOi5d : Option Number
  lookbackDays : Int
  trendDays : Nat
  trend : List TrendPoint
  chainByExpiry : List ChainEntry

inductive Answer
  | error (text : String)
  | ok (pcr : OptionPcr)

/-- The mean of the ratios of the last five points that have one. -/
def avgOi5d (trend : List TrendPoint) : Option Number :=
  let recentRatios := (trend.drop (trend.length - 5)).filterMap TrendPoint.oiRatio
  if recentRatios = [] then none
  else some (((recentRatios.foldl Number.add (.fin 0)).div (.fin recentRatios.length)).round 3)

/-- The day of the last point, where none was found. -/
def orLastPoint (asOf : Option Date) (trend : List TrendPoint) : Option Date :=
  match asOf, trend.getLast? with
  | some d, _ => some d
  | none, some last => if last.tradeDate = "" then none else dayOf? last.tradeDate
  | none, none => none

def symbolOf (symbol : Option String) : String := upper (strip (symbol.getD ""))

def clampLookback (lookbackDays : Int) : Int := max 30 (min lookbackDays 400)

/-- What is answered after the three requests. -/
def assemble (today : Date) (sym : String) (lookback : Int) (trend : Trend) (part : ChainPart) : OptionPcr :=
  let asOf := orLastPoint part.asOf trend.points
  { symbol := sym
    asOfDate := asOf.map Date.isoformat
    staleDays := asOf.map fun d => max 0 (today.ordinal - d.ordinal)
    oiBasis := part.oiBasis
    chainBasis := if part.rows = [] then .null else part.chainBasis
    oiRatio := trend.points.getLast?.bind TrendPoint.oiRatio
    volRatio := trend.points.getLast?.bind TrendPoint.volRatio
    avgOi5d := avgOi5d trend.points
    lookbackDays := lookback
    trendDays := trend.points.length
    trend := trend.points
    chainByExpiry := part.rows }

def fetchSymbolOptionPcr (container : Json → String) (plugin : Plugin) (today : Date) (symbol : Option String)
    (lookbackDays : Int) : Except Exc Answer :=
  let sym := symbolOf symbol
  if sym = "" then .ok (.error "symbol is required")
  else do
    let lb := clampLookback lookbackDays
    let trend ← fetchPcrTrend (plugin.pcrAggregate sym .oi lb) (plugin.pcrAggregate sym .volume lb)
    let chain := plugin.chainByExpiry sym (trend.asOf.map Date.isoformat)
    pure (.ok (assemble today sym lb trend (chainPart container today trend chain)))

/-! ## What is promised -/

/-- The trade dates of a response. -/
def days (resp : PcrResponse) : List String :=
  (resp.getD []).filterMap fun pt => pt.tradeDate.filter (· ≠ "")

/-- The counts of the last row of a day. -/
def lastCounts (resp : PcrResponse) (td : String) : Option Counts :=
  ((resp.getD []).filter fun pt => pt.tradeDate = some td).getLast?.map PcrPoint.counts

def ratioOf (c : Counts) : Option Number := safeRatio (.fin c.1) (.fin c.2)

structure PointFaithful (oi vol : PcrResponse) (p : TrendPoint) : Prop where
  putOi : p.putOi = (lastCounts oi p.tradeDate).map Prod.fst
  callOi : p.callOi = (lastCounts oi p.tradeDate).map Prod.snd
  oiRatio : p.oiRatio = (lastCounts oi p.tradeDate).bind ratioOf
  putVol : p.putVol = (lastCounts vol p.tradeDate).map Prod.fst
  callVol : p.callVol = (lastCounts vol p.tradeDate).map Prod.snd
  volRatio : p.volRatio = (lastCounts vol p.tradeDate).bind ratioOf

/-- One point a day of either series, in ascending order, and null where a series did not measure. -/
structure TrendFaithful (oi vol : PcrResponse) (trend : List TrendPoint) : Prop where
  ascending : trend.Pairwise fun p q => p.tradeDate < q.tradeDate
  onePerDay : ∀ td, (∃ p ∈ trend, p.tradeDate = td) ↔ td ∈ days oi ∨ td ∈ days vol
  points : ∀ p ∈ trend, PointFaithful oi vol p

section

variable (container : Json → String)

/-- The rows with an expiry, each after its date. -/
def dated (chain : List ChainRow) : List (Date × ChainRow) :=
  chain.filterMap fun r => (expiryDate? container r.expiry).map fun d => (d, r)

def Kept (today : Date) (x : Date × ChainRow) : Prop :=
  0 < x.2.totalOi ∨ 0 < x.2.totalVol ∨ -14 ≤ x.1.ordinal - today.ordinal

instance (today : Date) (x : Date × ChainRow) : Decidable (Kept today x) := by
  unfold Kept
  infer_instance

/-- The rows with an expiry that are kept. -/
def keptRows (today : Date) (chain : List ChainRow) : List (Date × ChainRow) :=
  (dated container chain).filter (Kept today ·)

/-- What an entry says of its row. -/
structure Describes (today : Date) (x : Date × ChainRow) (e : ChainEntry) : Prop where
  expiry : e.row.expiry = expiryText container x.2.expiry
  expiryDate : e.row.expiryDate = x.1
  label : e.row.expirationLabel = expirationLabel x.1
  dte : e.row.dte = x.1.ordinal - today.ordinal
  oi : e.row.putOi = x.2.putOiCount ∧ e.row.callOi = x.2.callOiCount
  vol : e.row.putVol = x.2.putVolCount ∧ e.row.callVol = x.2.callVolCount
  totalOi : e.row.totalOi = e.row.putOi + e.row.callOi
  totalVol : e.row.totalVol = e.row.putVol + e.row.callVol
  pcOi : e.row.pcOi = ratioOf (e.row.putOi, e.row.callOi)
  pcVol : e.row.pcVol = ratioOf (e.row.putVol, e.row.callVol)

structure ChainRow.NonNeg (r : ChainRow) : Prop where
  oi : 0 ≤ r.putOiCount ∧ 0 ≤ r.callOiCount
  vol : 0 ≤ r.putVolCount ∧ 0 ≤ r.callVolCount

def IsPct (x : Number) : Prop := ∃ q : ℚ, x = .fin q ∧ 0 ≤ q ∧ q ≤ 100

/-- One entry for each row that is kept, by expiry. -/
structure ChainFaithful (today : Date) (chain : List ChainRow) (entries : List ChainEntry) : Prop where
  rows : ∃ kept, SortedAsc Prod.fst (keptRows container today chain) kept ∧
    List.Forall₂ (Describes container today) kept entries
  bars : (∀ r ∈ chain, r.NonNeg) → ∀ e ∈ entries, ∀ b ∈ e.bars, IsPct b

/-- What the plugin answers to the three requests. -/
structure Responses where
  oi : PcrResponse
  vol : PcrResponse
  chain : Option ChainResponse

def Responses.rows (q : Responses) : List ChainRow := q.chain.elim [] ChainResponse.chain

/-- The valid dates among the trade dates. -/
def tradeDays (resp : PcrResponse) : List Date := (days resp).filterMap dayOf?

/-- The valid snapshot days of the rows with an expiry. -/
def snapDays (chain : List ChainRow) : List Date := (dated container chain).filterMap (snapDate? container ·.2.snapDay)

/-- What `plugin` answers to a call: the chain is asked with the latest trade date. -/
def Plugin.responses (plugin : Plugin) (symbol : Option String) (lookbackDays : Int) : Responses :=
  let oi := plugin.pcrAggregate (symbolOf symbol) .oi (clampLookback lookbackDays)
  let vol := plugin.pcrAggregate (symbolOf symbol) .volume (clampLookback lookbackDays)
  ⟨oi, vol, plugin.chainByExpiry (symbolOf symbol) ((latest none (tradeDays oi ++ tradeDays vol)).map Date.isoformat)⟩

structure Faithful (today : Date) (q : Responses) (p : OptionPcr) : Prop where
  trend : TrendFaithful q.oi q.vol p.trend
  asOfDate : ∃ asOf, IsLatest (tradeDays q.oi ++ tradeDays q.vol ++ snapDays container q.rows) asOf ∧
    p.asOfDate = asOf.map Date.isoformat
  chain : ChainFaithful container today q.rows p.chainByExpiry

/-! ## When it is kept -/

/-- Open interest has every day of the volume, and the volume, if it has any, every day of open interest. -/
def SameDays (q : Responses) : Prop :=
  (∀ td ∈ days q.vol, td ∈ days q.oi) ∧ (days q.vol = [] ∨ ∀ td ∈ days q.oi, td ∈ days q.vol)

/-- A count that a `float` holds. -/
def FloatCount (n : Int) : Prop := |(n : ℚ)| < Number.overflowBound

instance (n : Int) : Decidable (FloatCount n) := inferInstanceAs (Decidable (|(n : ℚ)| < Number.overflowBound))

/-- The last row of every day has counts that a `float` holds. -/
def TrendReadable (q : Responses) : Prop :=
  ∀ resp ∈ [q.oi, q.vol], ∀ td ∈ days resp, ∀ c ∈ lastCounts resp td, FloatCount c.1 ∧ FloatCount c.2

structure ChainRow.FloatCounts (r : ChainRow) : Prop where
  oi : FloatCount r.putOiCount ∧ FloatCount r.callOiCount
  vol : FloatCount r.putVolCount ∧ FloatCount r.callVolCount

/-- A quotient that a `float` holds. -/
def FloatQuotient (x max : Int) : Prop := |(x / max : ℚ)| < Number.overflowBound

/-- The rows with an expiry have counts that a `float` holds; those that are kept, totals whose share of the largest
is one too. -/
structure ChainReadable (today : Date) (chain : List ChainRow) : Prop where
  counts : ∀ x ∈ dated container chain, x.2.FloatCounts
  totals : ∀ x ∈ keptRows container today chain, FloatQuotient x.2.totalOi (largest ChainRow.totalOi chain) ∧
    FloatQuotient x.2.totalVol (largest ChainRow.totalVol chain)

/-- The chain adds nothing: no row is kept, and no snapshot day is later than every trade date. -/
structure ChainIdle (today : Date) (q : Responses) : Prop where
  rows : keptRows container today q.rows = []
  snapshots : ∀ sd ∈ snapDays container q.rows, ∃ d ∈ tradeDays q.oi ++ tradeDays q.vol, sd ≤ d

end

end BifrostApi.Research.StockOptionPcr
