import BifrostApi.Lib.Run
import BifrostApi.Research.ContractKeyBridge
import BifrostApi.Research.MarketDataClient
import BifrostApi.Research.Screener

/-!
# The snapshot cache of `GET /research/option-snapshots` (`research/routers/option_discovery.py`)

The route looks into Redis before it asks the plugin. An entry is found by the normalised expiry but holds the
expiry as the request that stored it was spelled (`"expiration": exp`), so a request with another spelling of the
same day is answered with a body that its own miss would not have given (`transparent_fails`). Everything else in
a body is a function of the entry's key.

A request brings whether Redis takes part and the clock; what the reader and the plugin answer does not change in a
run. `json.loads(json.dumps(x))` is `x` on JSON values.

| here | there |
| --- | --- |
| `normExpiry` | `_norm_expiry_key` (option_discovery.py:54) |
| `parseStrikesCsv` | `_parse_strikes_csv` (:61) |
| `markOf`, `snapshotTs` | `_mark_from_snapshot_row` (:29), `_snapshot_ts_iso` (:42) |
| `readQuery` | everything before the cache (:105-140) |
| `cached` | the lookup (:141-159) |
| `readRow`, `bodyOf` | the loop over the rows (:164-204), the body (:206-221) |
| `getOptionSnapshots` | `get_option_snapshots_pg` (:87) |
| `getOptionSnapshotsLatest` | `get_option_snapshots_latest` (market_pg.py:91) |
-/

namespace BifrostApi.Research.OptionSnapshots

open Py

/-- What the route reads and no request changes. -/
structure Env where
  hasDb : Bool
  /-- `reader.get_stock_day_fallback_price(sym)[0]` -/
  fallbackPrice : String → Option Number
  plugin : Plugin
  /-- `sha256(json.dumps(keys).encode()).hexdigest()[:24]` -/
  fingerprint : List String → String
  /-- `str` of a list or a dict. -/
  container : Json → String

/-- One request, what Redis does with it, and the clock at the lookup and at the store. -/
structure Request where
  symbol : String
  expiration : String
  strikes : Option String
  source : String
  redisReads : Bool
  redisWrites : Bool
  readAt : ℚ
  storedAt : ℚ
  deriving DecidableEq

inductive Response
  | body (content : Json)
  /-- `HTTPException` -/
  | failed (status : Nat) (detail : String)
  | raised (e : Exc)

/-- `SNAPSHOT_CACHE_TTL_SEC`. -/
def snapshotCacheTtlSec : ℚ := 120

/-- `MAX_OPTION_SNAPSHOT_CONTRACTS_EXTENDED`. -/
def maxOptionSnapshotContractsExtended : Nat := 60

/-- `OPTION_SNAPSHOT_STRIKES_AROUND_ATM`. -/
def optionSnapshotStrikesAroundAtm : Nat := 10

/-! ## What is asked for -/

/-- The parts that can be read as a number. -/
def parseStrikesCsv (strikes : Option String) : List Number :=
  match strikes with
  | none => []
  | some text =>
    if strip text = "" then []
    else (split ',' text).filterMap fun part => if strip part = "" then none else Number.ofText (strip part)

/-- The request as the cache and the plugin see it. -/
structure Query where
  sym : String
  exp : String
  src : String
  lastPrice : Option Number
  keys : List String

def sourceOf (source : String) : String :=
  let src := lower (strip (if source = "" then "massive" else source))
  if src = "massive" ∨ src = "ib" then src else "massive"

/-- A price that is positive. -/
def lastPriceOf (env : Env) (sym : String) : Option Number :=
  (env.fallbackPrice sym).filter fun price => (Number.fin 0).lt price

/-- The strikes that were sent, else those around the last price. -/
def strikesOf (env : Env) (sym : String) (strikes : Option String) : Except Exc (List Number) :=
  match parseStrikesCsv strikes, lastPriceOf env sym with
  | [], some price => (strikesAroundSpot price optionSnapshotStrikesAroundAtm).map (·.map .fin)
  | strikes, _ => .ok strikes

/-- A call and a put for every strike. -/
def contractKeys (sym expNorm : String) (strikes : List Number) : List String :=
  strikes.flatMap fun strike => ["C", "P"].map fun right => contractKeyFromParts sym expNorm strike right

def readQuery (env : Env) (r : Request) : Except Response Query :=
  let sym := upper (strip r.symbol)
  let exp := strip r.expiration
  if !env.hasDb then .error (.failed 503 "PostgreSQL not configured")
  else if sym = "" ∨ exp = "" then .error (.failed 400 "symbol and expiry are required")
  else match strikesOf env sym r.strikes with
    | .error e => .error (.raised e)
    | .ok [] =>
      .error (.failed 404 "No strikes to query; provide strikes= or ensure daily last price exists.")
    | .ok strikes =>
      let strikes := strikes.take (max 1 (maxOptionSnapshotContractsExtended / 2))
      .ok ⟨sym, exp, sourceOf r.source, lastPriceOf env sym, contractKeys sym (normExpiry exp) strikes⟩

def cacheKey (env : Env) (q : Query) : String :=
  "massive:snapshot_cache:" ++ q.sym ++ ":" ++ normExpiry q.exp ++ ":" ++ q.src ++ ":" ++ env.fingerprint q.keys

/-! ## The body -/

/-- The rows of at most `maxKeys` keys; a failed fetch has none. -/
def getOptionSnapshotsLatest (plugin : Plugin) (contractKeys : List String) (maxKeys : Option Nat) : List Json :=
  let keys := contractKeys.filter fun k => strip k ≠ ""
  let keys := match maxKeys with
    | some n => keys.take n
    | none => keys
  if keys = [] then []
  else match fetchOptionChainLatest plugin keys with
    | .ok rows => rows
    | .error _ => []

/-- The last price of the day, if it is finite and not negative. -/
def markOf (row : Row) : Except Exc (Option Number) :=
  (readGuarded (field row "day_close")).map fun close => close.filter fun d => match d with
    | .fin q => decide (0 ≤ q)
    | _ => false

def snapshotTs (container : Json → String) (row : Row) : Json :=
  match field row "snapshot_ts" with
  | some ts => .str (ts.text container)
  | none => .null

/-- The fields that are passed on as they are. -/
def passedOn : List String :=
  ["iv", "delta", "gamma", "theta", "vega", "open_interest", "underlying_ticker", "day_open", "day_high", "day_low",
   "day_close", "day_previous_close", "day_change", "day_change_percent", "day_volume", "day_vwap",
   "day_last_updated", "day_last_updated_day"]

/-- An entry of `rows` and what it is sorted by. -/
structure OutRow where
  strike : Number
  right : String
  entry : Row

def outRow (container : Json → String) (row : Row) (strike : Number) (right : String) : Except Exc OutRow :=
  (markOf row).map fun mark => ⟨strike, right,
    [("strike", .float strike), ("right", .str right), ("snapshot_ts", snapshotTs container row),
     ("mark", (mark.map Json.float).getD .null)] ++ passedOn.map fun k => (k, Json.getD row k .null)⟩

/-- The rows so far and the first underlying price that could be read. -/
structure Rows where
  rows : List OutRow
  underlyingPrice : Option Number

/-- `row.get("contract_key") or ""`, which `parse_contract_key` splits. -/
def contractKeyOf (row : Row) : Except Exc String :=
  match Json.getOr row "contract_key" (.str "") with
  | .str ck => .ok ck
  | _ => .error .attributeError

def readRow (container : Json → String) (acc : Rows) (j : Json) : Except Exc Rows := do
  let row ← match j.items? with
    | some row => .ok row
    | none => .error .attributeError
  match parseContractKey (← contractKeyOf row) with
  | none => .ok acc
  | some (strike, right) =>
    if right = "" then .ok acc
    else do
      let price ← if acc.underlyingPrice.isSome then .ok acc.underlyingPrice
        else readGuarded (field row "underlying_price")
      let out ← outRow container row strike right
      .ok ⟨acc.rows ++ [out], price⟩

/-- `x["strike"], 0 if x["right"] == "C" else 1` compared; a body with a NaN strike is not served. -/
def OutRow.before (a b : OutRow) : Bool :=
  a.strike.lt b.strike || (a.strike == b.strike && a.right == "C" && b.right != "C")

def noRowsWarning : String :=
  "No rows in option_snapshots for the requested contract keys. " ++
  "Run Load quotes again after a successful Polygon chain snapshot, or verify expiry/strikes match the chain."

def bodyOf (q : Query) (found : Rows) : Json :=
  let sorted := found.rows.mergeSort fun a b => !b.before a
  .obj ([("symbol", .str q.sym), ("expiration", .str q.exp), ("rows", .arr (sorted.map fun o => .obj o.entry)),
      ("source", .str q.src)] ++
    (match found.underlyingPrice.or q.lastPrice with
      | some price => [("underlying_price", .float price)]
      | none => []) ++
    (if found.rows = [] ∧ q.keys ≠ [] then [("warning", .str noRowsWarning)] else []))

def readRows (env : Env) (keys : List String) : Except Exc Rows :=
  (getOptionSnapshotsLatest env.plugin keys (some 120)).foldlM (readRow env.container) ⟨[], none⟩

def buildBody (env : Env) (q : Query) : Except Exc Json := (readRows env q.keys).map (bodyOf q)

/-- `JSONResponse(content=body)`. -/
def render (body : Json) : Response := if body.allFinite then .body body else .raised .valueError

/-- What a request is answered when nothing is cached. -/
def missResponse (env : Env) (r : Request) : Response :=
  match readQuery env r with
  | .error response => response
  | .ok q => match buildBody env q with
    | .ok body => render body
    | .error e => .raised e

/-! ## The cache -/

/-- A stored body, and the request it was built for. -/
structure Entry where
  body : Json
  expires : ℚ
  storedBy : Request

structure Served where
  request : Request
  response : Response
  /-- `X-Cache` -/
  hit : Bool

structure State where
  cache : Dict String Entry
  served : List Served

def initial : State := ⟨[], []⟩

/-- The entry a request is answered from; one that cannot be rendered is passed over. -/
def cached (env : Env) (st : State) (r : Request) (q : Query) : Option Entry :=
  if r.redisReads then
    (st.cache.lookup (cacheKey env q)).filter fun entry => r.readAt < entry.expires && entry.body.allFinite
  else none

def getOptionSnapshots (env : Env) (st : State) (r : Request) : State :=
  match readQuery env r with
  | .error response => { st with served := ⟨r, response, false⟩ :: st.served }
  | .ok q => match cached env st r q with
    | some entry => { st with served := ⟨r, .body entry.body, true⟩ :: st.served }
    | none => match buildBody env q with
      | .error e => { st with served := ⟨r, .raised e, false⟩ :: st.served }
      | .ok body =>
        let entry : Entry := ⟨body, r.storedAt + snapshotCacheTtlSec, r⟩
        ⟨if r.redisWrites then Dict.set st.cache (cacheKey env q) entry else st.cache,
          ⟨r, render body, false⟩ :: st.served⟩

/-! ## What a key determines -/

theorem toList_contractKey (sym expNorm : String) (strike : Number) :
    (contractKeyFromParts sym expNorm strike "C").toList = (upper (strip sym)).toList ++ '|' :: ("OPT|".toList ++
      (normExpiry expNorm).toList ++ '|' :: (strike.round 8).repr.toList ++ "|C".toList) := by
  rw [contractKeyFromParts_eq, shortRight_short (Or.inl rfl)]
  simp only [join, String.toList_append, List.append_assoc]
  rfl

theorem sourceOf_cases (source : String) : sourceOf source = "massive" ∨ sourceOf source = "ib" := by
  unfold sourceOf
  generalize lower (strip _) = src
  dsimp only
  split
  · assumption
  · exact Or.inl rfl

/-- What a request was read as. -/
structure ReadAs (env : Env) (r : Request) (q : Query) : Prop where
  sym : q.sym = upper (strip r.symbol)
  exp : q.exp = strip r.expiration
  src : q.src = "massive" ∨ q.src = "ib"
  lastPrice : q.lastPrice = lastPriceOf env q.sym
  keys : ∃ strike rest, q.keys = contractKeyFromParts q.sym (normExpiry q.exp) strike "C" :: rest

theorem readQuery_eq_ok {env : Env} {r : Request} {q : Query} (h : readQuery env r = .ok q) : ReadAs env r q := by
  unfold readQuery at h
  dsimp only at h
  split at h
  · cases h
  · split at h
    · cases h
    · split at h
      · cases h
      · cases h
      · rename_i strikes hne _
        rw [← Except.ok.inj h]
        constructor
        · dsimp only
        · dsimp only
        · dsimp only
          exact sourceOf_cases r.source
        · dsimp only
        · obtain ⟨strike, rest, rfl⟩ := List.exists_cons_of_ne_nil hne
          dsimp only
          exact ⟨strike, _, List.flatMap_cons⟩

/-- Hex digits, and different keys have different ones, among the keys that are asked for. -/
structure FingerprintOf (env : Env) (requests : List Request) : Prop where
  hex : ∀ keys, ':' ∉ (env.fingerprint keys).toList
  distinct : ∀ r ∈ requests, ∀ r' ∈ requests, ∀ q q', readQuery env r = .ok q → readQuery env r' = .ok q' →
    env.fingerprint q.keys = env.fingerprint q'.keys → q.keys = q'.keys

theorem toList_cacheKey (env : Env) (q : Query) : (cacheKey env q).toList =
    ("massive:snapshot_cache:".toList ++ (q.sym.toList ++ ':' :: (normExpiry q.exp).toList) ++
      ':' :: q.src.toList) ++ ':' :: (env.fingerprint q.keys).toList := by
  unfold cacheKey
  simp [String.toList_append]

theorem colon_notMem_src {env : Env} {r : Request} {q : Query} (h : ReadAs env r q) : ':' ∉ q.src.toList := by
  rcases h.src with hsrc | hsrc <;> rw [hsrc] <;> decide

/-- Two queries of one cache key differ in the spelling of the expiry at most. -/
theorem eq_of_cacheKey {env : Env} {r r' : Request} {q q' : Query} (hq : ReadAs env r q) (hq' : ReadAs env r' q')
    (hex : ∀ keys, ':' ∉ (env.fingerprint keys).toList)
    (hdistinct : env.fingerprint q.keys = env.fingerprint q'.keys → q.keys = q'.keys)
    (h : cacheKey env q = cacheKey env q') : q' = { q with exp := q'.exp } := by
  have hchars := congrArg String.toList h
  rw [toList_cacheKey, toList_cacheKey] at hchars
  obtain ⟨hfront, hprint⟩ := append_sep_inj (hex q.keys) (hex q'.keys) hchars
  obtain ⟨hfront, hsrc⟩ := append_sep_inj (colon_notMem_src hq) (colon_notMem_src hq') hfront
  have hcolon := List.append_cancel_left hfront
  have hkeys := hdistinct (String.toList_inj.1 hprint)
  -- the first contract key has the symbol and the expiry around `|`, the cache key around `:`
  obtain ⟨strike, rest, hfirst⟩ := hq.keys
  obtain ⟨strike', rest', hfirst'⟩ := hq'.keys
  have hkey := congrArg String.toList (List.cons.inj ((hfirst.symm.trans hkeys).trans hfirst')).1
  rw [toList_contractKey, toList_contractKey, hq.sym, hq'.sym, strip_upper_strip, strip_upper_strip, upper_upper,
    upper_upper, ← hq.sym, ← hq'.sym] at hkey
  have hsym : q.sym = q'.sym := String.toList_inj.1 (append_two_seps_inj (by decide) hkey hcolon)
  have hprice : q.lastPrice = q'.lastPrice := by rw [hq.lastPrice, hq'.lastPrice, hsym]
  rw [hsym, hkeys, hprice, String.toList_inj.1 hsrc]

/-! ## One request -/

/-- The spelling of the expiry is a field of the body. -/
theorem bodyOf_exp (q : Query) (exp : String) (found : Rows) :
    bodyOf q found = bodyOf { q with exp := exp } found ↔ q.exp = exp := by
  constructor
  · intro h
    have hfields := Json.obj.inj h
    have hexp := congrArg (fun d : Dict String Json => d.lookup "expiration") hfields
    exact Json.str.inj (Option.some.inj hexp)
  · rintro rfl
    rfl

theorem render_of_allFinite {body : Json} (h : body.allFinite = true) : render body = .body body := if_pos h

theorem eq_of_body_eq_render {content body : Json} (h : Response.body content = render body) : content = body := by
  unfold render at h
  split at h
  · exact Response.body.inj h
  · cases h

theorem buildBody_eq_ok {env : Env} {q : Query} {body : Json} (h : buildBody env q = .ok body) :
    ∃ found, readRows env q.keys = .ok found ∧ body = bodyOf q found := by
  unfold buildBody at h
  cases hrows : readRows env q.keys with
  | error e =>
    rw [hrows] at h
    cases h
  | ok found =>
    rw [hrows] at h
    exact ⟨found, rfl, (Except.ok.inj h).symm⟩

/-- An entry is what its request was read as, under that request's key. -/
structure Stored (env : Env) (requests : List Request) (key : String) (entry : Entry) : Prop where
  mem : entry.storedBy ∈ requests
  built : ∃ q, readQuery env entry.storedBy = .ok q ∧ cacheKey env q = key ∧ buildBody env q = .ok entry.body

def CacheStored (env : Env) (requests : List Request) (st : State) : Prop :=
  ∀ key entry, st.cache.lookup key = some entry → Stored env requests key entry

/-- The entry a request is answered from. -/
def hit (env : Env) (st : State) (r : Request) : Option Entry :=
  match readQuery env r with
  | .ok q => cached env st r q
  | .error _ => none

/-- A request that is answered from an entry was stored under the same spelling of the expiry. -/
def SameSpelling (env : Env) (st : State) (r : Request) : Prop :=
  ∀ entry, hit env st r = some entry → strip entry.storedBy.expiration = strip r.expiration

/-- Every hit so far is what the same request is answered on a miss. -/
def Transparent (env : Env) (st : State) : Prop :=
  ∀ s ∈ st.served, s.hit = true → s.response = missResponse env s.request

/-- A hit is answered with its entry; a miss as if nothing were cached, and it stores its own body or nothing. -/
theorem getOptionSnapshots_cases (env : Env) (st : State) (r : Request) :
    (∃ entry, hit env st r = some entry ∧
      getOptionSnapshots env st r = { st with served := ⟨r, .body entry.body, true⟩ :: st.served }) ∨
    (hit env st r = none ∧
      (getOptionSnapshots env st r).served = ⟨r, missResponse env r, false⟩ :: st.served ∧
      ((getOptionSnapshots env st r).cache = st.cache ∨
        ∃ q body expires, readQuery env r = .ok q ∧ buildBody env q = .ok body ∧
          (getOptionSnapshots env st r).cache = Dict.set st.cache (cacheKey env q) ⟨body, expires, r⟩)) := by
  unfold getOptionSnapshots hit missResponse
  cases hq : readQuery env r with
  | error response => exact Or.inr ⟨rfl, rfl, Or.inl rfl⟩
  | ok q =>
    dsimp only
    cases hcached : cached env st r q with
    | some entry => exact Or.inl ⟨entry, rfl, rfl⟩
    | none =>
      right
      dsimp only
      cases hbody : buildBody env q with
      | error e => exact ⟨rfl, rfl, Or.inl rfl⟩
      | ok body =>
        refine ⟨rfl, rfl, ?_⟩
        dsimp only
        split
        · exact Or.inr ⟨q, body, _, rfl, hbody, rfl⟩
        · exact Or.inl rfl

theorem cacheStored_step {env : Env} {requests : List Request} {st : State} {r : Request}
    (h : CacheStored env requests st) (hr : r ∈ requests) :
    CacheStored env requests (getOptionSnapshots env st r) := by
  rcases getOptionSnapshots_cases env st r with
    ⟨entry, -, heq⟩ | ⟨-, -, hcache | ⟨q, body, expires, hq, hbody, hcache⟩⟩
  · rw [heq]
    exact h
  · intro key entry hentry
    rw [hcache] at hentry
    exact h key entry hentry
  · intro key entry hentry
    rw [hcache, Dict.lookup_set] at hentry
    split at hentry
    · rename_i hkey
      obtain rfl := Option.some.inj hentry
      exact ⟨hr, q, hq, hkey.symm, hbody⟩
    · exact h key entry hentry

theorem cached_eq_some {env : Env} {st : State} {r : Request} {q : Query} {entry : Entry}
    (h : cached env st r q = some entry) :
    st.cache.lookup (cacheKey env q) = some entry ∧ entry.body.allFinite = true := by
  unfold cached at h
  split at h
  · obtain ⟨hlookup, hfresh⟩ := Option.filter_eq_some_iff.1 h
    exact ⟨hlookup, (Bool.and_eq_true _ _ ▸ hfresh).2⟩
  · cases h

/-- The entry under a request's key and the request's own miss are built from the same rows; only the spelling of the
expiry may differ. -/
theorem body_of_stored {env : Env} {requests : List Request} (hfp : FingerprintOf env requests) {st : State}
    (hcache : CacheStored env requests st) {r : Request} (hr : r ∈ requests) {q : Query}
    (hq : readQuery env r = .ok q) {entry : Entry} (hlookup : st.cache.lookup (cacheKey env q) = some entry) :
    ∃ q₀ found, q₀.exp = strip entry.storedBy.expiration ∧ entry.body = bodyOf q₀ found ∧
      missResponse env r = render (bodyOf { q₀ with exp := strip r.expiration } found) := by
  obtain ⟨hmem, q₀, hq₀, hkey, hbody₀⟩ := hcache _ _ hlookup
  have hread := readQuery_eq_ok hq
  have hread₀ := readQuery_eq_ok hq₀
  have hquery : q = { q₀ with exp := strip r.expiration } := by
    rw [← hread.exp]
    exact eq_of_cacheKey hread₀ hread hfp.hex (hfp.distinct _ hmem _ hr _ _ hq₀ hq) hkey
  obtain ⟨found, hfound, hbody⟩ := buildBody_eq_ok hbody₀
  have hrows : readRows env q.keys = .ok found := by
    rw [hquery]
    exact hfound
  refine ⟨q₀, found, hread₀.exp, hbody, ?_⟩
  unfold missResponse buildBody
  rw [hq]
  dsimp only
  rw [hrows, ← hquery]
  rfl

/-- An entry is the body of the request's own miss exactly when it was stored under the same spelling. -/
theorem hit_eq_miss_iff {env : Env} {requests : List Request} (hfp : FingerprintOf env requests) {st : State}
    (hcache : CacheStored env requests st) {r : Request} (hr : r ∈ requests) {entry : Entry}
    (h : hit env st r = some entry) :
    Response.body entry.body = missResponse env r ↔ strip entry.storedBy.expiration = strip r.expiration := by
  unfold hit at h
  cases hq : readQuery env r with
  | error response =>
    rw [hq] at h
    cases h
  | ok q =>
    rw [hq] at h
    obtain ⟨hlookup, hfinite⟩ := cached_eq_some h
    obtain ⟨q₀, found, hexp₀, hbody, hmiss⟩ := body_of_stored hfp hcache hr hq hlookup
    rw [hmiss, ← hexp₀, ← bodyOf_exp q₀ (strip r.expiration) found, ← hbody]
    constructor
    · exact eq_of_body_eq_render
    · intro hsame
      rw [← hsame, render_of_allFinite hfinite]

/-- One request keeps the cache transparent exactly when the entry it meets has its spelling. -/
theorem transparent_step {env : Env} {requests : List Request} (hfp : FingerprintOf env requests) {st : State}
    (hcache : CacheStored env requests st) {r : Request} (hr : r ∈ requests) (h : Transparent env st) :
    Transparent env (getOptionSnapshots env st r) ↔ SameSpelling env st r := by
  rcases getOptionSnapshots_cases env st r with ⟨entry, hhit, heq⟩ | ⟨hnone, hserved, -⟩
  · have hiff := hit_eq_miss_iff hfp hcache hr hhit
    rw [heq]
    constructor
    · intro htransparent entry' hentry'
      obtain rfl := Option.some.inj (hhit.symm.trans hentry')
      exact hiff.1 (htransparent _ (List.mem_cons_self ..) rfl)
    · intro hspelling s hs hs'
      rcases List.mem_cons.1 hs with rfl | hold
      · exact hiff.2 (hspelling entry hhit)
      · exact h s hold hs'
  · refine iff_of_true (fun s hs hs' => ?_) fun entry hentry => ?_
    · rw [hserved] at hs
      rcases List.mem_cons.1 hs with rfl | hold
      · cases hs'
      · exact h s hold hs'
    · rw [hnone] at hentry
      cases hentry

/-! ## Runs -/

theorem cacheStored_initial (env : Env) (requests : List Request) : CacheStored env requests initial :=
  fun _ _ h => by cases h

theorem transparent_initial (env : Env) : Transparent env initial := fun _ h => absurd h List.not_mem_nil

/-- **Main.** In every run the hits are what a miss would have answered, in every state reached, exactly when no
request is answered from an entry that a request with another spelling of the expiry stored. -/
theorem getOptionSnapshots_transparent (env : Env) (requests : List Request) (hfp : FingerprintOf env requests) :
    Run.Always (getOptionSnapshots env) (Transparent env) initial requests ↔
      Run.Along (getOptionSnapshots env) (SameSpelling env) initial requests :=
  Run.always_iff_along_of (fun _ _ h hr => cacheStored_step h hr)
    (fun _ _ h hr hst => transparent_step hfp h hr hst) (cacheStored_initial env requests)
    (Run.along_of_forall_mem fun _ _ hr => hr) (transparent_initial env)

/-! ## One day in two spellings -/

/-- A database, no daily price, and a plugin without rows; the fingerprint is that of the two keys asked for. -/
def emptyMarket : Env where
  hasDb := true
  fallbackPrice _ := none
  plugin _ _ := []
  fingerprint keys :=
    if keys = ["AAPL|OPT|20261016|95.0|C", "AAPL|OPT|20261016|95.0|P"] then "211fe13c2b84a4995d4c2225"
    else "000000000000000000000000"
  container _ := ""

/-- A request for the two rights of one strike. -/
def requestFor (expiration : String) (second : ℚ) : Request where
  symbol := "aapl"
  expiration := expiration
  strikes := some "95"
  source := "massive"
  redisReads := true
  redisWrites := true
  readAt := second
  storedAt := second

theorem fingerprintOf_emptyMarket (expiration : String) :
    FingerprintOf emptyMarket [requestFor expiration 0, requestFor expiration 1] where
  hex keys := by
    unfold emptyMarket
    dsimp only
    split <;> decide
  distinct r hr r' hr' q q' hq hq' _ := by
    have hread : ∀ r ∈ [requestFor expiration 0, requestFor expiration 1],
        readQuery emptyMarket r = readQuery emptyMarket (requestFor expiration 0) := by
      intro r hr
      simp only [List.mem_cons, List.not_mem_nil, or_false] at hr
      rcases hr with rfl | rfl <;> rfl
    rw [hread r hr] at hq
    rw [hread r' hr'] at hq'
    rw [Except.ok.inj (hq.symm.trans hq')]

/-- The `expiration` of a body. -/
def expirationOf : Response → Option String
  | .body content => match content.get? "expiration" with
    | some (.str exp) => some exp
    | _ => none
  | _ => none

/-- The same request twice: the second is a hit. -/
theorem getOptionSnapshots_transparent_sample :
    Run.Always (getOptionSnapshots emptyMarket) (Transparent emptyMarket) initial
      [requestFor "2026-10-16" 0, requestFor "2026-10-16" 1] := by
  rw [getOptionSnapshots_transparent emptyMarket _ (fingerprintOf_emptyMarket _)]
  have hfirst : (hit emptyMarket initial (requestFor "2026-10-16" 0)).isNone = true := by decide +kernel
  have hsecond : (hit emptyMarket (getOptionSnapshots emptyMarket initial (requestFor "2026-10-16" 0))
      (requestFor "2026-10-16" 1)).map (·.storedBy.expiration) = some "2026-10-16" := by decide +kernel
  refine ⟨fun entry hentry => ?_, fun entry hentry => ?_, trivial⟩
  · rw [hentry] at hfirst
    cases hfirst
  · rw [hentry] at hsecond
    have hspelling : entry.storedBy.expiration = "2026-10-16" := Option.some.inj hsecond
    rw [hspelling]
    rfl

/-- `2026-10-16` and one second later `20261016`: the second answer names the expiry as the first request did. -/
theorem transparent_fails :
    ¬ Run.Always (getOptionSnapshots emptyMarket) (Transparent emptyMarket) initial
      [requestFor "2026-10-16" 0, requestFor "20261016" 1] := by
  intro h
  have hserved : (Run.run (getOptionSnapshots emptyMarket) initial
      [requestFor "2026-10-16" 0, requestFor "20261016" 1]).served.head?.map
        (fun s => (s.request, s.hit, expirationOf s.response)) =
      some (requestFor "20261016" 1, true, some "2026-10-16") := by decide +kernel
  have hmiss : expirationOf (missResponse emptyMarket (requestFor "20261016" 1)) = some "20261016" := by
    decide +kernel
  obtain ⟨s, hs, heq⟩ := Option.map_eq_some_iff.1 hserved
  obtain ⟨hrequest, hhit, hexp⟩ : _ ∧ _ ∧ _ := by simpa only [Prod.mk.injEq] using heq
  have hresponse := h.last s (List.mem_of_mem_head? hs) hhit
  rw [hrequest] at hresponse
  rw [hresponse, hmiss] at hexp
  revert hexp
  decide

end BifrostApi.Research.OptionSnapshots
