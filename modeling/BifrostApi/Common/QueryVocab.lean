import BifrostApi.Lib.FirstByKey
import BifrostApi.Py.Json
import BifrostApi.Py.Url

/-!
# Retired query names (`common/query_vocab.py`)

A route ignores a query name it does not declare, so a name that was renamed would drop the caller's
filter; `RetiredQueryNames` answers such a request with a 422 that names the successor. It decodes the
query string as the framework does (`parseQsl` on the latin-1 text).

| here | there |
| --- | --- |
| `retiredFor` | `retired_for` (query_vocab.py:168) |
| `retiredSent` | `retired_sent` (:174) |
| `call` | `RetiredQueryNames.__call__` (:198), less its log line |
| `normalizeExpiry` | `normalize_expiry` (:146) |
-/

namespace BifrostApi.Common

open Py FirstByKey

def tsRange : Dict String String := [("since_ts", "from_ts"), ("until_ts", "to_ts")]

def tradesList : Dict String String := [("opened_at_from", "from_ts"), ("opened_at_until", "to_ts")]

structure Route where
  method : String
  path : String
  deriving DecidableEq, Repr

/-- `RETIRED_QUERY_NAMES`: the old names of a route and their successors. -/
def retiredQueryNames : Dict Route (Dict String String) :=
  [(⟨"GET", "/executions"⟩, tsRange),
   (⟨"GET", "/performance"⟩, tsRange),
   (⟨"GET", "/transactions"⟩, tsRange),
   (⟨"GET", "/trades/win-rate"⟩, tsRange),
   (⟨"GET", "/trades"⟩, tradesList),
   (⟨"GET", "/executions/stock-link-candidates"⟩,
    [("trade_date_from", "from_date"), ("trade_date_to", "to_date")]),
   (⟨"GET", "/research/greeks"⟩, [("right", "option_right")]),
   (⟨"GET", "/research/option-snapshots"⟩, [("expiration", "expiry")]),
   (⟨"GET", "/research/option-contract/liquidity-summary"⟩,
    [("expiration", "expiry"), ("right", "option_right")]),
   (⟨"GET", "/research/option-contract/relative-value"⟩,
    [("expiration", "expiry"), ("right", "option_right")])]

/-- The part of an ASGI scope the guard reads. -/
structure Scope where
  type : String
  method : String
  path : String
  queryString : Option (List UInt8)
  deriving DecidableEq, Repr

/-- The guard hands the scope to the inner app or answers itself. -/
inductive Answer
  | inner (scope : Scope)
  | response (status : Nat) (body : Json)

def retiredFor (method path : String) : Option (Dict String String) :=
  let p := if rstrip '/' path = "" then "/" else rstrip '/' path
  retiredQueryNames.lookup ⟨upper method, p⟩

def retiredError (key value new : String) : Json :=
  .obj [("type", .str "retired_query_param"),
        ("loc", .arr [.str "query", .str key]),
        ("msg", .str ("Query parameter " ++ key ++ " was retired in api 0.10.0 (TD-51); use " ++ new ++ ".")),
        ("input", .str value)]

/-- The loop over the decoded pairs, with the names seen so far. -/
def retiredSentFrom (retired : Dict String String) (seen : List String) : List (String × String) → List Json
  | [] => []
  | (key, value) :: pairs => match retired.lookup key with
    | none => retiredSentFrom retired seen pairs
    | some new =>
      if key ∈ seen then retiredSentFrom retired seen pairs
      else retiredError key value new :: retiredSentFrom retired (key :: seen) pairs

def retiredSent (query : List Char) (retired : Dict String String) : List Json :=
  retiredSentFrom retired [] (parseQsl query)

def call (scope : Scope) : Answer :=
  match scope.queryString with
  | none => .inner scope
  | some query =>
    if scope.type = "http" ∧ query ≠ [] then
      match retiredFor scope.method scope.path with
      | none => .inner scope
      | some retired =>
        let errors := retiredSent (latin1 query) retired
        if retired ≠ [] ∧ errors ≠ [] then .response 422 (.obj [("detail", .arr errors)]) else .inner scope
    else .inner scope

/-- Three runs of digits as `YYYY-MM-DD`. -/
def isoDay (y m d : List Char) : Option String :=
  if (y ++ m ++ d).all fun c => (decimalDigit? c).isSome then
    some (String.ofList (y ++ '-' :: m ++ '-' :: d))
  else none

/-- `YYYY-MM-DD…` and `YYYYMMDD` as `YYYY-MM-DD`, anything else stripped. -/
def normalizeExpiry (value : String) : String :=
  let s := strip value
  match s.toList with
  | y₁ :: y₂ :: y₃ :: y₄ :: '-' :: m₁ :: m₂ :: '-' :: d₁ :: d₂ :: _ =>
    (isoDay [y₁, y₂, y₃, y₄] [m₁, m₂] [d₁, d₂]).getD s
  | [y₁, y₂, y₃, y₄, m₁, m₂, d₁, d₂] => (isoDay [y₁, y₂, y₃, y₄] [m₁, m₂] [d₁, d₂]).getD s
  | _ => s

/-! ## The route -/

/-- The request is for this route: the method in any letter case, any number of trailing slashes. -/
def IsRoute (scope : Scope) (route : Route) : Prop :=
  upper scope.method = route.method ∧ ∃ n, scope.path = route.path ++ String.ofList (List.replicate n '/')

/-- No path of the table ends in a slash. -/
theorem retiredQueryNames_path : ∀ entry ∈ retiredQueryNames,
    entry.1.path.toList.getLast? ≠ some '/' ∧ entry.1.path ≠ "" ∧ entry.2 ≠ [] := by
  decide

theorem retiredQueryNames_distinct : retiredQueryNames.Distinct := by decide

theorem retiredFor_eq_some {scope : Scope} {retired : Dict String String} :
    retiredFor scope.method scope.path = some retired ↔
      ∃ route, (route, retired) ∈ retiredQueryNames ∧ IsRoute scope route := by
  have hroute : ∀ {route : Route}, (route, retired) ∈ retiredQueryNames →
      (IsRoute scope route ↔
        ⟨upper scope.method, if rstrip '/' scope.path = "" then "/" else rstrip '/' scope.path⟩ = route) := by
    rintro ⟨method, path⟩ hmem
    obtain ⟨hlast, hne, -⟩ := retiredQueryNames_path _ hmem
    rw [IsRoute, ← rstrip_eq_iff hlast, Route.mk.injEq]
    refine and_congr_right fun _ => ?_
    by_cases hblank : rstrip '/' scope.path = ""
    · simp only [if_pos hblank]
      have hslash : "/".toList.getLast? = some '/' := by decide
      exact iff_of_false (fun h => hne (h ▸ hblank)) fun h => hlast (h ▸ hslash)
    · simp only [if_neg hblank]
  constructor
  · intro h
    unfold retiredFor at h
    have hmem := Dict.mem_of_lookup h
    exact ⟨_, hmem, (hroute hmem).2 rfl⟩
  · rintro ⟨route, hmem, hscope⟩
    rw [retiredFor, (hroute hmem).1 hscope]
    exact Dict.lookup_of_mem retiredQueryNames_distinct hmem

/-! ## The errors -/

/-- The pairs whose name is retired. -/
def retiredPairs (retired : Dict String String) (pairs : List (String × String)) : List (String × String) :=
  pairs.filter fun p => Dict.has retired p.1

theorem retiredPairs_of_has {retired : Dict String String} {key : String} (h : Dict.has retired key = true)
    (value : String) (pairs : List (String × String)) :
    retiredPairs retired ((key, value) :: pairs) = (key, value) :: retiredPairs retired pairs :=
  List.filter_cons_of_pos h

theorem retiredPairs_of_not_has {retired : Dict String String} {key : String} (h : ¬ Dict.has retired key = true)
    (value : String) (pairs : List (String × String)) :
    retiredPairs retired ((key, value) :: pairs) = retiredPairs retired pairs :=
  List.filter_cons_of_neg h

def errorOf (retired : Dict String String) (p : String × String) : Json :=
  retiredError p.1 p.2 ((retired.lookup p.1).getD "")

/-- The key of the loop's `seen`. -/
def nameOf (p : String × String) : Option String := some p.1

/-- The loop answers for the first pair of each retired name. -/
theorem retiredSentFrom_eq (retired : Dict String String) : ∀ (pairs : List (String × String)) (seen : List String),
    retiredSentFrom retired seen pairs =
      (firstByKeyFrom nameOf seen (retiredPairs retired pairs)).map (errorOf retired)
  | [], _ => rfl
  | (key, value) :: pairs, seen => by
    rw [retiredSentFrom]
    cases hnew : retired.lookup key with
    | none =>
      rw [retiredPairs_of_not_has (by simp [Dict.has, hnew])]
      exact retiredSentFrom_eq retired pairs seen
    | some new =>
      have hname : nameOf (key, value) = some key := rfl
      rw [retiredPairs_of_has (by simp [Dict.has, hnew])]
      by_cases hseen : key ∈ seen
      · rw [firstByKeyFrom_seen hname hseen]
        simp only [if_pos hseen]
        exact retiredSentFrom_eq retired pairs seen
      · rw [firstByKeyFrom_new hname hseen, List.map_cons]
        simp only [if_neg hseen, errorOf, hnew, Option.getD_some]
        rw [retiredSentFrom_eq retired pairs (key :: seen)]

/-- `sent` names each retired name among the pairs once, with its first value, in the order of first
appearance. -/
structure SentOnce (retired : Dict String String) (pairs sent : List (String × String)) : Prop where
  names : ∀ name, name ∈ sent.map Prod.fst ↔ name ∈ pairs.map Prod.fst ∧ Dict.has retired name = true
  distinct : (sent.map Prod.fst).Nodup
  first : ∀ p ∈ sent, pairs.lookup p.1 = some p.2
  order : (sent.map Prod.fst).Pairwise fun a b => (pairs.map Prod.fst).idxOf a < (pairs.map Prod.fst).idxOf b

/-- The first pair with a name is the one `lookup` finds. -/
theorem lookup_eq_find? (name : String) : ∀ pairs : List (String × String),
    pairs.lookup name = (pairs.find? fun p => nameOf p = some name).map Prod.snd
  | [] => rfl
  | (key, value) :: pairs => by
    have ih := lookup_eq_find? name pairs
    rw [Dict.lookup_cons_eq]
    by_cases hname : name = key
    · rw [if_pos hname, List.find?_cons_of_pos (by simp [nameOf, hname])]
      rfl
    · rw [if_neg hname, ih, List.find?_cons_of_neg (by simpa [nameOf] using Ne.symm hname)]

theorem lookup_retiredPairs {retired : Dict String String} {name : String} (h : Dict.has retired name = true) :
    ∀ pairs : List (String × String), (retiredPairs retired pairs).lookup name = pairs.lookup name
  | [] => rfl
  | (key, value) :: pairs => by
    have ih := lookup_retiredPairs h pairs
    by_cases hkey : Dict.has retired key = true
    · rw [retiredPairs_of_has hkey, Dict.lookup_cons_eq, Dict.lookup_cons_eq, ih]
    · have hne : name ≠ key := fun heq => hkey (heq ▸ h)
      rw [retiredPairs_of_not_has hkey, ih, Dict.lookup_cons_eq, if_neg hne]

theorem mem_retiredPairs {retired : Dict String String} {pairs : List (String × String)} {p : String × String} :
    p ∈ retiredPairs retired pairs ↔ p ∈ pairs ∧ Dict.has retired p.1 = true := List.mem_filter

theorem filterMap_nameOf (pairs : List (String × String)) : pairs.filterMap nameOf = pairs.map Prod.fst :=
  congrFun List.filterMap_eq_map pairs

theorem map_fst_retiredPairs (retired : Dict String String) (pairs : List (String × String)) :
    (retiredPairs retired pairs).map Prod.fst = (pairs.map Prod.fst).filter (Dict.has retired) := by
  rw [List.filter_map]
  rfl

theorem sentOnce_firstByKey (retired : Dict String String) (pairs : List (String × String)) :
    SentOnce retired pairs (firstByKey nameOf (retiredPairs retired pairs)) := by
  have hsub : ∀ p ∈ firstByKey nameOf (retiredPairs retired pairs), p ∈ pairs ∧ Dict.has retired p.1 = true :=
    fun p hp => mem_retiredPairs.1 ((firstByKey_sublist _).subset hp)
  constructor
  · intro name
    simp only [List.mem_map]
    constructor
    · rintro ⟨p, hp, rfl⟩
      exact ⟨⟨p, (hsub p hp).1, rfl⟩, (hsub p hp).2⟩
    · rintro ⟨⟨p, hp, rfl⟩, hret⟩
      obtain ⟨q, hq, hname⟩ := exists_mem_firstByKey (mem_retiredPairs.2 ⟨hp, hret⟩) (rfl : nameOf p = some p.1)
      exact ⟨q, hq, Option.some.inj hname⟩
  · rw [← filterMap_nameOf]
    exact nodup_firstByKey _
  · intro p hp
    have hfind := find?_of_mem_firstByKey hp (rfl : nameOf p = some p.1)
    rw [← lookup_retiredPairs (hsub p hp).2, lookup_eq_find?, hfind]
    rfl
  · have horder := @pairwise_idxOf_firstByKey _ _ _ nameOf (retiredPairs retired pairs)
    rw [filterMap_nameOf, filterMap_nameOf, map_fst_retiredPairs] at horder
    refine horder.imp_of_mem fun ha hb hlt => ?_
    obtain ⟨p, hp, rfl⟩ := List.mem_map.1 ha
    obtain ⟨q, hq, rfl⟩ := List.mem_map.1 hb
    exact idxOf_lt_of_filter (hsub p hp).2 (hsub q hq).2 hlt

/-- The answer to the pairs of a query: nothing, or one error for each retired name. -/
theorem retiredSent_spec (query : List Char) (retired : Dict String String) :
    ∃ sent, SentOnce retired (parseQsl query) sent ∧
      retiredSent query retired = sent.map (errorOf retired) :=
  ⟨_, sentOnce_firstByKey retired (parseQsl query), retiredSentFrom_eq retired (parseQsl query) []⟩

theorem retiredSent_eq_nil {query : List Char} {retired : Dict String String} :
    retiredSent query retired = [] ↔ ∀ p ∈ parseQsl query, retired.lookup p.1 = none := by
  obtain ⟨sent, hsent, heq⟩ := retiredSent_spec query retired
  rw [heq, List.map_eq_nil_iff]
  constructor
  · rintro rfl p hp
    by_contra hne
    have hret : Dict.has retired p.1 = true := Option.isSome_iff_ne_none.2 hne
    have hmem := (hsent.names p.1).2 ⟨List.mem_map_of_mem hp, hret⟩
    exact absurd hmem List.not_mem_nil
  · intro hnone
    by_contra hne
    obtain ⟨p, hp⟩ := List.exists_mem_of_ne_nil sent hne
    obtain ⟨hpairs, hret⟩ := (hsent.names p.1).1 (List.mem_map_of_mem hp)
    obtain ⟨q, hq, hname⟩ := List.mem_map.1 hpairs
    rw [Dict.has, ← hname, hnone q hq] at hret
    cases hret

/-- One error of the 422: it locates the retired name, carries the value sent and ends in the successor to use. -/
structure Names (e : Json) (name value new : String) : Prop where
  type : e.get? "type" = some (.str "retired_query_param")
  loc : e.get? "loc" = some (.arr [.str "query", .str name])
  input : e.get? "input" = some (.str value)
  successor : ∃ before, e.get? "msg" = some (.str (before ++ "use " ++ new ++ "."))

theorem retiredError_names (name value new : String) : Names (retiredError name value new) name value new where
  type := rfl
  loc := rfl
  input := rfl
  successor := by
    refine ⟨"Query parameter " ++ name ++ " was retired in api 0.10.0 (TD-51); ", ?_⟩
    have hmsg : (retiredError name value new).get? "msg" = some (.str
        ("Query parameter " ++ name ++ " was retired in api 0.10.0 (TD-51); use " ++ new ++ ".")) := rfl
    have huse : " was retired in api 0.10.0 (TD-51); use " = " was retired in api 0.10.0 (TD-51); " ++ "use " := by
      decide
    rw [hmsg, huse]
    simp only [String.append_assoc]

/-! ## The guard -/

/-- The pairs of a request's query string, as the framework decodes them. -/
def queryPairs (scope : Scope) : List (String × String) := parseQsl (latin1 (scope.queryString.getD []))

theorem call_of_no_route {scope : Scope} (h : retiredFor scope.method scope.path = none) :
    call scope = .inner scope := by
  unfold call
  split
  · rfl
  · split
    · rw [h]
    · rfl

theorem call_of_route {scope : Scope} (hhttp : scope.type = "http") {retired : Dict String String}
    (h : retiredFor scope.method scope.path = some retired) :
    call scope =
      if retiredSent (latin1 (scope.queryString.getD [])) retired = [] then .inner scope
      else .response 422 (.obj [("detail", .arr (retiredSent (latin1 (scope.queryString.getD [])) retired))]) := by
  obtain ⟨route, hmem, -⟩ := retiredFor_eq_some.1 h
  have hne : retired ≠ [] := (retiredQueryNames_path _ hmem).2.2
  have hempty : retiredSent (latin1 []) retired = [] := rfl
  unfold call
  cases hquery : scope.queryString with
  | none => rw [Option.getD_none, if_pos hempty]
  | some query =>
    by_cases hblank : query = []
    · subst hblank
      simp [hempty]
    · simp only [hhttp, h, ne_eq, hblank, hne, not_false_eq_true, true_and, and_self, if_true, ite_not,
        Option.getD_some]

/-- **Main.** On a route of the table the inner app is reached exactly when the query names nothing
retired, else the 422 names each retired name once; every other request is handed on as it is. -/
theorem call_spec (scope : Scope) (hhttp : scope.type = "http") :
    (∀ route retired, (route, retired) ∈ retiredQueryNames → IsRoute scope route →
      (call scope = .inner scope ↔ ∀ p ∈ queryPairs scope, retired.lookup p.1 = none) ∧
      (call scope ≠ .inner scope → ∃ sent errors, SentOnce retired (queryPairs scope) sent ∧
        List.Forall₂ (fun p e => ∃ new, retired.lookup p.1 = some new ∧ Names e p.1 p.2 new) sent errors ∧
        call scope = .response 422 (.obj [("detail", .arr errors)]))) ∧
    ((∀ route retired, (route, retired) ∈ retiredQueryNames → ¬ IsRoute scope route) →
      call scope = .inner scope) := by
  refine ⟨fun route retired hmem hroute => ?_, fun hnone => ?_⟩
  · have hcall := call_of_route hhttp (retiredFor_eq_some.2 ⟨route, hmem, hroute⟩)
    have hnil := @retiredSent_eq_nil (latin1 (scope.queryString.getD [])) retired
    constructor
    · rw [queryPairs, ← hnil, hcall]
      by_cases hsent : retiredSent (latin1 (scope.queryString.getD [])) retired = []
      · simp [hsent]
      · simp [hsent]
    · intro hrefused
      obtain ⟨sent, hsent, heq⟩ := retiredSent_spec (latin1 (scope.queryString.getD [])) retired
      refine ⟨sent, sent.map (errorOf retired), hsent, ?_, ?_⟩
      · rw [List.forall₂_map_right_iff, List.forall₂_same]
        intro p hp
        have hret := ((hsent.names p.1).1 (List.mem_map_of_mem hp)).2
        obtain ⟨new, hnew⟩ := Option.isSome_iff_exists.1 hret
        refine ⟨new, hnew, ?_⟩
        rw [errorOf, hnew, Option.getD_some]
        exact retiredError_names p.1 p.2 new
      · rw [hcall] at hrefused ⊢
        rw [if_neg (fun hnil => hrefused (if_pos hnil)), heq]
  · apply call_of_no_route
    rw [Option.eq_none_iff_forall_not_mem]
    intro retired hretired
    obtain ⟨route, hmem, hroute⟩ := retiredFor_eq_some.1 hretired
    exact hnone route retired hmem hroute

/-- `get /executions//?since%5Fts=5&until_ts=&since_ts=6&x=1`. -/
def sampleScope : Scope :=
  ⟨"http", "get", "/executions//",
    some ("since%5Fts=5&until_ts=&since_ts=6&x=1".toList.map fun c => UInt8.ofNat c.toNat)⟩

theorem call_spec_sample : ∃ sent errors, SentOnce tsRange (queryPairs sampleScope) sent ∧
    List.Forall₂ (fun p e => ∃ new, tsRange.lookup p.1 = some new ∧ Names e p.1 p.2 new) sent errors ∧
    call sampleScope = .response 422 (.obj [("detail", .arr errors)]) := by
  have hroute : IsRoute sampleScope ⟨"GET", "/executions"⟩ := ⟨by decide, 2, by decide⟩
  obtain ⟨hforward, hrefused⟩ := (call_spec sampleScope rfl).1 _ tsRange (by decide) hroute
  refine hrefused fun hinner => ?_
  have hnone := hforward.1 hinner ("since_ts", "5") (by decide +kernel)
  exact absurd hnone (by decide)

end BifrostApi.Common
