import Mathlib.Data.Finset.Sort
import Mathlib.Data.String.Basic
import BifrostApi.Lib.FirstByKey
import BifrostApi.Lib.Loop
import BifrostApi.Lib.Run
import BifrostApi.Py.Quote

/-!
# Quotes on demand (`market/routers/quotes.py`)

`GET /quotes` puts the symbols it is asked for into a Redis set, from which the gateway streams, and reads their last
ticks; `POST /quotes/cleanup` reads the set and takes out what its caller does not keep. Requests run side by side, so
another one may write the set between the two commands of a cleanup, and a command that raises may have done part of
its work.

| here | there |
| --- | --- |
| `focus`, `requested` | `get_quotes` (quotes.py:45), lines 57-84 |
| `stockQuotes`, `optionQuotes`, `answer` | the same, lines 107-140 |
| `removedAndKept` | `post_quotes_cleanup` (:173), lines 194-216 |
| `.getQuotes`, `.smembers`, `.remove` | `ensure_on_demand_stk`, `SMEMBERS`, `remove_on_demand_stk` on the set |

Core's `normalize_stk_symbols` is a parameter (`Symbols`); `ensure_on_demand_stk` adds the normalised symbols and
`remove_on_demand_stk` takes out the symbols it is given. Option contracts are registered in a set of their own, which
nothing here takes from: that set is left out.
-/

namespace BifrostApi.Market.OnDemand

open Py FirstByKey

/-! ## `GET /quotes` -/

structure QuotesQuery where
  symbols : Option String
  contractKeys : Option String

/-- The fields of a watchlist row the route reads. -/
structure WatchRow where
  secType : Option String
  contractKey : Option String
  symbol : Option String

/-- The positions' symbols, account by account, and the watchlist. -/
structure Focus where
  positions : List (Option String)
  watchlist : List WatchRow

def text (value : Option String) : String := strip (value.getD "")

/-- `if x and x not in xs: xs.append(x)` -/
def appendNew (xs : List String) (x : String) : List String := if x ≠ "" ∧ x ∉ xs then xs ++ [x] else xs

/-- The focus list: symbols, and contract keys of options. -/
def focus (f : Focus) : List String × List String :=
  f.watchlist.foldl (fun lists w =>
      if upper (text w.secType) = "OPT" then (lists.1, appendNew lists.2 (text w.contractKey))
      else (appendNew lists.1 (text w.symbol), lists.2))
    ((f.positions.map text).foldl appendNew [], [])

/-- Stock keys are not read from the options' cache. -/
def appendKey (keys : List String) (key : String) : List String :=
  let c := strip key
  if c = "" ∨ c ∈ keys then keys
  else if contains (upper c) "|STK|" then keys
  else keys ++ [c]

/-- The symbols and the option keys of a request. -/
def requested (q : QuotesQuery) (f : Focus) : List String × List String :=
  let keyText := text q.contractKeys
  let lists :=
    if text q.symbols ≠ "" then
      (((split ',' (q.symbols.getD "")).map strip).filter (· ≠ ""), [])
    else if keyText = "" then focus f
    else ([], [])
  (lists.1, if keyText ≠ "" then (split ',' keyText).foldl appendKey lists.2 else lists.2)

/-- What Redis answers during a request; a read that raises ends its loop. -/
structure Cache (κ : Type) where
  available : Bool
  /-- The client has `get_option_cache`. -/
  hasOptionCache : Bool
  tick : String → Except Unit (Option κ)
  option : String → Except Unit (Option κ)

section Answer

variable {κ : Type}

/-- The hits of one loop. -/
def readQuotes (read : String → Except Unit (Option κ)) (keys : List String) : List κ :=
  (Loop.appendEach read keys).1.reduceOption

structure Quotes (κ : Type) where
  quotes : List κ
  message : Option String

def stockQuotes (cache : Cache κ) (symbols : List String) : List κ :=
  if symbols ≠ [] ∧ cache.available = true then
    readQuotes cache.tick (((symbols.map strip).filter (· ≠ "")).map (· ++ "|STK|||"))
  else []

def optionQuotes (cache : Cache κ) (keys : List String) : List κ :=
  if keys ≠ [] ∧ cache.available = true ∧ cache.hasOptionCache = true then readQuotes cache.option keys else []

def answer (cache : Cache κ) (symbols keys : List String) : Quotes κ :=
  let quotes := stockQuotes cache symbols ++ optionQuotes cache keys
  if symbols = [] ∧ keys = [] then ⟨[], some "No symbols in watchlist"⟩
  else if quotes.isEmpty ∧ symbols = [] ∧ keys ≠ [] then ⟨[], some "No option quotes"⟩
  else if quotes.isEmpty ∧ symbols ≠ [] ∧ cache.available = false then
    ⟨[], some "Real-time quotes disabled or Redis unavailable"⟩
  else ⟨quotes, none⟩

end Answer

/-! ## What is asked for and what is answered -/

/-- The names that are not blank, each once, where it first comes. -/
def distinctNames (xs : List String) : List String := firstByKey some (xs.filter (· ≠ ""))

def WatchRow.isOption (w : WatchRow) : Bool := upper (text w.secType) = "OPT"

theorem foldl_appendNew (xs : List String) : xs.foldl appendNew [] = distinctNames xs := by
  have h := foldl_append_new (fun x : String => decide (x ≠ "")) xs
  simp only [decide_eq_true_eq] at h
  exact h

theorem focus_eq (f : Focus) : focus f =
    (distinctNames (f.positions.map text ++ (f.watchlist.filter (!·.isOption)).map (text ·.symbol)),
      distinctNames ((f.watchlist.filter (·.isOption)).map (text ·.contractKey))) := by
  have hfold : ∀ (ws : List WatchRow) (lists : List String × List String),
      ws.foldl (fun lists w =>
        if upper (text w.secType) = "OPT" then (lists.1, appendNew lists.2 (text w.contractKey))
        else (appendNew lists.1 (text w.symbol), lists.2)) lists =
      (((ws.filter (!·.isOption)).map (text ·.symbol)).foldl appendNew lists.1,
        ((ws.filter (·.isOption)).map (text ·.contractKey)).foldl appendNew lists.2) := by
    intro ws
    induction ws with
    | nil => exact fun lists => rfl
    | cons w ws ih =>
      intro lists
      rw [List.foldl_cons, ih]
      by_cases hopt : upper (text w.secType) = "OPT"
      · have hw : w.isOption = true := decide_eq_true hopt
        rw [if_pos hopt, List.filter_cons_of_neg (by simp [hw]), List.filter_cons_of_pos hw, List.map_cons,
          List.foldl_cons]
      · have hw : w.isOption = false := decide_eq_false hopt
        rw [if_neg hopt, List.filter_cons_of_pos (by simp [hw]), List.filter_cons_of_neg (by simp [hw]), List.map_cons,
          List.foldl_cons]
  rw [focus, hfold, ← foldl_appendNew (_ ++ _), List.foldl_append, ← foldl_appendNew]

/-- Not a stock key. -/
def notStock (key : String) : Bool := !contains (upper key) "|STK|"

theorem foldl_appendKey (xs : List String) :
    xs.foldl appendKey [] = firstByKey some ((xs.map strip).filter fun c => decide (c ≠ "") && notStock c) := by
  rw [← foldl_append_new, List.foldl_map]
  congr 1
  funext keys key
  simp only [appendKey, notStock]
  by_cases hblank : strip key = ""
  · simp [hblank]
  · by_cases hmem : strip key ∈ keys
    · simp [hmem]
    · by_cases hstock : contains (upper (strip key)) "|STK|" = true
      · simp [hblank, hmem, hstock]
      · simp [hblank, hmem, hstock]

/-- The quote a read comes to. -/
def hit {κ : Type} (read : String → Except Unit (Option κ)) (key : String) : Option κ := (read key).toOption.join

/-- The hits of a loop that stops where a read raises. -/
structure Hits {κ : Type} (read : String → Except Unit (Option κ)) (keys : List String) (quotes : List κ) : Prop where
  reads : ∃ done rest, keys = done ++ rest ∧
    quotes = done.filterMap (hit read) ∧
    (∀ key ∈ done, ∃ q, read key = .ok q) ∧ ∀ key ∈ rest.head?, ∃ e, read key = .error e

theorem hits_readQuotes {κ : Type} (read : String → Except Unit (Option κ)) (keys : List String) :
    Hits read keys (readQuotes read keys) := by
  constructor
  induction keys with
  | nil => exact ⟨[], [], rfl, rfl, fun key h => absurd h List.not_mem_nil, fun key h => by cases h⟩
  | cons key keys ih =>
    cases hread : read key with
    | error e =>
      refine ⟨[], key :: keys, rfl, ?_, fun key h => absurd h List.not_mem_nil, fun key' h => ?_⟩
      · rw [readQuotes, Loop.appendEach, hread]
        rfl
      · obtain rfl := Option.some.inj h
        exact ⟨e, hread⟩
    | ok q =>
      obtain ⟨done, rest, rfl, hquotes, hok, hstop⟩ := ih
      refine ⟨key :: done, rest, rfl, ?_, ?_, hstop⟩
      · have hcons : readQuotes read (key :: (done ++ rest)) =
            (q :: (Loop.appendEach read (done ++ rest)).1).reduceOption := by
          rw [readQuotes, Loop.appendEach, hread]
        have htail : (Loop.appendEach read (done ++ rest)).1.reduceOption =
            done.filterMap (hit read) := hquotes
        have hhit : hit read key = q := by
          rw [hit, hread]
          rfl
        rw [hcons]
        cases q with
        | none =>
          rw [List.filterMap_cons_none hhit, ← htail]
          rfl
        | some q =>
          rw [List.filterMap_cons_some hhit, ← htail]
          rfl
      · rintro key' (_ | ⟨_, h⟩)
        · exact ⟨q, hread⟩
        · exact hok key' h

/-- What `GET /quotes` asks the cache for, and what it makes of the reads. -/
structure GetQuotes {κ : Type} (q : QuotesQuery) (f : Focus) (cache : Cache κ) : Prop where
  /-- A caller that names nothing asks for the focus list. -/
  focused : text q.symbols = "" → text q.contractKeys = "" → requested q f =
    (distinctNames (f.positions.map text ++ (f.watchlist.filter (!·.isOption)).map (text ·.symbol)),
      distinctNames ((f.watchlist.filter (·.isOption)).map (text ·.contractKey)))
  /-- A caller that names anything asks for the same, whatever the focus list holds. -/
  unread : text q.symbols ≠ "" ∨ text q.contractKeys ≠ "" → ∀ f', requested q f' = requested q f
  /-- Next to named keys, only named symbols are asked for. -/
  symbols : text q.symbols ≠ "" ∨ text q.contractKeys ≠ "" →
    (requested q f).1 = ((split ',' (q.symbols.getD "")).map strip).filter (· ≠ "")
  noKeys : text q.symbols ≠ "" → text q.contractKeys = "" → (requested q f).2 = []
  keysOnce : (requested q f).2.Nodup
  keys : text q.contractKeys ≠ "" → ∀ c, c ∈ (requested q f).2 ↔
    c ∈ (split ',' (text q.contractKeys)).map strip ∧ c ≠ "" ∧ notStock c = true
  /-- Stock hits come before option hits; each loop stops at the first read that raises, alone. -/
  hits : cache.available = true → ∃ stocks options,
    (answer cache (requested q f).1 (requested q f).2).quotes = stocks ++ options ∧
    Hits cache.tick ((((requested q f).1.map strip).filter (· ≠ "")).map (· ++ "|STK|||")) stocks ∧
    Hits cache.option (if cache.hasOptionCache = true then (requested q f).2 else []) options
  unavailable : cache.available = false → (answer cache (requested q f).1 (requested q f).2).quotes = []
  message : (answer cache (requested q f).1 (requested q f).2).message ≠ none →
    (answer cache (requested q f).1 (requested q f).2).quotes = []

theorem requested_keys {q : QuotesQuery} (f : Focus) (h : text q.contractKeys ≠ "") : (requested q f).2 =
    firstByKey some (((split ',' (text q.contractKeys)).map strip).filter fun c => decide (c ≠ "") && notStock c) := by
  rw [← foldl_appendKey]
  by_cases hsymbols : text q.symbols ≠ ""
  · simp only [requested, if_pos hsymbols, if_pos h]
  · simp only [requested, if_neg hsymbols, if_neg h, if_pos h]

theorem requested_focus {q : QuotesQuery} (f : Focus) (hsymbols : text q.symbols = "") (h : text q.contractKeys = "") :
    requested q f = focus f := by
  simp only [requested, hsymbols, h, ne_eq, not_true_eq_false, if_false, if_true]

/-- A text of blanks only has no part that is not blank. -/
theorem parts_of_blank {s : String} (h : strip s = "") : ((split ',' s).map strip).filter (· ≠ "") = [] := by
  have hchars : stripChars s.toList = [] := by
    rw [strip] at h
    exact String.ofList_injective (h.trans rfl)
  obtain ⟨left, right, hpad, hleft, hright⟩ := exists_pad s.toList
  have hcomma : ',' ∉ s.toList := by
    intro hmem
    rw [hpad, hchars, List.append_nil] at hmem
    rcases List.mem_append.1 hmem with hmem | hmem
    · exact absurd (hleft _ hmem) (by decide)
    · exact absurd (hright _ hmem) (by decide)
  rw [split, splitChars_of_notMem hcomma, List.map_singleton, String.ofList_toList, List.map_singleton, h]
  rfl

theorem requested_named {q : QuotesQuery} (f : Focus) (h : text q.symbols ≠ "" ∨ text q.contractKeys ≠ "") :
    requested q f = (((split ',' (q.symbols.getD "")).map strip).filter (· ≠ ""),
      if text q.contractKeys ≠ "" then (split ',' (text q.contractKeys)).foldl appendKey [] else []) := by
  by_cases hsymbols : text q.symbols = ""
  · have hkeys : text q.contractKeys ≠ "" := h.resolve_left fun hne => hne hsymbols
    simp only [requested, hsymbols, hkeys, ne_eq, not_true_eq_false, not_false_eq_true, if_true, if_false]
    rw [parts_of_blank hsymbols]
  · simp only [requested, hsymbols, ne_eq, not_false_eq_true, if_true]

theorem answer_cases {κ : Type} (cache : Cache κ) (symbols keys : List String) :
    (∃ message, answer cache symbols keys = ⟨[], some message⟩ ∧
      stockQuotes cache symbols ++ optionQuotes cache keys = []) ∨
    answer cache symbols keys = ⟨stockQuotes cache symbols ++ optionQuotes cache keys, none⟩ := by
  unfold answer
  dsimp only
  split
  next hnone =>
    refine Or.inl ⟨_, rfl, ?_⟩
    rw [stockQuotes, optionQuotes, if_neg fun h => h.1 hnone.1, if_neg fun h => h.1 hnone.2]
    rfl
  · split
    next hempty => exact Or.inl ⟨_, rfl, List.isEmpty_iff.1 hempty.1⟩
    · split
      next hempty => exact Or.inl ⟨_, rfl, List.isEmpty_iff.1 hempty.1⟩
      · exact Or.inr rfl

theorem answer_quotes {κ : Type} (cache : Cache κ) (symbols keys : List String) :
    (answer cache symbols keys).quotes = stockQuotes cache symbols ++ optionQuotes cache keys := by
  rcases answer_cases cache symbols keys with ⟨message, hanswer, hquotes⟩ | hanswer
  · rw [hanswer, hquotes]
  · rw [hanswer]

theorem hits_stockQuotes {κ : Type} {cache : Cache κ} (h : cache.available = true) (symbols : List String) :
    Hits cache.tick (((symbols.map strip).filter (· ≠ "")).map (· ++ "|STK|||")) (stockQuotes cache symbols) := by
  unfold stockQuotes
  by_cases hsymbols : symbols = []
  · rw [if_neg fun h => h.1 hsymbols, hsymbols]
    exact hits_readQuotes cache.tick []
  · rw [if_pos ⟨hsymbols, h⟩]
    exact hits_readQuotes _ _

theorem hits_optionQuotes {κ : Type} {cache : Cache κ} (h : cache.available = true) (keys : List String) :
    Hits cache.option (if cache.hasOptionCache = true then keys else []) (optionQuotes cache keys) := by
  unfold optionQuotes
  by_cases hcache : cache.hasOptionCache = true
  · rw [if_pos hcache]
    by_cases hkeys : keys = []
    · rw [if_neg fun h => h.1 hkeys, hkeys]
      exact hits_readQuotes cache.option []
    · rw [if_pos ⟨hkeys, h, hcache⟩]
      exact hits_readQuotes _ _
  · rw [if_neg hcache, if_neg fun h => hcache h.2.2]
    exact hits_readQuotes cache.option []

/-- **Main.** The request's symbols and keys, and the answer. -/
theorem getQuotes_spec {κ : Type} (q : QuotesQuery) (f : Focus) (cache : Cache κ) : GetQuotes q f cache := by
  have hnodup : ∀ xs : List String, (firstByKey some xs).Nodup := fun xs => by
    have h := @nodup_firstByKey String String _ some xs
    rwa [List.filterMap_some] at h
  constructor
  · intro hsymbols hkeys
    rw [requested_focus f hsymbols hkeys, focus_eq]
  · intro hnamed f'
    rw [requested_named f hnamed, requested_named f' hnamed]
  · intro hnamed
    rw [requested_named f hnamed]
  · intro hsymbols hkeys
    rw [requested_named f (Or.inl hsymbols), if_neg (not_not_intro hkeys)]
  · by_cases hkeys : text q.contractKeys = ""
    · by_cases hsymbols : text q.symbols = ""
      · rw [requested_focus f hsymbols hkeys, focus_eq]
        exact hnodup _
      · simp only [requested, hkeys, ne_eq, not_true_eq_false, hsymbols, not_false_eq_true, if_true, if_false]
        exact List.nodup_nil
    · rw [requested_keys f hkeys]
      exact hnodup _
  · intro hkeys c
    rw [requested_keys f hkeys, mem_firstByKey_self, List.mem_filter, Bool.and_eq_true, decide_eq_true_eq]
  · intro havailable
    exact ⟨_, _, answer_quotes cache _ _, hits_stockQuotes havailable _, hits_optionQuotes havailable _⟩
  · intro hnot
    have hoff : ¬ cache.available = true := by rw [hnot]; exact Bool.false_ne_true
    rw [answer_quotes, stockQuotes, optionQuotes, if_neg fun h => hoff h.2, if_neg fun h => hoff h.2.1]
    rfl
  · intro hmessage
    rcases answer_cases cache (requested q f).1 (requested q f).2 with ⟨message, hanswer, -⟩ | hanswer
    · rw [hanswer]
    · rw [hanswer] at hmessage
      exact absurd rfl hmessage

/-! ## The set -/

/-- `normalize_stk_symbols`: upper case, stripped, nothing blank. -/
structure Symbols where
  normalize : List String → List String
  normal : ∀ xs, ∀ s ∈ normalize xs, upper (strip s) = s ∧ s ≠ ""

/-- A member as the client returns it. -/
inductive Raw
  | bytes (bs : List UInt8)
  | str (s : String)

def Raw.symbol : Raw → String
  | bytes bs => upper (strip (String.ofList (decodeUtf8 bs)))
  | str s => upper (strip s)

/-- `SMEMBERS`; a set comes in any order, and is sorted below. -/
def smembers (members : Finset String) (decodeResponses : Bool) : List Raw :=
  (members.sort (· ≤ ·)).map fun s => if decodeResponses then .str s else .bytes (encodeUtf8 s.toList)

/-- `sorted({…})` -/
def sortedSet (xs : List String) : List String := xs.toFinset.sort (· ≤ ·)

/-- `to_remove` and `kept`. -/
def removedAndKept (raws : List Raw) (keep : List String) : List String × List String :=
  let current := (raws.map Raw.symbol).filter (· ≠ "")
  (sortedSet (current.filter (· ∉ keep)), sortedSet (current.filter (· ∈ keep)))

/-- The set, and what each cleanup that is under way is about to take out. -/
structure Shared where
  members : Finset String
  cleanups : Nat → Option (List String)

/-- `lost` is what a command that raised has not done. -/
inductive Event
  | getQuotes (q : QuotesQuery) (f : Focus) (available : Bool) (lost : Finset String)
  | smembers (id : Nat) (keepSymbols : List String) (decodeResponses : Bool)
  | remove (id : Nat) (lost : Finset String)

variable (symbols : Symbols)

/-- What an event registers. -/
def Event.registers : Event → List String
  | getQuotes q f available _ =>
    if available = true ∧ (requested q f).1 ≠ [] then symbols.normalize (requested q f).1 else []
  | _ => []

/-- The cleanup an event belongs to. -/
def Event.cleanup? : Event → Option Nat
  | getQuotes .. => none
  | smembers id _ _ => some id
  | remove id _ => some id

def step (s : Shared) (e : Event) : Shared :=
  match e with
  | .getQuotes _ _ _ lost => { s with members := s.members ∪ ((e.registers symbols).toFinset \ lost) }
  | .smembers id keepSymbols decodeResponses =>
    let lists := removedAndKept (smembers s.members decodeResponses) (symbols.normalize keepSymbols)
    { s with cleanups := Function.update s.cleanups id (some lists.1) }
  | .remove id lost => match s.cleanups id with
    | none => s
    | some toRemove =>
      ⟨s.members \ (toRemove.toFinset \ lost), Function.update s.cleanups id none⟩

/-- A symbol as the set holds them. -/
def Normal (s : String) : Prop := upper (strip s) = s ∧ s ≠ ""

/-! ## What a cleanup reads -/

theorem map_symbol_smembers {members : Finset String} (h : ∀ s ∈ members, Normal s) (decodeResponses : Bool) :
    (smembers members decodeResponses).map Raw.symbol = members.sort (· ≤ ·) := by
  rw [smembers, List.map_map]
  refine (List.map_congr_left fun s hs => ?_).trans (List.map_id _)
  obtain ⟨hnormal, -⟩ := h s ((Finset.mem_sort _).1 hs)
  cases decodeResponses with
  | true => exact hnormal
  | false =>
    change upper (strip (String.ofList (decodeUtf8 (encodeUtf8 s.toList)))) = s
    rw [decodeUtf8_encodeUtf8, String.ofList_toList, hnormal]

theorem mem_sortedSet {xs : List String} {s : String} : s ∈ sortedSet xs ↔ s ∈ xs := by
  rw [sortedSet, Finset.mem_sort, List.mem_toFinset]

theorem mem_current {members : Finset String} (h : ∀ s ∈ members, Normal s) (decodeResponses : Bool) {s : String} :
    s ∈ ((smembers members decodeResponses).map Raw.symbol).filter (· ≠ "") ↔ s ∈ members := by
  rw [map_symbol_smembers h, List.mem_filter, Finset.mem_sort, decide_eq_true_eq]
  exact ⟨fun hs => hs.1, fun hs => ⟨hs, (h s hs).2⟩⟩

/-- The two lists of an answer part the set by what the caller keeps. -/
structure Parted (members : Finset String) (keep : List String) (lists : List String × List String) : Prop where
  removed : ∀ s, s ∈ lists.1 ↔ s ∈ members ∧ s ∉ keep
  kept : ∀ s, s ∈ lists.2 ↔ s ∈ members ∧ s ∈ keep
  sortedRemoved : lists.1.Pairwise (· < ·)
  sortedKept : lists.2.Pairwise (· < ·)

theorem parted_removedAndKept {members : Finset String} (h : ∀ s ∈ members, Normal s) (decodeResponses : Bool)
    (keep : List String) : Parted members keep (removedAndKept (smembers members decodeResponses) keep) := by
  have hsorted : ∀ xs : List String, (sortedSet xs).Pairwise (· < ·) := fun xs =>
    (Finset.sortedLT_sort xs.toFinset).pairwise
  constructor
  · intro s
    rw [removedAndKept, mem_sortedSet, List.mem_filter, mem_current h, decide_eq_true_eq]
  · intro s
    rw [removedAndKept, mem_sortedSet, List.mem_filter, mem_current h, decide_eq_true_eq]
  · exact hsorted _
  · exact hsorted _

/-! ## One event -/

variable {symbols} {st : Shared} {e : Event} {s : String}

theorem normal_registers (hs : s ∈ e.registers symbols) : Normal s := by
  cases e with
  | getQuotes q f available lost =>
    rw [Event.registers] at hs
    split at hs
    · exact symbols.normal _ s hs
    · exact absurd hs List.not_mem_nil
  | smembers id keepSymbols decodeResponses => exact absurd hs List.not_mem_nil
  | remove id lost => exact absurd hs List.not_mem_nil

/-- What enters the set was registered. -/
theorem mem_step (hs : s ∈ (step symbols st e).members) : s ∈ st.members ∨ s ∈ e.registers symbols := by
  cases e with
  | getQuotes q f available lost =>
    rcases Finset.mem_union.1 hs with hs | hs
    · exact Or.inl hs
    · exact Or.inr (List.mem_toFinset.1 (Finset.mem_sdiff.1 hs).1)
  | smembers id keepSymbols decodeResponses => exact Or.inl hs
  | remove id lost =>
    rw [step] at hs
    split at hs
    · exact Or.inl hs
    · exact Or.inl (Finset.mem_sdiff.1 hs).1

theorem normal_step (h : ∀ s ∈ st.members, Normal s) : ∀ s ∈ (step symbols st e).members, Normal s := by
  intro s hs
  rcases mem_step hs with hs | hs
  · exact h s hs
  · exact normal_registers hs

/-- No cleanup under way is about to take the symbol out. -/
def Spared (s : String) (st : Shared) : Prop := ∀ id toRemove, st.cleanups id = some toRemove → s ∉ toRemove

/-- A cleanup that is begun keeps the symbol. -/
def Keeps (symbols : Symbols) (s : String) : Event → Prop
  | .smembers _ keepSymbols _ => s ∈ symbols.normalize keepSymbols
  | _ => True

theorem spared_step (hnormal : ∀ s ∈ st.members, Normal s) (h : Spared s st) (hkeeps : Keeps symbols s e) :
    Spared s (step symbols st e) := by
  intro id toRemove hid
  cases e with
  | getQuotes q f available lost => exact h id toRemove hid
  | smembers id' keepSymbols decodeResponses =>
    simp only [step, Function.update_apply] at hid
    split at hid
    · obtain rfl := Option.some.inj hid
      intro hs
      have hparted := parted_removedAndKept hnormal decodeResponses (symbols.normalize keepSymbols)
      exact ((hparted.removed s).1 hs).2 hkeeps
    · exact h id toRemove hid
  | remove id' lost =>
    rw [step] at hid
    split at hid
    · exact h id toRemove hid
    · simp only [Function.update_apply] at hid
      split at hid
      · cases hid
      · exact h id toRemove hid

theorem mem_step_of_spared (h : Spared s st) (hs : s ∈ st.members) : s ∈ (step symbols st e).members := by
  cases e with
  | getQuotes q f available lost => exact Finset.mem_union_left _ hs
  | smembers id keepSymbols decodeResponses => exact hs
  | remove id lost =>
    rw [step]
    split
    · exact hs
    next toRemove hid =>
      refine Finset.mem_sdiff.2 ⟨hs, fun hdrop => ?_⟩
      exact h id toRemove hid (List.mem_toFinset.1 (Finset.mem_sdiff.1 hdrop).1)

/-- The cleanup `id` is about to take the symbol out, should it be there. -/
def Doomed (id : Nat) (s : String) (st : Shared) : Prop :=
  ∃ toRemove, st.cleanups id = some toRemove ∧ (s ∈ st.members → s ∈ toRemove)

theorem doomed_step {id : Nat} (h : Doomed id s st) (hother : e.cleanup? ≠ some id)
    (hnot : s ∉ e.registers symbols) : Doomed id s (step symbols st e) := by
  obtain ⟨toRemove, hid, hmem⟩ := h
  refine ⟨toRemove, ?_, fun hs => hmem ((mem_step hs).resolve_right hnot)⟩
  cases e with
  | getQuotes q f available lost => exact hid
  | smembers id' keepSymbols decodeResponses =>
    have hne : id ≠ id' := fun heq => hother (by rw [heq]; rfl)
    simp only [step, Function.update_of_ne hne, hid]
  | remove id' lost =>
    have hne : id ≠ id' := fun heq => hother (by rw [heq]; rfl)
    rw [step]
    split
    · exact hid
    · simp only [Function.update_of_ne hne, hid]

/-! ## Any interleaving -/

/-- What holds of the set over a run from `st`. -/
structure Contract (symbols : Symbols) (st : Shared) (es : List Event) : Prop where
  /-- A member was there, or a request asked for it. -/
  asked : ∀ s ∈ (Run.run (step symbols) st es).members, s ∈ st.members ∨ ∃ e ∈ es, s ∈ e.registers symbols
  /-- What every cleanup keeps stays from the time it is in. -/
  kept : ∀ before after, es = before ++ after → ∀ s ∈ (Run.run (step symbols) st before).members,
    (∀ e ∈ es, Keeps symbols s e) → s ∈ (Run.run (step symbols) st es).members
  /-- What a cleanup does not keep is out when it is through, unless a request asks again meanwhile or later. -/
  dropped : ∀ before id keepSymbols decodeResponses meanwhile after,
    es = before ++ .smembers id keepSymbols decodeResponses :: (meanwhile ++ .remove id ∅ :: after) →
    (∀ e ∈ meanwhile, e.cleanup? ≠ some id) → ∀ s, s ∉ symbols.normalize keepSymbols →
    (∀ e ∈ meanwhile ++ after, s ∉ e.registers symbols) → s ∉ (Run.run (step symbols) st es).members
  /-- Each answer parts the set as it was read. -/
  parted : ∀ before after keep decodeResponses, es = before ++ after →
    Parted (Run.run (step symbols) st before).members keep
      (removedAndKept (smembers (Run.run (step symbols) st before).members decodeResponses) keep)

theorem run_append (st : Shared) (es fs : List Event) :
    Run.run (step symbols) st (es ++ fs) = Run.run (step symbols) (Run.run (step symbols) st es) fs :=
  List.foldl_append

theorem normal_run (h : ∀ s ∈ st.members, Normal s) (es : List Event) :
    ∀ s ∈ (Run.run (step symbols) st es).members, Normal s :=
  Run.run_of_invariant (I := fun st : Shared => ∀ s ∈ st.members, Normal s) (fun _ _ => normal_step) h

theorem asked_run (es : List Event) : ∀ s ∈ (Run.run (step symbols) st es).members,
    s ∈ st.members ∨ ∃ e ∈ es, s ∈ e.registers symbols := by
  induction es generalizing st with
  | nil => exact fun s hs => Or.inl hs
  | cons e es ih =>
    intro s hs
    rcases ih s hs with hs | ⟨e', he', hs⟩
    · exact (mem_step hs).imp_right fun hreg => ⟨e, List.mem_cons_self, hreg⟩
    · exact Or.inr ⟨e', List.mem_cons_of_mem _ he', hs⟩

theorem spared_run {es : List Event} (hnormal : ∀ s ∈ st.members, Normal s) (h : Spared s st)
    (hkeeps : ∀ e ∈ es, Keeps symbols s e) : Spared s (Run.run (step symbols) st es) := by
  have halong : Run.Along (step symbols) (fun _ e => Keeps symbols s e) st es :=
    Run.along_of_forall_mem fun _ e he => hkeeps e he
  have hinv := Run.always_of_along (I := fun st : Shared => (∀ s ∈ st.members, Normal s) ∧ Spared s st)
    (fun st e hst hk => ⟨normal_step hst.1, spared_step hst.1 hst.2 hk⟩) ⟨hnormal, h⟩ halong
  exact hinv.last.2

theorem kept_run {es : List Event} (hnormal : ∀ s ∈ st.members, Normal s) (h : Spared s st)
    (hkeeps : ∀ e ∈ es, Keeps symbols s e) (hs : s ∈ st.members) : s ∈ (Run.run (step symbols) st es).members := by
  have halong : Run.Along (step symbols) (fun _ e => Keeps symbols s e) st es :=
    Run.along_of_forall_mem fun _ e he => hkeeps e he
  have hinv := Run.always_of_along
    (I := fun st : Shared => ((∀ s ∈ st.members, Normal s) ∧ Spared s st) ∧ s ∈ st.members)
    (fun st e hst hk => ⟨⟨normal_step hst.1.1, spared_step hst.1.1 hst.1.2 hk⟩, mem_step_of_spared hst.1.2 hst.2⟩)
    ⟨⟨hnormal, h⟩, hs⟩ halong
  exact hinv.last.2

theorem dropped_run {id : Nat} {keepSymbols : List String} {decodeResponses : Bool} {meanwhile after : List Event}
    (hnormal : ∀ s ∈ st.members, Normal s) (hother : ∀ e ∈ meanwhile, e.cleanup? ≠ some id)
    (hkeep : s ∉ symbols.normalize keepSymbols) (hnot : ∀ e ∈ meanwhile ++ after, s ∉ e.registers symbols) :
    s ∉ (Run.run (step symbols) st
      (.smembers id keepSymbols decodeResponses :: (meanwhile ++ .remove id ∅ :: after))).members := by
  rw [Run.run_cons, run_append, Run.run_cons]
  have hbegun : Doomed id s (step symbols st (.smembers id keepSymbols decodeResponses)) :=
    ⟨_, Function.update_self .., fun hs =>
      ((parted_removedAndKept hnormal decodeResponses _).removed s).2 ⟨hs, hkeep⟩⟩
  have halong : Run.Along (step symbols) (fun _ e => e.cleanup? ≠ some id ∧ s ∉ e.registers symbols)
      (step symbols st (.smembers id keepSymbols decodeResponses)) meanwhile :=
    Run.along_of_forall_mem fun _ e he => ⟨hother e he, hnot e (List.mem_append_left _ he)⟩
  have hdoomed := (Run.always_of_along (I := Doomed id s) (fun st e hst hc => doomed_step hst hc.1 hc.2) hbegun
    halong).last
  generalize Run.run (step symbols) (step symbols st (.smembers id keepSymbols decodeResponses)) meanwhile = mid
    at hdoomed ⊢
  obtain ⟨toRemove, hid, hmem⟩ := hdoomed
  have hout : s ∉ (step symbols mid (.remove id ∅)).members := by
    simp only [step, hid, Finset.sdiff_empty]
    exact fun hs => (Finset.mem_sdiff.1 hs).2 (List.mem_toFinset.2 (hmem (Finset.mem_sdiff.1 hs).1))
  intro hs
  rcases asked_run after s hs with hs | ⟨e, he, hs⟩
  · exact hout hs
  · exact hnot e (List.mem_append_right _ he) hs

/-- **Main.** However requests for quotes and the commands of cleanups come one after another, and whatever part of
them a failure leaves undone: the set holds only what was asked for, loses nothing that every cleanup keeps, and a
cleanup that is through has taken out what it did not keep. -/
theorem onDemand_contract (symbols : Symbols) (members : Finset String) (hnormal : ∀ s ∈ members, Normal s)
    (es : List Event) : Contract symbols ⟨members, fun _ => none⟩ es := by
  constructor
  · exact asked_run es
  · rintro before after rfl s hs hkeeps
    have hspared : Spared s (Run.run (step symbols) ⟨members, fun _ => none⟩ before) :=
      spared_run hnormal (fun _ _ h => by cases h) fun e he => hkeeps e (List.mem_append_left _ he)
    rw [run_append]
    exact kept_run (normal_run hnormal before) hspared (fun e he => hkeeps e (List.mem_append_right _ he)) hs
  · rintro before id keepSymbols decodeResponses meanwhile after rfl hother s hkeep hnot
    rw [run_append]
    exact dropped_run (normal_run hnormal before) hother hkeep hnot
  · rintro before after keep decodeResponses rfl
    exact parted_removedAndKept (normal_run hnormal before) decodeResponses keep

/-- Upper case, stripped, nothing blank. -/
def upperSymbols : Symbols where
  normalize xs := (xs.map fun x => upper (strip x)).filter (· ≠ "")
  normal xs s hs := by
    obtain ⟨hs, hne⟩ := List.mem_filter.1 hs
    obtain ⟨x, -, rfl⟩ := List.mem_map.1 hs
    exact ⟨by rw [strip_upper_strip, upper_upper], of_decide_eq_true hne⟩

/-- Two cleanups side by side that keep `AAPL`: the first has read the set when `SPY` is asked for, and a command of the
second fails before it comes to `QQQ`. -/
def asksMeanwhile : List Event :=
  [.getQuotes ⟨some "qqq,iwm", none⟩ ⟨[], []⟩ true {"IWM"}, .smembers 0 ["aapl "] true,
    .getQuotes ⟨none, none⟩ ⟨[some "spy", some "iwm"], []⟩ true ∅, .smembers 1 ["AAPL", "spy"] false,
    .remove 0 ∅, .remove 1 {"QQQ"}]

theorem onDemand_contract_meanwhile :
    Contract upperSymbols ⟨{"AAPL", "MSFT"}, fun _ => none⟩ asksMeanwhile ∧
      "AAPL" ∈ (Run.run (step upperSymbols) ⟨{"AAPL", "MSFT"}, fun _ => none⟩ asksMeanwhile).members ∧
      "QQQ" ∉ (Run.run (step upperSymbols) ⟨{"AAPL", "MSFT"}, fun _ => none⟩ asksMeanwhile).members := by
  have hnormal : ∀ s ∈ ({"AAPL", "MSFT"} : Finset String), Normal s := by
    intro s hs
    rcases Finset.mem_insert.1 hs with rfl | hs
    · exact ⟨by decide +kernel, by decide⟩
    · obtain rfl := Finset.mem_singleton.1 hs
      exact ⟨by decide +kernel, by decide⟩
  have hcontract := onDemand_contract upperSymbols {"AAPL", "MSFT"} hnormal asksMeanwhile
  refine ⟨hcontract, ?_, ?_⟩
  · have hkeeps : ∀ e ∈ asksMeanwhile, Keeps upperSymbols "AAPL" e := by
      simp only [asksMeanwhile, List.forall_mem_cons, Keeps, List.not_mem_nil, false_implies, implies_true, true_and,
        and_true]
      decide +kernel
    exact hcontract.kept [] asksMeanwhile rfl "AAPL" (Finset.mem_insert_self ..) hkeeps
  · refine hcontract.dropped [_] 0 ["aapl "] true [_, _] [_] rfl ?_ "QQQ" (by decide +kernel) (by decide +kernel)
    simp [Event.cleanup?]

end BifrostApi.Market.OnDemand
