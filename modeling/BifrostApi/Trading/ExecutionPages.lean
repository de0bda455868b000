import Mathlib.Order.Basic
import BifrostApi.Lib.Keyset
import BifrostApi.Py.Json
import BifrostApi.Py.Printing

/-!
# Reading executions page by page (`trading/routers/executions.py`)

| here | there |
| --- | --- |
| `listBody` | `list_body` (common/envelopes.py:45) |
| `pageTotal` | `_page_total` (executions.py:190) |
| `getExecutions`, `getTransactions` | `get_executions` (:199), `get_transactions` (:480) |
| `browse` | a client that passes each `next_cursor` back as `cursor`, unchanged (:183) |

The reader is core's. `KeysetReader` is what the routes document of it: the order, the page strictly behind the
cursor's row, no cursor on the last page (:182-187, :493-497), and for `include_opt_pairs` one list up to
its cap. Between two requests of a client the stored rows may change in any way.
-/

namespace BifrostApi.Trading.Pages

open Py Keyset

/-! ## The routes -/

/-- A list answer; `extra` are the route's own fields. -/
structure Body (ρ : Type) where
  items : List ρ
  count : Nat
  total : Option Nat
  extra : Dict String Json

inductive Answer (ρ : Type)
  | ok (body : Body ρ)
  | error (status : Nat) (detail : String)

/-- `_LIST_KEYS` -/
def listKeys : List String := ["items", "count", "total"]

section Routes

variable {ρ φ : Type}

def listBody (items : Option (List ρ)) (total : Option Nat) (extra : Dict String Json) : Body ρ :=
  let rows := items.getD []
  ⟨rows, rows.length, total, extra.filter fun kv => kv.1 ∉ listKeys⟩

def pageTotal (items : List ρ) (nextCursor cursor : Option String) : Option Nat :=
  if cursor = none ∧ nextCursor = none then some items.length else none

/-- What the reader answers: the page and its cursor, or the text of `InvalidCursor`. -/
abbrev PageRead (ρ : Type) := Except String (Option (List ρ) × Option String)

/-- Core's reader over the rows stored when it is called. -/
structure Reader (ρ φ : Type) where
  executionsPage : φ → Option Nat → Option String → PageRead ρ
  /-- The rows and what else the answer holds. -/
  executionsWithOptPairs : φ → Nat → Option (List ρ) × Dict String Json
  transactionsPage : φ → Int → Option String → PageRead ρ

/-- `filters` are the parameters the route hands on. -/
structure ExecutionsQuery (φ : Type) where
  filters : φ
  limit : Nat
  includeOptPairs : Bool
  cursor : Option String

structure TransactionsQuery (φ : Type) where
  filters : φ
  limit : Int
  cursor : Option String

def cursorJson (cursor : Option String) : Json := (cursor.map Json.str).getD .null

/-- The end both routes share. -/
def pageBody (items : Option (List ρ)) (next cursor : Option String) : Body ρ :=
  let items := items.getD []
  listBody (some items) (pageTotal items next cursor) [("next_cursor", cursorJson next)]

def getExecutions (reader : Reader ρ φ) (q : ExecutionsQuery φ) : Answer ρ :=
  let effectiveLimit := if q.limit > 0 then some q.limit else none
  if q.includeOptPairs ∧ q.cursor ≠ none then
    .error 400 ("cursor cannot be used with include_opt_pairs: a C/P pair can span two pages and " ++
      "opt_pairs covers the whole window. Page without include_opt_pairs, or narrow from_ts/to_ts.")
  else if q.includeOptPairs then
    let cap := effectiveLimit.getD 5000
    let paired := reader.executionsWithOptPairs q.filters cap
    let rows := paired.1.getD []
    .ok (listBody (some rows) (if rows.length < cap then some rows.length else none) paired.2)
  else match reader.executionsPage q.filters effectiveLimit q.cursor with
    | .error e => .error 400 ("Invalid cursor: " ++ e)
    | .ok (items, next) => .ok (pageBody items next q.cursor)

def getTransactions (reader : Reader ρ φ) (q : TransactionsQuery φ) : Answer ρ :=
  match reader.transactionsPage q.filters q.limit q.cursor with
  | .error e => .error 400 ("Invalid cursor: " ++ e)
  | .ok (items, next) =>
    if q.limit ≤ 0 then .ok (listBody (some (items.getD [])) none [("next_cursor", .null)])
    else .ok (pageBody items next q.cursor)

/-- The cursor a client finds in an answer. -/
def Body.nextCursor (body : Body ρ) : Option String :=
  match body.extra.lookup "next_cursor" with
  | some (.str next) => some next
  | _ => none

/-- A client reads one page from each store in turn; the pages, and whether it came to the last one. -/
def browse (ask : List ρ → Option String → Answer ρ) (cursor : Option String) : List (List ρ) → List (List ρ) × Bool
  | [] => ([], false)
  | store :: stores => match ask store cursor with
    | .error _ _ => ([], false)
    | .ok body => match body.nextCursor with
      | none => ([body.items], true)
      | some next => (body.items :: (browse ask (some next) stores).1, (browse ask (some next) stores).2)

end Routes

/-! ## The reader -/

variable {ρ φ κ : Type} [LinearOrder κ]

/-- What the routes document of core's reader; `encode` writes the cursor of a row's key. -/
structure KeysetReader (key : ρ → κ) (matching : φ → ρ → Bool) (encode : κ → String)
    (reader : List ρ → Reader ρ φ) : Prop where
  executions : ∀ (store : List ρ) (filters : φ) (limit : Option Nat) (cursor : Option κ), limit ≠ some 0 →
    (store.map key).Nodup → ∃ items next,
      (reader store).executionsPage filters limit (cursor.map encode) = .ok (some items, next.map encode) ∧
      Page key limit (store.filter (matching filters)) cursor items next
  transactions : ∀ (store : List ρ) (filters : φ) (limit : Nat) (cursor : Option κ), limit ≠ 0 →
    (store.map key).Nodup → ∃ items next,
      (reader store).transactionsPage filters limit (cursor.map encode) = .ok (some items, next.map encode) ∧
      Page key (some limit) (store.filter (matching filters)) cursor items next
  optPairs : ∀ (store : List ρ) (filters : φ) (cap : Nat), (store.map key).Nodup → ∃ rows extra,
    (reader store).executionsWithOptPairs filters cap = (some rows, extra) ∧ rows.Nodup ∧
    rows ⊆ store.filter (matching filters) ∧ rows.length ≤ cap ∧
    (rows.length < cap → store.filter (matching filters) ⊆ rows)

/-! ### One such reader -/

/-- Fills without a date, which come by id, the newest first. -/
structure Fill where
  id : Nat
  symbol : String
  deriving DecidableEq, Repr

def fillKey (f : Fill) : Natᵒᵈ := OrderDual.toDual f.id

def cursorOf (k : Natᵒᵈ) : String := String.ofList (Nat.toDigits 10 (OrderDual.ofDual k))

def readCursor (cursor : String) : Option Natᵒᵈ :=
  if cursor.toList ≠ [] ∧ cursor.toList.all Char.isDigit = true then
    some (OrderDual.toDual (Number.natOfDigits (cursor.toList.map Number.digitVal)))
  else none

theorem readCursor_cursorOf (k : Natᵒᵈ) : readCursor (cursorOf k) = some k := by
  have hdigits : (Nat.toDigits 10 (OrderDual.ofDual k)).all Char.isDigit = true :=
    List.all_eq_true.2 (Number.digits_toDigits _)
  have hne : Nat.toDigits 10 (OrderDual.ofDual k) ≠ [] := Nat.toDigits_ne_nil
  rw [readCursor, cursorOf, String.toList_ofList, if_pos ⟨hne, hdigits⟩, Number.natOfDigits_toDigits]
  rfl

/-- The rows of one symbol, or all. -/
def ofSymbol (symbol : Option String) (f : Fill) : Bool := symbol.all (· = f.symbol)

def readPage (rows : List Fill) (limit : Option Nat) (cursor : Option String) : PageRead Fill :=
  match cursor with
  | none => .ok (some (page fillKey limit rows none).1, (page fillKey limit rows none).2.map cursorOf)
  | some text => match readCursor text with
    | none => .error "not issued here"
    | some k => .ok (some (page fillKey limit rows (some k)).1, (page fillKey limit rows (some k)).2.map cursorOf)

theorem readPage_cursorOf (rows : List Fill) (limit : Option Nat) (cursor : Option Natᵒᵈ) :
    readPage rows limit (cursor.map cursorOf) =
      .ok (some (page fillKey limit rows cursor).1, (page fillKey limit rows cursor).2.map cursorOf) := by
  cases cursor with
  | none => rfl
  | some k =>
    rw [Option.map_some, readPage]
    simp only [readCursor_cursorOf]

def fillReader (store : List Fill) : Reader Fill (Option String) where
  executionsPage symbol limit cursor := readPage (store.filter (ofSymbol symbol)) limit cursor
  executionsWithOptPairs symbol cap := (some ((store.filter (ofSymbol symbol)).take cap), [])
  transactionsPage symbol limit cursor := readPage (store.filter (ofSymbol symbol)) (some limit.toNat) cursor

theorem keysetReader_fillReader : KeysetReader fillKey ofSymbol cursorOf fillReader := by
  have hrows : ∀ (store : List Fill) (symbol : Option String), (store.map fillKey).Nodup →
      ((store.filter (ofSymbol symbol)).map fillKey).Nodup :=
    fun store symbol hkeys => hkeys.sublist (List.filter_sublist.map fillKey)
  constructor
  · intro store symbol limit cursor hlimit hkeys
    exact ⟨_, _, readPage_cursorOf _ limit cursor, page_page hlimit (hrows store symbol hkeys) cursor⟩
  · intro store symbol limit cursor hlimit hkeys
    refine ⟨_, _, readPage_cursorOf _ (some limit) cursor, page_page ?_ (hrows store symbol hkeys) cursor⟩
    exact fun h => hlimit (Option.some.inj h)
  · intro store symbol cap hkeys
    refine ⟨_, _, rfl, (hrows store symbol hkeys).of_map.sublist (List.take_sublist _ _),
      (List.take_sublist _ _).subset, List.length_take_le _ _, fun hlt => ?_⟩
    rw [List.length_take, min_lt_iff] at hlt
    rw [List.take_of_length_le (by omega)]
    exact List.Subset.refl _

/-! ## One page -/

/-- One answer of a route that pages. -/
structure Paged (key : ρ → κ) (matching : ρ → Bool) (encode : κ → String) (limit : Option Nat) (store : List ρ)
    (cursor : Option κ) (answer : Answer ρ) : Prop where
  answered : ∃ items next, answer = .ok (pageBody (some items) (next.map encode) (cursor.map encode)) ∧
    Page key limit (store.filter matching) cursor items next

variable {key : ρ → κ} {matching : φ → ρ → Bool} {encode : κ → String} {reader : List ρ → Reader ρ φ}

theorem nextCursor_pageBody (items : List ρ) (next cursor : Option String) :
    (pageBody (some items) next cursor).nextCursor = next := by
  cases next <;> rfl

theorem paged_getExecutions (hreader : KeysetReader key matching encode reader) {q : ExecutionsQuery φ}
    (hpairs : q.includeOptPairs = false) {store : List ρ} (hkeys : (store.map key).Nodup) {cursor : Option κ}
    (hcursor : q.cursor = cursor.map encode) :
    Paged key (matching q.filters) encode (if q.limit > 0 then some q.limit else none) store cursor
      (getExecutions (reader store) q) := by
  have hlimit : (if q.limit > 0 then some q.limit else none) ≠ some 0 := by
    split
    next hpos => exact fun h => absurd (Option.some.inj h) hpos.ne'
    next => exact fun h => by cases h
  obtain ⟨items, next, hread, hpage⟩ := hreader.executions store q.filters _ cursor hlimit hkeys
  refine ⟨items, next, ?_, hpage⟩
  unfold getExecutions
  rw [hpairs, if_neg (fun h => Bool.false_ne_true h.1), if_neg Bool.false_ne_true, hcursor, hread]

theorem paged_getTransactions (hreader : KeysetReader key matching encode reader) {q : TransactionsQuery φ}
    {limit : Nat} (hlimit : q.limit = limit) (hpos : limit ≠ 0) {store : List ρ} (hkeys : (store.map key).Nodup)
    {cursor : Option κ} (hcursor : q.cursor = cursor.map encode) :
    Paged key (matching q.filters) encode (some limit) store cursor (getTransactions (reader store) q) := by
  obtain ⟨items, next, hread, hpage⟩ := hreader.transactions store q.filters limit cursor hpos hkeys
  have hlimit' : ¬ q.limit ≤ 0 := by omega
  refine ⟨items, next, ?_, hpage⟩
  unfold getTransactions
  rw [hlimit, hcursor, hread]
  rw [hlimit] at hlimit'
  exact if_neg hlimit'

/-! ## Paging -/

/-- The pages a client reads are a walk over the matching rows of the stores it meets, of all of them if it does not
come to the last page. -/
theorem walk_browse {match' : ρ → Bool} {limit : Option Nat} {ask : List ρ → Option String → Answer ρ}
    {stores : List (List ρ)} (hask : ∀ store ∈ stores, ∀ cursor : Option κ,
      Paged key match' encode limit store cursor (ask store (cursor.map encode))) (cursor : Option κ) :
    ∃ visited, visited <+: stores ∧ ((browse ask (cursor.map encode) stores).2 = false → visited = stores) ∧
      Walk key limit cursor (visited.map (List.filter match')) (browse ask (cursor.map encode) stores).1
        (browse ask (cursor.map encode) stores).2 := by
  induction stores generalizing cursor with
  | nil => exact ⟨[], List.nil_prefix, fun _ => rfl, .stop cursor⟩
  | cons store stores ih =>
    obtain ⟨items, next, hanswer, hpage⟩ := (hask store List.mem_cons_self cursor).answered
    have hnext := nextCursor_pageBody items (next.map encode) (cursor.map encode)
    rw [browse, hanswer]
    cases next with
    | none =>
      rw [Option.map_none] at hnext
      simp only [Option.map_none, hnext]
      exact ⟨[store], List.cons_prefix_cons.2 ⟨rfl, List.nil_prefix⟩, fun hdone => (by cases hdone), .last hpage⟩
    | some k =>
      obtain ⟨visited, hinit, hall, hwalk⟩ := ih (fun s hs => hask s (List.mem_cons_of_mem _ hs)) (some k)
      rw [Option.map_some] at hnext hall hwalk
      simp only [Option.map_some, hnext]
      exact ⟨store :: visited, List.cons_prefix_cons.2 ⟨rfl, hinit⟩, fun hdone => congrArg (store :: ·) (hall hdone),
        .more hpage hwalk⟩

/-- What a client gets that pages through stores which change between its requests; `visited` are the stores at its
requests. -/
structure Delivered (key : ρ → κ) (match' : ρ → Bool) (visited pages : List (List ρ)) (done : Bool) : Prop where
  /-- In order, so no row twice. -/
  sorted : pages.flatten.Pairwise fun a b => key a < key b
  /-- The rows of a page matched and were stored when it was read. -/
  mem : List.Forall₂ (fun page store => ∀ a ∈ page, match' a = true ∧ a ∈ store) pages visited
  /-- Behind the last page, every matching row that was there at every request has come. -/
  complete : done = true → ∀ a, match' a = true → (∀ store ∈ visited, a ∈ store) → a ∈ pages.flatten

/-- One request for each store, up to the last page. -/
def PagesDelivered (key : ρ → κ) (match' : ρ → Bool) (stores : List (List ρ)) (read : List (List ρ) × Bool) : Prop :=
  ∃ visited, visited <+: stores ∧ (read.2 = false → visited = stores) ∧ Delivered key match' visited read.1 read.2

theorem delivered_browse {match' : ρ → Bool} {limit : Option Nat} {ask : List ρ → Option String → Answer ρ}
    {stores : List (List ρ)} (hask : ∀ store ∈ stores, ∀ cursor : Option κ,
      Paged key match' encode limit store cursor (ask store (cursor.map encode))) :
    PagesDelivered key match' stores (browse ask none stores) := by
  obtain ⟨visited, hinit, hall, hwalk⟩ := walk_browse hask (none : Option κ)
  rw [Option.map_none] at hall hwalk
  refine ⟨visited, hinit, hall, hwalk.sorted, ?_, fun hdone a hmatch hstored => ?_⟩
  · refine (List.forall₂_map_right_iff.1 hwalk.mem).imp fun page store hpage a ha => ?_
    obtain ⟨hin, hmatch⟩ := List.mem_filter.1 (hpage ha)
    exact ⟨hmatch, hin⟩
  · refine hwalk.complete hdone (fun rows hrows => ?_) fun c hc => by cases hc
    obtain ⟨store, hstore, rfl⟩ := List.mem_map.1 hrows
    exact List.mem_filter.2 ⟨hstored store hstore, hmatch⟩

/-- **Main.** A client that pages through the executions, or with a positive limit through the transactions, whatever
is written between its requests, gets no row twice, every row from the store its page was read from, and once it is
through every matching row that was there at each of its requests. -/
theorem paged_delivered (hreader : KeysetReader key matching encode reader) (stores : List (List ρ))
    (hkeys : ∀ store ∈ stores, (store.map key).Nodup) (filters : φ) (limit : Nat) :
    PagesDelivered key (matching filters) stores
      (browse (fun store cursor => getExecutions (reader store) ⟨filters, limit, false, cursor⟩) none stores) ∧
    (0 < limit → PagesDelivered key (matching filters) stores
      (browse (fun store cursor => getTransactions (reader store) ⟨filters, limit, cursor⟩) none stores)) := by
  constructor
  · have hask : ∀ store ∈ stores, ∀ cursor : Option κ,
        Paged key (matching filters) encode (if limit > 0 then some limit else none) store cursor
          (getExecutions (reader store) ⟨filters, limit, false, cursor.map encode⟩) :=
      fun store hstore cursor =>
        paged_getExecutions hreader (q := ⟨filters, limit, false, cursor.map encode⟩) rfl (hkeys store hstore) rfl
    exact delivered_browse hask
  · intro hpos
    have hask : ∀ store ∈ stores, ∀ cursor : Option κ, Paged key (matching filters) encode (some limit) store cursor
        (getTransactions (reader store) ⟨filters, limit, cursor.map encode⟩) :=
      fun store hstore cursor =>
        paged_getTransactions hreader (q := ⟨filters, limit, cursor.map encode⟩) rfl hpos.ne' (hkeys store hstore) rfl
    exact delivered_browse hask

/-- A fill comes in between two requests, and another one goes. -/
def growing : List (List Fill) :=
  [[⟨5, "SPY"⟩, ⟨2, "SPY"⟩], [⟨7, "SPY"⟩, ⟨5, "SPY"⟩, ⟨3, "SPY"⟩, ⟨2, "SPY"⟩], [⟨7, "SPY"⟩, ⟨5, "SPY"⟩, ⟨2, "SPY"⟩]]

theorem paged_delivered_growing :
    PagesDelivered fillKey (ofSymbol (some "SPY")) growing
      (browse (fun store cursor => getExecutions (fillReader store) ⟨some "SPY", 1, false, cursor⟩) none growing) ∧
    PagesDelivered fillKey (ofSymbol (some "SPY")) growing
      (browse (fun store cursor => getTransactions (fillReader store) ⟨some "SPY", (1 : Nat), cursor⟩) none growing) :=
  ⟨(paged_delivered keysetReader_fillReader growing (by decide) (some "SPY") 1).1,
    (paged_delivered keysetReader_fillReader growing (by decide) (some "SPY") 1).2 Nat.one_pos⟩

/-! ## The total -/

/-- A `total` is the number of rows that match, all of which are in the list; without one, a first page left some
out. -/
structure Totalled (rows : List ρ) (cursor : Option String) (body : Body ρ) : Prop where
  count : body.count = body.items.length
  exact : ∀ n, body.total = some n → body.items.Perm rows ∧ n = rows.length
  floor : cursor = none → body.total = none → ∃ a ∈ rows, a ∉ body.items

theorem totalled_pageBody {limit : Option Nat} {rows items : List ρ} {cursor next : Option κ}
    (hkeys : (rows.map key).Nodup) (h : Page key limit rows cursor items next) :
    Totalled rows (cursor.map encode) (pageBody (some items) (next.map encode) (cursor.map encode)) := by
  have hitems : items.Nodup := h.sorted.imp fun hlt => fun heq => absurd (heq ▸ hlt) (lt_irrefl _)
  have htotal : (pageBody (some items) (next.map encode) (cursor.map encode)).total =
      pageTotal items (next.map encode) (cursor.map encode) := rfl
  constructor
  · rfl
  · intro n hn
    rw [htotal, pageTotal] at hn
    split at hn
    next hlast =>
      rw [Option.map_eq_none_iff, Option.map_eq_none_iff] at hlast
      obtain ⟨rfl, rfl⟩ := hlast
      have hperm : items.Perm rows := (List.perm_ext_iff_of_nodup hitems hkeys.of_map).2 fun a =>
        ⟨fun ha => (h.mem a ha).1, fun ha => h.complete.1 rfl a ha fun c hc => by cases hc⟩
      exact ⟨hperm, (Option.some.inj hn).symm.trans hperm.length_eq⟩
    · cases hn
  · intro hfirst hnone
    rw [Option.map_eq_none_iff] at hfirst
    subst hfirst
    have hnext : next ≠ none := by
      rintro rfl
      cases hnone
    by_contra hall
    refine hnext (h.complete.2 fun a ha _ => ?_)
    by_contra hnot
    exact hall ⟨a, ha, hnot⟩

/-- **Main.** `total`, where an answer of either route has one, is exact; where a first page has none, the list is
not whole, or `include_opt_pairs` filled its cap. -/
theorem total_exact (hreader : KeysetReader key matching encode reader) {store : List ρ}
    (hkeys : (store.map key).Nodup) (filters : φ) (cursor : Option κ) :
    (∀ limit, ∃ body, getExecutions (reader store) ⟨filters, limit, false, cursor.map encode⟩ = .ok body ∧
      Totalled (store.filter (matching filters)) (cursor.map encode) body) ∧
    (∀ limit : Nat, limit ≠ 0 → ∃ body,
      getTransactions (reader store) ⟨filters, limit, cursor.map encode⟩ = .ok body ∧
      Totalled (store.filter (matching filters)) (cursor.map encode) body) ∧
    ∀ limit, ∃ body, getExecutions (reader store) ⟨filters, limit, true, none⟩ = .ok body ∧
      (∀ n, body.total = some n →
        body.items.Perm (store.filter (matching filters)) ∧ n = (store.filter (matching filters)).length) ∧
      (body.total = none → body.items.length = if limit > 0 then limit else 5000) := by
  have hrows : ((store.filter (matching filters)).map key).Nodup := hkeys.sublist (List.filter_sublist.map key)
  refine ⟨fun limit => ?_, fun limit hpos => ?_, fun limit => ?_⟩
  · obtain ⟨items, next, hanswer, hpage⟩ :=
      (paged_getExecutions hreader (q := ⟨filters, limit, false, cursor.map encode⟩) rfl hkeys rfl).answered
    exact ⟨_, hanswer, totalled_pageBody hrows hpage⟩
  · obtain ⟨items, next, hanswer, hpage⟩ :=
      (paged_getTransactions hreader (q := ⟨filters, limit, cursor.map encode⟩) rfl hpos hkeys rfl).answered
    exact ⟨_, hanswer, totalled_pageBody hrows hpage⟩
  · have hcap : (if limit > 0 then some limit else none).getD 5000 = if limit > 0 then limit else 5000 := by
      split <;> rfl
    generalize (if limit > 0 then limit else 5000) = cap at hcap ⊢
    obtain ⟨rows, extra, hread, hnodup, hsub, hle, hall⟩ := hreader.optPairs store filters cap hkeys
    have hbody : getExecutions (reader store) ⟨filters, limit, true, none⟩ =
        .ok (listBody (some rows) (if rows.length < cap then some rows.length else none) extra) := by
      unfold getExecutions
      simp only [hcap, hread]
      rfl
    refine ⟨_, hbody, ?_, ?_⟩
    · intro n hn
      change (if rows.length < cap then some rows.length else none) = some n at hn
      split at hn
      next hlt =>
        have hperm : rows.Perm (store.filter (matching filters)) :=
          (List.perm_ext_iff_of_nodup hnodup hrows.of_map).2 fun a => ⟨fun ha => hsub ha, fun ha => hall hlt ha⟩
        exact ⟨hperm, (Option.some.inj hn).symm.trans hperm.length_eq⟩
      · cases hn
    · intro hnone
      change (if rows.length < cap then some rows.length else none) = none at hnone
      split at hnone
      · cases hnone
      next hnot => exact le_antisymm hle (not_lt.1 hnot)

theorem total_exact_first : ∃ body, getExecutions (fillReader [⟨5, "SPY"⟩, ⟨2, "SPY"⟩]) ⟨some "SPY", 1, false, none⟩ =
    .ok body ∧ Totalled ([⟨5, "SPY"⟩, ⟨2, "SPY"⟩].filter (ofSymbol (some "SPY"))) none body :=
  (total_exact keysetReader_fillReader (by decide) (some "SPY") none).1 1

end BifrostApi.Trading.Pages
