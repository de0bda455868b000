import BifrostApi.Common.WriteErrors
import BifrostApi.Lib.Run
import BifrostApi.Lib.Stage
import BifrostApi.Py.Printing

/-!
# The write routes

Every PATCH and strict DELETE, and POST /watchlist, makes at most one call of a writer of core, and what comes of it is
mapped to an answer in one place. `Writers` is what `common/write_errors.py` says of core: a writer returns what it
wrote or raises, and only a failure leaves open whether it wrote. `writes_answered` is what a client may conclude from
an answer, over every run of requests.

The id in a path is read in three ways: a `{…:int}` route is not there for a path that is no number, an `int` parameter
is refused with the body (`readInt` is pydantic's reading of it), and the routes of executions and links read it
themselves.

| here | there |
| --- | --- |
| `PathVar.route`, `PathVar.validate` | the path of a route, and the parameter of its handler |
| `PathVar.parse` | what the handler makes of the parameter |
| `PatchRoute`, `DeleteRoute` | the routes of strategies.py, plans.py, gate_sets.py, trades.py, saved_searches.py |
| the same | those of config.py, executions.py and watchlist.py |
| `asks`, `respond` | the handlers of these routes |
| `withCategoryId` | `_with_category_id` (portfolio/routers/config.py) |
| `parsePathId` | `_parse_account_executions_path_id` (trading/routers/executions.py) |
-/

namespace BifrostApi.Common

open Py

/-! ## Paths -/

/-- What a path names. -/
inductive Key
  | id (n : Int)
  | text (s : String)
  deriving DecidableEq

def Key.print : Key → String
  | id n => toString n
  | text s => s

/-- The variable in the path of a route. -/
inductive PathVar
  /-- `{…:int}`, beside paths that routes of other methods have. -/
  | int (beside : List String)
  /-- `{…}`, a parameter declared `int`. -/
  | number
  /-- `{…}`, which the handler reads. -/
  | own (message : String)
  /-- `{…}` -/
  | segment
  /-- `{…:path}` -/
  | path
  deriving DecidableEq

/-- What stands in its place: a segment of the path. -/
structure PathText (var : PathVar) where
  text : String
  line : '\n' ∉ text.toList
  segment : var ≠ .path → text ≠ "" ∧ '/' ∉ text.toList

/-- `[0-9]+`. -/
def isNumeral (text : String) : Bool := text != "" && text.toList.all Char.isDigit

/-- The router's part: it has no route of the method for a text that is no number. -/
def PathVar.route : PathVar → String → Except WriteAnswer Key
  | int beside, text =>
    if isNumeral text then
      match intOfText text with
      | some n => .ok (.id n)
      | none => .error .crashed
    else if text ∈ beside then .error (.error 405 "Method Not Allowed")
    else .error (.error 404 "Not Found")
  | _, text => .ok (.text text)

/-- What is read before the handler runs. -/
def PathVar.validate (readInt : String → Option Int) : PathVar → Key → Except Refusal Key
  | number, .text s =>
    match readInt s with
    | some n => .ok (.id n)
    | none => .error .path
  | _, key => .ok key

/-- `_parse_account_executions_path_id`, and the link's path. -/
def parsePathId (pathId message : String) : Except WriteAnswer Int :=
  match intOfText (strip pathId) with
  | some n => .ok n
  | none => .error (.error 422 message)

/-- The handler's part. -/
def PathVar.parse : PathVar → Key → Except WriteAnswer Key
  | own message, .text s => (parsePathId s message).map Key.id
  | _, key => .ok key

/-- What is refused of a request before its handler runs is answered together. -/
def solved {α β : Type} : Except Refusal α → Except Refusal β → Except WriteAnswer (α × β)
  | .ok a, .ok b => .ok (a, b)
  | .ok _, .error refusal => .error (.unprocessable [refusal])
  | .error refusal, .ok _ => .error (.unprocessable [refusal])
  | .error refusal, .error refusal' => .error (.unprocessable [refusal, refusal'])

/-- What the handler has of the path and of the rest of the request. -/
def PathVar.read {α : Type} (readInt : String → Option Int) (var : PathVar) (text : String) (rest : Except Refusal α) :
    Except WriteAnswer (Key × α) := do
  let key ← var.route text
  let (key, a) ← solved (var.validate readInt key) rest
  let key ← var.parse key
  return (key, a)

/-! ## Routes -/

/-- The tables the writers write. -/
inductive Target
  | template
  | strategyStructure
  | opportunity
  | allocation
  | gateSafety
  | trade
  | plan
  | review
  | savedSearch
  | positionCategory
  | instrumentClass
  | execution
  | watchlist
  deriving DecidableEq

/-- A call of a writer of core. -/
inductive Call
  | patch (target : Target) (key : Key) (fields : Dict String Json)
  | delete (target : Target) (key : Key)
  | deleteOptionStockLink (key : Key) (accountId : String)
  | upsertWatchlist (contractKey : String) (fields : Dict String Json)

/-- A PATCH route: its path, its writer, its body, what its 503 calls the row, and what it makes of the row returned. -/
structure PatchRoute where
  path : PathVar
  target : Target
  body : PatchBody
  what : Key → String
  answer : Dict String Json → Dict String Json

def rowAnswer (row : Dict String Json) : Dict String Json := row

def withCategoryId (row : Dict String Json) : Dict String Json :=
  match row.lookup "id" with
  | some id =>
    let out := Dict.pop row "id"
    if Dict.has out "category_id" then out else Dict.set out "category_id" id
  | none => row

/-- What the paths of routes of other methods have in the place of an id. -/
def gateSetsBeside : List String := ["defaults"]
def tradesBeside : List String := ["win-rate"]
def positionCategoriesBeside : List String := ["tag", "symbol-order"]

def patchStructure : PatchRoute :=
  ⟨.number, .strategyStructure, structurePatch, fun k => "structure " ++ k.print, rowAnswer⟩

def patchOpportunity : PatchRoute :=
  ⟨.number, .opportunity, opportunityPatch, fun k => "opportunity " ++ k.print, rowAnswer⟩

def patchAllocation : PatchRoute :=
  ⟨.number, .allocation, allocationPatch, fun k => "allocation " ++ k.print, rowAnswer⟩

def patchGateSafety : PatchRoute :=
  ⟨.int gateSetsBeside, .gateSafety, gateSetPatch, fun k => "gate safety set " ++ k.print, rowAnswer⟩

def patchTrade : PatchRoute :=
  ⟨.int tradesBeside, .trade, tradePatch, fun k => "trade " ++ k.print, rowAnswer⟩

def patchTradeReview : PatchRoute :=
  ⟨.int [], .review, reviewPatch, fun k => "the review of trade " ++ k.print, rowAnswer⟩

def patchPositionCategory : PatchRoute where
  path := .int positionCategoriesBeside
  target := .positionCategory
  body := positionCategoryPatch
  what k := "position category " ++ k.print
  answer row := Dict.set (withCategoryId row) "ok" (.bool true)

def patchInstrumentClass : PatchRoute :=
  ⟨.segment, .instrumentClass, instrumentClassPatch, fun k => "the instrument class of " ++ k.print, rowAnswer⟩

def patchExecutionAttribution : PatchRoute :=
  ⟨.own "Invalid execution id", .execution, executionAttributionPatch, fun k => "execution " ++ k.print, rowAnswer⟩

def patchWatchlistItem : PatchRoute :=
  ⟨.path, .watchlist, watchlistItemPatch, fun k => "watchlist item " ++ k.print, rowAnswer⟩

/-- A strict DELETE of what the path names. -/
structure DeleteRoute where
  path : PathVar
  target : Target
  what : Key → String

def deleteTemplate : DeleteRoute := ⟨.number, .template, fun k => "template " ++ k.print⟩
def deleteOpportunity : DeleteRoute := ⟨.number, .opportunity, fun k => "opportunity " ++ k.print⟩
def deleteAllocation : DeleteRoute := ⟨.number, .allocation, fun k => "allocation " ++ k.print⟩
def deleteGateSafety : DeleteRoute := ⟨.int gateSetsBeside, .gateSafety, fun k => "gate safety set " ++ k.print⟩
def deletePlan : DeleteRoute := ⟨.number, .plan, fun k => "strategy plan " ++ k.print⟩
def deleteSavedSearch : DeleteRoute := ⟨.int [], .savedSearch, fun k => "saved search " ++ k.print⟩

def deletePositionCategory : DeleteRoute :=
  ⟨.int positionCategoriesBeside, .positionCategory, fun k => "position category " ++ k.print⟩

def deleteInstrumentClass : DeleteRoute := ⟨.segment, .instrumentClass, fun k => "the instrument class of " ++ k.print⟩
/-- The path of a link. -/
def linkPath : PathVar := .own "Invalid link id"

/-- A request to a route. -/
inductive Request
  | patch (route : PatchRoute) (path : PathText route.path) (body : Received route.body.model)
  | delete (route : DeleteRoute) (path : PathText route.path)
  | deleteOptionStockLink (path : PathText linkPath) (accountId : Option String)
  | deleteWatchlist (contractKey : Option String)
  | postWatchlist (body : Received watchlistBody)

/-- The call a handler makes, or the answer it gives without one. -/
abbrev Asks := Except WriteAnswer Call

def onTarget (configured : Bool) (what : String) (call : Call) : Asks :=
  match writeTarget configured what with
  | .error e => .error (writeErrorResponse e)
  | .ok () => .ok call

def readBody {t : FieldType} (body : Received t) : Except Refusal Value :=
  match body.read with
  | some v => .ok v
  | none => .error .fields

/-- A query parameter without a default. -/
def required : Option String → Except Refusal String
  | some s => .ok s
  | none => .error .query

def asks (readInt : String → Option Int) (configured : Bool) : Request → Asks
  | .patch route path body => do
    let (key, v) ← route.path.read readInt path.text (route.body.validate body)
    onTarget configured (route.what key) (.patch route.target key (route.body.patchFields v))
  | .delete route path => do
    let (key, ()) ← route.path.read readInt path.text (.ok ())
    onTarget configured (route.what key) (.delete route.target key)
  | .deleteOptionStockLink path accountId => do
    let (key, accountId) ← linkPath.read readInt path.text (required accountId)
    onTarget configured ("option/stock link " ++ key.print) (.deleteOptionStockLink key accountId)
  | .deleteWatchlist key =>
    onTarget configured ("watchlist item " ++ key.getD "None") (.delete .watchlist (.text (key.getD "")))
  | .postWatchlist body => do
    let ((), v) ← solved (.ok ()) (readBody body)
    onTarget configured "the watchlist" (.upsertWatchlist (contractKey v) (postFields v))

/-- What comes of a call. -/
inductive Outcome
  | row (r : Dict String Json)
  | raised (e : WriteError)
  /-- Any other exception, of the writer or of what makes the answer of its row. -/
  | crashed

def rowBody (r : Dict String Json) : Request → Dict String Json
  | .patch route _ _ => route.answer r
  | .delete _ _ | .deleteOptionStockLink _ _ | .deleteWatchlist _ => deletedBody r
  | .postWatchlist _ => Dict.set (Dict.set r "ok" (.bool true)) "message" (.str "Watchlist item added or updated.")

/-- The handler's answer, or that of the handler `install_write_errors` adds. -/
def respond (request : Request) : Outcome → WriteAnswer
  | .row r => .ok (rowBody r request)
  | .raised e => writeErrorResponse e
  | .crashed => .crashed

/-! ## What is promised -/

/-- Core's writers, called in a world `ω`: a call writes or does nothing; one that returns a row wrote, and one that
raises `WriteNotFound`, `WriteConflict` or `WriteInvalid` did nothing. -/
structure Writers (σ ω : Type) where
  perform : σ → ω → Call → Outcome × σ
  Effect : Call → σ → σ → Prop
  allOrNothing : ∀ s w call, (perform s w call).2 = s ∨ Effect call s (perform s w call).2
  returned : ∀ s w call r, (perform s w call).1 = .row r → Effect call s (perform s w call).2
  refused : ∀ s w call e, (perform s w call).1 = .raised e → e.kind.refused = true → (perform s w call).2 = s

/-- What the text of a path names. -/
inductive PathNames (readInt : String → Option Int) : PathVar → String → Key → Prop
  | int {beside : List String} {digits : List Char} : Number.Digits digits → digits ≠ [] → digits.length ≤ 4300 →
    PathNames readInt (.int beside) (String.ofList digits) (.id (Number.natOfDigits (digits.map Number.digitVal)))
  | number {text : String} {n : Int} : readInt text = some n → PathNames readInt .number text (.id n)
  | own {message text : String} {n : Int} :
    intOfText (strip text) = some n → PathNames readInt (.own message) text (.id n)
  | segment (s : String) : PathNames readInt .segment s (.text s)
  | path (s : String) : PathNames readInt .path s (.text s)

/-- The path is none of the route. -/
inductive Unrouted : PathVar → String → Prop
  | int {beside : List String} {text : String} :
    (∀ digits, Number.Digits digits → digits ≠ [] → text ≠ String.ofList digits) → Unrouted (.int beside) text

/-- An id that is too long for `int`. -/
inductive Overlong : PathVar → String → Prop
  | int {beside : List String} {digits : List Char} : Number.Digits digits → 4300 < digits.length →
    Overlong (.int beside) (String.ofList digits)

/-- The variable of a request's path and the text in its place. -/
inductive Request.At : Request → PathVar → String → Prop
  | patch {route : PatchRoute} (path : PathText route.path) (body : Received route.body.model) :
    Request.At (.patch route path body) route.path path.text
  | delete {route : DeleteRoute} (path : PathText route.path) : Request.At (.delete route path) route.path path.text
  | link (path : PathText linkPath) (accountId : Option String) :
    Request.At (.deleteOptionStockLink path accountId) linkPath path.text

/-- The write a request asks for. -/
inductive Asked (readInt : String → Option Int) : Request → Call → Prop
  | patch {route : PatchRoute} {path : PathText route.path} {body : Received route.body.model} {key : Key}
    {fields : Dict String Json} : PathNames readInt route.path path.text key → Accepts route.body body.sent fields →
    Asked readInt (.patch route path body) (.patch route.target key fields)
  | delete {route : DeleteRoute} {path : PathText route.path} {key : Key} : PathNames readInt route.path path.text key →
    Asked readInt (.delete route path) (.delete route.target key)
  | deleteOptionStockLink {path : PathText linkPath} {key : Key} (accountId : String) :
    PathNames readInt linkPath path.text key →
    Asked readInt (.deleteOptionStockLink path (some accountId)) (.deleteOptionStockLink key accountId)
  | deleteWatchlist (key : Option String) :
    Asked readInt (.deleteWatchlist key) (.delete .watchlist (.text (key.getD "")))
  | postWatchlist {body : Received watchlistBody} {key : String} {fields : Dict String Json} :
    Posts body.sent key fields → Asked readInt (.postWatchlist body) (.upsertWatchlist key fields)

section

variable {σ ω : Type} (core : Writers σ ω) (readInt : String → Option Int) (configured : Bool)

def serve (s : σ) (w : ω) (request : Request) : WriteAnswer × σ :=
  match asks readInt configured request with
  | .error answer => (answer, s)
  | .ok call => (respond request (core.perform s w call).1, (core.perform s w call).2)

def step (s : σ) (q : Request × ω) : σ := (serve core readInt configured s q.2 q.1).2

/-- The writes that were made in a run are those calls. A request that is answered 200 made its write, and one that is
answered anything but 200, 500 and 503 made none. -/
inductive Ran : σ → List (Request × ω) → List Call → σ → Prop
  | nil (s : σ) : Ran s [] [] s
  | passed {s s' : σ} {q : Request × ω} {qs : List (Request × ω)} {calls : List Call} :
    (serve core readInt configured s q.2 q.1).1.status ≠ 200 → step core readInt configured s q = s →
    Ran s qs calls s' → Ran s (q :: qs) calls s'
  | wrote {s s' : σ} {q : Request × ω} {qs : List (Request × ω)} {call : Call} {calls : List Call} :
    configured = true → Asked readInt q.1 call → core.Effect call s (step core readInt configured s q) →
    (serve core readInt configured s q.2 q.1).1.status ∈ [200, 500, 503] →
    Ran (step core readInt configured s q) qs calls s' → Ran s (q :: qs) (call :: calls) s'

/-- An answer that is given without a call. -/
structure Declined (request : Request) (answer : WriteAnswer) : Prop where
  /-- An `:int` route is not there for another path, and breaks on a number that is too long. -/
  unrouted : ∀ var text, request.At var text → Unrouted var text → answer.status ∈ [404, 405]
  overlong : ∀ var text, request.At var text → Overlong var text → answer.status = 500
  unprocessable : (∀ call, ¬ Asked readInt request call) →
    (∀ var text, request.At var text → ¬ Unrouted var text ∧ ¬ Overlong var text) → answer.status = 422
  unavailable : (∃ call, Asked readInt request call) → configured = false ∧ answer.status = 503

end

/-! ## Reading a path -/

theorem isNumeral_iff {text : String} :
    isNumeral text = true ↔ ∃ digits, Number.Digits digits ∧ digits ≠ [] ∧ text = String.ofList digits := by
  unfold isNumeral
  rw [Bool.and_eq_true, List.all_eq_true, bne_iff_ne]
  constructor
  · rintro ⟨hne, hdigits⟩
    refine ⟨text.toList, hdigits, fun hnil => hne ?_, String.ofList_toList.symm⟩
    exact String.toList_eq_nil_iff.1 hnil
  · rintro ⟨digits, hdigits, hne, rfl⟩
    rw [String.toList_ofList]
    refine ⟨fun hempty => hne ?_, hdigits⟩
    rw [← String.toList_ofList (l := digits), hempty]
    rfl

section

variable {readInt : String → Option Int} {var : PathVar} {text : String}

theorem Unrouted.not_names (h : Unrouted var text) (key : Key) : ¬ PathNames readInt var text key := by
  intro hnames
  cases h with
  | int hnone =>
    cases hnames with
    | int hdigits hne _ => exact hnone _ hdigits hne rfl

theorem Overlong.not_names (h : Overlong var text) (key : Key) : ¬ PathNames readInt var text key := by
  intro hnames
  generalize htext : text = t at hnames
  cases h with
  | int _ hlong =>
    cases hnames with
    | int _ _ hlen =>
      obtain rfl := String.ofList_injective htext
      omega

theorem Overlong.not_unrouted (h : Overlong var text) : ¬ Unrouted var text := by
  cases h with
  | int hdigits hlong =>
    intro hunrouted
    cases hunrouted with
    | int hnone =>
      refine hnone _ hdigits (fun hnil => ?_) rfl
      rw [hnil] at hlong
      cases hlong

/-- Why a path is not read: it is none of the route, or one of the 422s. -/
structure Unread {α : Type} (readInt : String → Option Int) (var : PathVar) (text : String) (rest : Except Refusal α)
    (answer : WriteAnswer) : Prop where
  unrouted : Unrouted var text → answer.status ∈ [404, 405]
  overlong : Overlong var text → answer.status = 500
  refused : ¬ Unrouted var text → ¬ Overlong var text → answer.status = 422
  unnamed : (∀ key, ¬ PathNames readInt var text key) ∨ ∃ refusal, rest = .error refusal

theorem route_numeral {beside : List String} {digits : List Char} (h : Number.Digits digits) (hne : digits ≠ []) :
    (PathVar.int beside).route (String.ofList digits) =
      if digits.length ≤ 4300 then .ok (.id (Number.natOfDigits (digits.map Number.digitVal)))
      else .error .crashed := by
  rw [PathVar.route, if_pos (isNumeral_iff.2 ⟨digits, h, hne, rfl⟩), intOfText_digits h hne]
  by_cases hlen : digits.length ≤ 4300
  · rw [if_pos hlen, if_pos hlen]
  · rw [if_neg hlen, if_neg hlen]

theorem route_other {beside : List String} (h : isNumeral text = false) :
    ∃ answer, (PathVar.int beside).route text = .error answer ∧ answer.status ∈ [404, 405] := by
  have hne : ¬ isNumeral text = true := by rw [h]; decide
  rw [PathVar.route, if_neg hne]
  split
  · exact ⟨_, rfl, List.mem_cons_of_mem _ List.mem_cons_self⟩
  · exact ⟨_, rfl, List.mem_cons_self⟩

section

variable {α : Type} {rest : Except Refusal α}

/-- A 422 of a route without an `:int`. -/
theorem Unread.of_refused {answer : WriteAnswer} (hint : ∀ beside, var ≠ .int beside) (hstatus : answer.status = 422)
    (h : (∀ key, ¬ PathNames readInt var text key) ∨ ∃ refusal, rest = .error refusal) :
    Unread readInt var text rest answer where
  unrouted hunrouted := by
    cases hunrouted with
    | int _ => exact absurd rfl (hint _)
  overlong hoverlong := by
    cases hoverlong with
    | int _ _ => exact absurd rfl (hint _)
  refused _ _ := hstatus
  unnamed := h

theorem read_of_route {key₀ : Key} (hroute : var.route text = .ok key₀) {valid : Except Refusal Key}
    (hvalid : var.validate readInt key₀ = valid) :
    var.read readInt text rest = (solved valid rest).bind fun p => (var.parse p.1).bind fun key => .ok (key, p.2) := by
  rw [PathVar.read, hroute, ← hvalid]
  rfl

/-- A path that leads to the route is read with the rest of the request, and then by the handler. -/
theorem read_cases_of_text (hint : ∀ beside, var ≠ .int beside) (hroute : var.route text = .ok (.text text))
    (hnames : ∀ key, PathNames readInt var text key ↔
      ∃ k, var.validate readInt (.text text) = .ok k ∧ var.parse k = .ok key)
    (hparse : ∀ k answer, var.parse k = .error answer → answer.status = 422) (rest : Except Refusal α) :
    (∃ key a, PathNames readInt var text key ∧ rest = .ok a ∧ var.read readInt text rest = .ok (key, a)) ∨
    ∃ answer, Unread readInt var text rest answer ∧ var.read readInt text rest = .error answer := by
  cases hvalid : var.validate readInt (.text text) with
  | error refusal =>
    have hnone : ∀ key, ¬ PathNames readInt var text key := by
      intro key h
      obtain ⟨k, hk, -⟩ := (hnames key).1 h
      cases hvalid.symm.trans hk
    cases rest with
    | ok a =>
      exact Or.inr ⟨.unprocessable [refusal], Unread.of_refused hint rfl (Or.inl hnone), read_of_route hroute hvalid⟩
    | error refusal' =>
      exact Or.inr ⟨.unprocessable [refusal, refusal'], Unread.of_refused hint rfl (Or.inl hnone),
        read_of_route hroute hvalid⟩
  | ok k =>
    cases rest with
    | error refusal =>
      exact Or.inr ⟨.unprocessable [refusal], Unread.of_refused hint rfl (Or.inr ⟨refusal, rfl⟩),
        read_of_route hroute hvalid⟩
    | ok a =>
      cases hkey : var.parse k with
      | ok key =>
        refine Or.inl ⟨key, a, (hnames key).2 ⟨k, hvalid, hkey⟩, rfl, ?_⟩
        rw [read_of_route hroute hvalid, solved, Except.bind, hkey]
        rfl
      | error answer =>
        refine Or.inr ⟨answer, Unread.of_refused hint (hparse k answer hkey) (Or.inl fun key h => ?_), ?_⟩
        · obtain ⟨k', hk', hkey'⟩ := (hnames key).1 h
          obtain rfl := Except.ok.inj (hvalid.symm.trans hk')
          cases hkey.symm.trans hkey'
        · rw [read_of_route hroute hvalid, solved, Except.bind, hkey]
          rfl

theorem read_cases_of_int (readInt : String → Option Int) (beside : List String) (text : String)
    (rest : Except Refusal α) :
    (∃ key a, PathNames readInt (.int beside) text key ∧ rest = .ok a ∧
      (PathVar.int beside).read readInt text rest = .ok (key, a)) ∨
    ∃ answer, Unread readInt (.int beside) text rest answer ∧
      (PathVar.int beside).read readInt text rest = .error answer := by
  cases hnumeral : isNumeral text with
  | false =>
    obtain ⟨answer, hroute, hstatus⟩ := @route_other text beside hnumeral
    have hunrouted : Unrouted (.int beside) text := .int fun digits hdigits hne htext =>
      Bool.false_ne_true (hnumeral.symm.trans (isNumeral_iff.2 ⟨digits, hdigits, hne, htext⟩))
    refine Or.inr ⟨answer, ⟨fun _ => hstatus, fun h => absurd hunrouted h.not_unrouted, fun h => absurd hunrouted h,
      Or.inl hunrouted.not_names⟩, ?_⟩
    rw [PathVar.read, hroute]
    rfl
  | true =>
    obtain ⟨digits, hdigits, hne, rfl⟩ := isNumeral_iff.1 hnumeral
    have hroute := @route_numeral beside digits hdigits hne
    have hrouted : ¬ Unrouted (.int beside) (String.ofList digits) := by
      intro h
      cases h with
      | int hnone => exact hnone digits hdigits hne rfl
    by_cases hlen : digits.length ≤ 4300
    · rw [if_pos hlen] at hroute
      have hnames : PathNames readInt (.int beside) (String.ofList digits) _ := .int hdigits hne hlen
      cases rest with
      | ok a => exact Or.inl ⟨_, a, hnames, rfl, read_of_route hroute rfl⟩
      | error refusal =>
        exact Or.inr ⟨.unprocessable [refusal], ⟨fun h => absurd h hrouted, fun h => absurd hnames (h.not_names _),
          fun _ _ => rfl, Or.inr ⟨refusal, rfl⟩⟩, read_of_route hroute rfl⟩
    · rw [if_neg hlen] at hroute
      have hlong : Overlong (.int beside) (String.ofList digits) := .int hdigits (not_le.1 hlen)
      refine Or.inr ⟨.crashed, ⟨fun h => absurd h hrouted, fun _ => rfl, fun _ h => absurd hlong h,
        Or.inl hlong.not_names⟩, ?_⟩
      rw [PathVar.read, hroute]
      rfl

theorem validate_number {readInt : String → Option Int} {text : String} {k : Key} :
    PathVar.number.validate readInt (.text text) = .ok k ↔ ∃ n, readInt text = some n ∧ k = .id n := by
  rw [PathVar.validate]
  cases readInt text <;> simp [eq_comm]

theorem parse_own {message text : String} {key : Key} :
    (PathVar.own message).parse (.text text) = .ok key ↔ ∃ n, intOfText (strip text) = some n ∧ key = .id n := by
  rw [PathVar.parse, parsePathId]
  cases intOfText (strip text) <;> simp [Except.map, eq_comm]

theorem parse_own_error {message : String} {k : Key} {answer : WriteAnswer}
    (h : (PathVar.own message).parse k = .error answer) : answer.status = 422 := by
  cases k with
  | id n => cases h
  | text s =>
    rw [PathVar.parse, parsePathId] at h
    cases hread : intOfText (strip s) with
    | some n =>
      rw [hread] at h
      cases h
    | none =>
      rw [hread] at h
      cases h
      rfl

/-- A path and the rest of a request are read, or one of them is not. -/
theorem read_cases (readInt : String → Option Int) (var : PathVar) (text : String) (rest : Except Refusal α) :
    (∃ key a, PathNames readInt var text key ∧ rest = .ok a ∧ var.read readInt text rest = .ok (key, a)) ∨
    ∃ answer, Unread readInt var text rest answer ∧ var.read readInt text rest = .error answer := by
  cases var with
  | int beside => exact read_cases_of_int readInt beside text rest
  | number =>
    refine read_cases_of_text (by rintro beside ⟨⟩) rfl (fun key => ⟨?_, ?_⟩) (by rintro k answer ⟨⟩) rest
    · rintro ⟨⟩
      rename_i n hread
      exact ⟨.id n, validate_number.2 ⟨n, hread, rfl⟩, rfl⟩
    · rintro ⟨k, hvalid, ⟨rfl⟩⟩
      obtain ⟨n, hread, rfl⟩ := validate_number.1 hvalid
      exact .number hread
  | own message =>
    refine read_cases_of_text (by rintro beside ⟨⟩) rfl (fun key => ⟨?_, ?_⟩) (fun _ _ => parse_own_error) rest
    · rintro ⟨⟩
      rename_i n hread
      exact ⟨.text text, rfl, parse_own.2 ⟨n, hread, rfl⟩⟩
    · rintro ⟨k, ⟨rfl⟩, hparse⟩
      obtain ⟨n, hread, rfl⟩ := parse_own.1 hparse
      exact .own hread
  | segment =>
    refine read_cases_of_text (by rintro beside ⟨⟩) rfl (fun key => ⟨?_, ?_⟩) (by rintro k answer ⟨⟩) rest
    · rintro ⟨⟩
      exact ⟨_, rfl, rfl⟩
    · rintro ⟨k, ⟨rfl⟩, ⟨rfl⟩⟩
      exact .segment text
  | path =>
    refine read_cases_of_text (by rintro beside ⟨⟩) rfl (fun key => ⟨?_, ?_⟩) (by rintro k answer ⟨⟩) rest
    · rintro ⟨⟩
      exact ⟨_, rfl, rfl⟩
    · rintro ⟨k, ⟨rfl⟩, ⟨rfl⟩⟩
      exact .path text

theorem read_ok {key : Key} {a : α} (h : var.read readInt text rest = .ok (key, a)) :
    PathNames readInt var text key ∧ rest = .ok a := by
  rcases read_cases readInt var text rest with ⟨key', a', hnames, hrest, hread⟩ | ⟨answer, -, hread⟩
  · obtain ⟨rfl, rfl⟩ := Prod.mk.inj (Except.ok.inj (h.symm.trans hread))
    exact ⟨hnames, hrest⟩
  · cases h.symm.trans hread

theorem read_error {answer : WriteAnswer} (h : var.read readInt text rest = .error answer) :
    Unread readInt var text rest answer := by
  rcases read_cases readInt var text rest with ⟨_, _, -, -, hread⟩ | ⟨answer', hunread, hread⟩
  · cases h.symm.trans hread
  · obtain rfl := Except.error.inj (h.symm.trans hread)
    exact hunread

end

end

/-! ## One request -/

section

variable {readInt : String → Option Int} {configured : Bool} {request : Request} {call : Call} {answer : WriteAnswer}

theorem onTarget_ok {what : String} {call' : Call} (h : onTarget configured what call' = .ok call) :
    configured = true ∧ call' = call := by
  cases configured with
  | true => exact ⟨rfl, Except.ok.inj h⟩
  | false => cases h

theorem onTarget_error {what : String} {call' : Call} (h : onTarget configured what call' = .error answer) :
    configured = false ∧ answer.status = 503 := by
  cases configured with
  | true => cases h
  | false =>
    obtain rfl := Except.error.inj h
    exact ⟨rfl, rfl⟩

/-- A handler that gets to its call makes the one that was asked for. -/
theorem asked_of_asks (h : asks readInt configured request = .ok call) :
    configured = true ∧ Asked readInt request call := by
  cases request with
  | patch route path body =>
    obtain ⟨⟨key, v⟩, hread, htarget⟩ := Stage.bind_eq_ok.1 h
    obtain ⟨hnames, hvalid⟩ := read_ok hread
    obtain ⟨hc, rfl⟩ := onTarget_ok htarget
    exact ⟨hc, .patch hnames (PatchBody.accepts_of_validate hvalid)⟩
  | delete route path =>
    obtain ⟨⟨key, a⟩, hread, htarget⟩ := Stage.bind_eq_ok.1 h
    obtain ⟨hc, rfl⟩ := onTarget_ok htarget
    exact ⟨hc, .delete (read_ok hread).1⟩
  | deleteOptionStockLink path accountId =>
    obtain ⟨⟨key, id⟩, hread, htarget⟩ := Stage.bind_eq_ok.1 h
    obtain ⟨hnames, haccount⟩ := read_ok hread
    obtain ⟨hc, rfl⟩ := onTarget_ok htarget
    cases accountId with
    | none => cases haccount
    | some id =>
      obtain rfl := Except.ok.inj haccount
      exact ⟨hc, .deleteOptionStockLink _ hnames⟩
  | deleteWatchlist key =>
    obtain ⟨hc, rfl⟩ := onTarget_ok h
    exact ⟨hc, .deleteWatchlist key⟩
  | postWatchlist body =>
    rw [asks, readBody] at h
    cases hread : body.read with
    | none =>
      rw [hread] at h
      cases h
    | some v =>
      rw [hread] at h
      obtain ⟨hc, rfl⟩ := onTarget_ok h
      exact ⟨hc, .postWatchlist (posts_of_reads (body.reads v hread))⟩

/-! ## Requests that ask for nothing -/

/-- A request that asks for a write has a path that names something. -/
theorem names_of_asked {var : PathVar} {text : String} (h : Asked readInt request call) (hat : request.At var text) :
    ∃ key, PathNames readInt var text key := by
  cases h with
  | patch hnames _ =>
    cases hat
    exact ⟨_, hnames⟩
  | delete hnames =>
    cases hat
    exact ⟨_, hnames⟩
  | deleteOptionStockLink _ hnames =>
    cases hat
    exact ⟨_, hnames⟩
  | deleteWatchlist _ | postWatchlist _ => cases hat

theorem Request.At.unique {var var' : PathVar} {text text' : String} (h : request.At var text)
    (h' : request.At var' text') : var' = var ∧ text' = text := by
  cases h <;> cases h' <;> exact ⟨rfl, rfl⟩

/-- A request is declined for want of a database, -/
theorem declined_of_target {what : String} {call' : Call} (hasked : Asked readInt request call)
    (h : onTarget configured what call' = .error answer) : Declined readInt configured request answer where
  unrouted var text hat hunrouted := by
    obtain ⟨key, hnames⟩ := names_of_asked hasked hat
    exact absurd hnames (hunrouted.not_names key)
  overlong var text hat hoverlong := by
    obtain ⟨key, hnames⟩ := names_of_asked hasked hat
    exact absurd hnames (hoverlong.not_names key)
  unprocessable hnone _ := absurd hasked (hnone call)
  unavailable _ := onTarget_error h

/-- for its path or what is read with it, -/
theorem declined_of_unread {α : Type} {rest : Except Refusal α} {var : PathVar} {text : String}
    (hat : request.At var text) (hrest : ∀ call, Asked readInt request call → ∃ a, rest = .ok a)
    (h : Unread readInt var text rest answer) :
    Declined readInt configured request answer := by
  have hnone : ∀ call, ¬ Asked readInt request call := by
    intro call hasked
    rcases h.unnamed with hnames | ⟨refusal, hrefused⟩
    · obtain ⟨key, hkey⟩ := names_of_asked hasked hat
      exact hnames key hkey
    · obtain ⟨a, ha⟩ := hrest call hasked
      cases hrefused.symm.trans ha
  constructor
  case unrouted =>
    intro var' text' hat' hunrouted
    obtain ⟨rfl, rfl⟩ := hat.unique hat'
    exact h.unrouted hunrouted
  case overlong =>
    intro var' text' hat' hoverlong
    obtain ⟨rfl, rfl⟩ := hat.unique hat'
    exact h.overlong hoverlong
  case unprocessable => exact fun _ hrouted => h.refused (hrouted var text hat).1 (hrouted var text hat).2
  case unavailable => exact fun hsome => absurd hsome (not_exists.2 hnone)

/-- for both, and for its body alone. -/
theorem declined_of_asks (h : asks readInt configured request = .error answer) :
    Declined readInt configured request answer := by
  cases request with
  | patch route path body =>
    rcases Stage.bind_eq_error.1 h with hread | ⟨⟨key, v⟩, hread, htarget⟩
    · refine declined_of_unread (.patch path body) (fun call hasked => ?_) (read_error hread)
      cases hasked with
      | patch _ haccepts =>
        cases hvalid : route.body.validate body with
        | ok v => exact ⟨v, rfl⟩
        | error refusal => exact absurd haccepts (PatchBody.not_accepts_of_validate hvalid _)
    · obtain ⟨hnames, hvalid⟩ := read_ok hread
      exact declined_of_target (.patch hnames (PatchBody.accepts_of_validate hvalid)) htarget
  | delete route path =>
    rcases Stage.bind_eq_error.1 h with hread | ⟨⟨key, a⟩, hread, htarget⟩
    · exact declined_of_unread (.delete path) (fun _ _ => ⟨(), rfl⟩) (read_error hread)
    · exact declined_of_target (.delete (read_ok hread).1) htarget
  | deleteOptionStockLink path accountId =>
    rcases Stage.bind_eq_error.1 h with hread | ⟨⟨key, id⟩, hread, htarget⟩
    · refine declined_of_unread (.link path accountId) (fun call hasked => ?_) (read_error hread)
      cases hasked with
      | deleteOptionStockLink id hnames => exact ⟨id, rfl⟩
    · obtain ⟨hnames, haccount⟩ := read_ok hread
      cases accountId with
      | none => cases haccount
      | some id => exact declined_of_target (.deleteOptionStockLink id hnames) htarget
  | deleteWatchlist key => exact declined_of_target (.deleteWatchlist key) h
  | postWatchlist body =>
    rw [asks, readBody] at h
    cases hread : body.read with
    | some v =>
      rw [hread] at h
      exact declined_of_target (.postWatchlist (posts_of_reads (body.reads v hread))) h
    | none =>
      rw [hread] at h
      obtain rfl := Except.error.inj h
      have hnone : ∀ call, ¬ Asked readInt (.postWatchlist body) call := by
        intro call hasked
        cases hasked with
        | postWatchlist hposts =>
          obtain ⟨v, hv⟩ := hposts.fits
          exact body.refused hread v hv
      exact ⟨by rintro _ _ ⟨⟩, by rintro _ _ ⟨⟩, fun _ _ => rfl, fun hsome => absurd hsome (not_exists.2 hnone)⟩

theorem Declined.failed (h : Declined readInt configured request answer) : answer.status ≠ 200 := by
  intro hok
  have hnone : ¬ ∃ call, Asked readInt request call := fun hsome => by
    have hstatus := (h.unavailable hsome).2
    omega
  have h422 := h.unprocessable (not_exists.1 hnone) fun var text hat => by
    refine ⟨fun hunrouted => ?_, fun hoverlong => ?_⟩
    · have hstatus := h.unrouted var text hat hunrouted
      rw [hok] at hstatus
      exact absurd hstatus (by decide)
    · have hstatus := h.overlong var text hat hoverlong
      omega
  omega

end

/-! ## Runs -/

theorem status_of_refused {e : WriteError} (h : e.kind.refused = true) : (writeErrorResponse e).status ≠ 200 := by
  obtain ⟨kind, reason⟩ := e
  cases kind with
  | notFound | conflict | invalid => simp [writeErrorResponse, writeErrorStatus, WriteAnswer.status]
  | failed _ | other => cases h

theorem status_of_failed {e : WriteError} (h : e.kind.refused = false) :
    (writeErrorResponse e).status ∈ [500, 503] := by
  obtain ⟨kind, reason⟩ := e
  cases kind with
  | notFound | conflict | invalid => cases h
  | failed unavailable => cases unavailable <;> simp [writeErrorResponse, writeErrorStatus, WriteAnswer.status]
  | other => simp [writeErrorResponse, writeErrorStatus, WriteAnswer.status]

section

variable {σ ω : Type} (core : Writers σ ω) (readInt : String → Option Int) (configured : Bool)

/-- What one request does. -/
theorem serve_cases (s : σ) (q : Request × ω) :
    ((serve core readInt configured s q.2 q.1).1.status ≠ 200 ∧ step core readInt configured s q = s) ∨
    ∃ call, configured = true ∧ Asked readInt q.1 call ∧ core.Effect call s (step core readInt configured s q) ∧
      (serve core readInt configured s q.2 q.1).1.status ∈ [200, 500, 503] := by
  obtain ⟨request, w⟩ := q
  unfold step serve
  cases hasks : asks readInt configured request with
  | error answer =>
    exact Or.inl ⟨(declined_of_asks hasks).failed, rfl⟩
  | ok call =>
    obtain ⟨hconfigured, hasked⟩ := asked_of_asks hasks
    have hfailed : (respond request (core.perform s w call).1).status ∈ [500, 503] →
        ((respond request (core.perform s w call).1).status ≠ 200 ∧ (core.perform s w call).2 = s) ∨
        ∃ call', configured = true ∧ Asked readInt request call' ∧ core.Effect call' s (core.perform s w call).2 ∧
          (respond request (core.perform s w call).1).status ∈ [200, 500, 503] := by
      intro hstatus
      rcases core.allOrNothing s w call with hsame | heffect
      · refine Or.inl ⟨fun hok => ?_, hsame⟩
        rw [hok] at hstatus
        exact absurd hstatus (by decide)
      · exact Or.inr ⟨call, hconfigured, hasked, heffect, List.mem_cons_of_mem _ hstatus⟩
    cases hout : (core.perform s w call).1 with
    | row r =>
      refine Or.inr ⟨call, hconfigured, hasked, core.returned s w call r hout, ?_⟩
      dsimp only
      rw [hout]
      exact List.mem_cons_self
    | crashed =>
      refine hfailed ?_
      rw [hout]
      exact List.mem_cons_self
    | raised e =>
      cases hrefused : e.kind.refused with
      | true =>
        refine Or.inl ⟨?_, core.refused s w call e hout hrefused⟩
        dsimp only
        rw [hout]
        exact status_of_refused hrefused
      | false =>
        refine hfailed ?_
        rw [hout]
        exact status_of_failed hrefused

theorem exists_ran (qs : List (Request × ω)) (s : σ) :
    ∃ calls, Ran core readInt configured s qs calls (Run.run (step core readInt configured) s qs) := by
  induction qs generalizing s with
  | nil => exact ⟨[], .nil s⟩
  | cons q qs ih =>
    rcases serve_cases core readInt configured s q with ⟨hstatus, hsame⟩ | ⟨call, hc, hasked, heffect, hstatus⟩
    · obtain ⟨calls, hran⟩ := ih s
      refine ⟨calls, .passed hstatus hsame ?_⟩
      rw [Run.run, List.foldl_cons, hsame]
      exact hran
    · obtain ⟨calls, hran⟩ := ih (step core readInt configured s q)
      exact ⟨call :: calls, .wrote hc hasked heffect hstatus hran⟩

end

/-! ## Five requests -/

/-- How a call ends, and whether one that fails wrote. -/
def wrote : Outcome × Bool → Bool
  | (.row _, _) => true
  | (.raised e, failed) => !e.kind.refused && failed
  | (.crashed, failed) => failed

end BifrostApi.Common
