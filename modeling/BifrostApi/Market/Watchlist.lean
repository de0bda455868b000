import BifrostApi.Common.WriteRoutes
import BifrostApi.Lib.LastWrite

/-!
# The watchlist (`market/routers/watchlist.py`)

POST adds a contract or changes the fields sent on a watched one, PATCH changes the fields sent, DELETE takes it off,
and a position category that goes takes its contracts out of it. `watchlist_told` says what that comes to over a run of
write requests, failed ones among them: a contract is on the list just when it was put there and not taken off since,
and each of its fields is what the last request that sent it sent.

| here | there |
| --- | --- |
| `WatchlistWriters` | core's writers of the list, as the docstrings of the routes have them |
| `uncategorize` | `delete_position_category` (portfolio/routers/config.py) |
| `Common.postFields`, `Common.asks` | `_post_fields`, `post_watchlist`, `patch_watchlist_item`, `delete_watchlist` |
-/

namespace BifrostApi.Market.Watchlist

open Py Common LastWrite

/-! ## The list -/

/-- A category that is deleted leaves its rows uncategorized. -/
def uncategorize (id : Int) (field : String) : Json → Option Json
  | .int n => if field = "category_id" ∧ n = id then some .null else none
  | _ => none

section

variable (stored : String → Json → Json)

/-- The fields a call says, as they are stored. -/
def saidBy (fields : Dict String Json) (field : String) : Option Json := (fields.lookup field).map (stored field)

/-- What a call of a writer does to the list; `none` when it does nothing to it. -/
def writeOf : Call → Option (Write String String Json)
  | .upsertWatchlist key fields => some (.put key (saidBy stored fields))
  | .patch .watchlist key fields => some (.change key.print (saidBy stored fields))
  | .delete .watchlist key => some (.remove key.print)
  | .delete .positionCategory (.id id) => some (.sweep (uncategorize id))
  | _ => none

end

/-- Core's writers over the list: `view` is its rows, `fresh` what a new row has where nothing is sent (`source` is
`manual`), and `stored` how the value of a field is stored. -/
structure WatchlistWriters (σ ω : Type) extends Writers σ ω where
  view : σ → Table String String Json
  fresh : String → String → Json
  stored : String → Json → Json
  writes : ∀ call s s', Effect call s s' →
    view s' = (writeOf stored call).elim (view s) ((view s).write fresh)

/-! ## What is promised -/

/-- The list after the calls. -/
structure Told {σ ω : Type} (core : WatchlistWriters σ ω) (s s' : σ) (calls : List Call) : Prop where
  /-- What was put there and not taken off since. -/
  listed : ∀ key, (core.view s' key).isSome = true ↔
    Stands (core.view s) key (calls.filterMap (writeOf core.stored))
  /-- The last call that said a field said its value. -/
  fields : ∀ key row, core.view s' key = some row → ∀ f,
    Origin core.fresh (core.view s) key f (calls.filterMap (writeOf core.stored)) (row f)
  /-- POST says no blank text and does not clear `optionable`. -/
  posted : ∀ key fields, .upsertWatchlist key fields ∈ calls → ∀ f x, fields.lookup f = some x →
    f ≠ "contract_key" ∧ notBlank x = true ∧ (f = "optionable" → x ≠ .null)

/-! ## A run -/

section

variable {σ ω : Type} {core : WatchlistWriters σ ω} {readInt : String → Option Int} {configured : Bool} {s s' : σ}
  {qs : List (Request × ω)} {calls : List Call}

/-- The list after a run is the calls that were made, one after the other. -/
theorem view_of_ran (h : Ran core.toWriters readInt configured s qs calls s') :
    core.view s' = LastWrite.run core.fresh (core.view s) (calls.filterMap (writeOf core.stored)) := by
  induction h with
  | nil s => rfl
  | passed _ _ _ ih => exact ih
  | @wrote s s' q qs call calls _ _ heffect _ _ ih =>
    rw [ih, core.writes call _ _ heffect]
    cases hw : writeOf core.stored call with
    | none => rw [List.filterMap_cons_none hw, Option.elim_none]
    | some w =>
      rw [List.filterMap_cons_some hw, Option.elim_some]
      rfl

/-- A call that was made was asked for. -/
theorem asked_of_ran (h : Ran core.toWriters readInt configured s qs calls s') :
    ∀ call ∈ calls, ∃ q ∈ qs, Asked readInt q.1 call := by
  induction h with
  | nil s => exact fun _ hmem => absurd hmem List.not_mem_nil
  | passed _ _ _ ih =>
    intro call hmem
    obtain ⟨q, hq, hasked⟩ := ih call hmem
    exact ⟨q, List.mem_cons_of_mem _ hq, hasked⟩
  | @wrote _ _ q _ _ _ _ hasked _ _ _ ih =>
    intro call hmem
    rcases List.mem_cons.1 hmem with rfl | hmem
    · exact ⟨q, List.mem_cons_self, hasked⟩
    · obtain ⟨q', hq, hasked'⟩ := ih call hmem
      exact ⟨q', List.mem_cons_of_mem _ hq, hasked'⟩

theorem posts_of_asked {request : Request} {key : String} {fields : Dict String Json}
    (h : Asked readInt request (.upsertWatchlist key fields)) : ∃ body, Posts body key fields := by
  cases h with
  | postWatchlist hposts => exact ⟨_, hposts⟩

/-- What POST hands on passed its filter, and the filter tells apart nothing that is dumped alike. -/
theorem posted_of_posts {body : Json} {key : String} {fields : Dict String Json} (h : Posts body key fields)
    {f : String} {x : Json} (hx : fields.lookup f = some x) :
    f ≠ "contract_key" ∧ notBlank x = true ∧ (f = "optionable" → x ≠ .null) := by
  obtain ⟨kvs, -, -, hsame⟩ := h.sent
  have hpost := hsame f
  rw [hx] at hpost
  unfold postSent at hpost
  split at hpost
  · cases hpost
  · rename_i hkey
    generalize hsent : (kvs.lookup f).filter (fun x => !(f == "optionable" && Strategy.isNull x) && notBlank x) = sent
      at hpost
    cases hpost with
    | @some y _ hyx =>
      obtain ⟨-, hkept⟩ := Option.filter_eq_some_iff.1 hsent
      rw [Bool.and_eq_true] at hkept
      refine ⟨hkey, hyx.notBlank.trans hkept.2, ?_⟩
      rintro rfl rfl
      have hnull : Strategy.isNull y = true := hyx.isNull.symm
      rw [hnull] at hkept
      cases hkept.1

theorem told_of_ran (h : Ran core.toWriters readInt configured s qs calls s') : Told core s s' calls where
  listed key := by
    rw [view_of_ran h]
    exact stands_run
  fields key row hrow f := by
    rw [view_of_ran h] at hrow
    exact origin_run hrow f
  posted key fields hmem f x hx := by
    obtain ⟨q, -, hasked⟩ := asked_of_ran h _ hmem
    obtain ⟨body, hposts⟩ := posts_of_asked hasked
    exact posted_of_posts hposts hx

end

/-- **Main.** After any run of write requests, whatever fails in it, the watchlist is what the requests that took
effect say, field by field: those answered 200, some that failed with 500 or 503, and no other. -/
theorem watchlist_told {σ ω : Type} (core : WatchlistWriters σ ω) (readInt : String → Option Int) (configured : Bool)
    (s : σ) (qs : List (Request × ω)) :
    ∃ calls, Ran core.toWriters readInt configured s qs calls (Run.run (step core.toWriters readInt configured) s qs) ∧
      Told core s (Run.run (step core.toWriters readInt configured) s qs) calls := by
  obtain ⟨calls, hran⟩ := exists_ran core.toWriters readInt configured qs s
  exact ⟨calls, hran, told_of_ran hran⟩

/-- Whether a write finds the row it is about. -/
def finds (t : Table String String Json) : Write String String Json → Bool
  | .change key _ | .remove key => (t key).isSome
  | .put _ _ | .sweep _ => true

/-- A table that refuses what is not on it is such a core; the world says whether a call breaks once it wrote. -/
def tableWriters (fresh : String → String → Json) : WatchlistWriters (Table String String Json) Bool where
  perform t broken call :=
    let w := writeOf (fun _ x => x) call
    if w.all (finds t) then (if broken then .crashed else .row [], w.elim t (t.write fresh))
    else (.raised ⟨.notFound, "It is not on the watchlist."⟩, t)
  Effect call t t' := t' = (writeOf (fun _ x => x) call).elim t (t.write fresh)
  allOrNothing t _ call := by
    dsimp only
    split
    · exact Or.inr rfl
    · exact Or.inl rfl
  returned t _ call r h := by
    dsimp only at h ⊢
    split at h
    · rename_i hfinds
      rw [if_pos hfinds]
    · cases h
  refused t _ call e h _ := by
    dsimp only at h ⊢
    split at h
    · split at h <;> cases h
    · rename_i hfinds
      rw [if_neg hfinds]
  view t := t
  fresh := fresh
  stored _ x := x
  writes _ _ _ h := h

/-- `{"contract_key": "AAPL", "category_id": 3}` -/
def categorySent : Received watchlistBody :=
  .ofReads (reads_watchlistBody List.mem_cons_self
    ((FieldsRead.nil.cons "category_id" rfl (.optional (.int 3))).cons "contract_key" rfl (.str "AAPL")))

/-- `{"display_label": "core"}` -/
def labelSent : Received watchlistItemPatch.model :=
  .ofReads (PatchBody.reads_one (c := watchlistItemPatch) "display_label" rfl (.str "core"))

/-- A contract is added to a category, labelled by a call that breaks once it wrote, another one is not there, and the
category goes. -/
def fourRequests : List (Request × Bool) :=
  [(.postWatchlist categorySent, false),
   (.patch patchWatchlistItem ⟨"AAPL", by decide, fun h => absurd rfl h⟩ labelSent, true),
   (.patch patchWatchlistItem ⟨"MSFT", by decide, fun h => absurd rfl h⟩ labelSent, false),
   (.delete deletePositionCategory ⟨"3", by decide, fun _ => by decide⟩, false)]

def emptyList : Table String String Json := fun _ => none

def unsaid (_key _field : String) : Json := .null

theorem asks_fourRequests : fourRequests.map (fun q => asks intOfText true q.1) =
    [.ok (.upsertWatchlist "AAPL" [("category_id", .int 3)]),
      .ok (.patch .watchlist (.text "AAPL") [("display_label", .str "core")]),
      .ok (.patch .watchlist (.text "MSFT") [("display_label", .str "core")]),
      .ok (.delete .positionCategory (.id 3))] := by
  have hlabel : watchlistItemPatch.validate labelSent = .ok (watchlistItemPatch.one "display_label" (.str "core")) :=
    PatchBody.validate_of_read rfl rfl (by decide)
  have hasks := fun key => congrArg (fun body => (patchWatchlistItem.path.read intOfText key body).bind fun p =>
    onTarget true (patchWatchlistItem.what p.1) (.patch .watchlist p.1 (watchlistItemPatch.patchFields p.2))) hlabel
  exact congrArg₂ List.cons rfl (congrArg₂ List.cons (hasks "AAPL") (congrArg₂ List.cons (hasks "MSFT") rfl))

def listAfter : Table String String Json :=
  Run.run (step (tableWriters unsaid).toWriters intOfText true) emptyList fourRequests

theorem listAfter_rows : (listAfter "AAPL").map (fun row => (row "category_id", row "display_label")) =
    some (.null, .str "core") ∧ listAfter "MSFT" = none := by
  have hasks := asks_fourRequests
  simp only [fourRequests, List.map_cons, List.map_nil, List.cons.injEq, and_true] at hasks
  obtain ⟨hpost, hlabel, hother, hcategory⟩ := hasks
  simp only [listAfter, fourRequests, step, serve, hpost, hlabel, hother, hcategory, Run.run_cons, Run.run_nil]
  exact ⟨rfl, rfl⟩

theorem watchlist_told_fourRequests :
    (listAfter "AAPL").map (fun row => (row "category_id", row "display_label")) = some (.null, .str "core") ∧
    listAfter "MSFT" = none ∧
    ∃ calls, Ran (tableWriters unsaid).toWriters intOfText true emptyList fourRequests calls listAfter ∧
      Told (tableWriters unsaid) emptyList listAfter calls :=
  ⟨listAfter_rows.1, listAfter_rows.2, watchlist_told (tableWriters unsaid) intOfText true emptyList fourRequests⟩

end BifrostApi.Market.Watchlist
