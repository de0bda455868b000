import BifrostApi.Lib.Broadcast
import BifrostApi.Py.Json

/-!
# The quote stream (`market/app.py`, `market/routers/quotes.py`)

The Redis subscriber's thread broadcasts each quote to the queues of the open SSE connections; a connection's
generator replaces what JSON has no word for and sends the rest as it is. The queues are a `Broadcast` hub with 256
places each.

| here | there |
| --- | --- |
| `sanitizeForSseJson` | `_sanitize_for_sse_json` (quotes.py:27) |
| `.broadcast`, `.post`, `.fail` | `_broadcast_quote` (app.py:128), `call_soon_threadsafe` may raise |
| `.connect`, `.take`, `.disconnect` | `get_quotes_stream` (quotes.py:230) |
| `frames` | the `data:` lines of `event_gen`; a `ValueError` of `json.dumps` skips one |
-/

namespace BifrostApi.Market.QuoteStream

open Py Broadcast

/-! ## What JSON has no word for -/

mutual
def sanitizeForSseJson : Json → Json
  | .float x => match x with
    | .fin _ => .float x
    | _ => .null
  | .obj kvs => .obj (sanitizeEntries kvs)
  | .arr xs => .arr (sanitizeList xs)
  | v => v
def sanitizeList : List Json → List Json
  | [] => []
  | x :: xs => sanitizeForSseJson x :: sanitizeList xs
def sanitizeEntries : List (String × Json) → List (String × Json)
  | [] => []
  | (k, v) :: kvs => (k, sanitizeForSseJson v) :: sanitizeEntries kvs
end

/-- A step into a `dict` or a `list`. -/
inductive Access
  | key (k : String)
  | index (i : Nat)

def child : Json → Access → Option Json
  | .obj kvs, .key k => kvs.lookup k
  | .arr xs, .index i => xs[i]?
  | _, _ => none

def valueAt (v : Json) : List Access → Option Json
  | [] => some v
  | a :: path => (child v a).bind (valueAt · path)

theorem sanitizeList_eq (xs : List Json) : sanitizeList xs = xs.map sanitizeForSseJson := by
  induction xs with
  | nil => rfl
  | cons x xs ih => rw [sanitizeList, ih, List.map_cons]

theorem sanitizeEntries_eq (kvs : List (String × Json)) :
    sanitizeEntries kvs = Dict.mapVal (fun _ v => sanitizeForSseJson v) kvs := by
  induction kvs with
  | nil => rfl
  | cons kv kvs ih =>
    obtain ⟨k, v⟩ := kv
    rw [sanitizeEntries, ih]
    rfl

mutual
theorem allFinite_sanitize : ∀ v : Json, (sanitizeForSseJson v).allFinite = true
  | .null | .bool _ | .int _ | .str _ => rfl
  | .float (.fin _) => rfl
  | .float .nan | .float (.inf _) => rfl
  | .arr xs => allFiniteList_sanitize xs
  | .obj kvs => allFiniteEntries_sanitize kvs
theorem allFiniteList_sanitize : ∀ xs : List Json, Json.allFiniteList (sanitizeList xs) = true
  | [] => rfl
  | x :: xs => by
    rw [sanitizeList, Json.allFiniteList, allFinite_sanitize x, allFiniteList_sanitize xs]
    rfl
theorem allFiniteEntries_sanitize : ∀ kvs : List (String × Json), Json.allFiniteEntries (sanitizeEntries kvs) = true
  | [] => rfl
  | (_, v) :: kvs => by
    rw [sanitizeEntries, Json.allFiniteEntries, allFinite_sanitize v, allFiniteEntries_sanitize kvs]
    rfl
end

mutual
/-- A value that JSON can say is left as it is. -/
theorem sanitize_of_allFinite : ∀ {v : Json}, v.allFinite = true → sanitizeForSseJson v = v
  | .null, _ | .bool _, _ | .int _, _ | .str _, _ => rfl
  | .float (.fin _), _ => rfl
  | .arr _, h => congrArg Json.arr (sanitizeList_of_allFinite h)
  | .obj _, h => congrArg Json.obj (sanitizeEntries_of_allFinite h)
theorem sanitizeList_of_allFinite : ∀ {xs : List Json}, Json.allFiniteList xs = true → sanitizeList xs = xs
  | [], _ => rfl
  | x :: xs, h => by
    obtain ⟨hx, hxs⟩ := (Bool.and_eq_true _ _).mp h
    rw [sanitizeList, sanitize_of_allFinite hx, sanitizeList_of_allFinite hxs]
theorem sanitizeEntries_of_allFinite : ∀ {kvs : List (String × Json)}, Json.allFiniteEntries kvs = true →
    sanitizeEntries kvs = kvs
  | [], _ => rfl
  | (k, v) :: kvs, h => by
    obtain ⟨hv, hkvs⟩ := (Bool.and_eq_true _ _).mp h
    rw [sanitizeEntries, sanitize_of_allFinite hv, sanitizeEntries_of_allFinite hkvs]
end

theorem child_sanitize (v : Json) (a : Access) :
    child (sanitizeForSseJson v) a = (child v a).map sanitizeForSseJson := by
  cases v with
  | null | bool _ | int _ | str _ => cases a <;> rfl
  | float x => cases x <;> cases a <;> rfl
  | arr xs =>
    cases a with
    | key _ => rfl
    | index i => simp [sanitizeForSseJson, child, sanitizeList_eq]
  | obj kvs =>
    cases a with
    | key k => simp [sanitizeForSseJson, child, sanitizeEntries_eq, Dict.lookup_mapVal]
    | index _ => rfl

/-- Sanitising keeps the shape: what stands at a path is what stood there, sanitised. -/
theorem valueAt_sanitize (path : List Access) (v : Json) :
    valueAt (sanitizeForSseJson v) path = (valueAt v path).map sanitizeForSseJson := by
  induction path generalizing v with
  | nil => rfl
  | cons a path ih =>
    simp only [valueAt, child_sanitize]
    cases child v a with
    | none => rfl
    | some w => exact ih w

/-! ## The stream -/

variable {Queue : Type} [DecidableEq Queue]

inductive Step (Queue : Type)
  /-- `GET /quotes/stream`; without Redis it is a 503. -/
  | connect (q : Queue) (available : Bool)
  /-- `_broadcast_quote` up to its loop; without a loop it returns. -/
  | broadcast (loop : Bool) (quote : Json)
  | post
  | fail
  | deliver
  | take (q : Queue)
  | disconnect (q : Queue)

def hubEvent : Step Queue → Option (Event Queue Json)
  | .connect q available => if available then some (.subscribe q) else none
  | .broadcast loop quote => if loop then some (.publish [quote]) else none
  | .post => some .post
  | .fail => some .abandon
  | .deliver => some .deliver
  | .take q => some (.take q)
  | .disconnect q => some (.unsubscribe q)

def step (put : List Json → Json → List Json) (t : Traced Queue Json) (e : Step Queue) : Traced Queue Json :=
  match hubEvent e with
  | some event => Broadcast.step put t event
  | none => t

/-- What `event_gen` sends for the data it takes; `json.dumps(safe, allow_nan=False)` raises on what is not finite. -/
def frame (data : Json) : Option Json :=
  let safe := sanitizeForSseJson data
  if safe.allFinite then some safe else none

def frames (taken : List Json) : List Json := taken.filterMap frame

/-- What a connection gets. -/
structure Streamed (capacity : Nat) (t : Traced Queue Json) (q : Queue) : Prop where
  order : (t.taken q ++ t.inbox q).Sublist t.published
  bounded : (t.inbox q).length ≤ capacity
  /-- One frame for each quote taken. -/
  frames : frames (t.taken q) = (t.taken q).map sanitizeForSseJson
  finite : ∀ frame ∈ QuoteStream.frames (t.taken q), frame.allFinite = true
  /-- A frame differs from its quote where a number is not finite, and nowhere else. -/
  shape : ∀ data ∈ t.taken q, ∀ path v, valueAt data path = some v →
    valueAt (sanitizeForSseJson data) path = some (sanitizeForSseJson v) ∧
    (v.allFinite = true → sanitizeForSseJson v = v)

theorem frames_eq (taken : List Json) : frames taken = taken.map sanitizeForSseJson := by
  have hframe : frame = fun data => some (sanitizeForSseJson data) :=
    funext fun data => if_pos (allFinite_sanitize data)
  unfold frames
  rw [hframe]
  exact congrFun List.filterMap_eq_map' taken

variable {put : List Json → Json → List Json} {capacity : Nat}

theorem hub_step (hput : DropsOldest capacity put) (hcap : 0 < capacity) {t : Traced Queue Json}
    (hi : Invariant capacity t) (e : Step Queue) : Invariant capacity (step put t e) := by
  unfold step
  cases hubEvent e with
  | none => exact hi
  | some event => exact invariant_step hput hcap hi event

/-- **Main.** In every run each connection gets quotes in the order of their broadcast, none twice, and none is lost in
the encoding: every frame is JSON. -/
theorem streamed (hput : DropsOldest 256 put) (es : List (Step Queue)) (q : Queue) :
    Streamed 256 (Run.run (step put) empty es) q := by
  have hi : Invariant 256 (Run.run (step put) (empty : Traced Queue Json) es) :=
    Run.run_of_invariant (I := Invariant 256) (fun _ e h => hub_step hput (by decide) h e) invariant_empty
  refine ⟨(hi.sound q).taken_sublist, (hi.sound q).bounded, frames_eq _, ?_, ?_⟩
  · intro frame hframe
    rw [frames_eq] at hframe
    obtain ⟨data, -, rfl⟩ := List.mem_map.1 hframe
    exact allFinite_sanitize data
  · intro data _ path v hv
    refine ⟨?_, sanitize_of_allFinite⟩
    rw [valueAt_sanitize, hv]
    rfl

/-- A quote for one client. -/
def quoteSteps (n : Nat) : List (Step Nat) :=
  [.broadcast true (.arr [.int n, .float .nan]), .post, .deliver]

/-- Client 7 does not read 257 quotes; then client 8 comes, there is one more for both, and each takes one. -/
def slowClient : List (Step Nat) :=
  .connect 7 true :: (List.range 257).flatMap quoteSteps ++
    [.connect 8 true, .broadcast true (.arr [.int 257, .float .nan]), .post, .post, .deliver, .deliver, .take 7,
      .take 8]

def afterSlowClient : Traced Nat Json := Run.run (step (dropOldest 256)) empty slowClient

theorem afterSlowClient_queues : (afterSlowClient.arrived 7).length = 258 ∧ (afterSlowClient.inbox 7).length = 255 ∧
    (afterSlowClient.taken 7).length = 1 ∧ (afterSlowClient.taken 8).length = 1 := by
  decide +kernel

theorem streamed_slowClient :
    (afterSlowClient.arrived 7).length = 258 ∧ (afterSlowClient.inbox 7).length = 255 ∧
    Streamed 256 afterSlowClient 7 ∧ Streamed 256 afterSlowClient 8 :=
  ⟨afterSlowClient_queues.1, afterSlowClient_queues.2.1, streamed (dropOldest_dropsOldest 256) slowClient 7,
    streamed (dropOldest_dropsOldest 256) slowClient 8⟩

end BifrostApi.Market.QuoteStream
