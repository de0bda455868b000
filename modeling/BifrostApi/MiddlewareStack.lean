import BifrostApi.Common.QueryVocab
import BifrostApi.Lib.Gate
import BifrostApi.ReplacedRoutes
import BifrostApi.WriteGuard

/-!
# The middleware of an app (`market/app.py`, `monitor/app.py`, `research/app.py`, `account/app.py`)

Every app is assembled alike: `install_write_guard`, then `install_deprecations`, which adds the marker and then the
guard against retired query names. What is added last is reached first, so a request goes through the query names,
the marker and the write guard before a route sees it (`stack`).

| here | there |
| --- | --- |
| `compile`, `deprecatedMatchers` | `_compile` (deprecations.py:63), `_MATCHERS` (:73) |
| `deprecatedRoute` | `deprecated_route` (:112) |
| `retiredQueryNamesCall` | `RetiredQueryNames.__call__` (query_vocab.py:198) |
| `deprecationMarkerCall` | `DeprecationMarker.__call__` (deprecations.py:140) |
| `writeGuardCall` | `WriteGuard.__call__` (write_guard.py:75) |
| `stack` | `install_write_guard(app, …)`, `install_deprecations(app)` (market/app.py:52-54) |

An app is a step function of its own state; `respond` is the framework's `JSONResponse` as the messages it sends. The
layers further out, CORS and the private-network header, belong to the framework and to Ops.
-/

namespace BifrostApi.Stack

open Py GreedyPattern StableSort Deprecations

/-! ## Deprecated routes -/

/-- `\{[^}]+\}` behind its `{`: the number of characters matched. -/
def holeAt? (cs : List Char) : Option Nat :=
  let inside := cs.takeWhile (· ≠ '}')
  if inside ≠ [] ∧ '}' ∈ cs then some (inside.length + 1) else none

/-- `skip` counts the characters of a parameter that was read. -/
def piecesFrom (skip : Nat) : List Char → List (Piece Char)
  | [] => []
  | c :: cs => match skip with
    | skip + 1 => piecesFrom skip cs
    | 0 => if c = '{' then match holeAt? cs with
        | some n => .group :: piecesFrom n cs
        | none => .lit c :: piecesFrom 0 cs
      else .lit c :: piecesFrom 0 cs

def compile (template : String) : List (Piece Char) := piecesFrom 0 template.toList

structure DeprecatedMatcher where
  method : String
  template : String
  pattern : List (Piece Char)
  deriving DecidableEq, Repr

/-- The routes are a set, so no two matchers have one method and template. -/
def deprecatedMatchers (routes : List (String × String)) : List DeprecatedMatcher :=
  sortAsc (fun m : DeprecatedMatcher => toLex (m.method, m.template))
    (routes.map fun r => ⟨r.1, r.2, compile r.2⟩)

def deprecatedRoute (matchers : List DeprecatedMatcher) (method path : String) : Option String :=
  (matchers.find? fun m => m.method = upper method && (matchPath m.pattern path).isSome).map (·.template)

/-! ## The layers -/

/-- An ASGI scope; a body arrives later, through `receive`. -/
structure Request where
  type : String
  method : String
  path : String
  queryString : Option (List UInt8)
  headers : Option (List Header)
  deriving DecidableEq, Repr

/-- What the guard against retired names reads. -/
def Request.names (r : Request) : Common.Scope := ⟨r.type, r.method, r.path, r.queryString⟩

/-- What the marker reads. -/
def Request.marker (r : Request) : Deprecations.Scope := ⟨r.type, r.method, r.path, r.headers⟩

/-- What the write guard reads, decoded as `Request(scope)` decodes it. -/
def Request.guarded (r : Request) : BifrostApi.Scope :=
  ⟨r.type, r.method, r.path, String.ofList (latin1 (r.queryString.getD [])),
    (r.headers.getD []).map fun kv => (String.ofList (latin1 kv.1), String.ofList (latin1 kv.2))⟩

/-- The messages sent, and whether an exception left the app behind them. -/
structure Reply (ρ : Type) where
  sent : List (Message ρ)
  raised : Bool

/-- An app and all the state it can change. -/
abbrev App (σ ρ : Type) := σ → Request → σ × Reply ρ

/-- Another answer to the same request: the state is the inner app's. -/
def Reply.withSent {ρ : Type} (reply : Reply ρ) (sent : List (Message ρ)) : Reply ρ := { reply with sent := sent }

section Layers

variable {σ ρ : Type} (respond : Nat → Json → List (Message ρ))

def retiredQueryNamesCall (app : App σ ρ) : App σ ρ := fun s r =>
  match Common.call r.names with
  | .inner _ => app s r
  | .response status body => (s, ⟨respond status body, false⟩)

/-- `send_marked` of a deprecated route. -/
def sendDeprecated (message : Message ρ) : Message ρ :=
  if message.type = "http.response.start" then
    { message with headers := some (withoutDeprecation message ++ [(bytes "deprecation", bytes "true")]) }
  else message

def deprecationMarkerCall (deprecated : List DeprecatedMatcher) (replaced : List Matcher) (app : App σ ρ) :
    App σ ρ := fun s r =>
  if r.type ≠ "http" then app s r
  else match deprecatedRoute deprecated r.method r.path with
    | some _ => ((app s r).1, (app s r).2.withSent ((app s r).2.sent.map sendDeprecated))
    | none => match Deprecations.call replaced r.marker (app s r).2.sent with
      -- the link is written before the inner app is called
      | .error _ => (s, ⟨[], true⟩)
      | .ok sent => ((app s r).1, (app s r).2.withSent sent)

/-- What the guard's first action comes to. -/
def perform (app : App σ ρ) (s : σ) (r : Request) : List Action → σ × Reply ρ
  | [] => (s, ⟨[], false⟩)
  | .app _ :: _ => app s r
  | .respond status body :: _ => (s, ⟨respond status body, false⟩)

/-- The guard keeps its own state beside the app's; `config` is what `AuthConfig.from_config` makes of the app's
configuration. -/
def writeGuardCall (hash : String → String) (config : σ → Ops.AuthConfig) (app : App σ ρ) :
    App (WriteGuard × σ) ρ := fun t r =>
  let call := WriteGuard.call hash (config t.2) t.1 r.guarded
  let performed := perform respond app t.2 r call.2
  ((call.1, performed.1), performed.2)

def stack (hash : String → String) (config : σ → Ops.AuthConfig) (deprecated : List DeprecatedMatcher)
    (replaced : List Matcher) (router : App σ ρ) : App (WriteGuard × σ) ρ :=
  retiredQueryNamesCall respond
    (deprecationMarkerCall deprecated replaced (writeGuardCall respond hash config router))

end Layers

/-! ## What a request is due -/

/-- It sends a retired name of its route. -/
def Retired (r : Request) : Prop :=
  r.type = "http" ∧ ∃ route retired, (route, retired) ∈ Common.retiredQueryNames ∧
    Common.IsRoute r.names route ∧ ∃ p ∈ Common.queryPairs r.names, Dict.has retired p.1 = true

/-- The text of the link to the successor, where the request has one. -/
def replacedLink (replaced : List Matcher) (r : Request) : Except Raised (Option (List UInt8)) := do
  match ← replacedRoute replaced r.method r.path with
  | none => return none
  | some hit => some <$> encodeLatin1 (linkText r.marker hit.link)

/-- What the two lists make of a request: nothing, or the headers behind its `Deprecation`; an error where the link
cannot be written. -/
def marking (deprecated : List DeprecatedMatcher) (replaced : List Matcher) (r : Request) :
    Except Raised (Option (List Header)) :=
  if r.type ≠ "http" then .ok none
  else match deprecatedRoute deprecated r.method r.path with
    | some _ => .ok (some [])
    | none => (replacedLink replaced r).map (Option.map fun link => [(bytes "link", link)])

variable {σ ρ : Type}

/-- A response start says `Deprecation: true` once, with `added` behind the other headers; every other message is left
alone. -/
structure Flagged (added : List Header) (m m' : Message ρ) : Prop where
  type : m'.type = m.type
  rest : m'.rest = m.rest
  other : m.type ≠ "http.response.start" → m'.headers = m.headers
  start : m.type = "http.response.start" → ∃ headers, m'.headers = some headers ∧
    headers.filter isDeprecation = [(bytes "deprecation", bytes "true")] ∧
    headers.filter (!isDeprecation ·) = (m.headers.getD []).filter (!isDeprecation ·) ++ added

/-- How an answer goes out. -/
def GoesOut (listed : Option (List Header)) (sent sent' : List (Message ρ)) : Prop :=
  match listed with
  | none => sent' = sent
  | some added => List.Forall₂ (Flagged added) sent sent'

section Policy

variable (respond : Nat → Json → List (Message ρ)) (hash : String → String) (deprecated : List DeprecatedMatcher)
  (replaced : List Matcher)

/-- What the three layers promise together, under the guard's configuration. -/
def policy (cfg : Ops.AuthConfig) : Gate.Policy Request (Reply ρ) (Reply ρ) where
  admits r := ¬ Retired r ∧ (∃ listed, marking deprecated replaced r = .ok listed) ∧
    (r.type = "http" → Forwarded hash cfg r.guarded)
  passes r reply reply' := ∃ listed sent, marking deprecated replaced r = .ok listed ∧
    GoesOut listed reply.sent sent ∧ reply' = reply.withSent sent
  refuses r reply' :=
    (Retired r ∧ ∃ errors, reply' = ⟨respond 422 errors, false⟩) ∨
    (¬ Retired r ∧ (∃ e, marking deprecated replaced r = .error e) ∧ reply' = ⟨[], true⟩) ∨
    (¬ Retired r ∧ r.type = "http" ∧ ¬ Forwarded hash cfg r.guarded ∧ ∃ listed content sent,
      marking deprecated replaced r = .ok listed ∧ GoesOut listed (respond 403 content) sent ∧ reply' = ⟨sent, false⟩)

/-- The guard asks for the caller's role. -/
def Consults (r : Request) : Prop :=
  ¬ Retired r ∧ (∃ listed, marking deprecated replaced r = .ok listed) ∧ r.type = "http" ∧
    requiredRole r.method r.path ≠ none

end Policy

/-! ## Templates without names -/

theorem piecesFrom_text {t : List Char} (ht : '{' ∉ t) (rest : List Char) :
    piecesFrom 0 (t ++ rest) = t.map .lit ++ piecesFrom 0 rest := by
  induction t with
  | nil => rfl
  | cons c t ih =>
    have hc : c ≠ '{' := fun h => ht (h ▸ List.mem_cons_self)
    rw [List.cons_append, piecesFrom, if_neg hc, ih fun h => ht (List.mem_cons_of_mem _ h), List.map_cons,
      List.cons_append]

theorem piecesFrom_skip (read rest : List Char) : piecesFrom read.length (read ++ rest) = piecesFrom 0 rest := by
  induction read with
  | nil => rfl
  | cons c read ih => rw [List.length_cons, List.cons_append, piecesFrom, ih]

theorem holeAt?_eq {inside : List Char} (hne : inside ≠ []) (hbrace : '}' ∉ inside) (rest : List Char) :
    holeAt? (inside ++ '}' :: rest) = some (inside ++ ['}']).length := by
  have hstop : (inside ++ '}' :: rest).takeWhile (· ≠ '}') = inside :=
    takeWhile_stop (ne_of_notMem hbrace) (by decide) rest
  have hmem : '}' ∈ inside ++ '}' :: rest := List.mem_append_right _ List.mem_cons_self
  rw [List.length_append]
  simp only [holeAt?, hstop]
  exact if_pos ⟨hne, hmem⟩

/-- A parameter with or without a converter is one group. -/
theorem piecesFrom_hole {inside : List Char} (hne : inside ≠ []) (hbrace : '}' ∉ inside) (rest : List Char) :
    piecesFrom 0 ('{' :: inside ++ ['}'] ++ rest) = .group :: piecesFrom 0 rest := by
  have hskip := piecesFrom_skip (inside ++ ['}']) rest
  rw [List.append_assoc, List.singleton_append] at hskip ⊢
  rw [List.cons_append, piecesFrom, if_pos rfl, holeAt?_eq hne hbrace, ← hskip]

variable {isidentifier : List Char → Bool}

theorem piecesFrom_segment (seg : TemplateSegment isidentifier) (rest : List Char) :
    piecesFrom 0 (seg.text ++ rest) = seg.parts.map Part.piece ++ piecesFrom 0 rest := by
  cases seg with
  | literal l =>
    rw [TemplateSegment.parts, List.map_map]
    exact piecesFrom_text l.noBrace rest
  | param p =>
    cases hconv : p.convertor with
    | none =>
      have htext : (TemplateSegment.param p).text = '{' :: p.name ++ ['}'] := by
        simp [TemplateSegment.text, hconv]
      rw [htext]
      exact piecesFrom_hole p.nonempty p.noBrace rest
    | some conv =>
      have htext : (TemplateSegment.param p).text = '{' :: (p.name ++ ':' :: conv) ++ ['}'] := by
        simp [TemplateSegment.text, hconv]
      have hbrace : '}' ∉ p.name ++ ':' :: conv := by
        have hconvBrace := p.convertorNoBrace conv hconv
        simp [p.noBrace, hconvBrace]
      rw [htext]
      exact piecesFrom_hole (List.append_ne_nil_of_left_ne_nil p.nonempty _) hbrace rest

/-- `_compile` and `_compile_named` read a template alike. -/
theorem compile_templateText (e : Entry isidentifier) : compile e.templateText = pattern '/' (shapes e.template) := by
  have hpieces : ∀ segs : List (TemplateSegment isidentifier),
      piecesFrom 0 (templateChars segs) = (segs.flatMap fun s => .char '/' :: s.parts).map Part.piece := by
    intro segs
    unfold templateChars
    induction segs with
    | nil => rfl
    | cons s segs ih =>
      have hslash : piecesFrom 0 ('/' :: (s.text ++ segs.flatMap fun s => '/' :: s.text)) =
          .lit '/' :: piecesFrom 0 (s.text ++ segs.flatMap fun s => '/' :: s.text) :=
        piecesFrom_text (by decide : '{' ∉ ['/']) _
      rw [List.flatMap_cons, List.flatMap_cons, List.cons_append, hslash, piecesFrom_segment, ih, List.map_append,
        List.map_cons]
      rfl
  rw [compile, Entry.templateText, String.toList_ofList, hpieces, pieces_parts]

theorem deprecatedRoute_isSome (t : Table isidentifier) (method path : String) :
    (deprecatedRoute (deprecatedMatchers (t.entries.map Entry.key)) method path).isSome = true ↔
      ∃ e ∈ t.entries, e.Hits method path := by
  rw [deprecatedRoute, Option.isSome_map, List.find?_isSome]
  constructor
  · rintro ⟨m, hm, hhit⟩
    obtain ⟨r, hr, rfl⟩ := List.mem_map.1 (mem_sortAsc.1 hm)
    obtain ⟨e, he, rfl⟩ := List.mem_map.1 hr
    rw [Bool.and_eq_true, decide_eq_true_eq] at hhit
    refine ⟨e, he, ?_⟩
    rw [Entry.Hits, e.groups?_of_method hhit.1, ← compile_templateText]
    exact hhit.2
  · rintro ⟨e, he, hhits⟩
    refine ⟨_, mem_sortAsc.2 (List.mem_map_of_mem (List.mem_map_of_mem he)), ?_⟩
    rw [Bool.and_eq_true, decide_eq_true_eq]
    have hm := e.method_of_hits hhits
    rw [Entry.Hits, e.groups?_of_method hm, ← compile_templateText] at hhits
    exact ⟨hm, hhits⟩

/-- **Main.** Whichever of the two lists a table of routes is put on, the same requests are marked. -/
theorem lists_agree (t : Table isidentifier) (method path : String) :
    ∃ matchers, replacedMatchers isidentifier t.routes = .ok matchers ∧
      ((deprecatedRoute (deprecatedMatchers (t.entries.map Entry.key)) method path).isSome = true ↔
        ∃ hit, replacedRoute matchers method path = .ok (some hit)) := by
  refine ⟨_, replacedMatchers_routes t, ?_⟩
  rw [deprecatedRoute_isSome]
  rcases replacedRoute_cases t method path (replacedMatchers_routes t) with
    ⟨hnone, hmiss⟩ | ⟨e, he, groups, hgroups, -, hsome⟩
  · rw [hnone]
    constructor
    · rintro ⟨e, he, hhits⟩
      exact (hmiss e he hhits).elim
    · rintro ⟨hit, hhit⟩
      cases hhit
  · refine ⟨fun _ => ⟨_, hsome⟩, fun _ => ⟨e, he, ?_⟩⟩
    rw [Entry.Hits, hgroups]
    rfl

/-! ## The query names -/

theorem retired_iff {r : Request} (hhttp : r.type = "http") : Retired r ↔
    ∃ retired, Common.retiredFor r.method r.path = some retired ∧
      Common.retiredSent (latin1 (r.queryString.getD [])) retired ≠ [] := by
  constructor
  · rintro ⟨-, route, retired, hmem, hroute, p, hp, hhas⟩
    refine ⟨retired, (@Common.retiredFor_eq_some r.names retired).2 ⟨route, hmem, hroute⟩, fun hnil => ?_⟩
    have hnone := Common.retiredSent_eq_nil.1 hnil p hp
    rw [Dict.has, hnone] at hhas
    cases hhas
  · rintro ⟨retired, hfor, hne⟩
    obtain ⟨route, hmem, hroute⟩ := (@Common.retiredFor_eq_some r.names retired).1 hfor
    refine ⟨hhttp, route, retired, hmem, hroute, ?_⟩
    by_contra hnot
    refine hne (Common.retiredSent_eq_nil.2 fun p hp => ?_)
    by_contra hsome
    exact hnot ⟨p, hp, Option.isSome_iff_ne_none.2 hsome⟩

theorem call_of_not_retired {r : Request} (h : ¬ Retired r) : Common.call r.names = .inner r.names := by
  by_cases hhttp : r.type = "http"
  · cases hfor : Common.retiredFor r.method r.path with
    | none => exact Common.call_of_no_route hfor
    | some retired =>
      have hnil : Common.retiredSent (latin1 (r.queryString.getD [])) retired = [] := by
        by_contra hne
        exact h ((retired_iff hhttp).2 ⟨retired, hfor, hne⟩)
      have hcall := @Common.call_of_route r.names hhttp retired hfor
      rw [hcall]
      exact if_pos hnil
  · unfold Common.call
    split
    · rfl
    · exact if_neg fun hand => hhttp hand.1

theorem call_of_retired {r : Request} (h : Retired r) :
    ∃ errors, Common.call r.names = .response 422 errors := by
  obtain ⟨retired, hfor, hne⟩ := (retired_iff h.1).1 h
  have hcall := @Common.call_of_route r.names h.1 retired hfor
  rw [hcall]
  exact ⟨_, if_neg hne⟩

/-! ## The marker -/

/-- Headers without a `Deprecation`, one put behind them, and `added` after it. -/
theorem flagged_headers (m : Message ρ) {added : List Header} (hadded : added.filter isDeprecation = []) :
    Flagged added m { m with
      headers := if m.type = "http.response.start" then
        some (withoutDeprecation m ++ [(bytes "deprecation", bytes "true")] ++ added) else m.headers } := by
  refine ⟨rfl, rfl, fun hother => if_neg hother, fun hstart => ⟨_, if_pos hstart, ?_, ?_⟩⟩
  · have hnone : (withoutDeprecation m).filter isDeprecation = [] := by
      rw [withoutDeprecation, List.filter_filter]
      exact List.filter_eq_nil_iff.2 fun kv _ => by simp
    rw [List.filter_append, List.filter_append, hnone, hadded, List.nil_append, List.append_nil]
    rfl
  · have hadded' : added.filter (!isDeprecation ·) = added := by
      refine List.filter_eq_self.2 fun kv hkv => ?_
      have hnot := List.filter_eq_nil_iff.1 hadded kv hkv
      simpa using hnot
    rw [List.filter_append, List.filter_append, withoutDeprecation, List.filter_filter, hadded']
    simp only [Bool.and_self]
    rw [show [(bytes "deprecation", bytes "true")].filter (!isDeprecation ·) = [] from rfl, List.append_nil]

theorem flagged_sendDeprecated (m : Message ρ) : Flagged [] m (sendDeprecated m) := by
  have h := flagged_headers m (rfl : ([] : List Header).filter isDeprecation = [])
  unfold sendDeprecated
  split
  next hstart => simpa only [if_pos hstart, List.append_nil] using h
  next hother => simpa only [if_neg hother] using h

theorem flagged_sendMarked (link : List UInt8) (m : Message ρ) :
    Flagged [(bytes "link", link)] m (sendMarked link m) := by
  have h := flagged_headers m (rfl : ([(bytes "link", link)] : List Header).filter isDeprecation = [])
  unfold sendMarked
  split
  next hstart => simpa only [if_pos hstart, List.append_assoc, List.cons_append, List.nil_append] using h
  next hother => simpa only [if_neg hother] using h

theorem goesOut_map {added : List Header} {f : Message ρ → Message ρ} (h : ∀ m, Flagged added m (f m))
    (sent : List (Message ρ)) : GoesOut (some added) sent (sent.map f) :=
  List.forall₂_map_right_iff.2 (List.forall₂_same.2 fun m _ => h m)

/-- The answer to a replaced route, from its link. -/
theorem call_eq (replaced : List Matcher) {r : Request} (hhttp : r.type = "http") (sent : List (Message ρ)) :
    Deprecations.call replaced r.marker sent = (replacedLink replaced r).map fun
      | none => sent
      | some link => sent.map (sendMarked link) := by
  have htype : ¬ r.marker.type ≠ "http" := fun h => h hhttp
  rw [Deprecations.call, if_neg htype]
  change (replacedRoute replaced r.method r.path >>= _) = ((replacedRoute replaced r.method r.path >>= _).map _)
  cases replacedRoute replaced r.method r.path with
  | error e => rfl
  | ok found => cases found with
    | none => rfl
    | some hit =>
      change Deprecations.replaced r.marker hit sent = (some <$> encodeLatin1 (linkText r.marker hit.link)).map _
      rw [Deprecations.replaced]
      cases encodeLatin1 (linkText r.marker hit.link) with
      | error e => rfl
      | ok link => rfl

section Marker

variable {deprecated : List DeprecatedMatcher} {replaced : List Matcher} (app : App σ ρ) (s : σ) {r : Request}

theorem deprecationMarkerCall_of_error {e : Raised} (h : marking deprecated replaced r = .error e) :
    deprecationMarkerCall deprecated replaced app s r = (s, ⟨[], true⟩) := by
  unfold marking at h
  unfold deprecationMarkerCall
  by_cases hhttp : r.type = "http"
  · rw [if_neg (not_not.2 hhttp)] at h ⊢
    cases hroute : deprecatedRoute deprecated r.method r.path with
    | some template =>
      rw [hroute] at h
      cases h
    | none =>
      rw [hroute] at h
      simp only [call_eq replaced hhttp]
      cases hlink : replacedLink replaced r with
      | error e' => rfl
      | ok link =>
        simp only [hlink] at h
        cases h
  · rw [if_pos hhttp] at h
    cases h

theorem deprecationMarkerCall_of_ok {listed : Option (List Header)} (h : marking deprecated replaced r = .ok listed) :
    ∃ sent, GoesOut listed (app s r).2.sent sent ∧
      deprecationMarkerCall deprecated replaced app s r = ((app s r).1, (app s r).2.withSent sent) := by
  unfold marking at h
  unfold deprecationMarkerCall
  by_cases hhttp : r.type = "http"
  · rw [if_neg (not_not.2 hhttp)] at h ⊢
    cases hroute : deprecatedRoute deprecated r.method r.path with
    | some template =>
      simp only [hroute] at h
      obtain rfl := Except.ok.inj h
      exact ⟨_, goesOut_map flagged_sendDeprecated _, rfl⟩
    | none =>
      simp only [hroute] at h
      simp only [call_eq replaced hhttp]
      cases hlink : replacedLink replaced r with
      | error e =>
        rw [hlink] at h
        cases h
      | ok link =>
        rw [hlink] at h
        obtain rfl := Except.ok.inj h
        cases link with
        | none => exact ⟨_, rfl, rfl⟩
        | some link => exact ⟨_, goesOut_map (flagged_sendMarked link) _, rfl⟩
  · rw [if_pos hhttp] at h ⊢
    obtain rfl := Except.ok.inj h
    exact ⟨_, rfl, rfl⟩

end Marker

/-! ## The write guard -/

section Guard

variable (respond : Nat → Json → List (Message ρ)) {hash : String → String} {config : σ → Ops.AuthConfig}
  (router : App σ ρ) {guard : WriteGuard} {s : σ} {r : Request}

theorem writeGuardCall_of_forwarded
    (h : r.type = "http" → Forwarded hash (guard.opsAuth (config s)).2 r.guarded) :
    ∃ guard', writeGuardCall respond hash config router (guard, s) r = ((guard', (router s r).1), (router s r).2) := by
  have hact : (guard.call hash (config s) r.guarded).2 = [.app r.guarded] := by
    by_cases hhttp : r.type = "http"
    · have hguarded : r.guarded.type = "http" := hhttp
      exact (call_forwards_iff hash (config s) guard hguarded).2 (h hhttp)
    · have hguarded : r.guarded.type ≠ "http" := hhttp
      rw [WriteGuard.call, if_pos hguarded]
  refine ⟨(guard.call hash (config s) r.guarded).1, ?_⟩
  simp only [writeGuardCall, hact, perform]

theorem writeGuardCall_of_not_forwarded (hhttp : r.type = "http")
    (h : ¬ Forwarded hash (guard.opsAuth (config s)).2 r.guarded) :
    ∃ guard' content, writeGuardCall respond hash config router (guard, s) r =
      ((guard', s), ⟨respond 403 content, false⟩) := by
  have hguarded : r.guarded.type = "http" := hhttp
  rcases call_actions hash (config s) guard hguarded with ⟨hforwarded, -⟩ | ⟨-, content, hact⟩
  · exact (h hforwarded).elim
  · refine ⟨(guard.call hash (config s) r.guarded).1, content, ?_⟩
    simp only [writeGuardCall, hact, perform]

/-- The guard builds its table when it first asks for a role. -/
theorem writeGuardCall_guard : (writeGuardCall respond hash config router (guard, s) r).1.1 =
    if r.type = "http" ∧ requiredRole r.method r.path ≠ none then (guard.opsAuth (config s)).1 else guard := by
  change (guard.call hash (config s) r.guarded).1 = _
  by_cases hhttp : r.type = "http"
  · have hguarded : ¬ r.guarded.type ≠ "http" := not_not.2 hhttp
    have hsame : requiredRole r.guarded.method r.guarded.path = requiredRole r.method r.path := rfl
    rw [WriteGuard.call, if_neg hguarded, hsame]
    cases requiredRole r.method r.path with
    | none => simp
    | some role =>
      rw [if_pos ⟨hhttp, Option.some_ne_none role⟩]
      dsimp only
      split <;> rfl
  · have hguarded : r.guarded.type ≠ "http" := hhttp
    rw [WriteGuard.call, if_pos hguarded, if_neg fun hand => hhttp hand.1]

theorem auth_opsAuth (cfg : Ops.AuthConfig) : (guard.opsAuth cfg).1.auth = some (guard.opsAuth cfg).2 := by
  unfold WriteGuard.opsAuth
  cases hauth : guard.auth with
  | none => rfl
  | some cfg' => exact hauth

theorem opsAuth_of_auth {cfg : Ops.AuthConfig} (h : guard.auth = some cfg) (cfg' : Ops.AuthConfig) :
    guard.opsAuth cfg' = (guard, cfg) := by
  rw [WriteGuard.opsAuth, h]

/-- Where no role is asked for, the configuration does not matter. -/
theorem forwarded_of_requiredRole (h : requiredRole r.method r.path = none) (cfg : Ops.AuthConfig) :
    Forwarded hash cfg r.guarded := by
  rw [requiredRole_eq] at h
  split at h
  next hopen => exact hopen.imp_right Or.inl
  · cases h

end Guard

/-! ## The layers together -/

section Stack

variable (respond : Nat → Json → List (Message ρ)) (hash : String → String) (config : σ → Ops.AuthConfig)
  (deprecated : List DeprecatedMatcher) (replaced : List Matcher) (router : App σ ρ)

theorem stack_of_retired (t : WriteGuard × σ) {r : Request} (h : Retired r) :
    ∃ errors, stack respond hash config deprecated replaced router t r = (t, ⟨respond 422 errors, false⟩) := by
  obtain ⟨errors, hcall⟩ := call_of_retired h
  refine ⟨errors, ?_⟩
  simp only [stack, retiredQueryNamesCall, hcall]

theorem stack_of_not_retired (t : WriteGuard × σ) {r : Request} (h : ¬ Retired r) :
    stack respond hash config deprecated replaced router t r =
      deprecationMarkerCall deprecated replaced (writeGuardCall respond hash config router) t r := by
  simp only [stack, retiredQueryNamesCall, call_of_not_retired h]

/-- What one request does. -/
theorem keeps_stack (guard : WriteGuard) (s : σ) (r : Request) :
    Gate.Keeps (policy respond hash deprecated replaced (guard.opsAuth (config s)).2) router
      (stack respond hash config deprecated replaced router) Prod.snd (guard, s) r := by
  constructor
  · rintro ⟨hretired, ⟨listed, hlisted⟩, hforwarded⟩
    obtain ⟨guard', hguard⟩ := writeGuardCall_of_forwarded respond router hforwarded
    obtain ⟨sent, hgoes, hmarker⟩ :=
      deprecationMarkerCall_of_ok (writeGuardCall respond hash config router) (guard, s) hlisted
    rw [hguard] at hgoes hmarker
    rw [stack_of_not_retired _ _ _ _ _ _ _ hretired, hmarker]
    exact ⟨rfl, listed, sent, hlisted, hgoes, rfl⟩
  · intro hnot
    by_cases hretired : Retired r
    · obtain ⟨errors, hstack⟩ := stack_of_retired respond hash config deprecated replaced router (guard, s) hretired
      rw [hstack]
      exact ⟨rfl, Or.inl ⟨hretired, errors, rfl⟩⟩
    · rw [stack_of_not_retired _ _ _ _ _ _ _ hretired]
      cases hlisted : marking deprecated replaced r with
      | error e =>
        rw [deprecationMarkerCall_of_error _ _ hlisted]
        exact ⟨rfl, Or.inr (Or.inl ⟨hretired, ⟨e, hlisted⟩, rfl⟩)⟩
      | ok listed =>
        obtain ⟨hhttp, hforwarded⟩ := Classical.not_imp.1 fun hpass => hnot ⟨hretired, ⟨listed, hlisted⟩, hpass⟩
        obtain ⟨guard', content, hguard⟩ := writeGuardCall_of_not_forwarded respond router hhttp hforwarded
        obtain ⟨sent, hgoes, hmarker⟩ :=
          deprecationMarkerCall_of_ok (writeGuardCall respond hash config router) (guard, s) hlisted
        rw [hguard] at hgoes hmarker
        rw [hmarker]
        exact ⟨rfl, Or.inr (Or.inr ⟨hretired, hhttp, hforwarded, listed, content, sent, hlisted, hgoes, rfl⟩)⟩

/-- The guard's state after a request. -/
theorem stack_guard (guard : WriteGuard) (s : σ) (r : Request) :
    (Consults deprecated replaced r → (stack respond hash config deprecated replaced router (guard, s) r).1.1 =
      (guard.opsAuth (config s)).1) ∧
    (¬ Consults deprecated replaced r →
      (stack respond hash config deprecated replaced router (guard, s) r).1.1 = guard) := by
  by_cases hretired : Retired r
  · obtain ⟨errors, hstack⟩ := stack_of_retired respond hash config deprecated replaced router (guard, s) hretired
    exact ⟨fun h => (h.1 hretired).elim, fun _ => by rw [hstack]⟩
  · rw [stack_of_not_retired _ _ _ _ _ _ _ hretired]
    cases hlisted : marking deprecated replaced r with
    | error e =>
      rw [deprecationMarkerCall_of_error _ _ hlisted]
      refine ⟨fun h => ?_, fun _ => rfl⟩
      obtain ⟨listed, hok⟩ := h.2.1
      rw [hlisted] at hok
      cases hok
    | ok listed =>
      obtain ⟨sent, -, hmarker⟩ :=
        deprecationMarkerCall_of_ok (writeGuardCall respond hash config router) (guard, s) hlisted
      rw [hmarker]
      change (_ → (writeGuardCall respond hash config router (guard, s) r).1.1 = _) ∧
        (_ → (writeGuardCall respond hash config router (guard, s) r).1.1 = _)
      rw [writeGuardCall_guard]
      constructor
      · intro h
        exact if_pos h.2.2
      · intro h
        exact if_neg fun hasks => h ⟨hretired, ⟨listed, hlisted⟩, hasks⟩

variable {respond hash deprecated replaced} in
/-- A request for which the guard asks no role fares alike under every configuration. -/
theorem keeps_congr {t : WriteGuard × σ} {outer : App (WriteGuard × σ) ρ} {r : Request}
    (hasks : ¬ Consults deprecated replaced r) {cfg cfg' : Ops.AuthConfig}
    (h : Gate.Keeps (policy respond hash deprecated replaced cfg) router outer Prod.snd t r) :
    Gate.Keeps (policy respond hash deprecated replaced cfg') router outer Prod.snd t r := by
  have hforwarded : ¬ Retired r → (∃ listed, marking deprecated replaced r = .ok listed) → r.type = "http" →
      ∀ cfg, Forwarded hash cfg r.guarded := by
    intro hretired hlisted hhttp
    refine forwarded_of_requiredRole ?_
    by_contra hrole
    exact hasks ⟨hretired, hlisted, hhttp, hrole⟩
  constructor
  · rintro ⟨hretired, hlisted, -⟩
    exact h.passed ⟨hretired, hlisted, fun hhttp => hforwarded hretired hlisted hhttp cfg⟩
  · intro hnot
    have hnot' : ¬ (policy respond hash deprecated replaced cfg).admits r := fun hadmits =>
      hnot ⟨hadmits.1, hadmits.2.1, fun hhttp => hforwarded hadmits.1 hadmits.2.1 hhttp cfg'⟩
    obtain ⟨hview, hrefuses⟩ := h.refused hnot'
    refine ⟨hview, hrefuses.imp_right (Or.imp_right ?_)⟩
    rintro ⟨hretired, hhttp, hcfg, listed, content, sent, hlisted, hrest⟩
    exact (hcfg (hforwarded hretired ⟨listed, hlisted⟩ hhttp cfg)).elim

/-- A guard that has its table keeps the promise with it. -/
theorem faithful_of_auth {cfg : Ops.AuthConfig} {requests : List Request} {t : WriteGuard × σ}
    (h : t.1.auth = some cfg) : Gate.Faithful (policy respond hash deprecated replaced cfg) router
      (stack respond hash config deprecated replaced router) Prod.snd t requests := by
  refine Gate.faithful_of_invariant (I := fun t => t.1.auth = some cfg) ?_ ?_ h
  · rintro ⟨guard, s⟩ r hauth
    by_cases hasks : Consults deprecated replaced r
    · rw [(stack_guard respond hash config deprecated replaced router guard s r).1 hasks, opsAuth_of_auth hauth]
      exact hauth
    · rw [(stack_guard respond hash config deprecated replaced router guard s r).2 hasks]
      exact hauth
  · rintro ⟨guard, s⟩ r hauth
    have hkeeps := keeps_stack respond hash config deprecated replaced router guard s r
    rw [opsAuth_of_auth hauth] at hkeeps
    exact hkeeps

/-- **Main.** Over any requests, the routes behind the three layers go through the admitted requests in their order
and nothing else: one table of roles, read when the first request for which the guard needs a role reaches it, decides
for all of them, and every answer, also a refusal, goes out as the lists say. -/
theorem stack_faithful (guard : WriteGuard) (s : σ) (requests : List Request) :
    ∃ before after, requests = before ++ after ∧ (∀ r ∈ before, ¬ Consults deprecated replaced r) ∧
      (∀ r ∈ after.head?, Consults deprecated replaced r) ∧
      Gate.Faithful
        (policy respond hash deprecated replaced (guard.opsAuth (config
          (Gate.serve (stack respond hash config deprecated replaced router) (guard, s) before).1.2)).2) router
        (stack respond hash config deprecated replaced router) Prod.snd (guard, s) requests := by
  induction requests generalizing s with
  | nil => exact ⟨[], [], rfl, by simp, by simp, .nil _⟩
  | cons r requests ih =>
    have hkeeps := keeps_stack respond hash config deprecated replaced router guard s r
    have hguard := stack_guard respond hash config deprecated replaced router guard s r
    by_cases hasks : Consults deprecated replaced r
    · refine ⟨[], r :: requests, rfl, by simp, ?_, .cons hkeeps (faithful_of_auth _ _ _ _ _ _ ?_)⟩
      · intro r' hr'
        rwa [← Option.some.inj hr']
      · rw [hguard.1 hasks]
        exact auth_opsAuth _
    · have hstate : (stack respond hash config deprecated replaced router (guard, s) r).1 =
          (guard, (stack respond hash config deprecated replaced router (guard, s) r).1.2) :=
        Prod.ext (hguard.2 hasks) rfl
      obtain ⟨before, after, hsplit, hnone, hfirst, hfaithful⟩ :=
        ih (stack respond hash config deprecated replaced router (guard, s) r).1.2
      rw [← hstate] at hfaithful
      exact ⟨r :: before, after, congrArg (r :: ·) hsplit, List.forall_mem_cons.2 ⟨hasks, hnone⟩, hfirst,
        .cons (keeps_congr router hasks hkeeps) hfaithful⟩

end Stack

end BifrostApi.Stack
