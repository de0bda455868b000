import BifrostApi.Ops.Auth

/-!
# The write guard (`write_guard.py`)

ASGI middleware in front of every route. A call is the list of what it does: hand the scope to the inner
app, or answer itself. The `OpsAuth` it consults is built from the config on first use and kept.

`required_role` compares the path with `READ_ONLY_POSTS` whatever the method (:55-56), so on those
paths every method is open to a viewer, not only the POST (`guardSpec_fails`).
-/

namespace BifrostApi

open Py Ops

/-- `SAFE_METHODS` (write_guard.py:39). -/
def safeMethods : List String := ["GET", "HEAD", "OPTIONS"]

/-- `READ_ONLY_POSTS` (write_guard.py:41). -/
def readOnlyPosts : List String :=
  ["/research/screener", "/executions/option-stock-links/query", "/quotes/refresh-options"]

/-- The role a request needs, or `none` when the guard lets it through. -/
def requiredRole (method path : String) : Option String :=
  if upper method ∈ safeMethods then none
  else
    let p := if rstrip '/' path = "" then "/" else rstrip '/' path
    if p ∈ readOnlyPosts then none else some "operator"

/-- A request as the middleware sees it; the body arrives later, through `receive`. -/
structure Scope where
  type : String
  method : String
  path : String
  queryString : String
  headers : Headers
  deriving DecidableEq, Repr

inductive Action
  /-- `await self.app(scope, receive, send)` -/
  | app (scope : Scope)
  | respond (statusCode : Nat) (content : Json)

structure WriteGuard where
  /-- `self._auth` -/
  auth : Option AuthConfig := none

/-- `_ops_auth` (write_guard.py:68): `config` is what `AuthConfig.from_config(self._config() or {})`
builds now; only the first call looks. -/
def WriteGuard.opsAuth (guard : WriteGuard) (config : AuthConfig) : WriteGuard × AuthConfig :=
  match guard.auth with
  | none => (⟨some config⟩, config)
  | some cfg => (guard, cfg)

/-- `__call__` (write_guard.py:75). -/
def WriteGuard.call (hash : String → String) (config : AuthConfig) (guard : WriteGuard) (scope : Scope) :
    WriteGuard × List Action :=
  if scope.type ≠ "http" then (guard, [.app scope])
  else match requiredRole scope.method scope.path with
    | none => (guard, [.app scope])
    | some role =>
      let (guard, cfg) := guard.opsAuth config
      match (requireRole hash cfg (authorization scope.headers) role).2 with
      | some content => (guard, [.respond 403 content])
      | none => (guard, [.app scope])

/-! ## What a call does -/

theorem requiredRole_eq (method path : String) :
    requiredRole method path =
      if upper method ∈ safeMethods ∨ rstrip '/' path ∈ readOnlyPosts then none else some "operator" := by
  unfold requiredRole
  by_cases hsafe : upper method ∈ safeMethods
  · simp [hsafe]
  · by_cases hroot : rstrip '/' path = ""
    · simp [hsafe, hroot, readOnlyPosts]
    · simp [hsafe, hroot]

/-- When the guard lets a request through. -/
def Forwarded (hash : String → String) (cfg : AuthConfig) (scope : Scope) : Prop :=
  upper scope.method ∈ safeMethods ∨ rstrip '/' scope.path ∈ readOnlyPosts ∨
    AtLeastOperator (resolve hash cfg (authorization scope.headers))

theorem call_actions (hash : String → String) (config : AuthConfig) (guard : WriteGuard) {scope : Scope}
    (hhttp : scope.type = "http") :
    (Forwarded hash (guard.opsAuth config).2 scope ∧
      (guard.call hash config scope).2 = [.app scope]) ∨
    (¬ Forwarded hash (guard.opsAuth config).2 scope ∧
      ∃ content, (guard.call hash config scope).2 = [.respond 403 content]) := by
  unfold WriteGuard.call Forwarded
  rw [if_neg (by simpa using hhttp), requiredRole_eq]
  by_cases hopen : upper scope.method ∈ safeMethods ∨ rstrip '/' scope.path ∈ readOnlyPosts
  · rw [if_pos hopen]
    exact Or.inl ⟨by rcases hopen with h | h <;> simp [h], rfl⟩
  · rw [if_neg hopen]
    obtain ⟨hsafe, hpath⟩ := not_or.1 hopen
    simp only [requireRole_operator]
    by_cases hrole : AtLeastOperator (resolve hash (guard.opsAuth config).2 (authorization scope.headers))
    · rw [if_pos hrole]
      exact Or.inl ⟨Or.inr (Or.inr hrole), rfl⟩
    · rw [if_neg hrole]
      exact Or.inr ⟨by simp [hsafe, hpath, hrole], _, rfl⟩

/-! ## The policy -/

/-- Who may have a request handed on: everyone for a read and for the listed POSTs, else an operator. -/
def Allowed (hash : String → String) (cfg : AuthConfig) (scope : Scope) : Prop :=
  upper scope.method ∈ safeMethods ∨
    (upper scope.method = "POST" ∧ rstrip '/' scope.path ∈ readOnlyPosts) ∨
    AtLeastOperator (resolve hash cfg (authorization scope.headers))

/-- Two requests that differ in query string, body and other headers only. -/
structure SameRequest (scope scope' : Scope) : Prop where
  type : scope'.type = scope.type
  method : scope'.method = scope.method
  path : scope'.path = scope.path
  authorization : authorization scope'.headers = authorization scope.headers

/-- What the guard promises for a request under the config in use. -/
structure GuardSpec (hash : String → String) (config : AuthConfig) (guard : WriteGuard) (scope : Scope) :
    Prop where
  forwards : Allowed hash (guard.opsAuth config).2 scope →
    (guard.call hash config scope).2 = [.app scope]
  refuses : ¬ Allowed hash (guard.opsAuth config).2 scope →
    ∃ content, (guard.call hash config scope).2 = [.respond 403 content]
  /-- Nothing else of the request matters. -/
  same : ∀ scope', SameRequest scope scope' →
    ((guard.call hash config scope').2 = [.app scope'] ↔ (guard.call hash config scope).2 = [.app scope])

theorem Forwarded.congr {hash : String → String} {cfg : AuthConfig} {scope scope' : Scope}
    (h : SameRequest scope scope') : Forwarded hash cfg scope' ↔ Forwarded hash cfg scope := by
  simp only [Forwarded, h.method, h.path, h.authorization]

theorem call_forwards_iff (hash : String → String) (config : AuthConfig) (guard : WriteGuard) {scope : Scope}
    (hhttp : scope.type = "http") :
    (guard.call hash config scope).2 = [.app scope] ↔ Forwarded hash (guard.opsAuth config).2 scope := by
  rcases call_actions hash config guard hhttp with ⟨hf, hact⟩ | ⟨hf, content, hact⟩
  · exact iff_of_true hact hf
  · rw [hact]
    exact iff_of_false (by simp) hf

/-- The guard and the policy part only on a write to a listed path that is no POST. -/
theorem forwarded_iff_allowed {hash : String → String} {cfg : AuthConfig} {scope : Scope}
    (h : ¬ (upper scope.method ∉ safeMethods ∧ upper scope.method ≠ "POST" ∧
      rstrip '/' scope.path ∈ readOnlyPosts ∧ ¬ AtLeastOperator (resolve hash cfg (authorization scope.headers)))) :
    Forwarded hash cfg scope ↔ Allowed hash cfg scope := by
  constructor
  · rintro (hsafe | hpath | hrole)
    · exact Or.inl hsafe
    · by_contra hnot
      obtain ⟨hsafe, hpost, hrole⟩ := not_or.1 hnot |>.imp_right not_or.1
      exact h ⟨hsafe, fun hmethod => hpost ⟨hmethod, hpath⟩, hpath, hrole⟩
    · exact Or.inr (Or.inr hrole)
  · rintro (hsafe | ⟨-, hpath⟩ | hrole)
    · exact Or.inl hsafe
    · exact Or.inr (Or.inl hpath)
    · exact Or.inr (Or.inr hrole)

/-- **Main.** A request is handled by the policy exactly when it is not a write to one of the
`READ_ONLY_POSTS` paths by another method and a role below operator. -/
theorem writeGuard_spec (hash : String → String) (config : AuthConfig) (guard : WriteGuard) (scope : Scope)
    (hhttp : scope.type = "http") :
    GuardSpec hash config guard scope ↔
      ¬ (upper scope.method ∉ safeMethods ∧ upper scope.method ≠ "POST" ∧
        rstrip '/' scope.path ∈ readOnlyPosts ∧
        ¬ AtLeastOperator (resolve hash (guard.opsAuth config).2 (authorization scope.headers))) := by
  constructor
  · rintro h ⟨hsafe, hpost, hpath, hrole⟩
    have hnot : ¬ Allowed hash (guard.opsAuth config).2 scope := by simp [Allowed, hsafe, hpost, hrole]
    obtain ⟨content, hact⟩ := h.refuses hnot
    have hforward := (call_forwards_iff hash config guard hhttp).2 (Or.inr (Or.inl hpath))
    rw [hact] at hforward
    simp at hforward
  · intro hcond
    have hsame := forwarded_iff_allowed hcond
    constructor
    · intro hallowed
      exact (call_forwards_iff hash config guard hhttp).2 (hsame.2 hallowed)
    · intro hnot
      rcases call_actions hash config guard hhttp with ⟨hf, -⟩ | ⟨-, hrefuse⟩
      · exact absurd (hsame.1 hf) hnot
      · exact hrefuse
    · intro scope' hreq
      rw [call_forwards_iff hash config guard (hreq.type.trans hhttp),
        call_forwards_iff hash config guard hhttp, Forwarded.congr hreq]

/-! ## An exempted path under another method -/

def deleteScreener : Scope := ⟨"http", "DELETE", "/research/screener", "", []⟩

theorem writeGuard_spec_delete :
    GuardSpec id {} {} deleteScreener ↔
      ¬ (upper deleteScreener.method ∉ safeMethods ∧ upper deleteScreener.method ≠ "POST" ∧
        rstrip '/' deleteScreener.path ∈ readOnlyPosts ∧
        ¬ AtLeastOperator (resolve id (WriteGuard.opsAuth {} {}).2 (authorization deleteScreener.headers))) :=
  writeGuard_spec id {} {} deleteScreener rfl

/-- An anonymous viewer's `DELETE /research/screener` reaches the inner app. -/
theorem guardSpec_fails :
    (WriteGuard.call id {} {} deleteScreener).2 = [.app deleteScreener] ∧
    ¬ GuardSpec id {} {} deleteScreener := by
  have hforwarded : (WriteGuard.call id {} {} deleteScreener).2 = [.app deleteScreener] :=
    (call_forwards_iff id {} {} rfl).2 (Or.inr (Or.inl (by decide)))
  refine ⟨hforwarded, fun h => ?_⟩
  obtain ⟨content, hact⟩ := h.refuses (by unfold Allowed; decide)
  rw [hforwarded] at hact
  simp at hact

end BifrostApi
