import BifrostApi.Lib.Run
import BifrostApi.Ops.TokenTable
import BifrostApi.WriteGuard

/-!
# What a caller is told and what is enforced (`common/service_endpoints.py`, `ops/auth.py`)

`GET <prefix>/auth/capabilities` tells a caller whether it may operate; the write guard decides. Each of the two builds
its own `OpsAuth` from the configuration on first use and keeps it, the guard when the first write needs a role, the
endpoint when it is first asked; the configuration is a mutable dictionary. So they agree for good once both were
built from configurations that give every header the same right, and disagree for good otherwise (`rights_iff`,
`told_enforced`).

| here | there |
| --- | --- |
| `capabilities` | `OpsAuth.capabilities` (auth.py:156) |
| `.capabilities` | `auth_capabilities` (service_endpoints.py:33) |
| `.write` | `WriteGuard.__call__` (write_guard.py:75) on an `http` scope, `_ops_auth` (:68) |
-/

namespace BifrostApi.Ops

open Py

structure Capabilities where
  ok : Bool
  identity : Identity
  canView : Bool
  canOperate : Bool
  canAdmin : Bool
  authRequired : Bool

def capabilities (hash : String → String) (cfg : AuthConfig) (authHeader : String) : Capabilities :=
  let ident := resolve hash cfg authHeader
  { ok := true
    identity := ident
    canView := true
    canOperate := decide ((roleHierarchy.lookup "operator").getD 99 ≤ ident.roleLevel)
    canAdmin := decide ((roleHierarchy.lookup "admin").getD 99 ≤ ident.roleLevel)
    authRequired := cfg.tokens ≠ [] }

/-- What a request was answered. -/
inductive Answer
  | told (authHeader : String) (capabilities : Capabilities)
  /-- A write that needs a role: refused with a body, or handed on. -/
  | decided (authHeader : String) (refusal : Option Json)
  | raised (e : Exc)

/-- The configuration as it is now, and what was built from it. -/
structure Process where
  config : Dict String Json
  env : TokenEnv
  /-- `WriteGuard._auth` -/
  guard : Option AuthConfig
  /-- `holder["auth"]` -/
  holder : Option AuthConfig
  answers : List Answer

inductive ProcessEvent
  | configure (config : Dict String Json) (env : TokenEnv)
  | capabilities (headers : Headers)
  | write (method path : String) (headers : Headers)

section Step

variable (container : Json → String) (hash : String → String)

/-- The one that was built, else one built from the configuration now. -/
def Process.auth (s : Process) (built : Option AuthConfig) : Except Exc AuthConfig :=
  match built with
  | some cfg => .ok cfg
  | none => fromConfig container hash s.config s.env

def Process.step (s : Process) : ProcessEvent → Process
  | .configure config env => { s with config := config, env := env }
  | .capabilities headers => match s.auth container hash s.holder with
    | .error e => { s with answers := .raised e :: s.answers }
    | .ok cfg =>
      { s with holder := some cfg,
               answers := .told (authorization headers) (Ops.capabilities hash cfg (authorization headers)) ::
                 s.answers }
  | .write method path headers => match requiredRole method path with
    | none => s
    | some role => match s.auth container hash s.guard with
      | .error e => { s with answers := .raised e :: s.answers }
      | .ok cfg =>
        { s with guard := some cfg,
                 answers := .decided (authorization headers) (requireRole hash cfg (authorization headers) role).2 ::
                   s.answers }

end Step

def Process.initial (config : Dict String Json) (env : TokenEnv) : Process := ⟨config, env, none, none, []⟩

/-! ## The two configurations -/

variable {container : Json → String} {hash : String → String}

/-- Every header may operate under both configurations or under neither. -/
def SameRights (hash : String → String) (cfg cfg' : AuthConfig) : Prop :=
  ∀ authHeader, AtLeastOperator (resolve hash cfg authHeader) ↔ AtLeastOperator (resolve hash cfg' authHeader)

/-- Where both were built, they give the same rights. -/
def Rights (hash : String → String) (s : Process) : Prop :=
  ∀ g c, s.guard = some g → s.holder = some c → SameRights hash g c

variable (container hash) in
/-- What is built second gives the rights of what was built first. -/
def BuildsAlike (s : Process) : ProcessEvent → Prop
  | .configure _ _ => True
  | .capabilities _ => s.holder = none → ∀ g c, s.guard = some g → fromConfig container hash s.config s.env = .ok c →
      SameRights hash g c
  | .write method path _ => requiredRole method path ≠ none → s.guard = none → ∀ g c, s.holder = some c →
      fromConfig container hash s.config s.env = .ok g → SameRights hash g c

theorem canOperate_iff (cfg : AuthConfig) (authHeader : String) :
    (capabilities hash cfg authHeader).canOperate = true ↔ AtLeastOperator (resolve hash cfg authHeader) := by
  have hmin : (roleHierarchy.lookup "operator").getD 99 = 1 := rfl
  simp only [capabilities, hmin, decide_eq_true_eq, AtLeastOperator]

theorem requireRole_none_iff (cfg : AuthConfig) (authHeader : String) :
    (requireRole hash cfg authHeader "operator").2 = none ↔ AtLeastOperator (resolve hash cfg authHeader) := by
  rw [requireRole_operator]
  split
  · rename_i hrole
    exact iff_of_true rfl hrole
  · rename_i hrole
    exact iff_of_false nofun hrole

theorem requiredRole_eq_some {method path role : String} (h : requiredRole method path = some role) :
    role = "operator" := by
  rw [requiredRole_eq] at h
  split at h
  · cases h
  · exact (Option.some.inj h).symm

theorem step_capabilities (container : Json → String) (hash : String → String) (s : Process) (headers : Headers) :
    (∃ e, s.auth container hash s.holder = .error e ∧
      s.step container hash (.capabilities headers) = { s with answers := .raised e :: s.answers }) ∨
    (∃ cfg, s.auth container hash s.holder = .ok cfg ∧
      s.step container hash (.capabilities headers) = { s with
        holder := some cfg,
        answers := .told (authorization headers) (capabilities hash cfg (authorization headers)) :: s.answers }) := by
  cases hauth : s.auth container hash s.holder with
  | error e => exact Or.inl ⟨e, rfl, by simp [Process.step, hauth]⟩
  | ok cfg => exact Or.inr ⟨cfg, rfl, by simp [Process.step, hauth]⟩

theorem step_write (container : Json → String) (hash : String → String) (s : Process) (method path : String)
    (headers : Headers) :
    (requiredRole method path = none ∧ s.step container hash (.write method path headers) = s) ∨
    (requiredRole method path ≠ none ∧ ∃ e, s.auth container hash s.guard = .error e ∧
      s.step container hash (.write method path headers) = { s with answers := .raised e :: s.answers }) ∨
    (requiredRole method path ≠ none ∧ ∃ cfg, s.auth container hash s.guard = .ok cfg ∧
      s.step container hash (.write method path headers) = { s with
        guard := some cfg,
        answers := .decided (authorization headers) (requireRole hash cfg (authorization headers) "operator").2 ::
          s.answers }) := by
  cases hrole : requiredRole method path with
  | none => exact Or.inl ⟨rfl, by simp [Process.step, hrole]⟩
  | some role =>
    have hoperator := requiredRole_eq_some hrole
    subst hoperator
    cases hauth : s.auth container hash s.guard with
    | error e => exact Or.inr (Or.inl ⟨nofun, e, rfl, by simp [Process.step, hrole, hauth]⟩)
    | ok cfg => exact Or.inr (Or.inr ⟨nofun, cfg, rfl, by simp [Process.step, hrole, hauth]⟩)

/-- What is built is kept; what is not is built from the configuration now. -/
theorem auth_eq_ok {s : Process} {built : Option AuthConfig} {cfg : AuthConfig}
    (h : s.auth container hash built = .ok cfg) :
    built = some cfg ∨ (built = none ∧ fromConfig container hash s.config s.env = .ok cfg) := by
  cases built with
  | some cfg' => exact Or.inl (congrArg some (Except.ok.inj h))
  | none => exact Or.inr ⟨rfl, h⟩

/-- A step builds at most one of the two, from the configuration now. -/
theorem rights_step (s : Process) (e : ProcessEvent) (h : Rights hash s) :
    Rights hash (s.step container hash e) ↔ BuildsAlike container hash s e := by
  cases e with
  | configure config env => exact iff_of_true h trivial
  | capabilities headers =>
    rcases step_capabilities container hash s headers with ⟨e, hauth, heq⟩ | ⟨cfg, hauth, heq⟩
    · rw [heq]
      refine iff_of_true h fun hnone g c _ hread => ?_
      rw [hnone] at hauth
      rw [Process.auth, hread] at hauth
      cases hauth
    · rw [heq]
      rcases auth_eq_ok hauth with hbuilt | ⟨hnone, hread⟩
      · refine iff_of_true (fun g c hg hc => h g c hg (hbuilt.trans hc)) fun hnone => ?_
        rw [hbuilt] at hnone
        cases hnone
      · constructor
        · intro hrights _ g c hg hc
          exact hrights g c hg (congrArg some (Except.ok.inj (hread.symm.trans hc)))
        · intro halike g c hg hc
          exact halike hnone g c hg (hread.trans (congrArg Except.ok (Option.some.inj hc)))
  | write method path headers =>
    rcases step_write container hash s method path headers with
      ⟨hrole, heq⟩ | ⟨hrole, e, hauth, heq⟩ | ⟨hrole, cfg, hauth, heq⟩
    · rw [heq]
      exact iff_of_true h fun hne => absurd hrole hne
    · rw [heq]
      refine iff_of_true h fun _ hnone g c _ hread => ?_
      rw [hnone] at hauth
      rw [Process.auth, hread] at hauth
      cases hauth
    · rw [heq]
      rcases auth_eq_ok hauth with hbuilt | ⟨hnone, hread⟩
      · refine iff_of_true (fun g c hg hc => h g c (hbuilt.trans hg) hc) fun _ hnone => ?_
        rw [hbuilt] at hnone
        cases hnone
      · constructor
        · intro hrights _ _ g c hc hg
          exact hrights g c (congrArg some (Except.ok.inj (hread.symm.trans hg))) hc
        · intro halike g c hg hc
          exact halike hrole hnone g c hc (hread.trans (congrArg Except.ok (Option.some.inj hg)))

/-- The two agree in every state of a run exactly when whichever is built second is built alike. -/
theorem rights_iff (config : Dict String Json) (env : TokenEnv) (es : List ProcessEvent) :
    Run.Always (Process.step container hash) (Rights hash) (Process.initial config env) es ↔
      Run.Along (Process.step container hash) (BuildsAlike container hash) (Process.initial config env) es :=
  Run.always_iff_along rights_step nofun

/-! ## The answers -/

/-- Every answer was given under what was built, which is kept. -/
structure AnswersKept (hash : String → String) (s : Process) : Prop where
  told : ∀ authHeader c, .told authHeader c ∈ s.answers →
    ∃ cfg, s.holder = some cfg ∧ c = capabilities hash cfg authHeader
  decided : ∀ authHeader refusal, .decided authHeader refusal ∈ s.answers →
    ∃ cfg, s.guard = some cfg ∧ refusal = (requireRole hash cfg authHeader "operator").2

/-- What a caller is told it may do is what the guard lets its writes do. -/
def Truthful (s : Process) : Prop :=
  ∀ authHeader c refusal, .told authHeader c ∈ s.answers → .decided authHeader refusal ∈ s.answers →
    (c.canOperate = true ↔ refusal = none)

theorem answersKept_step (s : Process) (e : ProcessEvent) (h : AnswersKept hash s) :
    AnswersKept hash (s.step container hash e) := by
  cases e with
  | configure config env => exact ⟨h.told, h.decided⟩
  | capabilities headers =>
    rcases step_capabilities container hash s headers with ⟨e, -, heq⟩ | ⟨cfg, hauth, heq⟩
    · rw [heq]
      refine ⟨fun a c hmem => h.told a c ?_, fun a r hmem => h.decided a r ?_⟩
      all_goals exact (List.mem_cons.1 hmem).resolve_left nofun
    · rw [heq]
      refine ⟨fun a c hmem => ?_, fun a r hmem => h.decided a r ((List.mem_cons.1 hmem).resolve_left nofun)⟩
      rcases List.mem_cons.1 hmem with hnew | hold
      · cases hnew
        exact ⟨cfg, rfl, rfl⟩
      · obtain ⟨cfg', hcfg', hc⟩ := h.told a c hold
        rcases auth_eq_ok hauth with hbuilt | ⟨hnone, -⟩
        · exact ⟨cfg', hbuilt.symm.trans hcfg', hc⟩
        · rw [hnone] at hcfg'
          cases hcfg'
  | write method path headers =>
    rcases step_write container hash s method path headers with ⟨-, heq⟩ | ⟨-, e, -, heq⟩ | ⟨-, cfg, hauth, heq⟩
    · rw [heq]
      exact h
    · rw [heq]
      refine ⟨fun a c hmem => h.told a c ?_, fun a r hmem => h.decided a r ?_⟩
      all_goals exact (List.mem_cons.1 hmem).resolve_left nofun
    · rw [heq]
      refine ⟨fun a c hmem => h.told a c ((List.mem_cons.1 hmem).resolve_left nofun), fun a r hmem => ?_⟩
      rcases List.mem_cons.1 hmem with hnew | hold
      · cases hnew
        exact ⟨cfg, rfl, rfl⟩
      · obtain ⟨cfg', hcfg', hr⟩ := h.decided a r hold
        rcases auth_eq_ok hauth with hbuilt | ⟨hnone, -⟩
        · exact ⟨cfg', hbuilt.symm.trans hcfg', hr⟩
        · rw [hnone] at hcfg'
          cases hcfg'

theorem truthful_of_rights {s : Process} (hkept : AnswersKept hash s) (hrights : Rights hash s) : Truthful s := by
  intro authHeader c refusal htold hdecided
  obtain ⟨cfg, hholder, hc⟩ := hkept.told authHeader c htold
  obtain ⟨g, hguard, hrefusal⟩ := hkept.decided authHeader refusal hdecided
  rw [hc, hrefusal]
  exact (canOperate_iff cfg authHeader).trans
    ((hrights g cfg hguard hholder authHeader).symm.trans (requireRole_none_iff g authHeader).symm)

/-- **Main.** In every run of writes, capability requests and changes of the configuration in which whichever of the
two is built second is built alike, a caller is told that it may operate exactly when its writes are let through. -/
theorem told_enforced (container : Json → String) (hash : String → String) (config : Dict String Json) (env : TokenEnv)
    (es : List ProcessEvent)
    (hes : Run.Along (Process.step container hash) (BuildsAlike container hash) (Process.initial config env) es) :
    Run.Always (Process.step container hash) Truthful (Process.initial config env) es := by
  have hstep : ∀ s e, AnswersKept hash s ∧ Rights hash s → BuildsAlike container hash s e →
      AnswersKept hash (s.step container hash e) ∧ Rights hash (s.step container hash e) :=
    fun s e h he => ⟨answersKept_step s e h.1, (rights_step s e h.2).2 he⟩
  have hstart : AnswersKept hash (Process.initial config env) ∧ Rights hash (Process.initial config env) :=
    ⟨⟨fun _ _ h => absurd h List.not_mem_nil, fun _ _ h => absurd h List.not_mem_nil⟩, nofun⟩
  exact (Run.always_of_along hstep hstart hes).mono fun s h => truthful_of_rights h.1 h.2

/-- A caller with the operator's token, asked about before it writes; then the configuration changes. -/
def operatorWrites : List ProcessEvent :=
  [.capabilities [("authorization", "Bearer op")], .write "POST" "/plans" [("authorization", "Bearer op")],
   .configure [("ops", .null)] ⟨"", ""⟩, .write "POST" "/plans" [("authorization", "Bearer op")]]

theorem told_enforced_operator :
    Run.Always (Process.step (fun _ => "") id) Truthful (Process.initial [] ⟨"op", ""⟩) operatorWrites := by
  have hread : fromConfig (fun _ => "") id [] ⟨"op", ""⟩ =
      .ok ⟨[("op", ⟨"env-operator", "operator", true⟩)], "viewer"⟩ :=
    rfl
  refine told_enforced (fun _ => "") id [] ⟨"op", ""⟩ operatorWrites ⟨nofun, ?_, trivial, ?_, trivial⟩
  · intro _ _ g c hholder hg
    have hc : some _ = some c := hholder
    rw [← Option.some.inj hc, ← Except.ok.inj (hread.symm.trans hg)]
    exact fun _ => Iff.rfl
  · intro _ hguard
    cases hguard

end BifrostApi.Ops
