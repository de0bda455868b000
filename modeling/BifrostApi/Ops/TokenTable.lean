import BifrostApi.Ops.Auth

/-!
# The token table (`ops/auth.py`)

`from_config` fills a dictionary keyed by token hash: every valid YAML entry writes its key, so the last
one of a token stands; the two environment tokens are added only where no entry has the key yet. A
malformed entry is skipped, and `fromConfig_role` says what role each presented token gets.

YAML values are JSON values; a YAML date is its text, which is all the code reads of it.

| here | there |
| --- | --- |
| `readEntry` | the body of the loop over `raw_tokens` (auth.py:50-62) |
| `addEnvToken` | the two blocks for `OPS_OPERATOR_TOKEN`, `OPS_ADMIN_TOKEN` (:64-74) |
| `fromConfig` | `AuthConfig.from_config` (:44) |
-/

namespace BifrostApi.Ops

open Py

/-- `VALID_ROLES`. -/
def validRoles : List String := roleHierarchy.keys

/-- The two environment variables, empty when unset. -/
structure TokenEnv where
  operatorToken : String
  adminToken : String

section Table

variable (container : Json → String) (hash : String → String)

/-- The token and the identity of an entry; `none` where the loop goes on to the next one. -/
def readEntry (entry : Json) : Option (String × Identity) :=
  match entry with
  | .obj kvs =>
    let tok := strip ((Json.getOr kvs "token" (.str "")).text container)
    if tok = "" then none
    else
      let role := lower (strip ((Json.getD kvs "role" (.str "viewer")).text container))
      if role ∉ validRoles then none
      else
        let name := strip ((Json.getD kvs "name" (.str "user")).text container)
        some (tok, ⟨name, role, true⟩)
  | _ => none

def addEntry (tokens : Dict String Identity) (entry : Json) : Dict String Identity :=
  match readEntry container entry with
  | some (tok, ident) => Dict.set tokens (hash tok) ident
  | none => tokens

/-- A token of the environment gets its role where the table does not have it yet. -/
def addEnvToken (value name role : String) (tokens : Dict String Identity) : Dict String Identity :=
  let tok := strip value
  if tok = "" then tokens
  else if Dict.has tokens (hash tok) then tokens
  else Dict.set tokens (hash tok) ⟨name, role, true⟩

def yamlTokens (entries : List Json) : Dict String Identity := entries.foldl (addEntry container hash) []

def tokenTable (entries : List Json) (env : TokenEnv) : Dict String Identity :=
  addEnvToken hash env.adminToken "env-admin" "admin"
    (addEnvToken hash env.operatorToken "env-operator" "operator" (yamlTokens container hash entries))

/-- `default_role`, or viewer when that is not a valid role. -/
def defaultRole (auth : Dict String Json) : String :=
  let role := lower (strip ((Json.getD auth "default_role" (.str "viewer")).text container))
  if role ∉ validRoles then "viewer" else role

/-- `config["ops"]["auth"]`, empty where it is missing. -/
def authSection (config : Dict String Json) : Except Exc (Dict String Json) :=
  match (Json.getOr config "ops" (.obj [])).items? with
  | none => .error .attributeError
  | some ops => match (Json.getOr ops "auth" (.obj [])).items? with
    | none => .error .attributeError
    | some auth => .ok auth

/-- The list under `tokens`. -/
def rawTokens (auth : Dict String Json) : Except Exc (List Json) :=
  match (Json.getOr auth "tokens" (.arr [])).iter? with
  | some entries => .ok entries
  | none => .error .typeError

def fromConfig (config : Dict String Json) (env : TokenEnv) : Except Exc AuthConfig := do
  let auth ← authSection config
  let entries ← rawTokens auth
  return ⟨tokenTable container hash entries env, defaultRole container auth⟩

end Table

/-! ## The role of a token, as documented -/

section Spec

variable (container : Json → String)

/-- A mapping with a non-blank token and a valid or absent role. -/
structure ValidEntry (entry : Json) (token role : String) : Prop where
  token_ne : token ≠ ""
  role_mem : role ∈ validRoles
  reads : ∃ kvs, entry = .obj kvs ∧
    strip ((Json.getOr kvs "token" (.str "")).text container) = token ∧
    match kvs.lookup "role" with
    | some value => lower (strip (value.text container)) = role
    | none => role = "viewer"

/-- The role a token gets: from the last valid entry of the list, else from the environment. -/
inductive TokenRole (entries : List Json) (env : TokenEnv) (token : String) : String → Prop
  | entry {before after : List Json} {e : Json} {role : String} (hsplit : entries = before ++ e :: after)
      (hvalid : ValidEntry container e token role)
      (hlast : ∀ e' ∈ after, ∀ role', ¬ ValidEntry container e' token role') :
      TokenRole entries env token role
  | operator (hnone : ∀ e ∈ entries, ∀ role, ¬ ValidEntry container e token role)
      (hoperator : token = strip env.operatorToken) : TokenRole entries env token "operator"
  | admin (hnone : ∀ e ∈ entries, ∀ role, ¬ ValidEntry container e token role)
      (hoperator : token ≠ strip env.operatorToken) (hadmin : token = strip env.adminToken) :
      TokenRole entries env token "admin"
  | unknown (hnone : ∀ e ∈ entries, ∀ role, ¬ ValidEntry container e token role)
      (hoperator : token ≠ strip env.operatorToken) (hadmin : token ≠ strip env.adminToken) :
      TokenRole entries env token "viewer"

/-- An entry the loop does not skip. -/
def Valid (entry : Json) : Prop := ∃ token role, ValidEntry container entry token role

variable {container : Json → String}

theorem viewer_spelled : lower (strip "viewer") = "viewer" := by decide

/-- The loop reads an entry exactly when it is valid, and reads its token and role. -/
theorem readEntry_of_valid {entry : Json} {token role : String} (h : ValidEntry container entry token role) :
    ∃ name, readEntry container entry = some (token, ⟨name, role, true⟩) := by
  obtain ⟨hne, hmem, kvs, rfl, htoken, hrole⟩ := h
  have hread : lower (strip ((Json.getD kvs "role" (.str "viewer")).text container)) = role := by
    unfold Json.getD
    cases hlookup : kvs.lookup "role" with
    | some value =>
      rw [hlookup] at hrole
      exact hrole
    | none =>
      rw [hlookup] at hrole
      rw [hrole]
      exact viewer_spelled
  refine ⟨strip ((Json.getD kvs "name" (.str "user")).text container), ?_⟩
  simp only [readEntry, htoken, hread, if_neg hne, if_neg (not_not.2 hmem)]

theorem valid_of_readEntry {entry : Json} {token : String} {ident : Identity}
    (h : readEntry container entry = some (token, ident)) :
    ValidEntry container entry token ident.role := by
  unfold readEntry at h
  split at h
  · rename_i kvs
    dsimp only at h
    split at h
    · cases h
    · rename_i hne
      split at h
      · cases h
      · rename_i hmem
        obtain ⟨rfl, rfl⟩ := Prod.mk.inj (Option.some.inj h)
        refine ⟨hne, not_not.1 hmem, kvs, rfl, rfl, ?_⟩
        unfold Json.getD
        cases kvs.lookup "role" with
        | some value => rfl
        | none => exact viewer_spelled
  · cases h

theorem readEntry_isSome {entry : Json} : (readEntry container entry).isSome = true ↔ Valid container entry := by
  constructor
  · intro h
    obtain ⟨⟨token, ident⟩, hread⟩ := Option.isSome_iff_exists.1 h
    exact ⟨token, ident.role, valid_of_readEntry hread⟩
  · rintro ⟨token, role, h⟩
    obtain ⟨name, hread⟩ := readEntry_of_valid h
    exact Option.isSome_iff_exists.2 ⟨_, hread⟩

instance (entry : Json) : Decidable (Valid container entry) := decidable_of_iff _ readEntry_isSome

end Spec

/-! ## What the table holds -/

section Lookup

variable {container : Json → String} {hash : String → String}

/-- An invalid entry leaves the table as it is. -/
theorem yamlTokens_filter (entries : List Json) (tokens : Dict String Identity) :
    (entries.filter fun e => decide (Valid container e)).foldl (addEntry container hash) tokens =
      entries.foldl (addEntry container hash) tokens := by
  induction entries generalizing tokens with
  | nil => rfl
  | cons e entries ih =>
    by_cases hvalid : Valid container e
    · rw [List.filter_cons_of_pos (by simpa using hvalid), List.foldl_cons, List.foldl_cons, ih]
    · have hskip : addEntry container hash tokens e = tokens := by
        have hnone : readEntry container e = none := by
          rw [← Option.not_isSome_iff_eq_none, readEntry_isSome]
          exact hvalid
        rw [addEntry, hnone]
      rw [List.filter_cons_of_neg (by simpa using hvalid), List.foldl_cons, hskip, ih]

variable (hinj : Function.Injective hash)
include hinj

/-- An entry replaces the identity of its own token and of no other. -/
theorem lookup_addEntry (tokens : Dict String Identity) (entry : Json) (token : String) :
    (∃ ident, readEntry container entry = some (token, ident) ∧
      (addEntry container hash tokens entry).lookup (hash token) = some ident) ∨
    ((∀ role, ¬ ValidEntry container entry token role) ∧
      (addEntry container hash tokens entry).lookup (hash token) = tokens.lookup (hash token)) := by
  unfold addEntry
  cases hread : readEntry container entry with
  | none =>
    refine Or.inr ⟨fun role hvalid => ?_, rfl⟩
    obtain ⟨name, hsome⟩ := readEntry_of_valid hvalid
    rw [hread] at hsome
    cases hsome
  | some read =>
    obtain ⟨tok, ident⟩ := read
    dsimp only
    rw [Dict.lookup_set]
    by_cases htok : token = tok
    · subst htok
      exact Or.inl ⟨ident, rfl, by rw [if_pos rfl]⟩
    · refine Or.inr ⟨fun role hvalid => ?_, by rw [if_neg fun h => htok (hinj h)]⟩
      obtain ⟨name, hsome⟩ := readEntry_of_valid hvalid
      rw [hread] at hsome
      exact htok (Prod.mk.inj (Option.some.inj hsome)).1.symm

theorem lookup_foldl_of_not {token : String} : ∀ {entries : List Json} (tokens : Dict String Identity),
    (∀ e ∈ entries, ∀ role, ¬ ValidEntry container e token role) →
    (entries.foldl (addEntry container hash) tokens).lookup (hash token) = tokens.lookup (hash token)
  | [], _, _ => rfl
  | e :: entries, tokens, hnone => by
    have hrest := lookup_foldl_of_not (addEntry container hash tokens e)
      fun e' he' => hnone e' (List.mem_cons_of_mem e he')
    rw [List.foldl_cons, hrest]
    rcases lookup_addEntry hinj tokens e token with ⟨ident, hread, -⟩ | ⟨-, hold⟩
    · exact absurd (valid_of_readEntry hread) (hnone e (by simp) ident.role)
    · exact hold

/-- The YAML part of the table holds the last valid entry of a token. -/
theorem lookup_yamlTokens_last {before after : List Json} {e : Json} {token role : String}
    (hvalid : ValidEntry container e token role)
    (hlast : ∀ e' ∈ after, ∀ role', ¬ ValidEntry container e' token role') :
    ∃ name, (yamlTokens container hash (before ++ e :: after)).lookup (hash token) = some ⟨name, role, true⟩ := by
  obtain ⟨name, hread⟩ := readEntry_of_valid hvalid
  refine ⟨name, ?_⟩
  rw [yamlTokens, List.foldl_append, List.foldl_cons, lookup_foldl_of_not hinj _ hlast]
  unfold addEntry
  rw [hread]
  dsimp only
  rw [Dict.lookup_set, if_pos rfl]

/-- A token of the environment stands behind what the table already has. -/
theorem lookup_addEnvToken {token : String} (hne : token ≠ "") (value name role : String)
    (tokens : Dict String Identity) :
    (addEnvToken hash value name role tokens).lookup (hash token) =
      (tokens.lookup (hash token)).or (if token = strip value then some ⟨name, role, true⟩ else none) := by
  unfold addEnvToken
  by_cases hblank : strip value = ""
  · simp [hblank, hne]
  · simp only [if_neg hblank]
    by_cases hhas : Dict.has tokens (hash (strip value)) = true
    · rw [if_pos hhas]
      by_cases htoken : token = strip value
      · subst htoken
        obtain ⟨ident, hident⟩ := Option.isSome_iff_exists.1 hhas
        rw [hident]
        rfl
      · rw [if_neg htoken, Option.or_none]
    · rw [if_neg hhas, Dict.lookup_set]
      by_cases htoken : token = strip value
      · subst htoken
        have hnone := Dict.has_eq_false.1 (Bool.eq_false_iff.2 hhas)
        simp [hnone]
      · rw [if_neg fun h => htoken (hinj h), if_neg htoken, Option.or_none]

/-- What the whole table holds for a token: the YAML list, then the operator, then the admin. -/
theorem lookup_tokenTable {token : String} (hne : token ≠ "") (entries : List Json) (env : TokenEnv) :
    (tokenTable container hash entries env).lookup (hash token) =
      (((yamlTokens container hash entries).lookup (hash token)).or
        (if token = strip env.operatorToken then some ⟨"env-operator", "operator", true⟩ else none)).or
        (if token = strip env.adminToken then some ⟨"env-admin", "admin", true⟩ else none) := by
  rw [tokenTable, lookup_addEnvToken hinj hne, lookup_addEnvToken hinj hne]

/-- The role the table gives a token, viewer when it has none. -/
def tableRole (tokens : Dict String Identity) (key : String) : String :=
  match tokens.lookup key with
  | some ident => ident.role
  | none => "viewer"

/-- A token's documented role is the one the table gives it. -/
theorem tableRole_of_tokenRole {entries : List Json} {env : TokenEnv} {token role : String} (hne : token ≠ "")
    (h : TokenRole container entries env token role) :
    tableRole (tokenTable container hash entries env) (hash token) = role := by
  unfold tableRole
  rw [lookup_tokenTable hinj hne]
  cases h with
  | entry hsplit hvalid hlast =>
    obtain ⟨name, hlookup⟩ := lookup_yamlTokens_last hinj hvalid hlast
    rw [hsplit, hlookup]
    rfl
  | operator hnone hoperator =>
    have hyaml : (yamlTokens container hash entries).lookup (hash token) = none :=
      lookup_foldl_of_not hinj [] hnone
    rw [hyaml, if_pos hoperator]
    rfl
  | admin hnone hoperator hadmin =>
    have hyaml : (yamlTokens container hash entries).lookup (hash token) = none :=
      lookup_foldl_of_not hinj [] hnone
    rw [hyaml, if_neg hoperator, if_pos hadmin]
    rfl
  | unknown hnone hoperator hadmin =>
    have hyaml : (yamlTokens container hash entries).lookup (hash token) = none :=
      lookup_foldl_of_not hinj [] hnone
    rw [hyaml, if_neg hoperator, if_neg hadmin]
    rfl

end Lookup

/-- The last element with a property, if there is one. -/
theorem exists_last {α : Type} (p : α → Prop) : ∀ xs : List α,
    (∃ before x after, xs = before ++ x :: after ∧ p x ∧ ∀ y ∈ after, ¬ p y) ∨ ∀ x ∈ xs, ¬ p x
  | [] => Or.inr fun x hx => absurd hx List.not_mem_nil
  | x :: xs => by
    rcases exists_last p xs with ⟨before, y, after, rfl, hy, hlast⟩ | hnone
    · exact Or.inl ⟨x :: before, y, after, rfl, hy, hlast⟩
    · by_cases hx : p x
      · exact Or.inl ⟨[], x, xs, rfl, hx, hnone⟩
      · exact Or.inr (List.forall_mem_cons.2 ⟨hx, hnone⟩)

/-- Every token has a documented role. -/
theorem exists_tokenRole (container : Json → String) (entries : List Json) (env : TokenEnv) (token : String) :
    ∃ role, TokenRole container entries env token role := by
  rcases exists_last (fun e => ∃ role, ValidEntry container e token role) entries with
    ⟨before, e, after, hsplit, ⟨role, hvalid⟩, hlast⟩ | hnone
  · exact ⟨role, .entry hsplit hvalid fun e' he' role' h => hlast e' he' ⟨role', h⟩⟩
  · have hnone' : ∀ e ∈ entries, ∀ role, ¬ ValidEntry container e token role :=
      fun e he role h => hnone e he ⟨role, h⟩
    by_cases hoperator : token = strip env.operatorToken
    · exact ⟨_, .operator hnone' hoperator⟩
    · by_cases hadmin : token = strip env.adminToken
      · exact ⟨_, .admin hnone' hoperator hadmin⟩
      · exact ⟨_, .unknown hnone' hoperator hadmin⟩

theorem tokenRole_iff {container : Json → String} {hash : String → String} (hinj : Function.Injective hash)
    {entries : List Json} {env : TokenEnv} {token role : String} (hne : token ≠ "") :
    TokenRole container entries env token role ↔
      tableRole (tokenTable container hash entries env) (hash token) = role := by
  constructor
  · exact tableRole_of_tokenRole hinj hne
  · intro h
    obtain ⟨role', hrole'⟩ := exists_tokenRole container entries env token
    have heq := tableRole_of_tokenRole hinj hne hrole'
    rw [← h, heq]
    exact hrole'

/-! ## The role of a request -/

theorem resolve_of_token {hash : String → String} {cfg : AuthConfig} {header : String}
    (h : rawToken header ≠ "") :
    (resolve hash cfg header).role = tableRole cfg.tokens (hash (rawToken header)) := by
  unfold resolve tableRole
  dsimp only
  rw [if_pos h]
  cases cfg.tokens.lookup (hash (rawToken header)) with
  | some ident => rfl
  | none => rfl

theorem resolve_of_no_token {hash : String → String} {cfg : AuthConfig} {header : String}
    (h : rawToken header = "") : (resolve hash cfg header).role = cfg.defaultRole := by
  unfold resolve
  dsimp only
  rw [if_neg (not_not.2 h)]

theorem fromConfig_eq {container : Json → String} {hash : String → String} {config auth : Dict String Json}
    {entries : List Json} (env : TokenEnv) (hauth : authSection config = .ok auth)
    (hentries : rawTokens auth = .ok entries) :
    fromConfig container hash config env =
      .ok ⟨tokenTable container hash entries env, defaultRole container auth⟩ := by
  rw [fromConfig, hauth]
  change (rawTokens auth >>= _) = _
  rw [hentries]
  rfl

/-- **Main.** Whatever the YAML list holds, a presented token gets its documented role and no other, a
request without a token the default role, and leaving out the invalid entries changes no role. -/
theorem fromConfig_role (container : Json → String) {hash : String → String} (hinj : Function.Injective hash)
    {config auth : Dict String Json} {entries : List Json} (env : TokenEnv)
    (hauth : authSection config = .ok auth) (hentries : rawTokens auth = .ok entries) :
    ∃ cfg, fromConfig container hash config env = .ok cfg ∧
      (∀ header token, Presents header token → ∀ role,
        TokenRole container entries env token role ↔ (resolve hash cfg header).role = role) ∧
      (∀ header, (∀ token, ¬ Presents header token) →
        let role := lower (strip ((Json.getD auth "default_role" (.str "viewer")).text container))
        (resolve hash cfg header).role = if role ∈ validRoles then role else "viewer") ∧
      ∀ config' auth', authSection config' = .ok auth' →
        rawTokens auth' = .ok (entries.filter fun e => decide (Valid container e)) →
        auth'.lookup "default_role" = auth.lookup "default_role" →
        ∃ cfg', fromConfig container hash config' env = .ok cfg' ∧
          ∀ header, (resolve hash cfg' header).role = (resolve hash cfg header).role := by
  refine ⟨_, fromConfig_eq env hauth hentries, fun header token hpresents role => ?_, fun header hnone => ?_,
    fun config' auth' hauth' hentries' hdefault => ⟨_, fromConfig_eq env hauth' hentries', fun header => ?_⟩⟩
  · obtain ⟨hne, rfl⟩ := presents_iff.1 hpresents
    rw [resolve_of_token hne, tokenRole_iff hinj hne]
  · have hblank : rawToken header = "" := by
      by_contra hne
      exact hnone _ (presents_iff.2 ⟨hne, rfl⟩)
    rw [resolve_of_no_token hblank]
    simp only [defaultRole, ite_not]
  · have htable : tokenTable container hash (entries.filter fun e => decide (Valid container e)) env =
        tokenTable container hash entries env := by
      rw [tokenTable, tokenTable, yamlTokens, yamlTokens, yamlTokens_filter]
    have hrole : defaultRole container auth' = defaultRole container auth := by
      rw [defaultRole, defaultRole, Json.getD, Json.getD, hdefault]
    rw [htable, hrole]

/-- Two entries of one token, the later one without a role; then one with an unknown role, and no entry. -/
def sampleEntries : List Json :=
  [.obj [("token", .str "a"), ("role", .str "Admin ")], .obj [("token", .str " a ")],
    .obj [("token", .str "a"), ("role", .str "root")], .null]

def sampleAuth : Dict String Json := [("tokens", .arr sampleEntries)]

def sampleConfig : Dict String Json := [("ops", .obj [("auth", .obj sampleAuth)])]

theorem sampleHeader_presents : Presents " bEARER  a\t" "a" where
  token_ne := by decide
  stripped := by decide
  spelled := by
    refine ⟨[' '], "bEARER".toList, [' '], ['\t'], by decide, ?_, List.forall_mem_singleton.2 (by decide),
      List.forall_mem_singleton.2 (by decide), List.forall_mem_singleton.2 (by decide)⟩
    exact .cons (by decide) (.cons (by decide) (.cons (by decide) (.cons (by decide) (.cons (by decide)
      (.cons (by decide) .nil)))))

theorem fromConfig_role_sample :
    ∃ cfg, fromConfig (fun _ => "") id sampleConfig ⟨"a", "b"⟩ = .ok cfg ∧
      (resolve id cfg " bEARER  a\t").role = "viewer" := by
  have hauth : authSection sampleConfig = .ok sampleAuth := rfl
  have hentries : rawTokens sampleAuth = .ok sampleEntries := rfl
  obtain ⟨cfg, hcfg, hrole, -⟩ := fromConfig_role (fun _ => "") Function.injective_id ⟨"a", "b"⟩ hauth hentries
  refine ⟨cfg, hcfg, (hrole _ "a" sampleHeader_presents "viewer").1 ?_⟩
  have hinvalid : ∀ e ∈ sampleEntries.drop 2, ¬ Valid (fun _ => "") e := by decide
  have hsecond : ValidEntry (fun _ => "") (.obj [("token", .str " a ")]) "a" "viewer" :=
    ⟨by decide, by decide, _, rfl, by decide, rfl⟩
  have hsplit : sampleEntries =
      sampleEntries.take 1 ++ .obj [("token", .str " a ")] :: sampleEntries.drop 2 := rfl
  exact .entry hsplit hsecond fun e he role h => hinvalid e he ⟨"a", role, h⟩

end BifrostApi.Ops
