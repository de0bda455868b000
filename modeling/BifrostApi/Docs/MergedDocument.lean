import BifrostApi.Docs.Refs

/-!
# Folding the merges (`docs_api/app.py`, `_merged_openapi_response`)

Every secondary that answered is merged, in order, into what the merges so far built; one that did not
is skipped and listed under `x-bifrost-unreachable`. `Conserved` says that the fold loses nothing and
overwrites nothing, `NoCollision` is when.

Paths keep the entry that came first (merge_openapi.py:101), tags are deduplicated by name (:111), but
components go in by `update` (:119): a prefixed name that is already taken is overwritten
(`conserved_fails`).

| here | there |
| --- | --- |
| `Fetched` | one round of the loop (app.py:116-123): prefix, url, what `fetch_openapi(url)` did |
| `mergeSecondaries` | the loop |
| `mergedOpenapiResponse` | `_merged_openapi_response` (app.py:105) |
-/

namespace BifrostApi.Docs

open Py

/-- The dict `fetch_openapi` returns. -/
structure Spec where
  entries : Dict String Json
  distinct : (Json.obj entries).distinctKeys = true

def Spec.json (s : Spec) : Json := .obj s.entries

/-- One entry of `_state["secondaries"]` and its answer, the exception as its text. -/
structure Fetched where
  secondaryPrefix : String
  url : String
  answer : Except String Spec

structure JSONResponse where
  statusCode : Nat
  content : Json

def mergeSecondaries (str : Json → String) : List Fetched → Json → Dict String Json →
    Option (Json × Dict String Json)
  | [], merged, unreachable => some (merged, unreachable)
  | f :: fs, merged, unreachable => match f.answer with
    | .error exc =>
      mergeSecondaries str fs merged (Dict.set unreachable f.secondaryPrefix (.str (f.url ++ ": " ++ exc)))
    | .ok spec => do
      let merged ← mergeOpenapiSpecs str merged spec.json f.secondaryPrefix
      mergeSecondaries str fs merged unreachable

def mergedOpenapiResponse (str : Json → String) (mainAnswer : Except String Spec)
    (secondaries : List Fetched) : Option JSONResponse :=
  match mainAnswer with
  | .error exc => some ⟨502, .obj [("detail", .str ("Cannot reach main API: " ++ exc))]⟩
  | .ok mainSpec => do
    let (merged, unreachable) ← mergeSecondaries str secondaries mainSpec.json []
    if unreachable.isEmpty then return ⟨200, merged⟩
    let entries ← merged.items?
    return ⟨200, .obj (Dict.set entries "x-bifrost-unreachable" (.obj unreachable))⟩

/-- The secondaries that answered, in order. -/
def reached (secondaries : List Fetched) : List (String × Spec) :=
  secondaries.filterMap fun f => match f.answer with
    | .ok spec => some (f.secondaryPrefix, spec)
    | .error _ => none

/-- The merges alone. -/
def mergeAll (str : Json → String) (main : Json) : List (String × Spec) → Option Json
  | [] => some main
  | (p, spec) :: rest => (mergeOpenapiSpecs str main spec.json p).bind (mergeAll str · rest)

/-! ## What the merges build -/

theorem mergeSecondaries_merged {str : Json → String} : ∀ {fs : List Fetched} {main merged : Json}
    {unreachable unreachable' : Dict String Json},
    mergeSecondaries str fs main unreachable = some (merged, unreachable') →
    mergeAll str main (reached fs) = some merged
  | [], _, _, _, _, h => by cases h; rfl
  | f :: fs, main, merged, unreachable, unreachable', h => by
    unfold mergeSecondaries at h
    cases hf : f.answer with
    | error exc =>
      rw [hf] at h
      have hreached : reached (f :: fs) = reached fs := by simp [reached, hf]
      rw [hreached]
      exact mergeSecondaries_merged h
    | ok spec =>
      rw [hf] at h
      obtain ⟨m, hm, hrest⟩ := Option.bind_eq_some_iff.1 h
      have hreached : reached (f :: fs) = (f.secondaryPrefix, spec) :: reached fs := by simp [reached, hf]
      rw [hreached, mergeAll, hm]
      exact mergeSecondaries_merged hrest

theorem mergeAll_append {str : Json → String} : ∀ {l₁ l₂ : List (String × Spec)} {main r : Json},
    mergeAll str main (l₁ ++ l₂) = some r ↔
      ∃ d, mergeAll str main l₁ = some d ∧ mergeAll str d l₂ = some r
  | [], l₂, main, r => by simp [mergeAll]
  | (p, spec) :: l₁, l₂, main, r => by
    simp only [List.cons_append, mergeAll, Option.bind_eq_some_iff]
    constructor
    · rintro ⟨m, hm, h⟩
      obtain ⟨d, hd, hr⟩ := mergeAll_append.1 h
      exact ⟨d, ⟨m, hm, hd⟩, hr⟩
    · rintro ⟨d, ⟨m, hm, hd⟩, hr⟩
      exact ⟨m, hm, mergeAll_append.2 ⟨d, hd, hr⟩⟩

/-- The answer differs from the merged document in one top-level entry at most. -/
theorem mergedOpenapiResponse_content {str : Json → String} {mainSpec : Spec} {secondaries : List Fetched}
    {resp : JSONResponse} (h : mergedOpenapiResponse str (.ok mainSpec) secondaries = some resp) :
    ∃ r, mergeAll str mainSpec.json (reached secondaries) = some r ∧
      (resp.content = r ∨ ∃ entries v, r = .obj entries ∧
        resp.content = .obj (Dict.set entries "x-bifrost-unreachable" v)) := by
  unfold mergedOpenapiResponse at h
  obtain ⟨⟨merged, unreachable⟩, hmerge, h⟩ := Option.bind_eq_some_iff.1 h
  refine ⟨merged, mergeSecondaries_merged hmerge, ?_⟩
  simp only at h
  by_cases hu : unreachable.isEmpty
  · rw [if_pos hu] at h
    cases h
    exact Or.inl rfl
  · rw [if_neg hu] at h
    obtain ⟨entries, hitems, h⟩ := Option.bind_eq_some_iff.1 h
    cases h
    exact Or.inr ⟨entries, _, Json.items?_eq_some.1 hitems, rfl⟩

/-- A component of a fold of merges was main's or is the prefixed copy of a secondary's. -/
theorem component_mergeAll_isSome {str : Json → String} (t k : String) :
    ∀ {l : List (String × Spec)} {main r : Json}, mergeAll str main l = some r →
    ((component r t k).isSome ↔ (component main t k).isSome ∨
      ∃ e ∈ l, ∃ n, k = prefixed e.1 n ∧ (component e.2.json t n).isSome)
  | [], main, r, h => by cases h; simp
  | (p, spec) :: l, main, r, h => by
    obtain ⟨m, hm, hrest⟩ := Option.bind_eq_some_iff.1 h
    obtain ⟨q⟩ := mergeOpenapiSpecs_parts hm
    have hstep : (component m t k).isSome ↔ (component main t k).isSome ∨
        ∃ n, k = prefixed p n ∧ (component spec.json t n).isSome := by
      rcases q.component_merged_cases spec.distinct t k with ⟨n, c, rfl, hc, hmc⟩ | ⟨hnone, heq⟩
      · rw [hmc]
        exact iff_of_true rfl (Or.inr ⟨n, rfl, by rw [hc]; rfl⟩)
      · rw [heq]
        refine ⟨Or.inl, fun hor => hor.elim id ?_⟩
        rintro ⟨n, hk, hn⟩
        rw [hnone n hk] at hn
        cases hn
    rw [component_mergeAll_isSome t k hrest, hstep]
    simp only [List.mem_cons, exists_eq_or_imp, or_assoc]

theorem pathItem_mergeAll {str : Json → String} {k : String} {v : Json} :
    ∀ {l : List (String × Spec)} {main r : Json}, mergeAll str main l = some r →
    pathItem main k = some v → pathItem r k = some v
  | [], _, _, h, hv => by cases h; exact hv
  | (_, _) :: _, _, _, h, hv => by
    obtain ⟨m, hm, hrest⟩ := Option.bind_eq_some_iff.1 h
    obtain ⟨q⟩ := mergeOpenapiSpecs_parts hm
    exact pathItem_mergeAll hrest (q.pathItem_merged_main hv)

theorem hasPath_mergeAll {str : Json → String} {k : String} :
    ∀ {l : List (String × Spec)} {main r : Json}, mergeAll str main l = some r →
    hasPath main k = false → (∀ e ∈ l, pathItem e.2.json k = none) → hasPath r k = false
  | [], _, _, h, hmain, _ => by cases h; exact hmain
  | (p, spec) :: l, main, r, h, hmain, hl => by
    obtain ⟨m, hm, hrest⟩ := Option.bind_eq_some_iff.1 h
    obtain ⟨q⟩ := mergeOpenapiSpecs_parts hm
    refine hasPath_mergeAll hrest ?_ fun e he => hl e (List.mem_cons_of_mem _ he)
    by_contra hpath
    rcases q.hasPath_merged (by simpa using hpath) with hold | hnew
    · rw [hmain] at hold; cases hold
    · rw [hl (p, spec) (by simp)] at hnew; cases hnew

/-- The tag names a fold of merges builds. -/
theorem tagNames_mergeAll {str : Json → String} : ∀ {l : List (String × Spec)} {main r : Json},
    mergeAll str main l = some r → TagsNamed main → (tagNames main).Nodup →
    (∀ e ∈ l, TagsNamed e.2.json ∧ (tagNames e.2.json).Nodup) →
    (tagNames r).Nodup ∧ ∀ n, n ∈ tagNames r ↔ n ∈ tagNames main ∨ ∃ e ∈ l, n ∈ tagNames e.2.json
  | [], _, _, h, _, hnodup, _ => by cases h; exact ⟨hnodup, by simp⟩
  | (p, spec) :: l, main, r, h, hnamed, hnodup, hl => by
    obtain ⟨m, hm, hrest⟩ := Option.bind_eq_some_iff.1 h
    obtain ⟨q⟩ := mergeOpenapiSpecs_parts hm
    obtain ⟨hspec, hspecNodup⟩ := hl (p, spec) (by simp)
    obtain ⟨hmNamed, hmNames⟩ := q.tagNames_merged hnamed hspec
    have hmNodup : (tagNames m).Nodup := by
      rw [hmNames]
      refine List.Nodup.append hnodup (hspecNodup.filter _) ?_
      intro n hn hn'
      simpa [hn] using List.of_mem_filter hn'
    obtain ⟨hrNodup, hrNames⟩ :=
      tagNames_mergeAll hrest hmNamed hmNodup fun e he => hl e (List.mem_cons_of_mem _ he)
    refine ⟨hrNodup, fun n => ?_⟩
    have hm_iff : n ∈ tagNames m ↔ n ∈ tagNames main ∨ n ∈ tagNames spec.json := by
      rw [hmNames, List.mem_append, List.mem_filter]
      by_cases hn : n ∈ tagNames main <;> simp [hn]
    rw [hrNames, hm_iff]
    simp only [List.mem_cons, exists_eq_or_imp, or_assoc]

/-! ## Conservation -/

/-- What the fold of merges `main, reached` into `r` keeps. -/
structure Conserved (str : Json → String) (main : Json) (reached : List (String × Spec)) (r : Json) : Prop where
  main_path : ∀ k v, pathItem main k = some v → pathItem r k = some v
  main_component : ∀ s n c, component main s n = some c → component r s n = some c
  secondary_path : ∀ l₁ e l₂, reached = l₁ ++ e :: l₂ → ∀ k, (pathItem e.2.json k).isSome →
    hasPath main k = false → (∀ e' ∈ l₁, pathItem e'.2.json k = none) → (pathItem r k).isSome
  secondary_component : ∀ e ∈ reached, ∀ s n c, component e.2.json s n = some c →
    component r s (prefixed e.1 n) = some c
  /-- No merge overwrites a component that was there. -/
  no_overwrite : ∀ l₁ e l₂, reached = l₁ ++ e :: l₂ → ∀ d, mergeAll str main l₁ = some d →
    ∀ s n, (component e.2.json s n).isSome → component d s (prefixed e.1 n) = none
  tag_names : TagsNamed main → (tagNames main).Nodup →
    (∀ e ∈ reached, TagsNamed e.2.json ∧ (tagNames e.2.json).Nodup) →
    (tagNames r).Nodup ∧
      ∀ n, n ∈ tagNames r ↔ n ∈ tagNames main ∨ ∃ e ∈ reached, n ∈ tagNames e.2.json

/-- When nothing is overwritten: no prefixed name is a name of main or the prefixed name of another
secondary's component, in the same section. -/
structure NoCollision (main : Json) (reached : List (String × Spec)) : Prop where
  main_free : ∀ e ∈ reached, ∀ s n, (component e.2.json s n).isSome → component main s (prefixed e.1 n) = none
  disjoint : ∀ l₁ e l₂, reached = l₁ ++ e :: l₂ → ∀ e' ∈ l₁, ∀ s n n', (component e'.2.json s n').isSome →
    (component e.2.json s n).isSome → prefixed e'.1 n' ≠ prefixed e.1 n

theorem component_mergeAll_keep {str : Json → String} {t k : String} {c : Json} :
    ∀ {l : List (String × Spec)} {main r : Json}, mergeAll str main l = some r →
    component main t k = some c → (∀ e ∈ l, ∀ n, k = prefixed e.1 n → component e.2.json t n = none) →
    component r t k = some c
  | [], _, _, h, hc, _ => by cases h; exact hc
  | (p, spec) :: l, main, r, h, hc, hl => by
    obtain ⟨m, hm, hrest⟩ := Option.bind_eq_some_iff.1 h
    obtain ⟨q⟩ := mergeOpenapiSpecs_parts hm
    have hkeep : component m t k = component main t k :=
      q.component_merged_main spec.distinct (hl (p, spec) (by simp))
    exact component_mergeAll_keep hrest (hkeep.trans hc) fun e he => hl e (List.mem_cons_of_mem _ he)

section Conservation

variable {str : Json → String} {main r : Json} {l : List (String × Spec)}

theorem NoCollision.of_conserved (h : mergeAll str main l = some r) (hc : Conserved str main l r) :
    NoCollision main l where
  main_free := by
    intro e he s n hn
    obtain ⟨l₁, l₂, rfl⟩ := List.append_of_mem he
    obtain ⟨d, hd, -⟩ := mergeAll_append.1 h
    have hnone := hc.no_overwrite l₁ e l₂ rfl d hd s n hn
    by_contra hsome
    have hd_some := (component_mergeAll_isSome s _ hd).2 (Or.inl (Option.isSome_iff_ne_none.2 hsome))
    rw [hnone] at hd_some
    cases hd_some
  disjoint := by
    intro l₁ e l₂ heq e' he' s n n' hn' hn hprefixed
    subst heq
    obtain ⟨d, hd, -⟩ := mergeAll_append.1 h
    have hnone := hc.no_overwrite l₁ e l₂ rfl d hd s n hn
    have hd_some := (component_mergeAll_isSome s _ hd).2 (Or.inr ⟨e', he', n', hprefixed.symm, hn'⟩)
    rw [hnone] at hd_some
    cases hd_some

theorem NoCollision.component_main (hn : NoCollision main l) (h : mergeAll str main l = some r)
    {s n : String} {c : Json} (hc : component main s n = some c) : component r s n = some c := by
  refine component_mergeAll_keep h hc fun e he m hm => ?_
  by_contra hsome
  have hfree := hn.main_free e he s m (Option.isSome_iff_ne_none.2 hsome)
  rw [← hm, hc] at hfree
  cases hfree

theorem NoCollision.component_secondary (hn : NoCollision main l) (h : mergeAll str main l = some r)
    {e : String × Spec} (he : e ∈ l) {s n : String} {c : Json} (hc : component e.2.json s n = some c) :
    component r s (prefixed e.1 n) = some c := by
  obtain ⟨l₁, l₂, rfl⟩ := List.append_of_mem he
  obtain ⟨d, -, hd⟩ := mergeAll_append.1 h
  obtain ⟨m, hm, hrest⟩ := Option.bind_eq_some_iff.1 hd
  obtain ⟨q⟩ := mergeOpenapiSpecs_parts hm
  refine component_mergeAll_keep hrest (q.component_merged_prefixed e.2.distinct hc) fun e' he' m' hm' => ?_
  by_contra hsome
  obtain ⟨a, b, rfl⟩ := List.append_of_mem he'
  -- e' comes after e
  exact hn.disjoint (l₁ ++ e :: a) e' b (by simp) e (by simp) s m' n (by rw [hc]; rfl)
    (Option.isSome_iff_ne_none.2 hsome) hm'

theorem NoCollision.no_overwrite (hn : NoCollision main l) {l₁ l₂ : List (String × Spec)}
    {e : String × Spec} (hl : l = l₁ ++ e :: l₂) {d : Json} (hd : mergeAll str main l₁ = some d)
    {s n : String} (hs : (component e.2.json s n).isSome) : component d s (prefixed e.1 n) = none := by
  by_contra hsome
  rcases (component_mergeAll_isSome s _ hd).1 (Option.isSome_iff_ne_none.2 hsome) with
    hmain | ⟨e', he', n', hprefixed, hn'⟩
  · rw [hn.main_free e (by simp [hl]) s n hs] at hmain
    cases hmain
  · exact hn.disjoint l₁ e l₂ hl e' he' s n n' hn' hs hprefixed.symm

theorem secondary_path_mergeAll (h : mergeAll str main l = some r) {l₁ l₂ : List (String × Spec)}
    {e : String × Spec} (hl : l = l₁ ++ e :: l₂) {k : String} (hk : (pathItem e.2.json k).isSome)
    (hmain : hasPath main k = false) (hearlier : ∀ e' ∈ l₁, pathItem e'.2.json k = none) :
    (pathItem r k).isSome := by
  subst hl
  obtain ⟨d, hd, hrest⟩ := mergeAll_append.1 h
  obtain ⟨m, hm, hrest⟩ := Option.bind_eq_some_iff.1 hrest
  obtain ⟨q⟩ := mergeOpenapiSpecs_parts hm
  obtain ⟨v, hv⟩ := Option.isSome_iff_exists.1 hk
  have hstep := q.pathItem_merged_secondary (hasPath_mergeAll hd hmain hearlier) hv
  rw [pathItem_mergeAll hrest hstep]
  rfl

theorem Conserved.of_noCollision (h : mergeAll str main l = some r) (hn : NoCollision main l) :
    Conserved str main l r where
  main_path _ _ hv := pathItem_mergeAll h hv
  main_component _ _ _ hc := hn.component_main h hc
  secondary_path _ _ _ hl _ hk hmain hearlier := secondary_path_mergeAll h hl hk hmain hearlier
  secondary_component _ he _ _ _ hc := hn.component_secondary h he hc
  no_overwrite _ _ _ hl _ hd _ _ hs := hn.no_overwrite hl hd hs
  tag_names hnamed hnodup hl := tagNames_mergeAll h hnamed hnodup hl

end Conservation

/-! ## The answer -/

/-- The `x-bifrost-unreachable` entry is none of the parts `Conserved` reads. -/
theorem get?_unreachable {entries : Dict String Json} {v : Json} {key : String}
    (hkey : key ≠ "x-bifrost-unreachable") :
    (Json.obj (Dict.set entries "x-bifrost-unreachable" v)).get? key = (Json.obj entries).get? key := by
  simp [Json.get?, Json.items?, hkey]

/-- `Conserved` depends on the final document through its components, path items and tag names. -/
theorem Conserved.congr {str : Json → String} {main r r' : Json} {l : List (String × Spec)}
    (hc : ∀ s n, component r' s n = component r s n) (hp : ∀ k, pathItem r' k = pathItem r k)
    (ht : tagNames r' = tagNames r) (h : Conserved str main l r) : Conserved str main l r' where
  main_path k v hv := by rw [hp]; exact h.main_path k v hv
  main_component s n c hmc := by rw [hc]; exact h.main_component s n c hmc
  secondary_path l₁ e l₂ hl k hk hmain hearlier := by
    rw [hp]; exact h.secondary_path l₁ e l₂ hl k hk hmain hearlier
  secondary_component e he s n c hsc := by rw [hc]; exact h.secondary_component e he s n c hsc
  no_overwrite := h.no_overwrite
  tag_names := by rw [ht]; exact h.tag_names

theorem tagNames_unreachable (entries : Dict String Json) (v : Json) :
    tagNames (.obj (Dict.set entries "x-bifrost-unreachable" v)) = tagNames (.obj entries) := by
  simp [tagNames, tags, part?, Json.items?, Json.getOr]

/-- **Main.** What `_merged_openapi_response` serves keeps everything of main and of the secondaries it
reached exactly when no prefixed name is already taken. -/
theorem mergedOpenapiResponse_conserved (str : Json → String) (mainSpec : Spec) (secondaries : List Fetched)
    {resp : JSONResponse} (h : mergedOpenapiResponse str (.ok mainSpec) secondaries = some resp) :
    Conserved str mainSpec.json (reached secondaries) resp.content ↔
      NoCollision mainSpec.json (reached secondaries) := by
  obtain ⟨r, hr, hcontent⟩ := mergedOpenapiResponse_content h
  have hparts : (∀ s n, component resp.content s n = component r s n) ∧
      (∀ k, pathItem resp.content k = pathItem r k) ∧ tagNames resp.content = tagNames r := by
    rcases hcontent with heq | ⟨entries, v, rfl, heq⟩
    · rw [heq]; exact ⟨fun _ _ => rfl, fun _ => rfl, rfl⟩
    · rw [heq]
      refine ⟨fun s n => ?_, fun k => ?_, tagNames_unreachable entries v⟩
      · rw [component, get?_unreachable (by decide)]; rfl
      · rw [pathItem, get?_unreachable (by decide)]; rfl
  obtain ⟨hc, hp, ht⟩ := hparts
  constructor
  · intro hconserved
    exact NoCollision.of_conserved hr
      (hconserved.congr (fun s n => (hc s n).symm) (fun k => (hp k).symm) ht.symm)
  · intro hn
    exact (Conserved.of_noCollision hr hn).congr hc hp ht

/-! ## A prefixed name that is taken -/

/-- A document with one schema. -/
def schemaSpec (name type : String) : Spec where
  entries := [("components", .obj [("schemas", .obj [(name, .obj [("type", .str type)])])])]
  distinct := by
    simp [Json.distinctKeys, Json.distinctKeysEntries, Dict.Distinct]

def researchFetched : Fetched where
  secondaryPrefix := "Research"
  url := "http://research/openapi.json"
  answer := .ok (schemaSpec "Error" "object")

theorem mergedOpenapiResponse_conserved_research : ∃ resp,
    mergedOpenapiResponse (fun _ => "") (.ok (schemaSpec "Error" "string")) [researchFetched] = some resp ∧
    (Conserved (fun _ => "") (schemaSpec "Error" "string").json (reached [researchFetched]) resp.content ↔
      NoCollision (schemaSpec "Error" "string").json (reached [researchFetched])) :=
  ⟨_, rfl, mergedOpenapiResponse_conserved _ _ _ rfl⟩

/-- Main's own `Research_Error` is replaced by the prefixed copy of Research's `Error`. -/
theorem conserved_fails : ∃ resp,
    mergedOpenapiResponse (fun _ => "") (.ok (schemaSpec "Research_Error" "string")) [researchFetched] = some resp ∧
    component resp.content "schemas" "Research_Error" = some (.obj [("type", .str "object")]) ∧
    ¬ Conserved (fun _ => "") (schemaSpec "Research_Error" "string").json (reached [researchFetched])
      resp.content := by
  refine ⟨_, rfl, rfl, fun h => ?_⟩
  have hkept : some (Json.obj [("type", .str "object")]) = some (.obj [("type", .str "string")]) :=
    h.main_component "schemas" "Research_Error" _ rfl
  simp at hkept

end BifrostApi.Docs
