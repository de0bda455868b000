import BifrostApi.Docs.MergeOpenapi

/-!
# What one merge does to components, paths and tags

Reading accessors of a document (`component`, `pathItem`, `hasPath`, `tags`) and one lemma for each
that says what they answer on the merged document. Everything later is derived from these and from
`mergeOpenapiSpecs_parts`; the merge itself is unfolded only here.
-/

namespace BifrostApi.Docs

open Py

/-- `doc["components"][sectionKey][name]`. -/
def component (doc : Json) (sectionKey name : String) : Option Json :=
  ((doc.get? "components").bind (·.get? sectionKey)).bind (·.get? name)

/-- `doc["paths"][pathKey]`. -/
def pathItem (doc : Json) (pathKey : String) : Option Json := (doc.get? "paths").bind (·.get? pathKey)

/-- `doc.get(key) or default` on a document; `none` when it is no dict. -/
def part? (doc : Json) (key : String) (default : Json) : Option Json :=
  doc.items?.map fun d => Json.getOr d key default

/-- `path_key in (doc.get("paths") or {})`, false where `in` raises. -/
def hasPath (doc : Json) (pathKey : String) : Bool :=
  match part? doc "paths" (.obj []) with
  | some (.obj ps) => Dict.has ps pathKey
  | some other => inNonDict pathKey other = some true
  | none => false

/-- `list(doc.get("tags") or [])`. -/
def tags (doc : Json) : List Json := ((part? doc "tags" (.arr [])).bind Json.iter?).getD []

/-! ## Names and refs -/

theorem prefixed_inj {p m n : String} (h : prefixed p m = prefixed p n) : m = n := by
  simpa [prefixed] using h

theorem prefixed_ne (p n : String) : prefixed p n ≠ n := by
  intro h
  have hlen := congrArg (fun s => s.toList.length) h
  simp [prefixed] at hlen
  omega

/-- A local ref `#/components/<section>/<name>`, both segments without a slash. -/
def LocalRef (v sectionKey name : String) : Prop :=
  v = refTo sectionKey name ∧ '/' ∉ sectionKey.toList ∧ '/' ∉ name.toList

/-- The two segments of a local ref are determined by its text. -/
theorem LocalRef.unique {v s n s' n' : String} (h : LocalRef v s n) (h' : v = refTo s' n') :
    s' = s ∧ n' = n := by
  obtain ⟨hv, hs, hn⟩ := h
  have hsegments : ∀ a b : String, (refTo a b).toList = "#/components/".toList ++ (a.toList ++ '/' :: b.toList) := by
    intro a b
    unfold refTo
    simp only [String.toList_append, List.append_assoc]
    rfl
  have htext : s.toList ++ '/' :: n.toList = s'.toList ++ '/' :: n'.toList := by
    have hrefs := congrArg String.toList (hv.symm.trans h')
    rw [hsegments, hsegments] at hrefs
    exact List.append_cancel_left hrefs
  obtain ⟨h1, -, h2⟩ := (List.append_cons_inj_of_notMem hs hn).1 htext
  exact ⟨(String.toList_inj.1 h1).symm, (String.toList_inj.1 h2).symm⟩

/-! ## Lookup in the prefixed copies -/

theorem lookup_prefixNames (p : String) (names : Dict String Json) (n : String) :
    (prefixNames p names).lookup (prefixed p n) = names.lookup n := by
  induction names with
  | nil => rfl
  | cons kv names ih =>
    obtain ⟨m, c⟩ := kv
    have hstep : prefixNames p ((m, c) :: names) = (prefixed p m, c) :: prefixNames p names := rfl
    rw [hstep, Dict.lookup_cons_eq, Dict.lookup_cons_eq, ih]
    by_cases h : n = m
    · simp [h]
    · rw [if_neg h, if_neg fun e => h (prefixed_inj e)]

theorem exists_of_lookup_prefixNames {p : String} {names : Dict String Json} {k : String} {c : Json}
    (h : (prefixNames p names).lookup k = some c) : ∃ n, k = prefixed p n ∧ names.lookup n = some c := by
  obtain ⟨⟨n, c'⟩, -, heq⟩ := List.mem_map.1 (Dict.mem_of_lookup h)
  cases heq
  exact ⟨n, rfl, by rwa [lookup_prefixNames] at h⟩

theorem keys_dictSections_subset {sc : Dict String Json} {s : String}
    (h : s ∈ Dict.keys (dictSections sc)) : s ∈ Dict.keys sc := by
  obtain ⟨⟨s', names⟩, hmem, rfl⟩ := List.mem_map.1 h
  obtain ⟨⟨s₀, v⟩, hv, heq⟩ := List.mem_filterMap.1 hmem
  obtain ⟨names', -, heq'⟩ := Option.map_eq_some_iff.1 heq
  cases heq'
  exact Dict.mem_keys_of_mem hv

theorem lookup_dictSections {sc : Dict String Json} (hd : Dict.Distinct sc) (s : String) :
    (dictSections sc).lookup s = (sc.lookup s).bind Json.items? := by
  induction sc with
  | nil => rfl
  | cons kv sc ih =>
    obtain ⟨s', v⟩ := kv
    obtain ⟨hs', hd'⟩ := Dict.distinct_cons.1 hd
    have htail : s = s' → (dictSections sc).lookup s = none := fun e =>
      Dict.lookup_eq_none.2 fun hmem => hs' (e ▸ keys_dictSections_subset hmem)
    rw [Dict.lookup_cons_eq]
    by_cases h : s = s'
    · cases hv : v.items? with
      | none => simp [dictSections, hv, h] at htail ⊢; exact htail
      | some names => simp [dictSections, hv, h]
    · cases hv : v.items? with
      | none => simpa [dictSections, hv, h] using ih hd'
      | some names =>
        have hstep : dictSections ((s', v) :: sc) = (s', names) :: dictSections sc := by
          simp [dictSections, hv]
        rw [hstep, Dict.lookup_cons_eq, if_neg h, if_neg h, ih hd']

theorem distinct_dictSections {sc : Dict String Json} (hd : Dict.Distinct sc) :
    Dict.Distinct (dictSections sc) := by
  induction sc with
  | nil => exact List.nodup_nil
  | cons kv sc ih =>
    obtain ⟨s', v⟩ := kv
    obtain ⟨hs', hd'⟩ := Dict.distinct_cons.1 hd
    cases hv : v.items? with
    | none => simpa [dictSections, hv] using ih hd'
    | some names =>
      have hstep : dictSections ((s', v) :: sc) = (s', names) :: dictSections sc := by
        simp [dictSections, hv]
      rw [hstep]
      exact Dict.distinct_cons.2 ⟨fun hmem => hs' (keys_dictSections_subset hmem), ih hd'⟩

theorem distinct_prefixNames (p : String) {names : Dict String Json} (hd : Dict.Distinct names) :
    Dict.Distinct (prefixNames p names) := by
  have hkeys : Dict.keys (prefixNames p names) = (Dict.keys names).map (prefixed p) := by
    simp [Dict.keys, prefixNames]
  rw [Dict.Distinct, hkeys]
  exact hd.map fun _ _ h => prefixed_inj h

/-! ## The component loop -/

theorem component_addSection {cs C : Dict String Json} {s : String × Dict String Json}
    (hd : Dict.Distinct s.2) (h : addSection cs s = some C) (t k : String) :
    (C.lookup t).bind (·.get? k) =
      if t = s.1 then (s.2.lookup k).or ((cs.lookup t).bind (·.get? k)) else (cs.lookup t).bind (·.get? k) := by
  unfold addSection at h
  split at h
  · rename_i hnone
    cases h
    rw [Dict.lookup_set]
    by_cases ht : t = s.1
    · subst ht
      simp [hnone, Json.get?, Json.items?, Dict.lookup_update hd]
    · simp [ht]
  · rename_i names hnames
    cases h
    rw [Dict.lookup_set]
    by_cases ht : t = s.1
    · subst ht
      simp [hnames, Json.get?, Json.items?, Dict.lookup_update hd]
    · simp [ht]
  · cases h

theorem component_addSections {sections : Dict String (Dict String Json)} {cs C : Dict String Json}
    (hd : Dict.Distinct sections) (hn : ∀ s ∈ sections, Dict.Distinct s.2)
    (h : addSections cs sections = some C) (t k : String) :
    (C.lookup t).bind (·.get? k) =
      ((sections.lookup t).bind (·.lookup k)).or ((cs.lookup t).bind (·.get? k)) := by
  induction sections generalizing cs with
  | nil => simp [addSections] at h; simp [h]
  | cons s rest ih =>
    obtain ⟨hs, hd'⟩ := Dict.distinct_cons.1 hd
    obtain ⟨cs', hstep, hrest⟩ := Option.bind_eq_some_iff.1 h
    rw [ih hd' (fun r hr => hn r (List.mem_cons_of_mem _ hr)) hrest,
      component_addSection (hn s (by simp)) hstep, Dict.lookup_cons_eq]
    by_cases ht : t = s.1
    · subst ht
      simp [Dict.lookup_eq_none.2 hs]
    · simp [ht]

/-! ## Rewriting refs -/

/-- The value `_apply_ref_map` stores under `k` for `v`. -/
def applyRefMapEntry (refMap : Dict String String) (k : String) (v : Json) : Json :=
  match (refText k v).bind fun r => refMap.lookup r with
  | some v' => .str v'
  | none => applyRefMap refMap v

theorem applyRefMapEntries_eq (refMap : Dict String String) : ∀ kvs : Dict String Json,
    applyRefMapEntries refMap kvs = Dict.mapVal (applyRefMapEntry refMap) kvs
  | [] => rfl
  | (k, v) :: kvs => by rw [applyRefMapEntries, applyRefMapEntries_eq refMap kvs]; rfl

theorem applyRefMapList_eq (refMap : Dict String String) : ∀ xs : List Json,
    applyRefMapList refMap xs = xs.map (applyRefMap refMap)
  | [] => rfl
  | x :: xs => by rw [applyRefMapList, applyRefMapList_eq refMap xs]; rfl

theorem applyRefMap_eq_obj {refMap : Dict String String} {j : Json} {kvs : Dict String Json}
    (h : applyRefMap refMap j = .obj kvs) :
    ∃ kvs₀, j = .obj kvs₀ ∧ kvs = Dict.mapVal (applyRefMapEntry refMap) kvs₀ := by
  cases j with
  | obj kvs₀ =>
    rw [applyRefMap, applyRefMapEntries_eq] at h
    exact ⟨kvs₀, rfl, (Json.obj.inj h).symm⟩
  | arr xs => rw [applyRefMap] at h; cases h
  | null | bool _ | int _ | float _ | str _ => simp [applyRefMap] at h

theorem iter?_applyRefMap (refMap : Dict String String) (j : Json) :
    (applyRefMap refMap j).iter? = j.iter?.map (List.map (applyRefMap refMap)) := by
  cases j with
  | obj kvs =>
    rw [applyRefMap, applyRefMapEntries_eq]
    simp [Json.iter?, Dict.mapVal, applyRefMap]
  | arr xs => rw [applyRefMap, applyRefMapList_eq]; rfl
  | str s => simp [applyRefMap, Json.iter?]
  | null | bool _ | int _ | float _ => simp [applyRefMap, Json.iter?]

/-! ## The tag loop -/

theorem newTags_sublist {existing : List HashKey} : ∀ {ts added : List Json},
    newTags existing ts = some added → added.Sublist ts
  | [], _, h => by cases h; exact List.Sublist.refl _
  | tag :: ts, added, h => by
    cases tag with
    | obj kvs =>
      simp only [newTags, Option.bind_eq_bind, Option.bind_eq_some_iff, Option.pure_def,
        Option.some.injEq] at h
      obtain ⟨name, -, rest, hrest, rfl⟩ := h
      split
      · exact (newTags_sublist hrest).cons _
      · exact (newTags_sublist hrest).cons_cons _
    | null | bool _ | int _ | float _ | str _ | arr _ =>
      have htail : newTags existing ts = some added := h
      exact (newTags_sublist htail).cons _

/-- `tag["name"]` of a named tag. -/
def tagText : Json → Option String
  | .obj kvs => match kvs.lookup "name" with
    | some (.str n) => some n
    | _ => none
  | _ => none

/-- Every tag of the document is a dict with a text for its name. -/
def TagsNamed (doc : Json) : Prop := ∀ t ∈ tags doc, (tagText t).isSome

def tagNames (doc : Json) : List String := (tags doc).filterMap tagText

theorem tagText_eq_some {t : Json} {n : String} :
    tagText t = some n ↔ ∃ kvs, t = .obj kvs ∧ kvs.lookup "name" = some (.str n) := by
  unfold tagText
  constructor
  · intro h
    split at h
    · rename_i kvs
      split at h
      · rename_i n' hn'
        cases h
        exact ⟨kvs, rfl, hn'⟩
      · cases h
    · cases h
  · rintro ⟨kvs, rfl, hn⟩
    simp [hn]

theorem tagText_applyRefMap (refMap : Dict String String) (t : Json) (n : String)
    (h : tagText t = some n) : tagText (applyRefMap refMap t) = some n := by
  obtain ⟨kvs, rfl, hn⟩ := tagText_eq_some.1 h
  refine tagText_eq_some.2 ⟨_, by rw [applyRefMap, applyRefMapEntries_eq], ?_⟩
  rw [Dict.lookup_mapVal, hn]
  rfl

/-- The names main's tags list, as the set sees them. -/
theorem mapM_tagName {ts : List Json} (h : ∀ t ∈ ts, (tagText t).isSome) :
    (ts.filter Json.isDict).mapM tagName = some ((ts.filterMap tagText).map HashKey.str) := by
  induction ts with
  | nil => rfl
  | cons t ts ih =>
    obtain ⟨n, hn⟩ := Option.isSome_iff_exists.1 (h t (by simp))
    have hrest := ih fun t' ht' => h t' (List.mem_cons_of_mem _ ht')
    rw [List.filterMap_cons_some hn]
    obtain ⟨kvs, rfl, hname⟩ := tagText_eq_some.1 hn
    have hkey : tagName (.obj kvs) = some (.str n) := by
      simp [tagName, Json.get?, Json.items?, hname, hashKey]
    rw [List.filter_cons_of_pos (by rfl), List.mapM_cons, hkey, hrest]
    rfl

theorem newTags_named {existing : List String} : ∀ {ts added : List Json}, (∀ t ∈ ts, (tagText t).isSome) →
    newTags (existing.map HashKey.str) ts = some added →
    added.filterMap tagText = (ts.filterMap tagText).filter (fun n => n ∉ existing)
  | [], _, _, h => by cases h; rfl
  | t :: ts, added, hnamed, h => by
    obtain ⟨n, hn⟩ := Option.isSome_iff_exists.1 (hnamed t (by simp))
    obtain ⟨kvs, rfl, hname⟩ := tagText_eq_some.1 hn
    simp only [newTags, Option.bind_eq_bind, Option.bind_eq_some_iff, Option.pure_def,
      Option.some.injEq] at h
    obtain ⟨name, hkey, rest, hrest, rfl⟩ := h
    have hname' : name = .str n := by
      simpa [Json.getD, hname, hashKey] using hkey.symm
    subst hname'
    have ih := newTags_named (fun t' ht' => hnamed t' (List.mem_cons_of_mem _ ht')) hrest
    rw [List.filterMap_cons_some hn]
    by_cases hmem : n ∈ existing
    · simp [hmem, ih]
    · simp [hmem, ih, hn]

/-! ## The parts of a merge -/

/-- `doc.get(key) or {}` reads the same entries as `doc.get(key)`: a falsy value has none. -/
theorem get?_getOr (d : Dict String Json) (key k : String) :
    (Json.getOr d key (.obj [])).get? k = (d.lookup key).bind (·.get? k) := by
  unfold Json.getOr Json.orDefault
  cases hv : d.lookup key with
  | none => rfl
  | some v =>
    by_cases ht : v.truthy
    · simp [ht]
    · cases v <;> simp_all [Json.truthy, Json.get?, Json.items?]

theorem component_obj (m : Dict String Json) (s k : String) :
    component (.obj m) s k = ((Json.getOr m "components" (.obj [])).get? s).bind (·.get? k) := by
  rw [get?_getOr]; rfl

/-- A document with the merged parts set, and `key` read back from it. -/
theorem lookup_merged (m : Dict String Json) (info paths ts comps : Json) (key : String) :
    List.lookup key (Dict.set (Dict.set (Dict.set (Dict.set m "info" info) "paths" paths) "tags" ts)
      "components" comps) =
      if key = "components" then some comps else if key = "tags" then some ts
      else if key = "paths" then some paths else if key = "info" then some info else m.lookup key := by
  simp only [Dict.lookup_set]

/-- The ref map of a secondary's components. -/
def refMapOf (sc : Dict String Json) (p : String) : Dict String String := (prefixComponents sc p).2

/-- Everything a successful merge read and wrote. -/
structure MergeParts (str : Json → String) (main secondary : Json) (p : String) (merged : Json) where
  m : Dict String Json
  s : Dict String Json
  mainInfo : Dict String Json
  secInfo : Dict String Json
  sc : Dict String Json
  secPaths : Dict String Json
  secTags : List Json
  paths : Json
  mainTags : List Json
  added : List Json
  existing : List HashKey
  components : Json
  main_eq : main = .obj m
  secondary_eq : secondary = .obj s
  mainInfo_eq : Json.getD m "info" (.obj []) = .obj mainInfo
  sc_eq : Json.getOr s "components" (.obj []) = .obj sc
  secPaths_eq : applyRefMap (refMapOf sc p) (Json.getOr s "paths" (.obj [])) = .obj secPaths
  secTags_eq : (applyRefMap (refMapOf sc p) (Json.getOr s "tags" (.arr []))).iter? = some secTags
  paths_eq : addPaths (Json.getOr m "paths" (.obj [])) secPaths = some paths
  mainTags_eq : (Json.getOr m "tags" (.arr [])).iter? = some mainTags
  existing_eq : (mainTags.filter Json.isDict).mapM tagName = some existing
  added_eq : newTags existing secTags = some added
  components_eq : addComponents (Json.getOr m "components" (.obj [])) (prefixComponents sc p).1 = some components
  merged_eq : merged = .obj (Dict.set (Dict.set (Dict.set (Dict.set m "info" (mergedInfo str mainInfo secInfo))
    "paths" paths) "tags" (.arr (mainTags ++ added))) "components" components)

theorem mergeOpenapiSpecs_parts {str : Json → String} {main secondary : Json} {p : String} {merged : Json}
    (h : mergeOpenapiSpecs str main secondary p = some merged) :
    Nonempty (MergeParts str main secondary p merged) := by
  simp only [mergeOpenapiSpecs, Option.bind_eq_bind, Option.bind_eq_some_iff, Option.pure_def,
    Option.some.injEq] at h
  obtain ⟨m, hm, s, hs, mainInfo, hmi, secInfo, -, sc, hsc, secPaths, hsp, secTags, hst, paths, hp,
    mainTags, hmt, ts, hts, comps, hc, hmerged⟩ := h
  simp only [addTags, Option.bind_eq_bind, Option.bind_eq_some_iff, Option.pure_def,
    Option.some.injEq] at hts
  obtain ⟨existing, hex, added, hadd, rfl⟩ := hts
  exact ⟨⟨m, s, mainInfo, secInfo, sc, secPaths, secTags, paths, mainTags, added, existing, comps,
    Json.items?_eq_some.1 hm, Json.items?_eq_some.1 hs, Json.items?_eq_some.1 hmi,
    Json.items?_eq_some.1 hsc, Json.items?_eq_some.1 hsp, hst, hp, hmt, hex, hadd, hc, hmerged.symm⟩⟩

/-! ## Reading the merged document -/

namespace MergeParts

variable {str : Json → String} {main secondary : Json} {p : String} {merged : Json}

theorem get?_merged (q : MergeParts str main secondary p merged) (key : String) :
    merged.get? key =
      if key = "components" then some q.components else if key = "tags" then some (.arr (q.mainTags ++ q.added))
      else if key = "paths" then some q.paths
      else if key = "info" then some (mergedInfo str q.mainInfo q.secInfo) else main.get? key := by
  have hmain : main.get? key = q.m.lookup key := congrArg (Json.get? · key) q.main_eq
  rw [hmain]
  exact (congrArg (Json.get? · key) q.merged_eq).trans (lookup_merged ..)

theorem distinct_sc (q : MergeParts str main secondary p merged) (hd : secondary.distinctKeys = true) :
    (Json.obj q.sc).distinctKeys = true := by
  have hd' := hd
  rw [q.secondary_eq] at hd'
  have hcomps : (Json.getOr q.s "components" (.obj [])).distinctKeys = true :=
    Json.distinctKeys_getOr hd' (by decide)
  rwa [q.sc_eq] at hcomps

theorem component_secondary (q : MergeParts str main secondary p merged) (t n : String) :
    component secondary t n = (q.sc.lookup t).bind (·.get? n) := by
  have hobj : component secondary t n = component (.obj q.s) t n :=
    congrArg (component · t n) q.secondary_eq
  rw [hobj, component_obj, q.sc_eq]; rfl

theorem distinct_names (q : MergeParts str main secondary p merged) (hd : secondary.distinctKeys = true) :
    ∀ t ∈ (prefixComponents q.sc p).1, Dict.Distinct t.2 := by
  intro t ht
  obtain ⟨⟨key, names⟩, hmem, rfl⟩ := List.mem_map.1 ht
  obtain ⟨⟨key', v⟩, hv, heq⟩ := List.mem_filterMap.1 hmem
  obtain ⟨names', hitems, heq'⟩ := Option.map_eq_some_iff.1 heq
  cases heq'
  have hv' := Json.items?_eq_some.1 hitems
  simp only at hv'
  subst hv'
  have hsc := q.distinct_sc hd
  simp only [Json.distinctKeys, Bool.and_eq_true] at hsc
  exact distinct_prefixNames p (Json.distinct_of_obj (Json.distinctKeysEntries_mem hsc.2 hv))

/-- A component of the merged document is a prefixed copy, else main's own. -/
theorem component_merged (q : MergeParts str main secondary p merged) (hd : secondary.distinctKeys = true)
    (t k : String) :
    component merged t k =
      (((prefixComponents q.sc p).1.lookup t).bind (·.lookup k)).or (component main t k) := by
  have hcomps : component merged t k = (q.components.get? t).bind (·.get? k) := by
    unfold component; rw [q.get?_merged]; rfl
  have hmain : component main t k = component (.obj q.m) t k := congrArg (component · t k) q.main_eq
  rw [hcomps, hmain, component_obj]
  have hC := q.components_eq
  unfold addComponents at hC
  split at hC
  · rename_i cs hcs
    obtain ⟨C, hC', heq⟩ := Option.map_eq_some_iff.1 hC
    rw [← heq, hcs]
    refine component_addSections ?_ (q.distinct_names hd) hC' t k
    rw [Dict.Distinct, prefixComponents, Dict.keys_mapVal]
    exact distinct_dictSections (Json.distinct_of_obj (q.distinct_sc hd))
  · split at hC
    · rename_i hempty
      rw [← Option.some.inj hC, hempty]
      rfl
    · cases hC

theorem lookup_prefixComponents (q : MergeParts str main secondary p merged)
    (hd : secondary.distinctKeys = true) (t k : String) :
    ((prefixComponents q.sc p).1.lookup t).bind (·.lookup k) =
      ((q.sc.lookup t).bind Json.items?).bind (fun names => (prefixNames p names).lookup k) := by
  have hlookup : (prefixComponents q.sc p).1.lookup t =
      ((dictSections q.sc).lookup t).map (prefixNames p) :=
    Dict.lookup_mapVal (fun _ names => prefixNames p names) _ t
  rw [hlookup, lookup_dictSections (Json.distinct_of_obj (q.distinct_sc hd)), Option.bind_map]
  rfl

/-- Every component of the secondary is in the merged document under its prefixed name. -/
theorem component_merged_prefixed (q : MergeParts str main secondary p merged)
    (hd : secondary.distinctKeys = true) {t n : String} {c : Json} (h : component secondary t n = some c) :
    component merged t (prefixed p n) = some c := by
  rw [q.component_merged hd, q.lookup_prefixComponents hd]
  rw [q.component_secondary] at h
  obtain ⟨v, hv, hc⟩ := Option.bind_eq_some_iff.1 h
  obtain ⟨names, hnames, hc'⟩ := Option.bind_eq_some_iff.1 hc
  simp [hv, hnames, lookup_prefixNames, hc']

/-- A name that is not the prefixed name of a component of the secondary keeps main's component. -/
theorem component_merged_main (q : MergeParts str main secondary p merged)
    (hd : secondary.distinctKeys = true) {t k : String}
    (h : ∀ n, k = prefixed p n → component secondary t n = none) :
    component merged t k = component main t k := by
  rw [q.component_merged hd, q.lookup_prefixComponents hd]
  cases hk : ((q.sc.lookup t).bind Json.items?).bind (fun names => (prefixNames p names).lookup k) with
  | none => rfl
  | some c =>
    obtain ⟨names, hnames, hc⟩ := Option.bind_eq_some_iff.1 hk
    obtain ⟨v, hv, hitems⟩ := Option.bind_eq_some_iff.1 hnames
    obtain ⟨n, rfl, hn⟩ := exists_of_lookup_prefixNames hc
    have hsome : component secondary t n = some c := by
      rw [q.component_secondary]
      simp [hv, Json.get?, hitems, hn]
    rw [h n rfl] at hsome
    cases hsome

/-- A component of the merged document is the prefixed copy of a component of the secondary, or
main's own under a name the secondary does not take. -/
theorem component_merged_cases (q : MergeParts str main secondary p merged)
    (hd : secondary.distinctKeys = true) (t k : String) :
    (∃ n c, k = prefixed p n ∧ component secondary t n = some c ∧ component merged t k = some c) ∨
    ((∀ n, k = prefixed p n → component secondary t n = none) ∧
      component merged t k = component main t k) := by
  by_cases h : ∀ n, k = prefixed p n → component secondary t n = none
  · exact Or.inr ⟨h, q.component_merged_main hd h⟩
  · push Not at h
    obtain ⟨n, rfl, hn⟩ := h
    obtain ⟨c, hc⟩ := Option.ne_none_iff_exists'.1 hn
    exact Or.inl ⟨n, c, rfl, hc, q.component_merged_prefixed hd hc⟩

/-- No merge removes a component. -/
theorem component_merged_isSome (q : MergeParts str main secondary p merged)
    (hd : secondary.distinctKeys = true) {t k : String} (h : (component main t k).isSome) :
    (component merged t k).isSome := by
  rw [q.component_merged hd, Option.isSome_or, h, Bool.or_true]

/-! ### Paths -/

/-- The secondary's `paths`, before its refs are rewritten. -/
theorem secPaths_spec (q : MergeParts str main secondary p merged) :
    ∃ ps, part? secondary "paths" (.obj []) = some (.obj ps) ∧
      q.secPaths = Dict.mapVal (applyRefMapEntry (refMapOf q.sc p)) ps := by
  obtain ⟨ps, hps, hsec⟩ := applyRefMap_eq_obj q.secPaths_eq
  refine ⟨ps, ?_, hsec⟩
  have hobj : part? secondary "paths" (.obj []) = part? (.obj q.s) "paths" (.obj []) :=
    congrArg (part? · "paths" (.obj [])) q.secondary_eq
  rw [hobj]
  exact congrArg some hps

theorem pathItem_main (q : MergeParts str main secondary p merged) (k : String) :
    pathItem main k = (Json.getOr q.m "paths" (.obj [])).get? k := by
  have hobj : pathItem main k = pathItem (.obj q.m) k := congrArg (pathItem · k) q.main_eq
  rw [hobj, get?_getOr]; rfl

theorem part?_main (q : MergeParts str main secondary p merged) (key : String) (default : Json) :
    part? main key default = some (Json.getOr q.m key default) :=
  congrArg (part? · key default) q.main_eq

theorem part?_merged (q : MergeParts str main secondary p merged) (key : String) (default : Json) :
    part? merged key default = some (Json.orDefault (merged.get? key) default) := by
  have hget := congrArg (fun j => some (Json.orDefault (j.get? key) default)) q.merged_eq
  exact (congrArg (part? · key default) q.merged_eq).trans hget.symm

theorem get?_paths (q : MergeParts str main secondary p merged) : merged.get? "paths" = some q.paths := by
  rw [q.get?_merged]; rfl

/-- A path item of main is in the merged document unchanged. -/
theorem pathItem_merged_main (q : MergeParts str main secondary p merged) {k : String} {v : Json}
    (h : pathItem main k = some v) : pathItem merged k = some v := by
  rw [q.pathItem_main] at h
  have hp := q.paths_eq
  unfold addPaths at hp
  split at hp
  · rename_i ps hps
    have hk : ps.lookup k = some v := by rw [hps] at h; exact h
    rw [pathItem, q.get?_paths, ← Option.some.inj hp]
    exact (Dict.lookup_fill ps q.secPaths k).trans (by rw [hk]; rfl)
  · rename_i hother
    obtain ⟨ps, hps, -⟩ := Option.bind_eq_some_iff.1 h
    exact absurd (Json.items?_eq_some.1 hps) (hother ps)

theorem pathItem_secondary (q : MergeParts str main secondary p merged) {ps : Dict String Json}
    (hps : part? secondary "paths" (.obj []) = some (.obj ps)) (k : String) :
    pathItem secondary k = ps.lookup k := by
  have hobj : pathItem secondary k = (Json.getOr q.s "paths" (.obj [])).get? k := by
    have := congrArg (pathItem · k) q.secondary_eq
    rw [this, get?_getOr]; rfl
  have hpart : part? secondary "paths" (.obj []) = some (Json.getOr q.s "paths" (.obj [])) :=
    congrArg (part? · "paths" (.obj [])) q.secondary_eq
  rw [hobj, ← Option.some.inj (hps.symm.trans hpart)]
  rfl

/-- A path of the secondary that main lacks is in the merged document, its refs rewritten. -/
theorem pathItem_merged_secondary (q : MergeParts str main secondary p merged) {k : String} {v : Json}
    (hmain : hasPath main k = false) (h : pathItem secondary k = some v) :
    pathItem merged k = some (applyRefMapEntry (refMapOf q.sc p) k v) := by
  obtain ⟨ps, hps, hsec⟩ := q.secPaths_spec
  have hv : ps.lookup k = some v := by rw [← q.pathItem_secondary hps, h]
  have hsecv : q.secPaths.lookup k = some (applyRefMapEntry (refMapOf q.sc p) k v) := by
    rw [hsec, Dict.lookup_mapVal, hv]; rfl
  have hp := q.paths_eq
  unfold hasPath at hmain
  rw [q.part?_main] at hmain
  unfold addPaths at hp
  split at hp
  · rename_i main_ps hmps
    rw [hmps] at hmain
    have hnone : main_ps.lookup k = none := Dict.has_eq_false.1 hmain
    rw [pathItem, q.get?_paths, ← Option.some.inj hp]
    exact (Dict.lookup_fill main_ps q.secPaths k).trans (by rw [hnone, hsecv]; rfl)
  · rename_i hother
    split at hp
    · rename_i hall
      have hin := List.all_eq_true.1 hall _ (Dict.mem_of_lookup hsecv)
      split at hmain
      · rename_i ps' hps'
        exact absurd (Option.some.inj hps') (hother ps')
      · rename_i other hother' heq
        cases Option.some.inj heq
        rw [hin] at hmain
        cases hmain
      · rename_i hnone
        cases hnone
    · cases hp

theorem orDefault_obj (kvs : Dict String Json) : Json.orDefault (some (.obj kvs)) (.obj []) = .obj kvs := by
  cases kvs <;> rfl

theorem orDefault_getOr (d : Dict String Json) (key : String) (default : Json) :
    Json.orDefault (some (Json.getOr d key default)) default = Json.getOr d key default := by
  unfold Json.getOr Json.orDefault
  cases d.lookup key with
  | none => simp
  | some v => by_cases ht : v.truthy <;> simp [ht]

theorem part?_paths (q : MergeParts str main secondary p merged) :
    part? merged "paths" (.obj []) = some q.paths := by
  rw [q.part?_merged, q.get?_paths]
  have hp := q.paths_eq
  unfold addPaths at hp
  split at hp
  · rw [← Option.some.inj hp, orDefault_obj]
  · split at hp
    · rw [← Option.some.inj hp, orDefault_getOr]
    · cases hp

/-- A path of the merged document is main's or the secondary's. -/
theorem hasPath_merged (q : MergeParts str main secondary p merged) {k : String}
    (h : hasPath merged k = true) : hasPath main k = true ∨ (pathItem secondary k).isSome := by
  unfold hasPath at h ⊢
  rw [q.part?_main]
  rw [q.part?_paths] at h
  have hp := q.paths_eq
  unfold addPaths at hp
  split at hp
  · rename_i ps hps
    rw [← Option.some.inj hp] at h
    simp only [Dict.has, Dict.lookup_fill, Option.isSome_or, Bool.or_eq_true] at h
    rcases h with hmain | hsec
    · rw [hps]
      exact Or.inl hmain
    · obtain ⟨ps', hps', hsec'⟩ := q.secPaths_spec
      rw [hsec', Dict.lookup_mapVal, Option.isSome_map] at hsec
      rw [q.pathItem_secondary hps']
      exact Or.inr hsec
  · split at hp
    · rw [← Option.some.inj hp] at h
      exact Or.inl h
    · cases hp

/-! ### Tags -/

theorem tags_main (q : MergeParts str main secondary p merged) : tags main = q.mainTags := by
  rw [tags, q.part?_main]
  exact congrArg (·.getD []) q.mainTags_eq

theorem tags_merged (q : MergeParts str main secondary p merged) :
    tags merged = q.mainTags ++ q.added := by
  rw [tags, q.part?_merged, q.get?_merged]
  cases q.mainTags ++ q.added <;> rfl

theorem tags_secondary (q : MergeParts str main secondary p merged) :
    q.secTags = (tags secondary).map (applyRefMap (refMapOf q.sc p)) := by
  have hsec : tags secondary = ((Json.getOr q.s "tags" (.arr [])).iter?).getD [] :=
    congrArg tags q.secondary_eq
  have hmap := q.secTags_eq
  rw [iter?_applyRefMap] at hmap
  obtain ⟨ts, hts, heq⟩ := Option.map_eq_some_iff.1 hmap
  rw [hsec, hts, ← heq]
  rfl

/-- The names of the merged tags: main's, then those of the secondary main lacks. -/
theorem tagNames_merged (q : MergeParts str main secondary p merged) (hm : TagsNamed main)
    (hs : TagsNamed secondary) :
    TagsNamed merged ∧ tagNames merged = tagNames main ++ (tagNames secondary).filter (· ∉ tagNames main) := by
  have hnamed : ∀ t ∈ q.secTags, (tagText t).isSome := by
    rw [q.tags_secondary]
    rintro _ ht
    obtain ⟨t, ht', rfl⟩ := List.mem_map.1 ht
    obtain ⟨n, hn⟩ := Option.isSome_iff_exists.1 (hs t ht')
    rw [tagText_applyRefMap _ t n hn]
    rfl
  have htexts : q.secTags.filterMap tagText = tagNames secondary := by
    rw [q.tags_secondary, List.filterMap_map, tagNames]
    refine List.filterMap_congr fun t ht => ?_
    obtain ⟨n, hn⟩ := Option.isSome_iff_exists.1 (hs t ht)
    rw [Function.comp_apply, tagText_applyRefMap _ t n hn, hn]
  have hmain : ∀ t ∈ q.mainTags, (tagText t).isSome := by
    rw [← q.tags_main]; exact hm
  have hexisting : q.existing = (tagNames main).map HashKey.str := by
    rw [tagNames, q.tags_main]
    exact Option.some.inj (q.existing_eq.symm.trans (mapM_tagName hmain))
  have hadded := q.added_eq
  rw [hexisting] at hadded
  constructor
  · rw [TagsNamed, q.tags_merged]
    intro t ht
    rcases List.mem_append.1 ht with hmt | hat
    · exact hmain t hmt
    · exact hnamed t ((newTags_sublist hadded).subset hat)
  · rw [tagNames, q.tags_merged, List.filterMap_append, newTags_named hnamed hadded, htexts,
      ← q.tags_main]
    rfl

end MergeParts

end BifrostApi.Docs
