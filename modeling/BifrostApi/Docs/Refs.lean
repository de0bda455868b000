import BifrostApi.Docs.MergeSpec

/-!
# Where the refs of a merged document lead

`refs` lists the text of every `$ref` of a value, in document order. A ref is local when it has the
form `#/components/<section>/<name>`. `RefClosure` says that a merge keeps every local ref pointing at
what it named; `RefsSafe` is when it does.

`_prefix_components` (merge_openapi.py:41) copies a schema as it is (:54), while the paths and the tags
next to it go through `_apply_ref_map`: the refs between the secondary's own components keep their old
names (`refClosure_fails`).
-/

namespace BifrostApi.Docs

open Py

mutual
def refs : Json → List String
  | .obj kvs => refsEntries kvs
  | .arr xs => refsList xs
  | _ => []
def refsList : List Json → List String
  | [] => []
  | x :: xs => refs x ++ refsList xs
def refsEntries : List (String × Json) → List String
  | [] => []
  | (k, v) :: kvs => (match refText k v with
    | some r => [r]
    | none => refs v) ++ refsEntries kvs
end

/-- The refs of one dict entry: a text under `$ref` is one. -/
def entryRefs (k : String) (v : Json) : List String :=
  match refText k v with
  | some r => [r]
  | none => refs v

theorem refsList_eq : ∀ xs : List Json, refsList xs = xs.flatMap refs
  | [] => rfl
  | x :: xs => by rw [refsList, refsList_eq xs]; rfl

theorem refsEntries_eq : ∀ kvs : Dict String Json,
    refsEntries kvs = kvs.flatMap fun kv => entryRefs kv.1 kv.2
  | [] => rfl
  | (k, v) :: kvs => by rw [refsEntries, refsEntries_eq kvs]; rfl

theorem mem_refs_obj {kvs : Dict String Json} {r : String} :
    r ∈ refs (.obj kvs) ↔ ∃ k v, (k, v) ∈ kvs ∧ r ∈ entryRefs k v := by
  rw [refs, refsEntries_eq]
  simp only [List.mem_flatMap, Prod.exists]

theorem mem_refs_arr {xs : List Json} {r : String} : r ∈ refs (.arr xs) ↔ ∃ x ∈ xs, r ∈ refs x := by
  rw [refs, refsList_eq]
  simp only [List.mem_flatMap]

/-- Only text under `$ref` is a ref of its own. -/
theorem entryRefs_of_ne {k : String} (h : k ≠ "$ref") (v : Json) : entryRefs k v = refs v := by
  simp [entryRefs, refText, h]

theorem entryRefs_obj (k : String) (kvs : Dict String Json) : entryRefs k (.obj kvs) = refs (.obj kvs) := by
  unfold entryRefs refText
  split <;> simp_all

theorem mem_entryRefs {k r : String} {v : Json} (h : r ∈ refs v) : r ∈ entryRefs k v := by
  unfold entryRefs
  split
  · rename_i r' hr
    unfold refText at hr
    split at hr
    · split at hr
      · simp [refs] at h
      · cases hr
    · cases hr
  · exact h

theorem mem_refs_of_get? {doc v : Json} {k r : String} (h : doc.get? k = some v) (hr : r ∈ entryRefs k v) :
    r ∈ refs doc := by
  obtain ⟨kvs, hkvs, hv⟩ := Option.bind_eq_some_iff.1 h
  rw [Json.items?_eq_some.1 hkvs]
  exact mem_refs_obj.2 ⟨k, v, Dict.mem_of_lookup hv, hr⟩

/-- `doc.get(key) or default` has no refs but those of `doc`, when the default has none. -/
theorem mem_refs_getOr {d : Dict String Json} {key r : String} {default : Json} (hdef : refs default = [])
    (h : r ∈ refs (Json.getOr d key default)) : r ∈ refs (.obj d) := by
  unfold Json.getOr Json.orDefault at h
  split at h
  · rename_i v hv
    split at h
    · exact mem_refs_obj.2 ⟨key, v, Dict.mem_of_lookup hv, mem_entryRefs h⟩
    · simp [hdef] at h
  · simp [hdef] at h

/-- The items a value iterates over have no refs but its own. -/
theorem mem_refs_iter? {j x : Json} {xs : List Json} {r : String} (h : j.iter? = some xs) (hx : x ∈ xs)
    (hr : r ∈ refs x) : r ∈ refs j := by
  cases j with
  | arr ys => cases h; exact mem_refs_arr.2 ⟨x, hx, hr⟩
  | obj kvs =>
    cases h
    obtain ⟨kv, -, rfl⟩ := List.mem_map.1 hx
    simp [refs] at hr
  | str s =>
    cases h
    obtain ⟨c, -, rfl⟩ := List.mem_map.1 hx
    simp [refs] at hr
  | null | bool _ | int _ | float _ => cases h

/-! ## Rewriting -/

/-- What `_apply_ref_map` makes of a ref: `ref_map[v]` if it is there, else the ref itself. -/
def rewriteRef (refMap : Dict String String) (r : String) : String := (refMap.lookup r).getD r

/-- One entry, given what the recursion does below its value. -/
theorem entryRefs_applyRefMapEntry {refMap : Dict String String} {v : Json} (k : String)
    (hv : refs (applyRefMap refMap v) = (refs v).map (rewriteRef refMap)) :
    entryRefs k (applyRefMapEntry refMap k v) = (entryRefs k v).map (rewriteRef refMap) := by
  by_cases hk : k = "$ref"
  · subst hk
    cases v with
    | str s =>
      cases hs : refMap.lookup s with
      | none => simp [entryRefs, applyRefMapEntry, refText, rewriteRef, applyRefMap, hs]
      | some s' => simp [entryRefs, applyRefMapEntry, refText, rewriteRef, hs]
    | obj _ | arr _ => exact hv
    | null | bool _ | int _ | float _ => rfl
  · rw [entryRefs_of_ne hk, entryRefs_of_ne hk, ← hv]
    simp [applyRefMapEntry, refText, hk]

mutual
theorem refs_applyRefMap (refMap : Dict String String) : ∀ j : Json,
    refs (applyRefMap refMap j) = (refs j).map (rewriteRef refMap)
  | .obj kvs => by rw [applyRefMap, refs, refs, refsEntries_applyRefMap refMap kvs]
  | .arr xs => by rw [applyRefMap, refs, refs, refsList_applyRefMap refMap xs]
  | .null | .bool _ | .int _ | .float _ | .str _ => rfl
theorem refsList_applyRefMap (refMap : Dict String String) : ∀ xs : List Json,
    refsList (applyRefMapList refMap xs) = (refsList xs).map (rewriteRef refMap)
  | [] => rfl
  | x :: xs => by
    rw [applyRefMapList, refsList, refsList, List.map_append, refs_applyRefMap refMap x,
      refsList_applyRefMap refMap xs]
theorem refsEntries_applyRefMap (refMap : Dict String String) : ∀ kvs : List (String × Json),
    refsEntries (applyRefMapEntries refMap kvs) = (refsEntries kvs).map (rewriteRef refMap)
  | [] => rfl
  | (k, v) :: kvs => by
    have hentry := entryRefs_applyRefMapEntry k (refs_applyRefMap refMap v)
    have hrest := refsEntries_applyRefMap refMap kvs
    rw [applyRefMapEntries, refsEntries, refsEntries, List.map_append, hrest]
    exact congrArg (· ++ _) hentry
end

/-! ## The ref map -/

/-- The writes of the two loops of `_prefix_components` (:49-57). -/
theorem mem_refWrites {p r r' : String} {sections : Dict String (Dict String Json)} :
    (r, r') ∈ sections.flatMap (fun s => refWrites p s.1 s.2) ↔
      ∃ s names n c, (s, names) ∈ sections ∧ (n, c) ∈ names ∧ r = refTo s n ∧ r' = refTo s (prefixed p n) := by
  simp only [List.mem_flatMap, refWrites, List.mem_map, Prod.exists, Prod.mk.injEq]
  constructor
  · rintro ⟨s, names, hs, n, c, hn, hr, hr'⟩
    exact ⟨s, names, n, c, hs, hn, hr.symm, hr'.symm⟩
  · rintro ⟨s, names, n, c, hs, hn, hr, hr'⟩
    exact ⟨s, names, hs, n, c, hn, hr.symm, hr'.symm⟩

namespace MergeParts

variable {str : Json → String} {main secondary : Json} {p : String} {merged : Json}

/-- An entry of a dict section is a component. -/
theorem component_of_mem (q : MergeParts str main secondary p merged) (hd : secondary.distinctKeys = true)
    {s n : String} {names : Dict String Json} {c : Json} (hs : (s, names) ∈ dictSections q.sc)
    (hn : (n, c) ∈ names) : component secondary s n = some c := by
  have hsc := q.distinct_sc hd
  have hlookup := Dict.lookup_of_mem (distinct_dictSections (Json.distinct_of_obj hsc)) hs
  rw [lookup_dictSections (Json.distinct_of_obj hsc)] at hlookup
  obtain ⟨v, hv, hitems⟩ := Option.bind_eq_some_iff.1 hlookup
  have hnames : Dict.Distinct names := by
    rw [Json.items?_eq_some.1 hitems] at hv
    exact Json.distinct_of_obj (Json.distinctKeys_of_lookup hsc hv)
  rw [q.component_secondary]
  simp [hv, Json.get?, hitems, Dict.lookup_of_mem hnames hn]

/-- Every write renames a component the secondary has. -/
theorem component_of_mem_refWrites (q : MergeParts str main secondary p merged)
    (hd : secondary.distinctKeys = true) {r r' : String}
    (h : (r, r') ∈ (dictSections q.sc).flatMap fun s => refWrites p s.1 s.2) :
    ∃ s n c, component secondary s n = some c ∧ r = refTo s n ∧ r' = refTo s (prefixed p n) := by
  obtain ⟨s, names, n, c, hs, hn, hr, hr'⟩ := mem_refWrites.1 h
  exact ⟨s, n, c, q.component_of_mem hd hs hn, hr, hr'⟩

theorem lookup_refMapOf (q : MergeParts str main secondary p merged) (hd : secondary.distinctKeys = true)
    {r r' : String} (h : (refMapOf q.sc p).lookup r = some r') :
    ∃ s n c, component secondary s n = some c ∧ r = refTo s n ∧ r' = refTo s (prefixed p n) := by
  rcases Dict.mem_update (Dict.mem_of_lookup h) with hwrite | hnil
  · exact q.component_of_mem_refWrites hd hwrite
  · cases hnil

/-- A local ref to a component of the secondary is renamed to the prefixed copy. -/
theorem rewriteRef_local (q : MergeParts str main secondary p merged) (hd : secondary.distinctKeys = true)
    {v s n : String} {c : Json} (hv : LocalRef v s n) (hc : component secondary s n = some c) :
    rewriteRef (refMapOf q.sc p) v = refTo s (prefixed p n) := by
  have hlookup : (refMapOf q.sc p).lookup v = some (refTo s (prefixed p n)) := by
    refine Dict.lookup_update_of_const [] ?_ ?_
    · rw [q.component_secondary] at hc
      obtain ⟨section', hs, hn⟩ := Option.bind_eq_some_iff.1 hc
      obtain ⟨names, hitems, hn'⟩ := Option.bind_eq_some_iff.1 hn
      have hsec : (dictSections q.sc).lookup s = some names := by
        rw [lookup_dictSections (Json.distinct_of_obj (q.distinct_sc hd)), hs]
        exact hitems
      exact mem_refWrites.2 ⟨s, names, n, c, Dict.mem_of_lookup hsec, Dict.mem_of_lookup hn', hv.1, rfl⟩
    · intro v' hv'
      obtain ⟨s', n', c', -, hr, rfl⟩ := q.component_of_mem_refWrites hd hv'
      obtain ⟨rfl, rfl⟩ := hv.unique hr
      rfl
  rw [rewriteRef, hlookup]
  rfl

end MergeParts

/-! ## The refs of a merged document -/

theorem prefixed_ne_ref (p n : String) : prefixed p n ≠ "$ref" := by
  intro h
  have hmem : '_' ∈ (prefixed p n).toList := by simp [prefixed]
  rw [h] at hmem
  revert hmem
  decide

theorem mem_refs_addPaths {mainPaths paths : Json} {secPaths : Dict String Json} {r : String}
    (h : addPaths mainPaths secPaths = some paths) (hr : r ∈ refs paths) :
    r ∈ refs mainPaths ∨ r ∈ refs (.obj secPaths) := by
  unfold addPaths at h
  split at h
  · rename_i ps
    cases h
    obtain ⟨k, v, hkv, hv⟩ := mem_refs_obj.1 hr
    rcases Dict.mem_fill hkv with hmain | hsec
    · exact Or.inl (mem_refs_obj.2 ⟨k, v, hmain, hv⟩)
    · exact Or.inr (mem_refs_obj.2 ⟨k, v, hsec, hv⟩)
  · split at h
    · cases h; exact Or.inl hr
    · cases h

theorem mem_refs_update {d e : Dict String Json} {r : String} (h : r ∈ refs (.obj (Dict.update d e))) :
    r ∈ refs (.obj d) ∨ r ∈ refs (.obj e) := by
  obtain ⟨k, v, hkv, hv⟩ := mem_refs_obj.1 h
  rcases Dict.mem_update hkv with he | hd
  · exact Or.inr (mem_refs_obj.2 ⟨k, v, he, hv⟩)
  · exact Or.inl (mem_refs_obj.2 ⟨k, v, hd, hv⟩)

theorem mem_refs_addSection {cs C : Dict String Json} {s : String × Dict String Json} {r : String}
    (h : addSection cs s = some C) (hr : r ∈ refs (.obj C)) :
    r ∈ refs (.obj cs) ∨ r ∈ refs (.obj s.2) := by
  obtain ⟨k, v, hkv, hv⟩ := mem_refs_obj.1 hr
  unfold addSection at h
  split at h
  · cases h
    rcases Dict.mem_set hkv with ⟨rfl, rfl⟩ | hold
    · rw [entryRefs_obj] at hv
      rcases mem_refs_update hv with hnil | hnew
      · simp [refs, refsEntries] at hnil
      · exact Or.inr hnew
    · exact Or.inl (mem_refs_obj.2 ⟨k, v, hold, hv⟩)
  · rename_i names hnames
    cases h
    rcases Dict.mem_set hkv with ⟨rfl, rfl⟩ | hold
    · rw [entryRefs_obj] at hv
      rcases mem_refs_update hv with hown | hnew
      · exact Or.inl (mem_refs_obj.2 ⟨s.1, .obj names, Dict.mem_of_lookup hnames, mem_entryRefs hown⟩)
      · exact Or.inr hnew
    · exact Or.inl (mem_refs_obj.2 ⟨k, v, hold, hv⟩)
  · cases h

theorem mem_refs_addSections {r : String} : ∀ {sections : Dict String (Dict String Json)}
    {cs C : Dict String Json}, addSections cs sections = some C → r ∈ refs (.obj C) →
    r ∈ refs (.obj cs) ∨ ∃ s ∈ sections, r ∈ refs (.obj s.2)
  | [], _, _, h, hr => by cases h; exact Or.inl hr
  | s :: rest, cs, C, h, hr => by
    obtain ⟨cs', hstep, hrest⟩ := Option.bind_eq_some_iff.1 h
    rcases mem_refs_addSections hrest hr with hcs' | ⟨s', hs', hr'⟩
    · rcases mem_refs_addSection hstep hcs' with hcs | hs
      · exact Or.inl hcs
      · exact Or.inr ⟨s, by simp, hs⟩
    · exact Or.inr ⟨s', List.mem_cons_of_mem _ hs', hr'⟩

theorem mem_refs_addComponents {comps C : Json} {sections : Dict String (Dict String Json)} {r : String}
    (h : addComponents comps sections = some C) (hr : r ∈ refs C) :
    r ∈ refs comps ∨ ∃ s ∈ sections, r ∈ refs (.obj s.2) := by
  unfold addComponents at h
  split at h
  · obtain ⟨C', hC', rfl⟩ := Option.map_eq_some_iff.1 h
    exact mem_refs_addSections hC' hr
  · split at h
    · cases h; exact Or.inl hr
    · cases h

/-- Under its new name no component is a `$ref` entry. -/
theorem mem_refs_prefixNames {p r : String} {names : Dict String Json}
    (h : r ∈ refs (.obj (prefixNames p names))) : ∃ n c, (n, c) ∈ names ∧ r ∈ refs c := by
  obtain ⟨k, v, hkv, hr⟩ := mem_refs_obj.1 h
  obtain ⟨⟨n, c⟩, hn, heq⟩ := List.mem_map.1 hkv
  cases heq
  rw [entryRefs_of_ne (prefixed_ne_ref p n)] at hr
  exact ⟨n, c, hn, hr⟩

theorem mem_refs_mergedInfo {str : Json → String} {m mainInfo secInfo : Dict String Json} {r : String}
    (hinfo : Json.getD m "info" (.obj []) = .obj mainInfo) (hr : r ∈ refs (mergedInfo str mainInfo secInfo)) :
    r ∈ refs (.obj m) := by
  have hversion : r ∈ refs (Json.getD mainInfo "version" (.str "0.1.0")) := by
    simpa [mergedInfo, refs, refsEntries, refText] using hr
  unfold Json.getD at hversion hinfo
  cases hv : mainInfo.lookup "version" with
  | none => simp [hv, refs] at hversion
  | some v =>
    cases hi : m.lookup "info" with
    | none => rw [hi] at hinfo; cases hinfo; cases hv
    | some info =>
      rw [hi] at hinfo
      simp only [hv, Option.getD_some] at hversion hinfo
      have hin : r ∈ refs info := by
        rw [hinfo]
        exact mem_refs_obj.2 ⟨"version", v, Dict.mem_of_lookup hv, mem_entryRefs hversion⟩
      exact mem_refs_obj.2 ⟨"info", info, Dict.mem_of_lookup hi, mem_entryRefs hin⟩

namespace MergeParts

variable {str : Json → String} {main secondary : Json} {p : String} {merged : Json}

theorem mem_refs_added (q : MergeParts str main secondary p merged) {t : Json} {r : String}
    (ht : t ∈ q.added) (hr : r ∈ refs t) : ∃ u ∈ refs secondary, r = rewriteRef (refMapOf q.sc p) u := by
  have hin := mem_refs_iter? q.secTags_eq ((newTags_sublist q.added_eq).subset ht) hr
  rw [refs_applyRefMap] at hin
  obtain ⟨u, hu, rfl⟩ := List.mem_map.1 hin
  refine ⟨u, ?_, rfl⟩
  rw [q.secondary_eq]
  exact mem_refs_getOr rfl hu

theorem mem_refs_secPaths (q : MergeParts str main secondary p merged) {r : String}
    (hr : r ∈ refs (.obj q.secPaths)) : ∃ u ∈ refs secondary, r = rewriteRef (refMapOf q.sc p) u := by
  rw [← q.secPaths_eq, refs_applyRefMap] at hr
  obtain ⟨u, hu, rfl⟩ := List.mem_map.1 hr
  refine ⟨u, ?_, rfl⟩
  rw [q.secondary_eq]
  exact mem_refs_getOr rfl hu

theorem mem_refs_prefixed (q : MergeParts str main secondary p merged) (hd : secondary.distinctKeys = true)
    {s : String × Dict String Json} {r : String} (hs : s ∈ (prefixComponents q.sc p).1)
    (hr : r ∈ refs (.obj s.2)) : ∃ t n c, component secondary t n = some c ∧ r ∈ refs c := by
  obtain ⟨⟨t, names⟩, hmem, rfl⟩ := List.mem_map.1 hs
  obtain ⟨n, c, hn, hrc⟩ := mem_refs_prefixNames hr
  exact ⟨t, n, c, q.component_of_mem hd hmem hn, hrc⟩

/-- Every ref of the merged document is main's, a rewritten one of the secondary, or stands inside a
component of the secondary. -/
theorem mem_refs_merged (q : MergeParts str main secondary p merged) (hd : secondary.distinctKeys = true)
    {r : String} (hr : r ∈ refs merged) :
    r ∈ refs main ∨ (∃ u ∈ refs secondary, r = rewriteRef (refMapOf q.sc p) u) ∨
      ∃ s n c, component secondary s n = some c ∧ r ∈ refs c := by
  have hmain_refs : ∀ u, u ∈ refs (.obj q.m) → u ∈ refs main := fun u hu =>
    (congrArg (u ∈ refs ·) q.main_eq).mpr hu
  rw [q.merged_eq] at hr
  obtain ⟨k, v, hkv, hv⟩ := mem_refs_obj.1 hr
  rcases Dict.mem_set hkv with ⟨rfl, rfl⟩ | hkv
  · rw [entryRefs_of_ne (by decide)] at hv
    rcases mem_refs_addComponents q.components_eq hv with hmain | ⟨s, hs, hsr⟩
    · exact Or.inl (hmain_refs r (mem_refs_getOr rfl hmain))
    · exact Or.inr (Or.inr (q.mem_refs_prefixed hd hs hsr))
  rcases Dict.mem_set hkv with ⟨rfl, rfl⟩ | hkv
  · obtain ⟨t, ht, htr⟩ := mem_refs_arr.1 hv
    rcases List.mem_append.1 ht with hmain | hadded
    · exact Or.inl (hmain_refs r (mem_refs_getOr rfl (mem_refs_iter? q.mainTags_eq hmain htr)))
    · exact Or.inr (Or.inl (q.mem_refs_added hadded htr))
  rcases Dict.mem_set hkv with ⟨rfl, rfl⟩ | hkv
  · rw [entryRefs_of_ne (by decide)] at hv
    rcases mem_refs_addPaths q.paths_eq hv with hmain | hsec
    · exact Or.inl (hmain_refs r (mem_refs_getOr rfl hmain))
    · exact Or.inr (Or.inl (q.mem_refs_secPaths hsec))
  rcases Dict.mem_set hkv with ⟨rfl, rfl⟩ | hkv
  · rw [entryRefs_of_ne (by decide)] at hv
    exact Or.inl (hmain_refs r (mem_refs_mergedInfo q.mainInfo_eq hv))
  · exact Or.inl (hmain_refs r (mem_refs_obj.2 ⟨k, v, hkv, hv⟩))

end MergeParts

/-! ## Closure -/

/-- A document all of whose local refs name components of its own. -/
structure ClosedDocument extends Json.Document where
  closed : ∀ v ∈ refs json, ∀ s n, LocalRef v s n → (component json s n).isSome

/-- `vs'` are the refs `vs` of the secondary after the merge: each local one names the prefixed copy of
the component it named. -/
def Carried (secondary merged : Json) (p : String) (vs vs' : List String) : Prop :=
  List.Forall₂ (fun v v' => ∀ s n, LocalRef v s n →
    v' = refTo s (prefixed p n) ∧ component merged s (prefixed p n) = component secondary s n) vs vs'

/-- The refs of main that the merged document takes over, part by part. A component under a name the
secondary takes is not among them. -/
inductive MainPart (main secondary : Json) (p : String) : List String → Prop
  | entry {k : String} {v : Json} (h : main.get? k = some v)
      (hk : k ∉ ["info", "paths", "tags", "components"]) : MainPart main secondary p (entryRefs k v)
  | version {info v : Json} (h : main.get? "info" = some info) (hv : info.get? "version" = some v) :
      MainPart main secondary p (refs v)
  | paths {v : Json} (h : part? main "paths" (.obj []) = some v) : MainPart main secondary p (refs v)
  | tag {t : Json} (h : t ∈ tags main) : MainPart main secondary p (refs t)
  | component {s k : String} {c : Json} (h : component main s k = some c)
      (hk : ∀ n, k = prefixed p n → component secondary s n = none) :
      MainPart main secondary p (entryRefs k c)

/-- Where the local refs of a merged document lead. -/
structure RefClosure (main secondary : Json) (p : String) (merged : Json) : Prop where
  /-- No local ref dangles. -/
  closed : ∀ v ∈ refs merged, ∀ s n, LocalRef v s n → (component merged s n).isSome
  /-- A ref of main names main's own component. -/
  main_ref : ∀ vs, MainPart main secondary p vs → ∀ v ∈ vs, ∀ s n, LocalRef v s n →
    component merged s n = component main s n
  /-- The refs of a path the secondary adds. -/
  path_ref : ∀ k v, pathItem secondary k = some v → hasPath main k = false →
    ∃ v', pathItem merged k = some v' ∧ Carried secondary merged p (entryRefs k v) (entryRefs k v')
  /-- The refs of the tags the secondary adds. -/
  tag_ref : ∃ ts ts', ts.Sublist (tags secondary) ∧ tags merged = tags main ++ ts' ∧
    List.Forall₂ (fun t t' => Carried secondary merged p (refs t) (refs t')) ts ts'
  /-- The refs inside the components of the secondary. -/
  component_ref : ∀ s n c, component secondary s n = some c →
    ∃ c', component merged s (prefixed p n) = some c' ∧ Carried secondary merged p (refs c) (refs c')

/-- When a merge keeps all of that: the secondary's components hold no local ref, and no ref of main
names a component that a prefixed copy overwrites with something else. -/
structure RefsSafe (main secondary : Json) (p : String) : Prop where
  no_component_ref : ∀ s n c, component secondary s n = some c → ∀ v ∈ refs c, ∀ s' n', ¬ LocalRef v s' n'
  not_captured : ∀ vs, MainPart main secondary p vs → ∀ v ∈ vs, ∀ s n c, LocalRef v s (prefixed p n) →
    component secondary s n = some c → component main s (prefixed p n) = some c

namespace MergeParts

variable {str : Json → String} {main : Json} {secondary : ClosedDocument} {p : String} {merged : Json}

/-- Refs of the secondary that went through `_apply_ref_map` keep naming what they named. -/
theorem carried_rewriteRef (q : MergeParts str main secondary.json p merged) {vs : List String}
    (h : ∀ v ∈ vs, v ∈ refs secondary.json) :
    Carried secondary.json merged p vs (vs.map (rewriteRef (refMapOf q.sc p))) := by
  rw [Carried, List.forall₂_map_right_iff, List.forall₂_same]
  intro v hv s n hlocal
  obtain ⟨c, hc⟩ := Option.isSome_iff_exists.1 (secondary.closed v (h v hv) s n hlocal)
  exact ⟨q.rewriteRef_local secondary.distinct hlocal hc,
    (q.component_merged_prefixed secondary.distinct hc).trans hc.symm⟩

theorem path_carried (q : MergeParts str main secondary.json p merged) {k : String} {v : Json}
    (hv : pathItem secondary.json k = some v) (hmain : hasPath main k = false) :
    ∃ v', pathItem merged k = some v' ∧
      Carried secondary.json merged p (entryRefs k v) (entryRefs k v') := by
  refine ⟨_, q.pathItem_merged_secondary hmain hv, ?_⟩
  rw [entryRefs_applyRefMapEntry k (refs_applyRefMap _ v)]
  refine q.carried_rewriteRef fun r hr => ?_
  obtain ⟨ps, hps, hk⟩ := Option.bind_eq_some_iff.1 hv
  exact mem_refs_of_get? hps (mem_entryRefs (mem_refs_of_get? hk hr))

theorem mem_refs_tags {doc t : Json} {r : String} (ht : t ∈ tags doc) (hr : r ∈ refs t) : r ∈ refs doc := by
  unfold tags at ht
  cases hpart : (part? doc "tags" (.arr [])).bind Json.iter? with
  | none => rw [hpart] at ht; cases ht
  | some ts =>
    rw [hpart] at ht
    obtain ⟨j, hj, hiter⟩ := Option.bind_eq_some_iff.1 hpart
    obtain ⟨d, hd, rfl⟩ := Option.map_eq_some_iff.1 hj
    rw [Json.items?_eq_some.1 hd]
    exact mem_refs_getOr rfl (mem_refs_iter? hiter ht hr)

theorem tags_carried (q : MergeParts str main secondary.json p merged) :
    ∃ ts ts', ts.Sublist (tags secondary.json) ∧ tags merged = tags main ++ ts' ∧
      List.Forall₂ (fun t t' => Carried secondary.json merged p (refs t) (refs t')) ts ts' := by
  have hsub := newTags_sublist q.added_eq
  rw [q.tags_secondary] at hsub
  obtain ⟨ts, hts, hadded⟩ := List.sublist_map_iff.1 hsub
  refine ⟨ts, q.added, hts, by rw [q.tags_main, q.tags_merged], ?_⟩
  rw [hadded, List.forall₂_map_right_iff, List.forall₂_same]
  intro t ht
  rw [refs_applyRefMap]
  exact q.carried_rewriteRef fun r hr => mem_refs_tags (hts.subset ht) hr

/-- A rewritten ref of the secondary, if local, names a prefixed copy. -/
theorem component_of_rewriteRef (q : MergeParts str main secondary.json p merged) {u s n : String}
    (hu : u ∈ refs secondary.json) (hlocal : LocalRef (rewriteRef (refMapOf q.sc p) u) s n) :
    (component merged s n).isSome := by
  cases hlookup : (refMapOf q.sc p).lookup u with
  | some v =>
    obtain ⟨s', n', c, hc, -, rfl⟩ := q.lookup_refMapOf secondary.distinct hlookup
    rw [rewriteRef, hlookup] at hlocal
    obtain ⟨rfl, rfl⟩ := hlocal.unique rfl
    rw [q.component_merged_prefixed secondary.distinct hc]
    rfl
  | none =>
    rw [rewriteRef, hlookup] at hlocal
    change LocalRef u s n at hlocal
    obtain ⟨c, hc⟩ := Option.isSome_iff_exists.1 (secondary.closed u hu s n hlocal)
    -- every component of the secondary has its ref in the map
    have hmap := q.rewriteRef_local secondary.distinct hlocal hc
    rw [rewriteRef, hlookup] at hmap
    obtain ⟨-, hn⟩ := hlocal.unique hmap
    exact absurd hn (prefixed_ne p n)

end MergeParts

/-- A schema copied as it is keeps its refs only when it has none that are local. -/
theorem not_localRef_of_carried {secondary merged : Json} {p : String} {vs : List String}
    (h : Carried secondary merged p vs vs) : ∀ v ∈ vs, ∀ s n, ¬ LocalRef v s n := by
  intro v hv s n hlocal
  obtain ⟨hname, -⟩ := List.forall₂_same.1 h v hv s n hlocal
  obtain ⟨-, hn⟩ := hlocal.unique hname
  exact prefixed_ne p n hn

theorem RefsSafe.of_closure {str : Json → String} {main : Json} {secondary : ClosedDocument} {p : String}
    {merged : Json} (q : MergeParts str main secondary.json p merged)
    (h : RefClosure main secondary.json p merged) : RefsSafe main secondary.json p where
  no_component_ref := by
    intro s n c hc
    obtain ⟨c', hc', hcarried⟩ := h.component_ref s n c hc
    rw [q.component_merged_prefixed secondary.distinct hc] at hc'
    cases hc'
    exact not_localRef_of_carried hcarried
  not_captured := by
    intro vs hvs v hv s n c hlocal hc
    rw [← h.main_ref vs hvs v hv s _ hlocal]
    exact q.component_merged_prefixed secondary.distinct hc

theorem RefClosure.of_safe {str : Json → String} {main secondary : ClosedDocument} {p : String}
    {merged : Json} (q : MergeParts str main.json secondary.json p merged)
    (h : RefsSafe main.json secondary.json p) : RefClosure main.json secondary.json p merged where
  closed := by
    intro v hv s n hlocal
    rcases q.mem_refs_merged secondary.distinct hv with hmain | ⟨u, hu, rfl⟩ | ⟨t, m, c, hc, hvc⟩
    · exact q.component_merged_isSome secondary.distinct (main.closed v hmain s n hlocal)
    · exact q.component_of_rewriteRef hu hlocal
    · exact absurd hlocal (h.no_component_ref t m c hc v hvc s n)
  main_ref := by
    intro vs hvs v hv s n hlocal
    rcases q.component_merged_cases secondary.distinct s n with ⟨m, c, rfl, hc, hmerged⟩ | ⟨-, heq⟩
    · rw [hmerged, h.not_captured vs hvs v hv s m c hlocal hc]
    · exact heq
  path_ref _ _ hv hmain := q.path_carried hv hmain
  tag_ref := q.tags_carried
  component_ref := by
    intro s n c hc
    refine ⟨c, q.component_merged_prefixed secondary.distinct hc, List.forall₂_same.2 ?_⟩
    intro v hv s' n' hlocal
    exact absurd hlocal (h.no_component_ref s n c hc v hv s' n')

/-- **Main.** A merge keeps every local ref pointing at what it named exactly when the secondary's
components hold no local ref and no ref of main names a component a prefixed copy replaces. -/
theorem mergeOpenapiSpecs_refClosure (str : Json → String) (main secondary : ClosedDocument) (p : String)
    {merged : Json} (h : mergeOpenapiSpecs str main.json secondary.json p = some merged) :
    RefClosure main.json secondary.json p merged ↔ RefsSafe main.json secondary.json p := by
  obtain ⟨q⟩ := mergeOpenapiSpecs_parts h
  exact ⟨RefsSafe.of_closure q, RefClosure.of_safe q⟩

/-! ## A ref between two components -/

/-- The two schemas every generated document has when a route validates its input. -/
def validationDoc : Json := .obj [("components", .obj [("schemas", .obj
  [("HTTPValidationError", .obj [("items", .obj [("$ref", .str "#/components/schemas/ValidationError")])]),
   ("ValidationError", .obj [("type", .str "object")])])])]

theorem validationDoc_closed : ∀ v ∈ refs validationDoc, ∀ s n, LocalRef v s n →
    (component validationDoc s n).isSome := by
  intro v hv s n hlocal
  have hrefs : refs validationDoc = ["#/components/schemas/ValidationError"] := by decide
  have hv' : v = refTo "schemas" "ValidationError" := by
    rw [hrefs] at hv
    rw [List.mem_singleton.1 hv]
    decide
  obtain ⟨rfl, rfl⟩ := hlocal.unique hv'
  rfl

def validationDocument : ClosedDocument where
  json := validationDoc
  distinct := by decide
  closed := validationDoc_closed

def emptyDocument : ClosedDocument where
  json := .obj []
  distinct := by decide
  closed := by simp [refs, refsEntries]

/-- A document whose one path answers its one schema. -/
def schemaDoc (path name : String) : Json := .obj [
  ("paths", .obj [(path, .obj [("$ref", .str (refTo "schemas" name))])]),
  ("components", .obj [("schemas", .obj [(name, .obj [("type", .str "object")])])])]

theorem component_schemaDoc {path name s n : String} {c : Json} (h : component (schemaDoc path name) s n = some c) :
    n = name ∧ c = .obj [("type", .str "object")] := by
  by_cases hs : s = "schemas"
  · by_cases hn : n = name
    · subst hs hn
      simp [component, schemaDoc, Json.get?, Json.items?, Dict.lookup_cons_eq] at h
      exact ⟨rfl, h.symm⟩
    · simp [component, schemaDoc, Json.get?, Json.items?, Dict.lookup_cons_eq, hs, hn] at h
  · simp [component, schemaDoc, Json.get?, Json.items?, Dict.lookup_cons_eq, hs] at h

theorem refs_schemaDoc {path name : String} (hpath : path ≠ "$ref") (hname : name ≠ "$ref") :
    refs (schemaDoc path name) = [refTo "schemas" name] := by
  simp [schemaDoc, refs, refsEntries, refText, hpath, hname]

theorem schemaDoc_closed {path name : String} (hpath : path ≠ "$ref") (hname : name ≠ "$ref") :
    ∀ v ∈ refs (schemaDoc path name), ∀ s n, LocalRef v s n → (component (schemaDoc path name) s n).isSome := by
  intro v hv s n hlocal
  rw [refs_schemaDoc hpath hname] at hv
  obtain ⟨rfl, rfl⟩ := hlocal.unique (List.mem_singleton.1 hv)
  simp [component, schemaDoc, Json.get?, Json.items?, Dict.lookup_cons_eq]

theorem refs_of_mainPart {path name p : String} {secondary : Json} {vs : List String} (hpath : path ≠ "$ref")
    (h : MainPart (schemaDoc path name) secondary p vs) : ∀ v ∈ vs, v = refTo "schemas" name := by
  have hget : ∀ k v, (schemaDoc path name).get? k = some v → k = "paths" ∨ k = "components" := by
    intro k v hv
    by_contra hk
    obtain ⟨hpaths, hcomponents⟩ := not_or.1 hk
    simp [schemaDoc, Json.get?, Json.items?, Dict.lookup_cons_eq, hpaths, hcomponents] at hv
  cases h with
  | entry hv hk => rcases hget _ _ hv with rfl | rfl <;> simp at hk
  | version hinfo _ => rcases hget _ _ hinfo with h | h <;> simp at h
  | paths hv =>
    simp [part?, schemaDoc, Json.items?, Json.getOr, Json.orDefault, Json.truthy] at hv
    subst hv
    simp [refs, refsEntries, refText, hpath]
  | tag ht =>
    simp [tags, part?, schemaDoc, Json.items?, Json.getOr, Json.orDefault, Dict.lookup_cons_eq, Json.iter?] at ht
  | component hc _ =>
    obtain ⟨-, rfl⟩ := component_schemaDoc hc
    simp [entryRefs_obj, refs, refsEntries, refText]

theorem refsSafe_schemaDoc {path path' name name' p : String} (hpath : path ≠ "$ref")
    (hne : name ≠ prefixed p name') : RefsSafe (schemaDoc path name) (schemaDoc path' name') p where
  no_component_ref s n c hc v hv := by
    obtain ⟨-, rfl⟩ := component_schemaDoc hc
    simp [refs, refsEntries, refText] at hv
  not_captured vs hvs v hv s n c hlocal hc := by
    obtain ⟨rfl, -⟩ := component_schemaDoc hc
    obtain ⟨-, h⟩ := hlocal.unique (refs_of_mainPart hpath hvs v hv)
    exact absurd h hne

def statusDocument : ClosedDocument where
  json := schemaDoc "/status" "Status"
  distinct := by decide
  closed := schemaDoc_closed (by decide) (by decide)

def reportDocument : ClosedDocument where
  json := schemaDoc "/report" "Report"
  distinct := by decide
  closed := schemaDoc_closed (by decide) (by decide)

/-- The validation schemas lose a ref; a path that answers a schema keeps it, under the schema's new name. -/
theorem mergeOpenapiSpecs_refClosure_validation :
    (∃ merged,
      mergeOpenapiSpecs (fun _ => "") emptyDocument.json validationDocument.json "Research" = some merged ∧
      (RefClosure emptyDocument.json validationDocument.json "Research" merged ↔
        RefsSafe emptyDocument.json validationDocument.json "Research")) ∧
    ∃ merged,
      mergeOpenapiSpecs (fun _ => "") statusDocument.json reportDocument.json "Research" = some merged ∧
      refs merged = ["#/components/schemas/Status", "#/components/schemas/Research_Report"] ∧
      RefClosure statusDocument.json reportDocument.json "Research" merged :=
  ⟨⟨_, rfl, mergeOpenapiSpecs_refClosure _ emptyDocument validationDocument "Research" rfl⟩,
    _, rfl, by decide, (mergeOpenapiSpecs_refClosure _ statusDocument reportDocument "Research" rfl).2
      (refsSafe_schemaDoc (by decide) (by decide))⟩

/-- The merged document asks for `ValidationError`, which it only has as `Research_ValidationError`. -/
theorem refClosure_fails : ∃ merged,
    mergeOpenapiSpecs (fun _ => "") emptyDocument.json validationDocument.json "Research" = some merged ∧
    "#/components/schemas/ValidationError" ∈ refs merged ∧
    component merged "schemas" "ValidationError" = none ∧
    ¬ RefClosure emptyDocument.json validationDocument.json "Research" merged := by
  refine ⟨_, rfl, by decide, rfl, fun h => ?_⟩
  have hlocal : LocalRef "#/components/schemas/ValidationError" "schemas" "ValidationError" := by
    refine ⟨rfl, by decide, by decide⟩
  have hsome := h.closed _ (by decide) _ _ hlocal
  revert hsome
  decide

end BifrostApi.Docs
