import BifrostApi.Py.Json

/-!
# Merging OpenAPI documents (`docs_api/merge_openapi.py`)

A document is plain JSON; `Option` is the exception an odd shape raises. `logger` calls are left out,
`copy.deepcopy` is the identity on values, and `str` is Python's `str()` of a JSON value, which only
shapes the merged description.

| here | there |
| --- | --- |
| `applyRefMap` | `_apply_ref_map` (merge_openapi.py:84) |
| `prefixComponents` | `_prefix_components` (merge_openapi.py:41) |
| `addPaths`, `addTags`, `addComponents` | the three loops of `merge_openapi_specs` (:100, :110, :116) |
| `mergeOpenapiSpecs` | `merge_openapi_specs` (:61) |
-/

namespace BifrostApi.Docs

open Py

/-- `f"#/components/{section_key}/{name}"`. -/
def refTo (sectionKey name : String) : String := "#/components/" ++ sectionKey ++ "/" ++ name

/-- `f"{prefix}_{name}"`. -/
def prefixed (secondaryPrefix name : String) : String := secondaryPrefix ++ "_" ++ name

/-- The text of a `$ref` entry. -/
def refText (k : String) (v : Json) : Option String :=
  if k = "$ref" then match v with
    | .str s => some s
    | _ => none
  else none

mutual
/-- `_apply_ref_map`, below a dict entry `k: v` as well (:88-92). -/
def applyRefMap (refMap : Dict String String) : Json → Json
  | .obj kvs => .obj (applyRefMapEntries refMap kvs)
  | .arr xs => .arr (applyRefMapList refMap xs)
  | j => j
def applyRefMapList (refMap : Dict String String) : List Json → List Json
  | [] => []
  | x :: xs => applyRefMap refMap x :: applyRefMapList refMap xs
/-- The loop over `obj.items()`; its keys are distinct, so `out` repeats them in order. -/
def applyRefMapEntries (refMap : Dict String String) : List (String × Json) → List (String × Json)
  | [] => []
  | (k, v) :: kvs =>
    (k, match (refText k v).bind fun r => refMap.lookup r with
      | some v' => .str v'
      | none => applyRefMap refMap v) :: applyRefMapEntries refMap kvs
end

/-- The `(name, schema)` pairs of one section under their new names. -/
def prefixNames (secondaryPrefix : String) (names : Dict String Json) : Dict String Json :=
  names.map fun kv => (prefixed secondaryPrefix kv.1, kv.2)

/-- The `ref_map` writes of one section. -/
def refWrites (secondaryPrefix sectionKey : String) (names : Dict String Json) : Dict String String :=
  names.map fun kv => (refTo sectionKey kv.1, refTo sectionKey (prefixed secondaryPrefix kv.1))

/-- The dict sections of `components`; other values are skipped (:50). -/
def dictSections (components : Dict String Json) : Dict String (Dict String Json) :=
  components.filterMap fun kv => kv.2.items?.map fun names => (kv.1, names)

/-- Prefixed copies of the components, the schemas as they are, and the map from old refs to new. -/
def prefixComponents (components : Dict String Json) (secondaryPrefix : String) :
    Dict String (Dict String Json) × Dict String String :=
  (Dict.mapVal (fun _ names => prefixNames secondaryPrefix names) (dictSections components),
   Dict.update [] ((dictSections components).flatMap fun s => refWrites secondaryPrefix s.1 s.2))

/-- `path_key in main_paths` when `main_paths` is no dict; `none` where `in` raises. -/
def inNonDict (pathKey : String) : Json → Option Bool
  | .arr xs => some (xs.any fun x => match x with
    | .str s => s == pathKey
    | _ => false)
  | .str s => some (contains s pathKey)
  | _ => none

/-- The path loop (:100-105): a path main already has keeps main's item. Item assignment on
anything but a dict raises. -/
def addPaths (mainPaths : Json) (secPaths : Dict String Json) : Option Json :=
  match mainPaths with
  | .obj ps => some (.obj (Dict.fill ps secPaths))
  | other => if secPaths.all fun kv => inNonDict kv.1 other = some true then some other else none

/-- A hashable value, as a set sees it: `1`, `1.0` and `True` are one element. -/
inductive HashKey
  | none
  | num (x : Number)
  | str (s : String)
  deriving DecidableEq

/-- The set element of a value; a list or a dict is unhashable (`TypeError`). -/
def hashKey : Json → Option HashKey
  | .null => some .none
  | .bool b => some (.num (.fin (if b then 1 else 0)))
  | .int n => some (.num (.fin n))
  | .float x => some (.num x)
  | .str s => some (.str s)
  | .arr _ | .obj _ => none

/-- `t["name"]` of a main tag: a missing name raises `KeyError`, an unhashable one `TypeError`. -/
def tagName (t : Json) : Option HashKey := (t.get? "name").bind hashKey

/-- The tags of the secondary whose name main does not list (:111-113). -/
def newTags (existing : List HashKey) : List Json → Option (List Json)
  | [] => some []
  | tag :: tags =>
    match tag with
    | .obj kvs => do
      let name ← hashKey (Json.getD kvs "name" .null)
      let rest ← newTags existing tags
      -- NaN equals nothing, itself included
      return if name ∈ existing ∧ name ≠ .num .nan then rest else tag :: rest
    | _ => newTags existing tags

/-- The tag block (:108-114). -/
def addTags (mainTags secTags : List Json) : Option (List Json) := do
  let existing ← (mainTags.filter Json.isDict).mapM tagName
  let new ← newTags existing secTags
  return mainTags ++ new

/-- One round of the component loop (:117-120): `update` on a section that is no dict raises. -/
def addSection (components : Dict String Json) (s : String × Dict String Json) : Option (Dict String Json) :=
  match components.lookup s.1 with
  | none => some (Dict.set components s.1 (.obj (Dict.update [] s.2)))
  | some (.obj names) => some (Dict.set components s.1 (.obj (Dict.update names s.2)))
  | some _ => none

def addSections (components : Dict String Json) :
    List (String × Dict String Json) → Option (Dict String Json)
  | [] => some components
  | s :: rest => (addSection components s).bind (addSections · rest)

def addComponents (components : Json) (sections : Dict String (Dict String Json)) : Option Json :=
  match components with
  | .obj cs => (addSections cs sections).map .obj
  | other => if sections = [] then some other else none

/-- The merged `info` block (:75-81). -/
def mergedInfo (str : Json → String) (mainInfo secInfo : Dict String Json) : Json :=
  .obj [("title", .str "Bifrost API (merged)"),
        ("description", .str ("Merged from: " ++ str (Json.getD mainInfo "title" (.str "Main")) ++ ", "
          ++ str (Json.getD secInfo "title" (.str "Secondary")))),
        ("version", Json.getD mainInfo "version" (.str "0.1.0"))]

def mergeOpenapiSpecs (str : Json → String) (main secondary : Json) (secondaryPrefix : String) :
    Option Json := do
  let m ← main.items?
  let s ← secondary.items?
  let mainInfo ← (Json.getD m "info" (.obj [])).items?
  let secInfo ← (Json.getD s "info" (.obj [])).items?
  let secComponents ← (Json.getOr s "components" (.obj [])).items?
  let (prefixedComps, refMap) := prefixComponents secComponents secondaryPrefix
  let secPaths ← (applyRefMap refMap (Json.getOr s "paths" (.obj []))).items?
  let secTags ← (applyRefMap refMap (Json.getOr s "tags" (.arr []))).iter?
  let paths ← addPaths (Json.getOr m "paths" (.obj [])) secPaths
  let mainTags ← (Json.getOr m "tags" (.arr [])).iter?
  let tags ← addTags mainTags secTags
  let components ← addComponents (Json.getOr m "components" (.obj [])) prefixedComps
  return .obj (Dict.set (Dict.set (Dict.set (Dict.set m "info" (mergedInfo str mainInfo secInfo))
    "paths" paths) "tags" (.arr tags)) "components" components)

end BifrostApi.Docs
