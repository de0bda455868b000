import Mathlib.Data.Prod.Lex
import Mathlib.Data.String.Basic
import BifrostApi.Lib.GreedyPattern
import BifrostApi.Lib.StableSort
import BifrostApi.Py.Dict
import BifrostApi.Py.Quote

/-!
# Replaced routes (`deprecations.py`)

A route with a successor still works; its responses carry `Deprecation: true` and a `Link` to the successor's
path with the request's ids. A template is compiled to a regular expression, one group for each path parameter.

| here | there |
| --- | --- |
| `parts` | `_PARAM.finditer` (deprecations.py:84) |
| `compileNamed`, `replacedMatchers` | `_compile_named` (:81), `_REPLACED_MATCHERS` (:93) |
| `replacedRoute` | `replaced_route` (:99) |
| `header`, `withoutDeprecation` | `_header` (:121), `_without_deprecation` (:128) |
| `sendMarked`, `replaced`, `call` | `DeprecationMarker` (:134), `_replaced` (:170) |

`DEPRECATED_ROUTES` is empty, so `call` asks `replacedRoute` at once; the log lines are left out. The expression
ends in `/?$`, and `$` also matches before a final newline: a path that ends in one is marked when the path
without it is (`marker_fails`).
-/

namespace BifrostApi.Deprecations

open Py GreedyPattern StableSort

/-! ## Templates as the source reads them -/

/-- What `re` and the interpreter raise here. -/
inductive Raised
  /-- `re.error`: a group name that is no identifier, or twice. -/
  | reError
  | indexError
  | unicodeEncodeError
  deriving DecidableEq, Repr

inductive Part
  | char (c : Char)
  | param (name : List Char)
  deriving DecidableEq, Repr

/-- `_PARAM`, `\{([^}:]+)(?::[^}]*)?\}`, behind its `{`: the name and the number of characters matched. -/
def paramAt? (cs : List Char) : Option (List Char × Nat) :=
  let name := cs.takeWhile fun c => c ≠ '}' && c ≠ ':'
  if name = [] then none
  else match cs.drop name.length with
    | [] => none
    | c :: rest =>
      if c = '}' then some (name, name.length + 1)
      -- `c` is the `:` of a converter
      else if '}' ∈ rest then some (name, name.length + 1 + (rest.takeWhile (· ≠ '}')).length + 1)
      else none

/-- `skip` counts the characters of a parameter that was read. -/
def partsFrom (skip : Nat) : List Char → List Part
  | [] => []
  | c :: cs => match skip with
    | skip + 1 => partsFrom skip cs
    | 0 => if c = '{' then match paramAt? cs with
        | some (name, n) => .param name :: partsFrom n cs
        | none => .char c :: partsFrom 0 cs
      else .char c :: partsFrom 0 cs

def parts (template : String) : List Part := partsFrom 0 template.toList

def Part.name? : Part → Option (List Char)
  | .char _ => none
  | .param name => some name

/-- `re.escape` of a character, `(?P<name>[^/]+)`. -/
def Part.piece : Part → Piece Char
  | .char c => .lit c
  | .param _ => .group

/-- `isidentifier` is `str.isidentifier`, which `re` asks of a group's name. -/
def compileNamed (isidentifier : List Char → Bool) (template : String) : Except Raised (List (Piece Char)) :=
  let names := (parts template).filterMap Part.name?
  if names.all isidentifier = true ∧ names.Nodup then .ok ((parts template).map Part.piece) else .error .reError

/-- What `/?$` takes: `$` is the end of the path, or before its final newline. -/
def atEnd (cs : List Char) : Bool := [[], ['\n'], ['/'], ['/', '\n']].contains cs

/-- `pattern.match(path)` and its `groups()`. -/
def matchPath (pattern : List (Piece Char)) (path : String) : Option (List (List Char)) :=
  matchPieces '/' atEnd pattern path.toList

/-! ## The matchers -/

structure Matcher where
  method : String
  template : String
  successor : String
  pattern : List (Piece Char)
  deriving DecidableEq, Repr

/-- `key=lambda m: (m[0], "{" in m[1], m[1])` -/
def order (method template : String) : String ×ₗ (Bool ×ₗ String) :=
  toLex (method, toLex (decide ('{' ∈ template.toList), template))

def replacedMatchers (isidentifier : List Char → Bool) (routes : Dict (String × String) String) :
    Except Raised (List Matcher) := do
  let matchers ← routes.mapM fun r => do
    let pattern ← compileNamed isidentifier r.1.2
    return (⟨r.1.1, r.1.2, r.2, pattern⟩ : Matcher)
  return sortAsc (fun m => order m.method m.template) matchers

structure Hit where
  template : String
  successor : String
  link : String
  deriving DecidableEq, Repr

/-- `text.split(" ", 1)[1]` -/
def afterSpace (text : String) : Except Raised String :=
  if ' ' ∈ text.toList then .ok (String.ofList ((text.toList.dropWhile (· ≠ ' ')).drop 1)) else .error .indexError

/-- `_PARAM.sub(lambda _p: quote(next(ids, ""), safe=""), …)` -/
def substitute : List Part → List (List Char) → List Char
  | [], _ => []
  | .char c :: ps, ids => c :: substitute ps ids
  | .param _ :: ps, ids => quote (ids.headD []) ++ substitute ps ids.tail

/-- `pattern.match(path) if method_ == m else None` -/
def Matcher.groups? (m : Matcher) (method path : String) : Option (List (List Char)) :=
  if m.method = upper method then matchPath m.pattern path else none

/-- The first matcher that hits, with its groups. -/
def firstHit (matchers : List Matcher) (method path : String) : Option (Matcher × List (List Char)) :=
  matchers.findSome? fun m => (m.groups? method path).map fun groups => (m, groups)

def replacedRoute (matchers : List Matcher) (method path : String) : Except Raised (Option Hit) :=
  match firstHit matchers method path with
  | none => .ok none
  | some (m, groups) => do
    let successorPath ← afterSpace m.successor
    return some ⟨m.template, m.successor, String.ofList (substitute (parts successorPath) groups)⟩

/-! ## The middleware -/

abbrev Header := List UInt8 × List UInt8

/-- `b"…"`. -/
def bytes (s : String) : List UInt8 := s.toList.map fun c => UInt8.ofNat c.toNat

/-- `k.lower()` of bytes. -/
def lowerBytes (k : List UInt8) : List UInt8 := k.map fun b => if 0x41 ≤ b ∧ b ≤ 0x5A then b + 0x20 else b

structure Scope where
  type : String
  method : String
  path : String
  headers : Option (List Header)

/-- An ASGI message; `rest` is what else it holds. -/
structure Message (ρ : Type) where
  type : String
  headers : Option (List Header)
  rest : ρ

def header (scope : Scope) (name : List UInt8) : List Char :=
  match (scope.headers.getD []).find? fun kv => lowerBytes kv.1 = name with
  | some kv => latin1 kv.2
  | none => []

def isDeprecation (kv : Header) : Bool := lowerBytes kv.1 = bytes "deprecation"

variable {ρ : Type}

def withoutDeprecation (message : Message ρ) : List Header := (message.headers.getD []).filter (!isDeprecation ·)

/-- `text.encode("latin-1")` -/
def encodeLatin1 (cs : List Char) : Except Raised (List UInt8) :=
  if cs.all (·.toNat < 256) then .ok (cs.map fun c => UInt8.ofNat c.toNat) else .error .unicodeEncodeError

/-- The text of the `Link` header. -/
def linkText (scope : Scope) (link : String) : List Char :=
  let pre := (header scope (bytes "x-forwarded-prefix")).rdropWhile (· == '/')
  '<' :: pre ++ link.toList ++ ">; rel=\"successor-version\"".toList

def sendMarked (link : List UInt8) (message : Message ρ) : Message ρ :=
  if message.type = "http.response.start" then
    { message with
      headers := some (withoutDeprecation message ++ [(bytes "deprecation", bytes "true"), (bytes "link", link)]) }
  else message

/-- `sent` is what the inner app sends; what is returned is what goes out. -/
def replaced (scope : Scope) (hit : Hit) (sent : List (Message ρ)) : Except Raised (List (Message ρ)) := do
  let link ← encodeLatin1 (linkText scope hit.link)
  return sent.map (sendMarked link)

def call (matchers : List Matcher) (scope : Scope) (sent : List (Message ρ)) : Except Raised (List (Message ρ)) :=
  if scope.type ≠ "http" then .ok sent
  else do
    match ← replacedRoute matchers scope.method scope.path with
    | none => return sent
    | some hit => replaced scope hit sent

end BifrostApi.Deprecations
