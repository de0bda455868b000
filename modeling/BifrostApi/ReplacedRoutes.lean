import BifrostApi.Deprecations

/-!
# What marks a replaced route

A table of replaced routes as the source's comment describes one: templates whose segments are literal or one
parameter, each parameter of a template under its own name, successors with as many parameters. `Faithful` is what
a request is due. The marker gives it exactly when no template takes the path only without a final newline, and
the successor's own text is latin-1 (`marker_faithful`).
-/

namespace BifrostApi.Deprecations

open Py GreedyPattern StableSort

/-! ## The table -/

variable {isidentifier : List Char → Bool}

structure Literal where
  text : List Char
  noSlash : '/' ∉ text
  noBrace : '{' ∉ text

/-- `{name}` or `{name:convertor}`. -/
structure Param (isidentifier : List Char → Bool) where
  name : List Char
  convertor : Option (List Char)
  identifier : isidentifier name = true
  nonempty : name ≠ []
  noColon : ':' ∉ name
  noBrace : '}' ∉ name
  convertorNoBrace : ∀ conv ∈ convertor, '}' ∉ conv

inductive TemplateSegment (isidentifier : List Char → Bool)
  | literal (l : Literal)
  | param (p : Param isidentifier)

namespace TemplateSegment

def text : TemplateSegment isidentifier → List Char
  | literal l => l.text
  | param p => '{' :: p.name ++ (match p.convertor with
    | none => []
    | some conv => ':' :: conv) ++ ['}']

def name? : TemplateSegment isidentifier → Option (List Char)
  | literal _ => none
  | param p => some p.name

/-- What the segment says about a path. -/
def shape : TemplateSegment isidentifier → GreedyPattern.Segment Char
  | literal l => .text l.text
  | param _ => .hole

def parts : TemplateSegment isidentifier → List Part
  | literal l => l.text.map .char
  | param p => [.param p.name]

end TemplateSegment

def shapes (segs : List (TemplateSegment isidentifier)) : List (GreedyPattern.Segment Char) :=
  segs.map TemplateSegment.shape

def templateChars (segs : List (TemplateSegment isidentifier)) : List Char := segs.flatMap fun s => '/' :: s.text

/-- An entry of `REPLACED_ROUTES`. -/
structure Entry (isidentifier : List Char → Bool) where
  method : String
  template : List (TemplateSegment isidentifier)
  distinct : (template.filterMap TemplateSegment.name?).Nodup
  successorMethod : List Char
  noSpace : ' ' ∉ successorMethod
  successor : List (TemplateSegment isidentifier)
  sameCount : (successor.filterMap TemplateSegment.name?).length = (template.filterMap TemplateSegment.name?).length

namespace Entry

def templateText (e : Entry isidentifier) : String := String.ofList (templateChars e.template)

/-- `"METHOD successor template"` -/
def successorText (e : Entry isidentifier) : String :=
  String.ofList (e.successorMethod ++ ' ' :: templateChars e.successor)

def key (e : Entry isidentifier) : String × String := (e.method, e.templateText)

def order (e : Entry isidentifier) : String ×ₗ (Bool ×ₗ String) := Deprecations.order e.method e.templateText

/-- The path's segments are the template's, `ids` in its parameters, up to one trailing slash. -/
def Matches (e : Entry isidentifier) (path : List Char) (ids : List (List Char)) : Prop :=
  Fits '/' (shapes e.template) path ids ∨
    ∃ p, path = p ++ ['/'] ∧ Fits '/' (shapes e.template) p ids

/-- The entry's method in any case, and a path its template matches. -/
def Serves (e : Entry isidentifier) (method : String) (path : List Char) : Prop :=
  e.method = upper method ∧ ∃ ids, e.Matches path ids

def Literal (e : Entry isidentifier) : Prop := ∀ s ∈ e.template, s.name? = none

def LatinSuccessor (e : Entry isidentifier) : Prop :=
  ∀ l, TemplateSegment.literal l ∈ e.successor → ∀ c ∈ l.text, c.toNat < 256

end Entry

/-- `REPLACED_ROUTES`, a dict. -/
structure Table (isidentifier : List Char → Bool) where
  entries : List (Entry isidentifier)
  distinct : (entries.map Entry.key).Nodup

def Table.routes (t : Table isidentifier) : Dict (String × String) String :=
  t.entries.map fun e => (e.key, e.successorText)

/-! ## What a request is due -/

variable {ρ : Type}

/-- The response start has one `Deprecation` header and the link behind the handler's other headers; every other
message is left alone. -/
structure Marked (text : List Char) (m m' : Message ρ) : Prop where
  type : m'.type = m.type
  rest : m'.rest = m.rest
  other : m.type ≠ "http.response.start" → m'.headers = m.headers
  start : m.type = "http.response.start" → ∃ headers link, m'.headers = some headers ∧
    headers.filter isDeprecation = [(bytes "deprecation", bytes "true")] ∧
    headers.filter (!isDeprecation ·) =
      (m.headers.getD []).filter (!isDeprecation ·) ++ [(bytes "link", link)] ∧
    latin1 link = text

/-- The hit is that of `e`, whose parameters took `ids`. -/
structure Answer (t : Table isidentifier) (matchers : List Matcher) (method path : String) (hit : Hit)
    (e : Entry isidentifier) (ids : List (List Char)) : Prop where
  mem : e ∈ t.entries
  byMethod : e.method = upper method
  fits : e.Matches path.toList ids
  template : hit.template = e.templateText
  successor : hit.successor = e.successorText
  literalFirst : ∀ e' ∈ t.entries, e'.Serves method path.toList → e'.Literal → e.Literal
  link : Fits '/' (shapes e.successor) hit.link.toList (ids.map quote)
  restored : ∀ id ∈ ids, unquote (quote id) = id
  safe : ∀ id ∈ ids, ∀ c ∈ quote id, c ∉ ['/', '>', '\r', '\n'] ∧ c.toNat < 128
  marked : ∀ (ρ : Type) (scope : Scope) (sent : List (Message ρ)),
    scope.type = "http" → scope.method = method → scope.path = path →
    ∃ messages, call matchers scope sent = .ok messages ∧
      List.Forall₂ (Marked (linkText scope hit.link)) sent messages

structure Faithful (t : Table isidentifier) (matchers : List Matcher) (method path : String) : Prop where
  total : ∃ r, replacedRoute matchers method path = .ok r
  hit_iff : (∃ hit, replacedRoute matchers method path = .ok (some hit)) ↔
    ∃ e ∈ t.entries, e.Serves method path.toList
  answer : ∀ hit, replacedRoute matchers method path = .ok (some hit) →
    ∃ e ids, Answer t matchers method path hit e ids

/-- A template that matches the path without its final newline has one before it, or is one, that matches it
with the newline. -/
def NoSlip (t : Table isidentifier) (method : String) (path : List Char) : Prop :=
  ∀ e ∈ t.entries, ∀ p, path = p ++ ['\n'] → e.Serves method p →
    ∃ e' ∈ t.entries, e'.Serves method path ∧ e'.order ≤ e.order

/-- The first entry, in the matchers' order, that serves the request has a latin-1 successor. -/
def LatinLink (t : Table isidentifier) (method : String) (path : List Char) : Prop :=
  ∀ e ∈ t.entries, e.Serves method path →
    (∀ e' ∈ t.entries, e'.Serves method path → e.order ≤ e'.order) → e.LatinSuccessor

/-! ## Templates -/

theorem partsFrom_text {t : List Char} (ht : '{' ∉ t) (rest : List Char) :
    partsFrom 0 (t ++ rest) = t.map .char ++ partsFrom 0 rest := by
  induction t with
  | nil => rfl
  | cons c t ih =>
    have hc : c ≠ '{' := fun h => ht (h ▸ List.mem_cons_self)
    rw [List.cons_append, partsFrom, if_neg hc, ih fun h => ht (List.mem_cons_of_mem _ h), List.map_cons,
      List.cons_append]

theorem partsFrom_skip (read rest : List Char) : partsFrom read.length (read ++ rest) = partsFrom 0 rest := by
  induction read with
  | nil => rfl
  | cons c read ih => rw [List.length_cons, List.cons_append, partsFrom, ih]

theorem takeWhile_stop {p : Char → Bool} {cs : List Char} (h : ∀ c ∈ cs, p c = true) {d : Char} (hd : p d = false)
    (rest : List Char) : (cs ++ d :: rest).takeWhile p = cs := by
  rw [List.takeWhile_append_of_pos h, List.takeWhile_cons_of_neg (by rw [hd]; exact Bool.false_ne_true),
    List.append_nil]

/-- What is read behind a `{` is one parameter. -/
theorem partsFrom_read {name read rest : List Char} (h : paramAt? (read ++ rest) = some (name, read.length)) :
    partsFrom 0 ('{' :: read ++ rest) = .param name :: partsFrom 0 rest := by
  rw [List.cons_append, partsFrom, if_pos rfl, h]
  exact congrArg _ (partsFrom_skip read rest)

theorem Param.takeWhile_name (p : Param isidentifier) {d : Char} (hd : d = '}' ∨ d = ':') (rest : List Char) :
    ((p.name ++ d :: rest).takeWhile fun c => c ≠ '}' && c ≠ ':') = p.name := by
  refine takeWhile_stop ?_ ?_ rest
  · intro c hc
    have hbrace : c ≠ '}' := fun h => p.noBrace (h ▸ hc)
    have hcolon : c ≠ ':' := fun h => p.noColon (h ▸ hc)
    simp [hbrace, hcolon]
  · rcases hd with rfl | rfl <;> decide

theorem paramAt?_plain (p : Param isidentifier) (rest : List Char) :
    paramAt? (p.name ++ ['}'] ++ rest) = some (p.name, (p.name ++ ['}']).length) := by
  rw [List.append_assoc, List.singleton_append]
  simp only [paramAt?, p.takeWhile_name (Or.inl rfl) rest, if_neg p.nonempty, List.drop_left, if_true,
    List.length_append, List.length_singleton]

theorem paramAt?_convertor (p : Param isidentifier) {conv : List Char} (hconv : conv ∈ p.convertor)
    (rest : List Char) : paramAt? (p.name ++ (':' :: conv ++ ['}']) ++ rest) =
      some (p.name, (p.name ++ (':' :: conv ++ ['}'])).length) := by
  have hstop : (conv ++ '}' :: rest).takeWhile (· ≠ '}') = conv :=
    takeWhile_stop (ne_of_notMem (p.convertorNoBrace conv hconv)) (by decide) rest
  have hmem : '}' ∈ conv ++ '}' :: rest := List.mem_append_right _ List.mem_cons_self
  rw [List.append_assoc, List.append_assoc, List.singleton_append, List.cons_append]
  simp only [paramAt?, p.takeWhile_name (Or.inr rfl) (conv ++ '}' :: rest), if_neg p.nonempty, List.drop_left, hstop,
    hmem, if_true, List.length_append, List.length_cons, List.length_nil, Char.reduceEq, if_false]
  congr 2
  omega

/-- A parameter is read whole. -/
theorem partsFrom_param (p : Param isidentifier) (rest : List Char) :
    partsFrom 0 ((TemplateSegment.param p).text ++ rest) = .param p.name :: partsFrom 0 rest := by
  cases hconv : p.convertor with
  | none =>
    have htext : (TemplateSegment.param p).text = '{' :: (p.name ++ ['}']) := by
      simp [TemplateSegment.text, hconv]
    rw [htext]
    exact partsFrom_read (paramAt?_plain p rest)
  | some conv =>
    have htext : (TemplateSegment.param p).text = '{' :: (p.name ++ (':' :: conv ++ ['}'])) := by
      simp [TemplateSegment.text, hconv]
    rw [htext]
    exact partsFrom_read (paramAt?_convertor p hconv rest)

theorem partsFrom_segment (s : TemplateSegment isidentifier) (rest : List Char) :
    partsFrom 0 (s.text ++ rest) = s.parts ++ partsFrom 0 rest := by
  cases s with
  | literal l => exact partsFrom_text l.noBrace rest
  | param p => exact partsFrom_param p rest

theorem partsFrom_template (segs : List (TemplateSegment isidentifier)) :
    partsFrom 0 (templateChars segs) = segs.flatMap fun s => .char '/' :: s.parts := by
  unfold templateChars
  induction segs with
  | nil => rfl
  | cons s segs ih =>
    have hslash : partsFrom 0 ('/' :: (s.text ++ segs.flatMap fun s => '/' :: s.text)) =
        .char '/' :: partsFrom 0 (s.text ++ segs.flatMap fun s => '/' :: s.text) :=
      partsFrom_text (by decide : '{' ∉ ['/']) _
    rw [List.flatMap_cons, List.flatMap_cons, List.cons_append, hslash, partsFrom_segment, ih, List.cons_append]

theorem names_parts (segs : List (TemplateSegment isidentifier)) :
    (segs.flatMap fun s => .char '/' :: s.parts).filterMap Part.name? = segs.filterMap TemplateSegment.name? := by
  induction segs with
  | nil => rfl
  | cons s segs ih =>
    rw [List.flatMap_cons, List.filterMap_append, ih]
    cases s with
    | literal l =>
      have hnone : (l.text.map Part.char).filterMap Part.name? = [] := by
        rw [List.filterMap_map]
        exact List.filterMap_eq_nil_iff.2 fun c _ => rfl
      have hslash : (Part.char '/' :: l.text.map Part.char).filterMap Part.name? = [] := by
        rw [List.filterMap_cons_none rfl, hnone]
      rw [TemplateSegment.parts, hslash, List.nil_append, List.filterMap_cons_none rfl]
    | param p => rfl

theorem pieces_parts (segs : List (TemplateSegment isidentifier)) :
    (segs.flatMap fun s => .char '/' :: s.parts).map Part.piece = pattern '/' (shapes segs) := by
  rw [pattern, shapes, List.flatMap_map, List.map_flatMap]
  refine List.flatMap_congr fun s _ => ?_
  cases s with
  | literal l =>
    rw [TemplateSegment.parts, List.map_cons, List.map_map]
    rfl
  | param p => rfl

theorem names_literal (l : Literal) (segs : List (TemplateSegment isidentifier)) :
    (.literal l :: segs).filterMap TemplateSegment.name? = segs.filterMap TemplateSegment.name? := rfl

theorem names_param (p : Param isidentifier) (segs : List (TemplateSegment isidentifier)) :
    (.param p :: segs).filterMap TemplateSegment.name? = p.name :: segs.filterMap TemplateSegment.name? := rfl

theorem isidentifier_of_mem {segs : List (TemplateSegment isidentifier)} {name : List Char}
    (h : name ∈ segs.filterMap TemplateSegment.name?) : isidentifier name = true := by
  obtain ⟨s, _, hs⟩ := List.mem_filterMap.1 h
  cases s with
  | literal l => cases hs
  | param p =>
    obtain rfl := Option.some.inj hs
    exact p.identifier

theorem parts_ofList (segs : List (TemplateSegment isidentifier)) :
    parts (String.ofList (templateChars segs)) = segs.flatMap fun s => .char '/' :: s.parts := by
  rw [parts, String.toList_ofList, partsFrom_template]

namespace Entry

variable (e : Entry isidentifier)

def matcher : Matcher := ⟨e.method, e.templateText, e.successorText, pattern '/' (shapes e.template)⟩

/-- The template compiles, to the pattern of its shapes. -/
theorem compileNamed_eq : compileNamed isidentifier e.templateText = .ok (pattern '/' (shapes e.template)) := by
  have hparts : parts e.templateText = e.template.flatMap fun s => .char '/' :: s.parts := parts_ofList e.template
  have hall : (e.template.filterMap TemplateSegment.name?).all isidentifier = true :=
    List.all_eq_true.2 fun name => isidentifier_of_mem
  rw [compileNamed, hparts, names_parts, if_pos ⟨hall, e.distinct⟩, pieces_parts]

theorem afterSpace_successorText : afterSpace e.successorText = .ok (String.ofList (templateChars e.successor)) := by
  have hmem : ' ' ∈ e.successorMethod ++ ' ' :: templateChars e.successor :=
    List.mem_append_right _ List.mem_cons_self
  rw [afterSpace, successorText, String.toList_ofList, if_pos hmem,
    List.dropWhile_append_of_pos (ne_of_notMem e.noSpace), List.dropWhile_cons_of_neg (by decide)]
  rfl

end Entry

theorem replacedMatchers_routes (t : Table isidentifier) : replacedMatchers isidentifier t.routes =
    .ok (sortAsc (fun m => order m.method m.template) (t.entries.map Entry.matcher)) := by
  have hmap : ∀ entries : List (Entry isidentifier),
      (entries.map fun e => (e.key, e.successorText)).mapM (fun r : (String × String) × String => do
        let pattern ← compileNamed isidentifier r.1.2
        return (⟨r.1.1, r.1.2, r.2, pattern⟩ : Matcher)) = .ok (entries.map Entry.matcher) := by
    intro entries
    induction entries with
    | nil => rfl
    | cons e entries ih =>
      rw [List.map_cons, List.mapM_cons, ih, Entry.key, e.compileNamed_eq]
      rfl
  rw [replacedMatchers, Table.routes, hmap]
  rfl

/-! ## The link -/

theorem substitute_text (t : List Char) (ps : List Part) (ids : List (List Char)) :
    substitute (t.map .char ++ ps) ids = t ++ substitute ps ids := by
  induction t with
  | nil => rfl
  | cons c t ih => rw [List.map_cons, List.cons_append, substitute, ih, List.cons_append]

/-- The successor's parameters are filled in order, each with its quoted id. -/
theorem fits_substitute : ∀ {segs : List (TemplateSegment isidentifier)} {ids : List (List Char)},
    (∀ id ∈ ids, id ≠ []) → (segs.filterMap TemplateSegment.name?).length = ids.length →
    Fits '/' (shapes segs) (substitute (segs.flatMap fun s => .char '/' :: s.parts) ids) (ids.map quote)
  | [], ids, _, hcount => by
    obtain rfl := List.eq_nil_of_length_eq_zero hcount.symm
    exact .nil
  | .literal l :: segs, ids, hne, hcount => by
    rw [names_literal] at hcount
    have hlits : substitute ((TemplateSegment.literal l :: segs).flatMap fun s => .char '/' :: s.parts) ids =
        '/' :: l.text ++ substitute (segs.flatMap fun s => .char '/' :: s.parts) ids :=
      substitute_text ('/' :: l.text) _ ids
    rw [hlits]
    exact .text l.text (fits_substitute hne hcount)
  | .param p :: segs, [], _, hcount => by
    rw [names_param] at hcount
    cases hcount
  | .param p :: segs, id :: ids, hne, hcount => by
    rw [names_param, List.length_cons, List.length_cons, Nat.succ.injEq] at hcount
    have hslash : '/' ∉ quote id := fun hmem => quote_safe hmem List.mem_cons_self
    have hrest := fits_substitute (fun id' hid => hne id' (List.mem_cons_of_mem _ hid)) hcount
    exact .hole (quote id) (quote_ne_nil (hne id List.mem_cons_self)) hslash hrest

theorem count_shapes (segs : List (TemplateSegment isidentifier)) :
    (shapes segs).countP Segment.isHole = (segs.filterMap TemplateSegment.name?).length := by
  induction segs with
  | nil => rfl
  | cons s segs ih =>
    rw [shapes, List.map_cons]
    cases s with
    | literal l => rw [List.countP_cons_of_neg Bool.false_ne_true, names_literal, ← ih, shapes]
    | param p => rw [List.countP_cons_of_pos rfl, names_param, List.length_cons, ← ih, shapes]

/-! ## The middleware -/

theorem latin1_lt {bs : List UInt8} {c : Char} (h : c ∈ latin1 bs) : c.toNat < 256 := by
  obtain ⟨b, _, rfl⟩ := List.mem_map.1 h
  have hb : b.toNat < 256 := b.toNat_lt
  rw [toNat_ofNat (Or.inl (by omega))]
  exact hb

theorem encodeLatin1_eq_ok {cs : List Char} (h : ∀ c ∈ cs, c.toNat < 256) :
    ∃ bs, encodeLatin1 cs = .ok bs ∧ latin1 bs = cs := by
  have hall : cs.all (·.toNat < 256) = true := List.all_eq_true.2 fun c hc => decide_eq_true (h c hc)
  refine ⟨cs.map fun c => UInt8.ofNat c.toNat, by rw [encodeLatin1, if_pos hall], ?_⟩
  rw [latin1, List.map_map]
  refine (List.map_congr_left fun c hc => ?_).trans (List.map_id cs)
  rw [Function.comp_apply, toNat_byte (h c hc), Char.ofNat_toNat, id]

/-- The prefix comes from a header, so it is latin-1. -/
theorem linkText_lt (scope : Scope) {link : String} (h : ∀ c ∈ link.toList, c.toNat < 256) :
    ∀ c ∈ linkText scope link, c.toNat < 256 := by
  have hheader : ∀ c ∈ header scope (bytes "x-forwarded-prefix"), c.toNat < 256 := by
    unfold header
    split
    · exact fun c => latin1_lt
    · exact fun c hc => (List.not_mem_nil hc).elim
  have hrel : (">; rel=\"successor-version\"".toList.all fun c => c.toNat < 256) = true := by decide +kernel
  intro c hc
  rcases List.mem_append.1 hc with hc | hc
  · rcases List.mem_append.1 hc with hc | hc
    · rcases List.mem_cons.1 hc with rfl | hc
      · decide
      · exact hheader c ((List.rdropWhile_prefix _ _).subset hc)
    · exact h c hc
  · exact of_decide_eq_true (List.all_eq_true.1 hrel c hc)

theorem marked_sendMarked (link : List UInt8) (m : Message ρ) : Marked (latin1 link) m (sendMarked link m) := by
  unfold sendMarked
  split
  next hstart =>
    refine ⟨rfl, rfl, fun h => (h hstart).elim, fun _ => ⟨_, link, rfl, ?_, ?_, rfl⟩⟩
    · have hnone : (withoutDeprecation m).filter isDeprecation = [] := by
        rw [withoutDeprecation, List.filter_filter]
        exact List.filter_eq_nil_iff.2 fun kv _ => by simp
      rw [List.filter_append, hnone, List.nil_append]
      rfl
    · rw [List.filter_append, withoutDeprecation, List.filter_filter]
      simp only [Bool.and_self]
      rfl
  next hother => exact ⟨rfl, rfl, fun _ => rfl, fun h => (hother h).elim⟩

/-- What goes out for a hit whose link can be encoded. -/
theorem call_hit {matchers : List Matcher} {scope : Scope} {hit : Hit} (htype : scope.type = "http")
    (hhit : replacedRoute matchers scope.method scope.path = .ok (some hit))
    (hlink : ∀ c ∈ hit.link.toList, c.toNat < 256) (sent : List (Message ρ)) :
    ∃ messages, call matchers scope sent = .ok messages ∧
      List.Forall₂ (Marked (linkText scope hit.link)) sent messages := by
  obtain ⟨link, hok, htext⟩ := encodeLatin1_eq_ok (linkText_lt scope hlink)
  refine ⟨sent.map (sendMarked link), ?_, ?_⟩
  · have hhttp : ¬ scope.type ≠ "http" := fun h => h htype
    have hreplaced : replaced scope hit sent = .ok (sent.map (sendMarked link)) := by
      rw [replaced, hok]
      rfl
    rw [call, if_neg hhttp, hhit]
    exact hreplaced
  · rw [← htext, List.forall₂_map_right_iff]
    exact List.forall₂_same.2 fun m _ => marked_sendMarked link m

/-! ## What the matchers find -/

namespace Entry

variable (e : Entry isidentifier) {path : String} {ids : List (List Char)}

theorem fits_of_matches {path : List Char} (h : e.Matches path ids) : ∃ p, Fits '/' (shapes e.template) p ids := by
  rcases h with h | ⟨p, _, h⟩
  · exact ⟨_, h⟩
  · exact ⟨p, h⟩

theorem matchPath_of_matches (h : e.Matches path.toList ids) :
    matchPath (pattern '/' (shapes e.template)) path = some ids := by
  rcases h with h | ⟨p, hpath, h⟩
  · have hmatch : matchPieces '/' atEnd (pattern '/' (shapes e.template)) (path.toList ++ []) = some ids :=
      matchPieces_of_fits h (fun c hc => by cases hc) (by decide)
    rw [List.append_nil] at hmatch
    exact hmatch
  · rw [matchPath, hpath]
    exact matchPieces_of_fits h (fun c hc => (Option.some.inj hc).symm) (by decide)

theorem isSome_matchPath : (matchPath (pattern '/' (shapes e.template)) path).isSome ↔
    (∃ ids, e.Matches path.toList ids) ∨ ∃ p, path.toList = p ++ ['\n'] ∧ ∃ ids, e.Matches p ids := by
  constructor
  · intro h
    obtain ⟨ids, hids⟩ := Option.isSome_iff_exists.1 h
    obtain ⟨p, rest, hpath, hfits, hend⟩ := fits_of_matchPieces hids
    have hrest : rest ∈ [[], ['\n'], ['/'], ['/', '\n']] := List.contains_iff_mem.1 hend
    simp only [List.mem_cons, List.not_mem_nil, or_false] at hrest
    rcases hrest with rfl | rfl | rfl | rfl
    · exact Or.inl ⟨ids, Or.inl (by rw [hpath, List.append_nil]; exact hfits)⟩
    · exact Or.inr ⟨p, hpath, ids, Or.inl hfits⟩
    · exact Or.inl ⟨ids, Or.inr ⟨p, hpath, hfits⟩⟩
    · exact Or.inr ⟨p ++ ['/'], by rw [hpath, List.append_assoc]; rfl, ids, Or.inr ⟨p, rfl, hfits⟩⟩
  · rintro (⟨ids, h⟩ | ⟨p, hpath, ids, h | ⟨q, rfl, h⟩⟩)
    · rw [e.matchPath_of_matches h]
      rfl
    · rw [matchPath, hpath]
      exact matchPieces_isSome_of_fits h (by decide)
    · rw [matchPath, hpath, List.append_assoc]
      exact matchPieces_isSome_of_fits h (by decide)

/-- The source's match: the method and the compiled template. -/
def Hits (method path : String) : Prop := (e.matcher.groups? method path).isSome

theorem groups?_of_method {method : String} (hm : e.method = upper method) :
    e.matcher.groups? method path = matchPath (pattern '/' (shapes e.template)) path := if_pos hm

theorem method_of_hits {method : String} (h : e.Hits method path) : e.method = upper method := by
  by_contra hm
  have hnone : e.matcher.groups? method path = none := if_neg hm
  rw [Hits, hnone] at h
  cases h

theorem hits_iff {method : String} : e.Hits method path ↔
    e.Serves method path.toList ∨ ∃ p, path.toList = p ++ ['\n'] ∧ e.Serves method p := by
  constructor
  · intro h
    have hm := e.method_of_hits h
    rw [Hits, e.groups?_of_method hm, isSome_matchPath] at h
    rcases h with h | ⟨p, hpath, h⟩
    · exact Or.inl ⟨hm, h⟩
    · exact Or.inr ⟨p, hpath, hm, h⟩
  · rintro (⟨hm, h⟩ | ⟨p, hpath, hm, h⟩)
    · rw [Hits, e.groups?_of_method hm, isSome_matchPath]
      exact Or.inl h
    · rw [Hits, e.groups?_of_method hm, isSome_matchPath]
      exact Or.inr ⟨p, hpath, h⟩

/-- What is returned for the entry when its parameters took `groups`. -/
def hit (groups : List (List Char)) : Hit :=
  ⟨e.templateText, e.successorText,
    String.ofList (substitute (e.successor.flatMap fun s => .char '/' :: s.parts) groups)⟩

theorem literal_iff : e.Literal ↔ '{' ∉ e.templateText.toList := by
  have hmem : '{' ∈ e.templateText.toList ↔ ∃ s ∈ e.template, '{' ∈ s.text := by
    rw [templateText, String.toList_ofList, templateChars, List.mem_flatMap]
    simp
  rw [hmem]
  constructor
  · rintro h ⟨s, hs, hbrace⟩
    cases s with
    | literal l => exact l.noBrace hbrace
    | param p => cases h _ hs
  · intro h s hs
    cases s with
    | literal l => rfl
    | param p => exact (h ⟨_, hs, List.mem_cons_self⟩).elim

/-- A literal template of the method comes before one with parameters. -/
theorem literal_of_order_le {e e' : Entry isidentifier} (hle : e.order ≤ e'.order) (hm : e.method = e'.method)
    (h : e'.Literal) : e.Literal := by
  rw [literal_iff] at h ⊢
  intro hbrace
  have hlt : e'.order < e.order := by
    refine Prod.Lex.toLex_lt_toLex.2 (Or.inr ⟨hm.symm, Prod.Lex.toLex_lt_toLex.2 (Or.inl ?_)⟩)
    rw [decide_eq_false h, decide_eq_true hbrace]
    exact Bool.false_lt_true
  exact absurd hle (not_le_of_gt hlt)

end Entry

theorem Table.eq_of_key (t : Table isidentifier) {e e' : Entry isidentifier} (he : e ∈ t.entries)
    (he' : e' ∈ t.entries) (hm : e.method = e'.method) (htext : e.templateText = e'.templateText) : e = e' :=
  List.inj_on_of_nodup_map t.distinct he he' (Prod.ext hm htext)

theorem Table.eq_of_order (t : Table isidentifier) {e e' : Entry isidentifier} (he : e ∈ t.entries)
    (he' : e' ∈ t.entries) (h : e.order = e'.order) : e = e' := by
  have hpair := toLex.injective h
  exact t.eq_of_key he he' (congrArg Prod.fst hpair) (congrArg Prod.snd (toLex.injective (congrArg Prod.snd hpair)))

/-- Nothing, or the answer of the first entry that hits. -/
theorem replacedRoute_cases (t : Table isidentifier) (method path : String) {matchers : List Matcher}
    (hmatchers : replacedMatchers isidentifier t.routes = .ok matchers) :
    (replacedRoute matchers method path = .ok none ∧ ∀ e ∈ t.entries, ¬ e.Hits method path) ∨
    ∃ e ∈ t.entries, ∃ groups, e.matcher.groups? method path = some groups ∧
      (∀ e' ∈ t.entries, e'.Hits method path → e.order ≤ e'.order) ∧
      replacedRoute matchers method path = .ok (some (e.hit groups)) := by
  rw [replacedMatchers_routes] at hmatchers
  obtain rfl := Except.ok.inj hmatchers
  generalize hfound : firstHit _ method path = found
  cases found with
  | none =>
    left
    refine ⟨by rw [replacedRoute, hfound], ?_⟩
    intro e he hsome
    have hnone := List.findSome?_eq_none_iff.1 hfound e.matcher (mem_sortAsc.2 (List.mem_map_of_mem he))
    rw [Option.map_eq_none_iff] at hnone
    rw [Entry.Hits, hnone] at hsome
    cases hsome
  | some found =>
    right
    obtain ⟨m, groups⟩ := found
    obtain ⟨m', hmem, hm', hmin⟩ := findSome?_sortAsc hfound
    obtain ⟨e, he, rfl⟩ := List.mem_map.1 hmem
    obtain ⟨groups', hgroups, heq⟩ := Option.map_eq_some_iff.1 hm'
    obtain ⟨rfl, rfl⟩ := Prod.mk.inj heq
    refine ⟨e, he, groups', hgroups, ?_, ?_⟩
    · intro e' he' hhits
      refine hmin e'.matcher (List.mem_map_of_mem he') ?_
      rw [Option.isSome_map]
      exact hhits
    · rw [replacedRoute, hfound]
      simp only [Entry.matcher, e.afterSpace_successorText]
      rw [Entry.hit, ← parts_ofList]
      rfl

/-! ## When the marker is faithful -/

/-- The link fits the successor, its parameters filled with the quoted ids. -/
theorem Entry.fits_hit (e : Entry isidentifier) {path : List Char} {ids : List (List Char)}
    (h : e.Matches path ids) :
    Fits '/' (shapes e.successor) (e.hit ids).link.toList (ids.map quote) := by
  obtain ⟨p, hfits⟩ := e.fits_of_matches h
  have hcount : (e.successor.filterMap TemplateSegment.name?).length = ids.length := by
    rw [e.sameCount, ← count_shapes, hfits.length_ids]
  rw [Entry.hit, String.toList_ofList]
  exact fits_substitute hfits.ne_nil hcount

theorem Entry.link_lt (e : Entry isidentifier) {path : List Char} {ids : List (List Char)} (h : e.Matches path ids)
    (hlatin : e.LatinSuccessor) : ∀ c ∈ (e.hit ids).link.toList, c.toNat < 256 := by
  refine (e.fits_hit h).forall_mem (by decide) ?_ ?_
  · intro text htext c hc
    obtain ⟨s, hs, hshape⟩ := List.mem_map.1 htext
    cases s with
    | literal l =>
      obtain rfl := Segment.text.inj hshape
      exact hlatin l hs c hc
    | param p => cases hshape
  · intro q hq c hc
    obtain ⟨id, _, rfl⟩ := List.mem_map.1 hq
    have hascii := quote_ascii hc
    omega

theorem answer_of_first (t : Table isidentifier) {method path : String} {matchers : List Matcher}
    {e : Entry isidentifier} {ids : List (List Char)} (he : e ∈ t.entries) (hm : e.method = upper method)
    (hids : e.Matches path.toList ids) (hlatin : e.LatinSuccessor)
    (hfirst : ∀ e' ∈ t.entries, e'.Serves method path.toList → e.order ≤ e'.order)
    (hhit : replacedRoute matchers method path = .ok (some (e.hit ids))) :
    Answer t matchers method path (e.hit ids) e ids where
  mem := he
  byMethod := hm
  fits := hids
  template := rfl
  successor := rfl
  literalFirst := fun e' he' hserves =>
    Entry.literal_of_order_le (hfirst e' he' hserves) (hm.trans hserves.1.symm)
  link := e.fits_hit hids
  restored := fun id _ => unquote_quote id
  safe := fun id _ c hc => ⟨quote_safe hc, quote_ascii hc⟩
  marked := by
    intro ρ scope sent htype hmethod hpath
    refine call_hit htype ?_ (e.link_lt hids hlatin) sent
    rw [hmethod, hpath, hhit]

theorem faithful_of_noSlip (t : Table isidentifier) {method path : String} {matchers : List Matcher}
    (hmatchers : replacedMatchers isidentifier t.routes = .ok matchers) (hslip : NoSlip t method path.toList)
    (hlatin : LatinLink t method path.toList) : Faithful t matchers method path := by
  have hserved : ∀ e ∈ t.entries, e.Hits method path →
      ∃ e' ∈ t.entries, e'.Serves method path.toList ∧ e'.order ≤ e.order := by
    intro e he hhits
    rcases e.hits_iff.1 hhits with hserves | ⟨p, hpath, hserves⟩
    · exact ⟨e, he, hserves, le_refl _⟩
    · exact hslip e he p hpath hserves
  rcases replacedRoute_cases t method path hmatchers with ⟨hnone, hmiss⟩ | ⟨e, he, groups, hgroups, hmin, hsome⟩
  · refine ⟨⟨none, hnone⟩, ⟨?_, ?_⟩, ?_⟩
    · rintro ⟨hit, hhit⟩
      rw [hnone] at hhit
      cases hhit
    · rintro ⟨e, he, hserves⟩
      exact (hmiss e he (e.hits_iff.2 (Or.inl hserves))).elim
    · intro hit hhit
      rw [hnone] at hhit
      cases hhit
  · have hhits : e.Hits method path := by rw [Entry.Hits, hgroups]; rfl
    have hserves : e.Serves method path.toList := by
      obtain ⟨e', he', hserves', hle⟩ := hserved e he hhits
      have hle' := hmin e' he' (e'.hits_iff.2 (Or.inl hserves'))
      rw [t.eq_of_order he he' (le_antisymm hle' hle)]
      exact hserves'
    refine ⟨⟨_, hsome⟩, ⟨fun _ => ⟨e, he, hserves⟩, fun _ => ⟨_, hsome⟩⟩, ?_⟩
    intro hit hhit
    rw [hsome] at hhit
    obtain rfl := Option.some.inj (Except.ok.inj hhit)
    obtain ⟨hm, ids, hids⟩ := hserves
    rw [e.groups?_of_method hm, e.matchPath_of_matches hids] at hgroups
    obtain rfl := Option.some.inj hgroups
    have hfirst : ∀ e' ∈ t.entries, e'.Serves method path.toList → e.order ≤ e'.order :=
      fun e' he' hserves => hmin e' he' (e'.hits_iff.2 (Or.inl hserves))
    exact ⟨e, ids, answer_of_first t he hm hids (hlatin e he ⟨hm, ids, hids⟩ hfirst) hfirst hsome⟩

/-- An answer is that of the first entry that hits. -/
theorem Faithful.exists_first {t : Table isidentifier} {method path : String} {matchers : List Matcher}
    (hmatchers : replacedMatchers isidentifier t.routes = .ok matchers) (h : Faithful t matchers method path)
    {e : Entry isidentifier} (he : e ∈ t.entries) (hhits : e.Hits method path) :
    ∃ e' ids hit, Answer t matchers method path hit e' ids ∧
      ∀ e ∈ t.entries, e.Hits method path → e'.order ≤ e.order := by
  rcases replacedRoute_cases t method path hmatchers with ⟨_, hmiss⟩ | ⟨e', he', groups, hgroups, hmin, hsome⟩
  · exact (hmiss e he hhits).elim
  · obtain ⟨e'', ids, answer⟩ := h.answer _ hsome
    have hhits' : e'.Hits method path := by rw [Entry.Hits, hgroups]; rfl
    have hmethod : e''.method = e'.method := by rw [answer.byMethod, e'.method_of_hits hhits']
    obtain rfl := t.eq_of_key answer.mem he' hmethod answer.template.symm
    exact ⟨e'', ids, _, answer, hmin⟩

theorem noSlip_of_faithful {t : Table isidentifier} {method path : String} {matchers : List Matcher}
    (hmatchers : replacedMatchers isidentifier t.routes = .ok matchers) (h : Faithful t matchers method path) :
    NoSlip t method path.toList := by
  intro e he p hpath hserves
  have hhits : e.Hits method path := e.hits_iff.2 (Or.inr ⟨p, hpath, hserves⟩)
  obtain ⟨e', ids, hit, answer, hmin⟩ := h.exists_first hmatchers he hhits
  exact ⟨e', answer.mem, ⟨answer.byMethod, ids, answer.fits⟩, hmin e he hhits⟩

/-- The link was encoded, so the successor's text in it is latin-1. -/
theorem Answer.latinSuccessor {t : Table isidentifier} {method path : String} {matchers : List Matcher} {hit : Hit}
    {e : Entry isidentifier} {ids : List (List Char)} (h : Answer t matchers method path hit e ids) :
    e.LatinSuccessor := by
  intro l hl c hc
  let m : Message Unit := ⟨"http.response.start", none, ()⟩
  obtain ⟨messages, _, hmarked⟩ := h.marked Unit ⟨"http", method, path, none⟩ [m] rfl rfl rfl
  cases hmarked with
  | cons hm _ =>
    obtain ⟨_, link, _, _, _, htext⟩ := hm.start rfl
    have hlink : c ∈ hit.link.toList := h.link.mem_of_text (List.mem_map_of_mem hl) hc
    have hmem : c ∈ latin1 link := by
      rw [htext]
      exact List.mem_append_left _ (List.mem_append_right _ hlink)
    exact latin1_lt hmem

theorem latinLink_of_faithful {t : Table isidentifier} {method path : String} {matchers : List Matcher}
    (hmatchers : replacedMatchers isidentifier t.routes = .ok matchers) (h : Faithful t matchers method path) :
    LatinLink t method path.toList := by
  intro e he hserves hfirst
  have hhits : e.Hits method path := e.hits_iff.2 (Or.inl hserves)
  obtain ⟨e', ids, hit, answer, hmin⟩ := h.exists_first hmatchers he hhits
  have hle := hfirst e' answer.mem ⟨answer.byMethod, ids, answer.fits⟩
  rw [t.eq_of_order he answer.mem (le_antisymm hle (hmin e he hhits))]
  exact answer.latinSuccessor

/-- **Main.** The matchers are built for every table. A request gets what it is due exactly when no template
takes its path only without a final newline, and the successor that is named is latin-1. -/
theorem marker_faithful (t : Table isidentifier) (method path : String) :
    (∃ matchers, replacedMatchers isidentifier t.routes = .ok matchers ∧ Faithful t matchers method path) ↔
      NoSlip t method path.toList ∧ LatinLink t method path.toList := by
  constructor
  · rintro ⟨matchers, hmatchers, h⟩
    exact ⟨noSlip_of_faithful hmatchers h, latinLink_of_faithful hmatchers h⟩
  · rintro ⟨hslip, hlatin⟩
    exact ⟨_, replacedMatchers_routes t, faithful_of_noSlip t (replacedMatchers_routes t) hslip hlatin⟩

/-- `str.isidentifier` of ASCII text. -/
def asciiIdentifier (name : List Char) : Bool :=
  name.head?.any (fun c => c.isAlpha || c = '_') && name.all fun c => c.isAlphanum || c = '_'

def planId : Param asciiIdentifier :=
  ⟨"strategy_plan_id".toList, none, by decide +kernel, by decide +kernel, by decide +kernel, by decide +kernel,
    fun conv h => by cases h⟩

def strategyPlans : List (TemplateSegment asciiIdentifier) :=
  [.literal ⟨"strategies".toList, by decide +kernel, by decide +kernel⟩,
   .literal ⟨"plans".toList, by decide +kernel, by decide +kernel⟩, .param planId]

/-- A PUT that got a PATCH. -/
def plansEntry : Entry asciiIdentifier where
  method := "PUT"
  template := strategyPlans
  distinct := by decide +kernel
  successorMethod := "PATCH".toList
  noSpace := by decide +kernel
  successor := strategyPlans
  sameCount := rfl

def plansTable : Table asciiIdentifier := ⟨[plansEntry], List.nodup_singleton _⟩

/-- `/strategies/plans/42/` and a newline is marked as plan 42: its third segment is the newline. -/
theorem marker_fails : ¬ ∃ matchers, replacedMatchers asciiIdentifier plansTable.routes = .ok matchers ∧
    Faithful plansTable matchers "PUT" "/strategies/plans/42/\n" := by
  rintro ⟨matchers, hmatchers, h⟩
  have hserves : plansEntry.Serves "PUT" "/strategies/plans/42/".toList := by
    refine ⟨by decide +kernel, [['4', '2']], Or.inr ⟨"/strategies/plans/42".toList, by decide +kernel, ?_⟩⟩
    exact .text "strategies".toList (.text "plans".toList (.hole ['4', '2'] (by decide) (by decide) .nil))
  obtain ⟨e, he, ⟨_, ids, hids⟩, _⟩ := noSlip_of_faithful hmatchers h plansEntry List.mem_cons_self
    "/strategies/plans/42/".toList (by decide +kernel) hserves
  obtain rfl := List.mem_singleton.1 he
  rcases hids with hfits | ⟨p, hpath, _⟩
  · have hcount := hfits.count_sep ?_
    · revert hcount
      decide +kernel
    · intro t ht
      obtain ⟨s, _, hs⟩ := List.mem_map.1 ht
      cases s with
      | literal l =>
        obtain rfl := Segment.text.inj hs
        exact l.noSlash
      | param p => cases hs
  · have hlast := congrArg List.getLast? hpath
    rw [List.getLast?_concat] at hlast
    revert hlast
    decide +kernel

end BifrostApi.Deprecations
