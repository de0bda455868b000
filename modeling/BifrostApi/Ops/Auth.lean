import BifrostApi.Py.Json

/-!
# Roles from bearer tokens (`ops/auth.py`)

`hash` is `_hash_token`, the hex digest of a token. Headers are the `(name, value)` pairs of an ASGI
scope, names in lower case, values decoded.

| here | there |
| --- | --- |
| `resolve` | `OpsAuth.resolve` (auth.py:111) |
| `requireRole` | `OpsAuth.require_role` (auth.py:129) |
-/

namespace BifrostApi.Ops

open Py

/-- `ROLE_HIERARCHY` (auth.py:23). -/
def roleHierarchy : Dict String Nat := [("viewer", 0), ("operator", 1), ("admin", 2)]

structure Identity where
  name : String := "anonymous"
  role : String := "viewer"
  authenticated : Bool := false
  deriving DecidableEq, Repr

def Identity.roleLevel (ident : Identity) : Nat := (roleHierarchy.lookup ident.role).getD 0

structure AuthConfig where
  tokens : Dict String Identity := []
  defaultRole : String := "viewer"

abbrev Headers := List (String × String)

/-- `request.headers.get("Authorization", "")`: the first one sent. -/
def authorization (headers : Headers) : String := (headers.lookup "authorization").getD ""

/-- The text after `Bearer `, in any letter case (auth.py:113-115). -/
def rawToken (authHeader : String) : String :=
  let authHeader := strip authHeader
  if startsWith (lower authHeader) "bearer " then strip (sliceFrom 7 authHeader) else ""

/-- The identity of an `Authorization` header. -/
def resolve (hash : String → String) (cfg : AuthConfig) (authHeader : String) : Identity :=
  let token := rawToken authHeader
  if token ≠ "" then match cfg.tokens.lookup (hash token) with
    | some ident => ident
    | none => ⟨"invalid-token", "viewer", false⟩
  else ⟨"anonymous", cfg.defaultRole, false⟩

/-! ## The header -/

/-- The header is the word `Bearer` in any letter case, a space and a token, with any white space around the
token and at the ends. -/
structure Presents (header token : String) : Prop where
  token_ne : token ≠ ""
  stripped : strip token = token
  spelled : ∃ left scheme pad right, header.toList = left ++ (scheme ++ ' ' :: pad ++ token.toList) ++ right ∧
    List.Forall₂ (fun l c => c = l ∨ c = l.toUpper) "bearer".toList scheme ∧
    (∀ c ∈ left, isSpace c = true) ∧ (∀ c ∈ pad, isSpace c = true) ∧ ∀ c ∈ right, isSpace c = true

/-- The characters of `bearer `. -/
def bearerChars : List Char := ['b', 'e', 'a', 'r', ' ']

theorem lower_bearerChars : ∀ l ∈ bearerChars, l.toNat ∉ [0, 105, 107] ∧ l.toNat < 128 ∧ l.toUpper.toNat < 128 ∧
    Char.ofNat 962 ≠ l ∧ ∀ n < 128, (Char.ofNat n = l ∨ Char.ofNat n = l.toUpper) ↔ lowerCode n = [l.toNat] := by
  rw [bearerChars]
  simp only [List.forall_mem_cons]
  exact ⟨by decide, by decide, by decide, by decide, by decide, fun _ h => absurd h List.not_mem_nil⟩

/-- A letter's lower case goes on with that of the rest. -/
theorem lowerChars_cons {l c : Char} (hl : l ∈ bearerChars) (hc : c = l ∨ c = l.toUpper) (before cs : List Char) :
    lowerChars before (c :: cs) = l :: lowerChars (c :: before) cs := by
  obtain ⟨-, hlower, hupper, -, hcode⟩ := lower_bearerChars l hl
  have hascii : c.toNat < 128 := by
    rcases hc with rfl | rfl
    · exact hlower
    · exact hupper
  have hself : lowerCode c.toNat = [l.toNat] := (hcode c.toNat hascii).1 (by simpa using hc)
  have hsigma : ¬ c.toNat = 931 := fun h => absurd (h ▸ hascii) (by decide)
  simp [lowerChars, hsigma, hself]

theorem prefix_lowerChars {l : Char} {ls before cs : List Char} (hl : l ∈ bearerChars)
    (h : l :: ls <+: lowerChars before cs) :
    ∃ c rest, cs = c :: rest ∧ (c = l ∨ c = l.toUpper) ∧ ls <+: lowerChars (c :: before) rest := by
  obtain ⟨hother, hlower, -, hsigma, hcode⟩ := lower_bearerChars l hl
  cases cs with
  | nil => exact absurd (List.prefix_nil.1 h) (List.cons_ne_nil l ls)
  | cons c rest =>
    refine ⟨c, rest, rfl, ?_⟩
    rw [lowerChars] at h
    split at h
    · exact absurd (List.cons_prefix_cons.1 h).1.symm hsigma
    · obtain ⟨m, ms, hm⟩ := List.exists_cons_of_ne_nil (lowerCode_ne_nil c.toNat)
      rw [hm, List.map_cons, List.cons_append, List.cons_prefix_cons] at h
      obtain ⟨rfl, hrest⟩ := h
      -- the letter is ASCII, so its character is
      have hvalid : m.isValidChar := by
        by_contra hnot
        have hzero : (Char.ofNat m).toNat = 0 := by rw [Char.ofNat, dif_neg hnot]; rfl
        rw [hzero] at hother
        exact hother (by decide)
      have hself := toNat_ofNat hvalid
      rw [hself] at hother hlower
      have hmem : m ∈ lowerCode c.toNat := by rw [hm]; exact List.mem_cons_self
      have hascii : c.toNat < 128 := by
        rcases lowerCode_ascii hmem hlower with hascii | ⟨-, rfl⟩ | ⟨-, rfl⟩
        · exact hascii
        · exact absurd (by decide) hother
        · exact absurd (by decide) hother
      have hone : ms = [] := by
        rw [lowerCode_of_ascii hascii] at hm
        exact (List.cons.inj hm).2.symm
      subst hone
      have hletter := (hcode c.toNat hascii).2 (by rw [hself]; exact hm)
      rw [Char.ofNat_toNat] at hletter
      exact ⟨hletter, hrest⟩

/-- The scheme of a text and what follows it, in the characters of its lower case. -/
theorem prefix_scheme {ls : List Char} (hls : ∀ l ∈ ls, l ∈ bearerChars) : ∀ {before cs : List Char},
    ls <+: lowerChars before cs ↔
      ∃ scheme rest, cs = scheme ++ rest ∧ List.Forall₂ (fun l c => c = l ∨ c = l.toUpper) ls scheme := by
  induction ls with
  | nil =>
    intro before cs
    exact iff_of_true List.nil_prefix ⟨[], cs, rfl, .nil⟩
  | cons l ls ih =>
    rw [List.forall_mem_cons] at hls
    intro before cs
    constructor
    · intro h
      obtain ⟨c, rest, rfl, hc, hrest⟩ := prefix_lowerChars hls.1 h
      obtain ⟨scheme, rest', rfl, hscheme⟩ := (ih hls.2).1 hrest
      exact ⟨c :: scheme, rest', rfl, .cons hc hscheme⟩
    · rintro ⟨_, rest, rfl, hscheme⟩
      obtain ⟨c, scheme, hc, htail, rfl⟩ := List.forall₂_cons_left_iff.1 hscheme
      rw [List.cons_append, lowerChars_cons hls.1 hc, List.cons_prefix_cons]
      exact ⟨rfl, (ih hls.2).2 ⟨scheme, rest, rfl, htail⟩⟩

theorem bearer_iff {text : String} : startsWith (lower text) "bearer " = true ↔
    ∃ scheme rest, text.toList = scheme ++ ' ' :: rest ∧
      List.Forall₂ (fun l c => c = l ∨ c = l.toUpper) "bearer".toList scheme := by
  have hchars : "bearer ".toList = "bearer".toList ++ [' '] := by decide
  have hspace : ' '.toUpper = ' ' := by decide
  have hstarts : startsWith (lower text) "bearer " = true ↔ "bearer ".toList <+: lowerChars [] text.toList := by
    have hlower : (lower text).toList = lowerChars [] text.toList := String.toList_ofList
    rw [startsWith, hlower]
    exact List.isPrefixOf_iff_prefix
  have hletters : "bearer ".toList ⊆ bearerChars := by decide
  have hscheme := @prefix_scheme "bearer ".toList (fun l hl => hletters hl) [] text.toList
  rw [hstarts, hscheme, hchars]
  constructor
  · rintro ⟨front, rest, htext, hall⟩
    have hword := List.forall₂_take 6 hall
    have hlast := List.forall₂_drop 6 hall
    obtain ⟨c, _, hc, hnil, hdrop⟩ := List.forall₂_cons_left_iff.1 hlast
    obtain rfl := List.forall₂_nil_left_iff.1 hnil
    rw [hspace, or_self] at hc
    refine ⟨front.take 6, rest, ?_, hword⟩
    have hfront : front.take 6 ++ [' '] = front := by
      rw [← hc, ← hdrop, List.take_append_drop]
    rw [htext, ← List.singleton_append, ← List.append_assoc, hfront]
  · rintro ⟨scheme, rest, htext, hscheme⟩
    refine ⟨scheme ++ [' '], rest, ?_, List.rel_append hscheme (.cons (Or.inl rfl) .nil)⟩
    rw [htext, List.append_assoc, List.singleton_append]

theorem rawToken_eq {header : String} {scheme rest : List Char}
    (hstrip : (strip header).toList = scheme ++ ' ' :: rest)
    (hscheme : List.Forall₂ (fun l c => c = l ∨ c = l.toUpper) "bearer".toList scheme) :
    rawToken header = String.ofList (stripChars rest) := by
  have hlength : scheme.length = 6 := hscheme.length_eq.symm
  have hdrop : (scheme ++ ' ' :: rest).drop 7 = rest := by
    rw [List.drop_append, hlength, List.drop_of_length_le (by omega), List.nil_append]
    rfl
  unfold rawToken
  dsimp only
  rw [if_pos (bearer_iff.2 ⟨scheme, rest, hstrip, hscheme⟩), sliceFrom, hstrip, hdrop, strip, String.toList_ofList]

/-- What the parser finds is the token that is presented, and nothing where none is. -/
theorem presents_iff {header token : String} : Presents header token ↔ token ≠ "" ∧ rawToken header = token := by
  constructor
  · rintro ⟨hne, hstripped, left, scheme, pad, right, hheader, hscheme, hleft, hpad, hright⟩
    refine ⟨hne, ?_⟩
    have htoken : stripChars token.toList = token.toList := by
      rw [← String.toList_ofList (l := stripChars token.toList), ← strip, hstripped]
    have hchars : token.toList ≠ [] := fun h => hne (String.toList_eq_nil_iff.1 h)
    have hhead : ∀ c ∈ (scheme ++ ' ' :: pad ++ token.toList).head?, isSpace c = false := by
      obtain ⟨c, rest, hc, -, rfl⟩ := List.forall₂_cons_left_iff.1 hscheme
      rintro d hd
      obtain rfl : c = d := Option.some.inj hd
      rcases hc with rfl | rfl <;> decide
    have hlast : ∀ c ∈ (scheme ++ ' ' :: pad ++ token.toList).getLast?, isSpace c = false := by
      intro c hc
      rw [List.getLast?_append, List.getLast?_eq_getLast_of_ne_nil hchars, Option.some_or] at hc
      refine @getLast?_stripChars token.toList _ ?_
      rw [htoken, List.getLast?_eq_getLast_of_ne_nil hchars]
      exact hc
    have hstrip : (strip header).toList = scheme ++ ' ' :: (pad ++ token.toList) := by
      rw [strip, String.toList_ofList, hheader, stripChars_pad (by simp) hhead hlast hleft hright]
      simp
    have hrest : stripChars (pad ++ token.toList) = token.toList := by
      have hpadded := stripChars_pad hchars (htoken ▸ fun c hc => head?_stripChars hc)
        (htoken ▸ fun c hc => getLast?_stripChars hc) hpad (fun c hc => absurd hc List.not_mem_nil : ∀ c ∈ [], _)
      rwa [List.append_nil] at hpadded
    rw [rawToken_eq hstrip hscheme, hrest, String.ofList_toList]
  · rintro ⟨hne, rfl⟩
    have hbearer : startsWith (lower (strip header)) "bearer " = true := by
      by_contra hnot
      refine hne ?_
      unfold rawToken
      dsimp only
      rw [if_neg hnot]
    obtain ⟨scheme, rest, hstrip, hscheme⟩ := bearer_iff.1 hbearer
    have hraw := rawToken_eq hstrip hscheme
    obtain ⟨left, right, hheader, hleft, hright⟩ := exists_pad header.toList
    obtain ⟨pad, tail, hrest, hpad, htail⟩ := exists_pad rest
    refine ⟨hne, ?_, left, scheme, pad, tail ++ right, ?_, hscheme, hleft, hpad, ?_⟩
    · rw [hraw, strip, String.toList_ofList, stripChars_stripChars]
    · have hchars : stripChars header.toList = scheme ++ ' ' :: rest := by
        rw [← hstrip, strip, String.toList_ofList]
      rw [hraw, String.toList_ofList]
      conv_lhs => rw [hheader, hchars, hrest]
      simp only [List.append_assoc, List.cons_append]
    · intro c hc
      rcases List.mem_append.1 hc with hc | hc
      · exact htail c hc
      · exact hright c hc

/-- The body of a 403 (auth.py:140-148). -/
def forbidden (ident : Identity) (minimum : String) : Json :=
  .obj [("detail", .str ("Insufficient permissions; " ++ minimum ++ " role required (current: "
          ++ ident.role ++ ").")),
        ("authenticated", .bool ident.authenticated),
        ("current_role", .str ident.role),
        ("required_role", .str minimum)]

/-- The identity, and the body of the 403 when its role is too low. An unknown minimum refuses. -/
def requireRole (hash : String → String) (cfg : AuthConfig) (authHeader minimum : String) :
    Identity × Option Json :=
  let ident := resolve hash cfg authHeader
  if ident.roleLevel < (roleHierarchy.lookup minimum).getD 99 then (ident, some (forbidden ident minimum))
  else (ident, none)

/-- Operator or higher. -/
def AtLeastOperator (ident : Identity) : Prop := 1 ≤ ident.roleLevel

instance (ident : Identity) : Decidable (AtLeastOperator ident) := inferInstanceAs (Decidable (_ ≤ _))

theorem requireRole_operator (hash : String → String) (cfg : AuthConfig) (authHeader : String) :
    (requireRole hash cfg authHeader "operator").2 =
      if AtLeastOperator (resolve hash cfg authHeader) then none
      else some (forbidden (resolve hash cfg authHeader) "operator") := by
  have hmin : (roleHierarchy.lookup "operator").getD 99 = 1 := rfl
  have hrole : AtLeastOperator (resolve hash cfg authHeader) ↔ ¬ (resolve hash cfg authHeader).roleLevel < 1 :=
    Nat.not_lt.symm
  unfold requireRole
  rw [hmin]
  by_cases hlevel : (resolve hash cfg authHeader).roleLevel < 1
  · simp only [hlevel, if_true, if_neg (mt hrole.1 (not_not.2 hlevel))]
  · simp only [hlevel, if_false, if_pos (hrole.2 hlevel)]

end BifrostApi.Ops
