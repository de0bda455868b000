import Mathlib.Data.List.DropRight
import BifrostApi.Py.Lower
import BifrostApi.Py.Upper

/-!
# `str` methods

Text is a `String`; the methods work on its characters. White space, digits and both cases are Unicode's.
-/

namespace Py

/-- The zeros of Unicode's decimal digit blocks (`Nd`); a block is ten consecutive code points. -/
def digitZeros : List Nat :=
  [0x30, 0x660, 0x6F0, 0x7C0, 0x966, 0x9E6, 0xA66, 0xAE6, 0xB66, 0xBE6, 0xC66, 0xCE6, 0xD66, 0xDE6,
   0xE50, 0xED0, 0xF20, 0x1040, 0x1090, 0x17E0, 0x1810, 0x1946, 0x19D0, 0x1A80, 0x1A90, 0x1B50,
   0x1BB0, 0x1C40, 0x1C50, 0xA620, 0xA8D0, 0xA900, 0xA9D0, 0xA9F0, 0xAA50, 0xABF0, 0xFF10, 0x104A0,
   0x10D30, 0x11066, 0x110F0, 0x11136, 0x111D0, 0x112F0, 0x11450, 0x114D0, 0x11650, 0x116C0, 0x11730,
   0x118E0, 0x11950, 0x11C50, 0x11D50, 0x11DA0, 0x11F50, 0x16A60, 0x16AC0, 0x16B50, 0x1D7CE, 0x1D7D8,
   0x1D7E2, 0x1D7EC, 0x1D7F6, 0x1E140, 0x1E2F0, 0x1E4F0, 0x1E950, 0x1FBF0]

/-- The value of a decimal digit, in any script. -/
def decimalDigit? (c : Char) : Option Nat :=
  digitZeros.findSome? fun z => if z ≤ c.toNat && c.toNat < z + 10 then some (c.toNat - z) else none

/-- The digits that are not decimal: superscripts, subscripts, circled and other numerals. -/
def otherDigits : List (Nat × Nat) :=
  [(178, 179), (185, 185), (4969, 4977), (6618, 6618), (8304, 8304), (8308, 8313), (8320, 8329), (9312, 9320),
   (9332, 9340), (9352, 9360), (9450, 9450), (9461, 9469), (9471, 9471), (10102, 10110), (10112, 10120),
   (10122, 10130), (68160, 68163), (69216, 69224), (69714, 69722), (127232, 127242)]

/-- `c.isdigit()`. -/
def isDigit (c : Char) : Bool :=
  (decimalDigit? c).isSome || otherDigits.any fun r => r.1 ≤ c.toNat && c.toNat ≤ r.2

/-- The lower case of the characters that have one in ASCII alone: its letters, and the Kelvin sign. -/
def lowerChar (c : Char) : Char :=
  if 'A' ≤ c ∧ c ≤ 'Z' then Char.ofNat (c.toNat + 32) else if c.toNat = 0x212A then 'k' else c

/-- `s.lower()`, `s.upper()`. -/
def lower (s : String) : String := String.ofList (lowerChars [] s.toList)

def upper (s : String) : String := String.ofList (s.toList.flatMap upperChar)

def stripChars (cs : List Char) : List Char := (cs.dropWhile isSpace).rdropWhile isSpace

/-- `s.strip()`. -/
def strip (s : String) : String := String.ofList (stripChars s.toList)

/-- `s.rstrip(c)`. -/
def rstrip (c : Char) (s : String) : String := String.ofList (s.toList.rdropWhile (· == c))

/-- `s.startswith(p)`. -/
def startsWith (s p : String) : Bool := p.toList.isPrefixOf s.toList

def hasInfix (p : List Char) : List Char → Bool
  | [] => p.isEmpty
  | c :: cs => p.isPrefixOf (c :: cs) || hasInfix p cs

/-- `p in s`. -/
def contains (s p : String) : Bool := hasInfix p.toList s.toList

/-- `s[n:]`. -/
def sliceFrom (n : Nat) (s : String) : String := String.ofList (s.toList.drop n)

/-- `s.split(c)`: one field more than there are separators. -/
def splitChars (c : Char) : List Char → List (List Char)
  | [] => [[]]
  | x :: xs =>
    if x = c then [] :: splitChars c xs
    else match splitChars c xs with
      | f :: fs => (x :: f) :: fs
      | [] => [[x]]

def split (c : Char) (s : String) : List String := (splitChars c s.toList).map String.ofList

/-- `sep.join(parts)`. -/
def join (sep : String) : List String → String
  | [] => ""
  | [p] => p
  | p :: q :: ps => p ++ sep ++ join sep (q :: ps)

/-! ## Stripping is idempotent -/

theorem dropWhile_eq_self {p : Char → Bool} {cs : List Char} (h : ∀ c ∈ cs.head?, p c = false) :
    cs.dropWhile p = cs := by
  cases cs with
  | nil => rfl
  | cons c cs => simp [h c (by simp)]

theorem head?_rdropWhile {p : Char → Bool} {cs : List Char} {c : Char}
    (h : c ∈ (cs.rdropWhile p).head?) : c ∈ cs.head? := by
  obtain ⟨tail, htail⟩ := List.rdropWhile_prefix p cs
  rw [← htail, List.head?_append]
  simp [Option.mem_def.1 h]

theorem head?_stripChars {cs : List Char} {c : Char} (h : c ∈ (stripChars cs).head?) : isSpace c = false := by
  have hhead : c ∈ (cs.dropWhile isSpace).head? := head?_rdropWhile h
  have hnot := List.head?_dropWhile_not isSpace cs
  rw [Option.mem_def.1 hhead] at hnot
  exact hnot

theorem getLast?_stripChars {cs : List Char} {c : Char} (h : c ∈ (stripChars cs).getLast?) : isSpace c = false := by
  have hne : stripChars cs ≠ [] := fun hnil => by
    rw [hnil] at h
    cases h
  have hlast := List.rdropWhile_last_not isSpace (cs.dropWhile isSpace) hne
  rw [Option.mem_def, List.getLast?_eq_getLast_of_ne_nil hne] at h
  rw [← Option.some.inj h]
  exact Bool.eq_false_iff.2 hlast

/-- Text without white space at its ends is its own stripped text. -/
theorem stripChars_eq_self {cs : List Char} (hhead : ∀ c ∈ cs.head?, isSpace c = false)
    (hlast : ∀ c ∈ cs.getLast?, isSpace c = false) : stripChars cs = cs := by
  rw [stripChars, dropWhile_eq_self hhead, List.rdropWhile_eq_self_iff]
  intro hne
  rw [hlast (cs.getLast hne) (by rw [List.getLast?_eq_getLast_of_ne_nil hne]; rfl)]
  exact Bool.false_ne_true

theorem stripChars_stripChars (cs : List Char) : stripChars (stripChars cs) = stripChars cs :=
  stripChars_eq_self (fun _ h => head?_stripChars h) fun _ h => getLast?_stripChars h

theorem strip_strip (s : String) : strip (strip s) = strip s := by
  simp [strip, stripChars_stripChars]

/-- No digit is white space. -/
theorem not_space_of_decimal {c : Char} (h : (decimalDigit? c).isSome = true) : isSpace c = false := by
  unfold decimalDigit? at h
  rw [List.findSome?_isSome_iff] at h
  obtain ⟨z, hz, hc⟩ := h
  have hrange : z ≤ c.toNat ∧ c.toNat < z + 10 := by
    split at hc
    · rename_i hz'
      simpa using hz'
    · cases hc
  have hall : ∀ z ∈ digitZeros, ∀ i < 10, spaceCode (z + i) = false := by decide
  have hcode := hall z hz (c.toNat - z) (by omega)
  rwa [Nat.add_sub_cancel' hrange.1] at hcode

theorem rdropWhile_append_of_last {p : Char → Bool} {cs : List Char} (rest : List Char)
    (hlast : ∀ c ∈ cs.getLast?, p c = false) : (cs ++ rest).rdropWhile p = cs ++ rest.rdropWhile p := by
  have hself : cs.reverse.dropWhile p = cs.reverse := by
    apply dropWhile_eq_self
    rw [List.head?_reverse]
    exact hlast
  rw [List.rdropWhile, List.reverse_append, List.dropWhile_append]
  split
  · rename_i hnil
    rw [hself, List.reverse_reverse, List.rdropWhile, List.isEmpty_iff.1 hnil, List.reverse_nil, List.append_nil]
  · rw [List.reverse_append, List.reverse_reverse, List.rdropWhile]

/-- Text after a stripped one is stripped at its end only. -/
theorem stripChars_append {cs : List Char} (rest : List Char) (hne : cs ≠ [])
    (hhead : ∀ c ∈ cs.head?, isSpace c = false) (hlast : ∀ c ∈ cs.getLast?, isSpace c = false) :
    stripChars (cs ++ rest) = cs ++ rest.rdropWhile isSpace := by
  have hself : (cs ++ rest).dropWhile isSpace = cs ++ rest := by
    apply dropWhile_eq_self
    obtain ⟨c, cs, rfl⟩ := List.exists_cons_of_ne_nil hne
    exact hhead
  rw [stripChars, hself, rdropWhile_append_of_last rest hlast]

/-- Stripping takes white space off both ends. -/
theorem exists_pad (cs : List Char) : ∃ left right, cs = left ++ stripChars cs ++ right ∧
    (∀ c ∈ left, isSpace c = true) ∧ ∀ c ∈ right, isSpace c = true := by
  refine ⟨cs.takeWhile isSpace, (cs.dropWhile isSpace).rtakeWhile isSpace, ?_, fun c => List.mem_takeWhile_imp,
    fun c => List.mem_rtakeWhile_imp⟩
  rw [stripChars, List.append_assoc, List.rdropWhile_append_rtakeWhile, List.takeWhile_append_dropWhile]

/-- What stands between white space comes back, if its own ends are none. -/
theorem stripChars_pad {cs left right : List Char} (hne : cs ≠ []) (hhead : ∀ c ∈ cs.head?, isSpace c = false)
    (hlast : ∀ c ∈ cs.getLast?, isSpace c = false) (hleft : ∀ c ∈ left, isSpace c = true)
    (hright : ∀ c ∈ right, isSpace c = true) : stripChars (left ++ cs ++ right) = cs := by
  have hfront : (left ++ cs ++ right).dropWhile isSpace = (cs ++ right).dropWhile isSpace := by
    rw [List.append_assoc, List.dropWhile_append_of_pos hleft]
  have hend : right.rdropWhile isSpace = [] := List.rdropWhile_eq_nil_iff.2 hright
  rw [stripChars, hfront, ← stripChars, stripChars_append right hne hhead hlast, hend, List.append_nil]

/-- Text without white space at its start is stripped to a prefix. -/
theorem stripChars_isPrefixOf {cs : List Char} (h : ∀ c ∈ cs.head?, isSpace c = false) : stripChars cs <+: cs := by
  rw [stripChars, dropWhile_eq_self h]
  exact List.rdropWhile_prefix isSpace cs

theorem mem_of_mem_strip {c : Char} {s : String} (h : c ∈ (strip s).toList) : c ∈ s.toList := by
  rw [strip, String.toList_ofList] at h
  have hfront := List.rdropWhile_prefix isSpace (s.toList.dropWhile isSpace)
  exact (List.dropWhile_suffix isSpace).subset (hfront.subset h)

/-! ## Upper case -/

theorem flatMap_upperChar (c : Char) : (upperChar c).flatMap upperChar = upperChar c := by
  rcases upperChar_cases c with hself | ⟨-, hsettled⟩
  · rw [hself, List.flatMap_singleton, hself]
  · rw [List.flatMap_congr fun d hd => (hsettled d hd).upper, List.flatMap_singleton']

/-- `s.upper().upper()`. -/
theorem upper_upper (s : String) : upper (upper s) = upper s := by
  rw [upper, upper, String.toList_ofList, List.flatMap_assoc, List.flatMap_congr fun c _ => flatMap_upperChar c]

theorem upperChar_ne_nil (c : Char) : upperChar c ≠ [] := by
  rcases upperChar_cases c with hself | ⟨hne, -⟩
  · rw [hself]
    exact List.cons_ne_nil c []
  · exact hne

theorem not_space_upperChar {c d : Char} (hc : isSpace c = false) (hd : d ∈ upperChar c) : isSpace d = false := by
  rcases upperChar_cases c with hself | ⟨-, hsettled⟩
  · rw [hself, List.mem_singleton] at hd
    rw [hd]
    exact hc
  · exact (hsettled d hd).not_space

theorem bar_notMem_upper {s : String} (h : '|' ∉ s.toList) : '|' ∉ (upper s).toList := by
  rw [upper, String.toList_ofList]
  intro hmem
  obtain ⟨c, hc, hbar⟩ := List.mem_flatMap.1 hmem
  rcases upperChar_cases c with hself | ⟨-, hsettled⟩
  · rw [hself, List.mem_singleton] at hbar
    exact h (hbar ▸ hc)
  · exact (hsettled '|' hbar).not_bar rfl

/-- Upper case brings no white space to the ends of stripped text. -/
theorem strip_upper_strip (s : String) : strip (upper (strip s)) = upper (strip s) := by
  have hchars : ∀ cs : List Char,
      stripChars ((stripChars cs).flatMap upperChar) = (stripChars cs).flatMap upperChar := by
    intro cs
    apply stripChars_eq_self
    · intro d hd
      cases hcs : stripChars cs with
      | nil =>
        rw [hcs] at hd
        cases hd
      | cons c rest =>
        have hc : isSpace c = false := head?_stripChars (by rw [hcs]; rfl)
        obtain ⟨e, es, he⟩ := List.exists_cons_of_ne_nil (upperChar_ne_nil c)
        rw [hcs, List.flatMap_cons, he] at hd
        obtain rfl : e = d := Option.some.inj hd
        exact not_space_upperChar hc (by rw [he]; simp)
    · intro d hd
      rcases List.eq_nil_or_concat (stripChars cs) with hnil | ⟨init, c, hcs⟩
      · rw [hnil] at hd
        cases hd
      · have hc : isSpace c = false := getLast?_stripChars (by rw [hcs]; simp)
        rw [hcs, List.concat_eq_append, List.flatMap_append, List.flatMap_singleton, List.getLast?_append] at hd
        have hlast : d ∈ (upperChar c).getLast? := by
          rw [List.getLast?_eq_getLast_of_ne_nil (upperChar_ne_nil c)] at hd ⊢
          exact hd
        exact not_space_upperChar hc (List.mem_of_mem_getLast? hlast)
  rw [strip, upper, strip, String.toList_ofList, String.toList_ofList, hchars]

theorem upper_ne_empty {s : String} (h : s ≠ "") : upper s ≠ "" := by
  intro hempty
  have hnil : s.toList.flatMap upperChar = [] := by
    have := congrArg String.toList hempty
    simpa [upper] using this
  cases hs : s.toList with
  | nil => exact h (String.toList_eq_nil_iff.1 hs)
  | cons c cs =>
    rw [hs, List.flatMap_cons, List.append_eq_nil_iff] at hnil
    exact upperChar_ne_nil c hnil.1

theorem append_ne_empty {s t : String} (h : s ≠ "") : s ++ t ≠ "" :=
  fun hst => h (String.append_eq_empty_iff.1 hst).1

/-! ## Stripping one character from the end -/

theorem rdropWhile_append_replicate {c : Char} {cs : List Char} (hcs : cs.getLast? ≠ some c) : ∀ n : Nat,
    (cs ++ List.replicate n c).rdropWhile (· == c) = cs
  | 0 => by
    rw [List.replicate_zero, List.append_nil, List.rdropWhile_eq_self_iff]
    intro hne hlast
    apply hcs
    rw [List.getLast?_eq_getLast_of_ne_nil hne]
    exact congrArg some (by simpa using hlast)
  | n + 1 => by
    rw [List.replicate_succ', ← List.append_assoc, List.rdropWhile_concat_pos _ _ _ (by simp)]
    exact rdropWhile_append_replicate hcs n

/-- What is stripped to a text that does not end in `c` is that text and any number of `c`. -/
theorem rstrip_eq_iff {c : Char} {s t : String} (ht : t.toList.getLast? ≠ some c) :
    rstrip c s = t ↔ ∃ n, s = t ++ String.ofList (List.replicate n c) := by
  constructor
  · rintro rfl
    have hall : ∀ x ∈ s.toList.rtakeWhile (· == c), x = c := fun x hx => by
      simpa using List.mem_rtakeWhile_imp hx
    refine ⟨(s.toList.rtakeWhile (· == c)).length, ?_⟩
    rw [← List.eq_replicate_of_mem hall, rstrip, ← String.ofList_append, List.rdropWhile_append_rtakeWhile,
      String.ofList_toList]
  · rintro ⟨n, rfl⟩
    rw [rstrip, String.toList_append, String.toList_ofList, rdropWhile_append_replicate ht, String.ofList_toList]

/-! ## Splitting what was joined -/

theorem splitChars_of_notMem {c : Char} : ∀ {cs : List Char}, c ∉ cs → splitChars c cs = [cs]
  | [], _ => rfl
  | x :: xs, h => by
    obtain ⟨hx, hxs⟩ := not_or.1 (fun hor => h (List.mem_cons.2 hor))
    rw [splitChars, if_neg (Ne.symm hx), splitChars_of_notMem hxs]

theorem splitChars_append {c : Char} (rest : List Char) : ∀ {cs : List Char}, c ∉ cs →
    splitChars c (cs ++ c :: rest) = cs :: splitChars c rest
  | [], _ => by simp [splitChars]
  | x :: xs, h => by
    obtain ⟨hx, hxs⟩ := not_or.1 (fun hor => h (List.mem_cons.2 hor))
    rw [List.cons_append, splitChars, if_neg (Ne.symm hx), splitChars_append rest hxs]

theorem notMem_of_mem_splitChars {c : Char} : ∀ {cs field : List Char}, field ∈ splitChars c cs → c ∉ field
  | [], field, h => by
    rw [splitChars, List.mem_singleton] at h
    rw [h]
    exact List.not_mem_nil
  | x :: xs, field, h => by
    rw [splitChars] at h
    split at h
    · rcases List.mem_cons.1 h with rfl | h
      · exact List.not_mem_nil
      · exact notMem_of_mem_splitChars h
    · rename_i hx
      cases hrec : splitChars c xs with
      | nil =>
        rw [hrec] at h
        rw [List.mem_singleton.1 h]
        exact fun hc => hx (List.mem_singleton.1 hc).symm
      | cons f fs =>
        rw [hrec] at h
        have hrest : ∀ g ∈ f :: fs, c ∉ g := fun g hg => notMem_of_mem_splitChars (by rw [hrec]; exact hg)
        rcases List.mem_cons.1 h with rfl | h
        · intro hc
          rcases List.mem_cons.1 hc with rfl | hc
          · exact hx rfl
          · exact hrest f (List.mem_cons_self ..) hc
        · exact hrest field (List.mem_cons_of_mem f h)

/-- The first of several fields is what stands before the first separator. -/
theorem append_of_splitChars {c : Char} : ∀ {cs f g : List Char} {fs : List (List Char)},
    splitChars c cs = f :: g :: fs → ∃ rest, cs = f ++ c :: rest
  | [], f, g, fs, h => by simp [splitChars] at h
  | x :: xs, f, g, fs, h => by
    rw [splitChars] at h
    split at h
    · rename_i hx
      obtain ⟨rfl, -⟩ := List.cons.inj h
      exact ⟨xs, by rw [hx]; rfl⟩
    · cases hrec : splitChars c xs with
      | nil =>
        rw [hrec] at h
        cases h
      | cons f' fs' =>
        rw [hrec] at h
        obtain ⟨rfl, rfl⟩ := List.cons.inj h
        obtain ⟨rest, hrest⟩ := append_of_splitChars hrec
        exact ⟨rest, by rw [hrest]; rfl⟩

/-- Fields without the separator come back as they went in. -/
theorem split_join {c : Char} {sep : String} (hsep : sep.toList = [c]) : ∀ {fields : List String},
    fields ≠ [] → (∀ f ∈ fields, c ∉ f.toList) → split c (join sep fields) = fields
  | [], hne, _ => absurd rfl hne
  | [f], _, h => by
    rw [join, split, splitChars_of_notMem (h f (by simp))]
    simp
  | f :: g :: fs, _, h => by
    have htail : ∀ x ∈ g :: fs, c ∉ x.toList := fun x hx => h x (List.mem_cons_of_mem f hx)
    have ih := split_join hsep (List.cons_ne_nil g fs) htail
    rw [split] at ih
    rw [join, split, String.toList_append, String.toList_append, hsep, List.append_assoc,
      List.singleton_append, splitChars_append _ (h f (by simp)), List.map_cons, ih]
    simp

/-! ## Separators -/

/-- Text before the last separator, and after it. -/
theorem append_sep_inj {c : Char} {front front' last last' : List Char} (h : c ∉ last) (h' : c ∉ last')
    (heq : front ++ c :: last = front' ++ c :: last') : front = front' ∧ last = last' := by
  rcases List.append_eq_append_iff.1 heq with ⟨mid, hfront, hlast⟩ | ⟨mid, hfront, hlast⟩
  · cases mid with
    | nil => exact ⟨by rw [hfront, List.append_nil], (List.cons.inj hlast).2⟩
    | cons d mid =>
      refine absurd ?_ h
      rw [(List.cons.inj hlast).2]
      simp
  · cases mid with
    | nil => exact ⟨by rw [hfront, List.append_nil], (List.cons.inj hlast).2.symm⟩
    | cons d mid =>
      refine absurd ?_ h'
      rw [(List.cons.inj hlast).2]
      simp

/-- Text that two different separators follow is where they stand. -/
theorem append_two_seps_inj {c d : Char} (hcd : c ≠ d) {front front' xs xs' ys ys' : List Char}
    (hc : front ++ c :: xs = front' ++ c :: xs') (hd : front ++ d :: ys = front' ++ d :: ys') : front = front' := by
  have hle : ∀ {front front' xs xs' ys ys' mid : List Char}, front' = front ++ mid →
      front ++ c :: xs = front' ++ c :: xs' → front ++ d :: ys = front' ++ d :: ys' → front = front' := by
    intro front front' xs xs' ys ys' mid hmid hc hd
    rw [hmid, List.append_assoc] at hc hd
    have hc := List.append_cancel_left hc
    have hd := List.append_cancel_left hd
    cases mid with
    | nil => rw [hmid, List.append_nil]
    | cons e mid => exact absurd ((List.cons.inj hc).1.trans (List.cons.inj hd).1.symm) hcd
  rcases List.append_eq_append_iff.1 hc with ⟨mid, hmid, -⟩ | ⟨mid, hmid, -⟩
  · exact hle hmid hc hd
  · exact (hle hmid hc.symm hd.symm).symm

end Py
