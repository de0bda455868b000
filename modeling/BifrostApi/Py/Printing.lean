import Mathlib.Algebra.Order.Field.Basic
import Mathlib.Algebra.Order.Field.Rat
import Mathlib.Algebra.Order.Ring.Abs
import Mathlib.Tactic.FieldSimp
import Mathlib.Tactic.IntervalCases
import Mathlib.Tactic.Ring
import BifrostApi.Py.Rounding

/-!
# Printing a number and reading it back

`float(repr(x)) == x` for the values with at most eight decimals (`ofText_repr`): what `round(x, 8)` gives. The
printed text has ASCII digits, a point, `e` and signs only (`repr_printChar`).
-/

namespace Py.Number

/-! ## Runs of digits -/

/-- The value of an ASCII digit. -/
def digitVal (c : Char) : Nat := c.toNat - 48

/-- Only ASCII digits. -/
def Digits (cs : List Char) : Prop := ∀ c ∈ cs, c.isDigit = true

theorem digits_nil : Digits [] := fun _ h => absurd h List.not_mem_nil

theorem digits_cons {c : Char} {cs : List Char} : Digits (c :: cs) ↔ c.isDigit = true ∧ Digits cs :=
  List.forall_mem_cons

theorem digits_zero : Digits ['0'] := digits_cons.2 ⟨rfl, digits_nil⟩

theorem digits_append {cs ds : List Char} : Digits (cs ++ ds) ↔ Digits cs ∧ Digits ds := by
  simp only [Digits, List.mem_append, or_imp, forall_and]

theorem digits_toDigits (n : Nat) : Digits (Nat.toDigits 10 n) :=
  fun _ h => Nat.isDigit_of_mem_toDigits (by decide) (by decide) h

theorem digitChar_of_isDigit {c : Char} (h : c.isDigit = true) : ∃ n, n < 10 ∧ c = Nat.digitChar n := by
  rw [Char.isDigit, Bool.and_eq_true, decide_eq_true_eq, decide_eq_true_eq] at h
  have hlow : 48 ≤ c.toNat := UInt32.le_iff_toNat_le.1 h.1
  have hhigh : c.toNat ≤ 57 := UInt32.le_iff_toNat_le.1 h.2
  refine ⟨c.toNat - 48, by omega, Char.toNat_inj.1 ?_⟩
  obtain ⟨k, hk⟩ : ∃ k, c.toNat = 48 + k := ⟨c.toNat - 48, by omega⟩
  rw [hk, Nat.add_sub_cancel_left]
  have hlt : k < 10 := by omega
  interval_cases k <;> rfl

theorem decimalDigit?_of_isDigit {c : Char} (h : c.isDigit = true) : decimalDigit? c = some (digitVal c) := by
  obtain ⟨n, hn, rfl⟩ := digitChar_of_isDigit h
  interval_cases n <;> decide

theorem takeDigits_append {rest : List Char} : ∀ {ds : List Char}, Digits ds →
    takeDigits true (ds ++ rest) = (ds.map digitVal ++ (takeDigits true rest).1, (takeDigits true rest).2)
  | [], _ => rfl
  | c :: ds, h => by
    obtain ⟨hc, hds⟩ := digits_cons.1 h
    rw [List.cons_append, takeDigits, decimalDigit?_of_isDigit hc, takeDigits_append hds]
    rfl

/-- What a run of digits stops at. -/
def Stops (rest : List Char) : Prop := ∀ c ∈ rest.head?, decimalDigit? c = none ∧ c ≠ '_'

theorem takeDigits_of_stops {rest : List Char} (h : Stops rest) (b : Bool) : takeDigits b rest = ([], rest) := by
  cases rest with
  | nil => rfl
  | cons c cs =>
    obtain ⟨hnone, hbar⟩ := h c rfl
    rw [takeDigits, hnone]
    simp [hbar]

/-- A run of digits is taken whole. -/
theorem takeDigits_digits {ds rest : List Char} (hds : Digits ds) (hne : ds ≠ []) (hrest : Stops rest) :
    takeDigits false (ds ++ rest) = (ds.map digitVal, rest) := by
  obtain ⟨c, cs, rfl⟩ := List.exists_cons_of_ne_nil hne
  obtain ⟨hc, hcs⟩ := digits_cons.1 hds
  rw [List.cons_append, takeDigits, decimalDigit?_of_isDigit hc, takeDigits_append hcs, takeDigits_of_stops hrest]
  simp

theorem natOfDigits_append (as bs : List Nat) :
    natOfDigits (as ++ bs) = natOfDigits as * 10 ^ bs.length + natOfDigits bs := by
  have hfrom : ∀ (bs : List Nat) (n : Nat),
      bs.foldl (fun n d => 10 * n + d) n = n * 10 ^ bs.length + natOfDigits bs := by
    intro bs
    induction bs with
    | nil => intro n; simp [natOfDigits]
    | cons b bs ih =>
      intro n
      have hb : natOfDigits (b :: bs) = (10 * 0 + b) * 10 ^ bs.length + natOfDigits bs := ih (10 * 0 + b)
      rw [List.foldl_cons, ih, hb, List.length_cons]
      ring
  rw [natOfDigits, List.foldl_append, hfrom]
  rfl

theorem natOfDigits_toDigits (n : Nat) : natOfDigits ((Nat.toDigits 10 n).map digitVal) = n := by
  have h := @Nat.ofDigitChars_ten_toDigits n
  rw [Nat.ofDigitChars_eq_foldl] at h
  rw [natOfDigits, List.foldl_map]
  exact h

theorem natOfDigits_zeros (n : Nat) : natOfDigits ((List.replicate n '0').map digitVal) = 0 := by
  induction n with
  | zero => rfl
  | succ n ih =>
    rw [List.replicate_succ', List.map_append, natOfDigits_append, ih]
    rfl

/-! ## Reading the three layouts -/

theorem stops_exponent {ex : List Char} (h : ex = [] ∨ ∃ cs, ex = 'e' :: cs) : Stops ex := by
  rcases h with rfl | ⟨cs, rfl⟩
  · intro c hc
    cases hc
  · intro c hc
    obtain rfl := Option.some.inj hc
    exact ⟨by decide, by decide⟩

theorem decimalOf_point {w f ex : List Char} {e : Int} (hw : Digits w) (hwne : w ≠ []) (hf : Digits f)
    (hfne : f ≠ []) (hex : ex = [] ∨ ∃ cs, ex = 'e' :: cs) (he : exponentOf ex = some e) :
    decimalOf (w ++ '.' :: (f ++ ex)) = some (natOfDigits ((w ++ f).map digitVal) * (10 : ℚ) ^ (e - f.length)) := by
  have hdot : Stops ('.' :: (f ++ ex)) := by
    intro c hc
    obtain rfl := Option.some.inj hc
    exact ⟨by decide, by decide⟩
  have hne : ¬ (w.map digitVal = [] ∧ f.map digitVal = []) := fun h => hwne (List.map_eq_nil_iff.1 h.1)
  unfold decimalOf
  rw [takeDigits_digits hw hwne hdot]
  show (if w.map digitVal = [] ∧ (takeDigits false (f ++ ex)).1 = [] then none
    else (exponentOf (takeDigits false (f ++ ex)).2).map fun e : Int =>
      (natOfDigits (w.map digitVal ++ (takeDigits false (f ++ ex)).1) : ℚ) *
        10 ^ (e - ((takeDigits false (f ++ ex)).1.length : Int))) = _
  rw [takeDigits_digits hf hfne (stops_exponent hex), if_neg hne, he, Option.map_some, ← List.map_append,
    List.length_map]

theorem decimalOf_whole {w ex : List Char} {e : Int} (hw : Digits w) (hwne : w ≠ [])
    (hex : ex = [] ∨ ∃ cs, ex = 'e' :: cs) (he : exponentOf ex = some e) :
    decimalOf (w ++ ex) = some (natOfDigits (w.map digitVal) * (10 : ℚ) ^ e) := by
  have hne : ¬ (w.map digitVal = [] ∧ ([] : List Nat) = []) := fun h => hwne (List.map_eq_nil_iff.1 h.1)
  have hread : decimalOf (w ++ ex) = if w.map digitVal = [] ∧ ([] : List Nat) = [] then none
      else (exponentOf ex).map fun e : Int =>
        (natOfDigits (w.map digitVal ++ []) : ℚ) * 10 ^ (e - (([] : List Nat).length : Int)) := by
    unfold decimalOf
    rw [takeDigits_digits hw hwne (stops_exponent hex)]
    rcases hex with rfl | ⟨cs, rfl⟩
    · rfl
    · rfl
  rw [hread, if_neg hne, he, Option.map_some, List.append_nil, List.length_nil, Nat.cast_zero, sub_zero]

/-- The exponent as it is printed, of at least two digits. -/
theorem exponentOf_printed {ds : List Char} {e : Int} (hds : Digits ds) (hne : ds ≠ [])
    (hval : natOfDigits (ds.map digitVal) = e.natAbs) :
    exponentOf ('e' :: (if e < 0 then '-' else '+') :: ds) = some e := by
  have htake : takeDigits false ds = (ds.map digitVal, []) := by
    have h := @takeDigits_digits ds [] hds hne (stops_exponent (Or.inl rfl))
    rwa [List.append_nil] at h
  have hnone : ¬ (ds.map digitVal = [] ∨ ([] : List Char) ≠ []) := by simpa using hne
  by_cases hneg : e < 0
  · rw [if_pos hneg]
    show (if (takeDigits false ds).1 = [] ∨ (takeDigits false ds).2 ≠ [] then none
      else some (if true then -(natOfDigits (takeDigits false ds).1 : Int)
        else natOfDigits (takeDigits false ds).1)) = _
    rw [htake, if_neg hnone, if_pos rfl, hval]
    congr 1
    omega
  · rw [if_neg hneg]
    show (if (takeDigits false ds).1 = [] ∨ (takeDigits false ds).2 ≠ [] then none
      else some (if false then -(natOfDigits (takeDigits false ds).1 : Int)
        else natOfDigits (takeDigits false ds).1)) = _
    rw [htake, if_neg hnone, if_neg Bool.false_ne_true, hval]
    congr 1
    omega

/-! ## What is printed -/

/-- No exponent, or one as it is printed. -/
def Exponent (ex : List Char) (e : Int) : Prop :=
  ex = [] ∧ e = 0 ∨ ∃ ds, Digits ds ∧ ds ≠ [] ∧ natOfDigits (ds.map digitVal) = e.natAbs ∧
    ex = 'e' :: (if e < 0 then '-' else '+') :: ds

/-- The unsigned layouts of a value: digits, digits after a point, an exponent. -/
inductive Layout : List Char → ℚ → Prop
  | whole {w ex : List Char} {e : Int} {x : ℚ} : Digits w → w ≠ [] → Exponent ex e →
    x = natOfDigits (w.map digitVal) * (10 : ℚ) ^ e → Layout (w ++ ex) x
  | point {w f ex : List Char} {e : Int} {x : ℚ} : Digits w → w ≠ [] → Digits f → f ≠ [] → Exponent ex e →
    x = natOfDigits ((w ++ f).map digitVal) * (10 : ℚ) ^ (e - f.length) → Layout (w ++ '.' :: (f ++ ex)) x

theorem Exponent.read {ex : List Char} {e : Int} (h : Exponent ex e) :
    (ex = [] ∨ ∃ cs, ex = 'e' :: cs) ∧ exponentOf ex = some e := by
  rcases h with ⟨rfl, rfl⟩ | ⟨ds, hds, hne, hval, rfl⟩
  · exact ⟨Or.inl rfl, rfl⟩
  · exact ⟨Or.inr ⟨_, rfl⟩, exponentOf_printed hds hne hval⟩

theorem Layout.read {cs : List Char} {x : ℚ} (h : Layout cs x) : decimalOf cs = some x := by
  cases h with
  | whole hw hwne hex hx => rw [hx, decimalOf_whole hw hwne hex.read.1 hex.read.2]
  | point hw hwne hf hfne hex hx => rw [hx, decimalOf_point hw hwne hf hfne hex.read.1 hex.read.2]

/-- `repr` of a positive value of digits `m` and `k` decimals. -/
def printed (m k : Nat) : String :=
  let ds := Nat.toDigits 10 m
  let point : Int := ds.length - k
  if -4 < point ∧ point ≤ 16 then
    if k = 0 then String.ofList ds ++ ".0"
    else if 0 < point then String.ofList (ds.take point.toNat) ++ "." ++ String.ofList (ds.drop point.toNat)
    else "0." ++ String.ofList (List.replicate (-point).toNat '0') ++ String.ofList ds
  else
    let ms := ds.rdropWhile (· == '0')
    let e := point - 1
    let exp := toString e.natAbs
    String.ofList (ms.take 1) ++ (if ms.length ≤ 1 then "" else "." ++ String.ofList (ms.drop 1))
      ++ (if e < 0 then "e-" else "e+") ++ (if exp.length < 2 then "0" ++ exp else exp)

theorem layout_integer (m : Nat) : Layout (String.ofList (Nat.toDigits 10 m) ++ ".0").toList (m / 10 ^ 0) := by
  have hlist : (String.ofList (Nat.toDigits 10 m) ++ ".0").toList = Nat.toDigits 10 m ++ '.' :: (['0'] ++ []) := by
    rw [String.toList_append, String.toList_ofList]
    rfl
  rw [hlist]
  refine Layout.point (digits_toDigits m) Nat.toDigits_ne_nil digits_zero (by simp) (Or.inl ⟨rfl, rfl⟩) ?_
  rw [List.map_append, natOfDigits_append, natOfDigits_toDigits]
  simp [natOfDigits, digitVal]

theorem layout_split {m k : Nat} (hk : 0 < k) (hlen : k < (Nat.toDigits 10 m).length) :
    Layout (String.ofList ((Nat.toDigits 10 m).take ((Nat.toDigits 10 m).length - k)) ++ "." ++
      String.ofList ((Nat.toDigits 10 m).drop ((Nat.toDigits 10 m).length - k))).toList (m / 10 ^ k) := by
  have hds := digits_toDigits m
  rw [← List.take_append_drop ((Nat.toDigits 10 m).length - k) (Nat.toDigits 10 m), digits_append] at hds
  have hdrop : ((Nat.toDigits 10 m).drop ((Nat.toDigits 10 m).length - k)).length = k := by
    rw [List.length_drop]
    omega
  have htake : ((Nat.toDigits 10 m).take ((Nat.toDigits 10 m).length - k)).length ≠ 0 := by
    rw [List.length_take]
    omega
  have hlist : (String.ofList ((Nat.toDigits 10 m).take ((Nat.toDigits 10 m).length - k)) ++ "." ++
      String.ofList ((Nat.toDigits 10 m).drop ((Nat.toDigits 10 m).length - k))).toList =
      (Nat.toDigits 10 m).take ((Nat.toDigits 10 m).length - k) ++
        '.' :: ((Nat.toDigits 10 m).drop ((Nat.toDigits 10 m).length - k) ++ []) := by
    simp only [String.toList_append, String.toList_ofList, List.append_assoc, List.append_nil]
    rfl
  rw [hlist]
  refine Layout.point hds.1 (fun h => htake (by rw [h]; rfl)) hds.2 (fun h => ?_) (Or.inl ⟨rfl, rfl⟩) ?_
  · rw [h, List.length_nil] at hdrop
    omega
  · rw [List.take_append_drop, natOfDigits_toDigits, hdrop, zero_sub, zpow_neg, zpow_natCast, div_eq_mul_inv]

theorem layout_fraction {m k : Nat} (hlen : (Nat.toDigits 10 m).length ≤ k) :
    Layout ("0." ++ String.ofList (List.replicate (k - (Nat.toDigits 10 m).length) '0') ++
      String.ofList (Nat.toDigits 10 m)).toList (m / 10 ^ k) := by
  have hzeros : Digits (List.replicate (k - (Nat.toDigits 10 m).length) '0') := by
    intro c hc
    obtain rfl := List.eq_of_mem_replicate hc
    rfl
  have hlength : (List.replicate (k - (Nat.toDigits 10 m).length) '0' ++ Nat.toDigits 10 m).length = k := by
    rw [List.length_append, List.length_replicate]
    omega
  have hlist : ("0." ++ String.ofList (List.replicate (k - (Nat.toDigits 10 m).length) '0') ++
      String.ofList (Nat.toDigits 10 m)).toList =
      ['0'] ++ '.' :: (List.replicate (k - (Nat.toDigits 10 m).length) '0' ++ Nat.toDigits 10 m ++ []) := by
    simp only [String.toList_append, String.toList_ofList, List.append_assoc, List.append_nil]
    rfl
  rw [hlist]
  refine Layout.point digits_zero (by simp) (digits_append.2 ⟨hzeros, digits_toDigits m⟩) (fun h => ?_)
    (Or.inl ⟨rfl, rfl⟩) ?_
  · exact Nat.toDigits_ne_nil (List.append_eq_nil_iff.1 h).2
  · rw [hlength, List.map_append, natOfDigits_append, List.map_append, natOfDigits_append, natOfDigits_zeros,
      natOfDigits_toDigits, zero_sub, zpow_neg, zpow_natCast, div_eq_mul_inv]
    simp [natOfDigits, digitVal]

/-- The digits of a number without the zeros at their end, and how many these are. -/
theorem trimmed_digits {m : Nat} (hm : 0 < m) :
    ∃ z, Nat.toDigits 10 m = (Nat.toDigits 10 m).rdropWhile (· == '0') ++ List.replicate z '0' ∧
      (Nat.toDigits 10 m).rdropWhile (· == '0') ≠ [] := by
  have hzeros : ∀ c ∈ (Nat.toDigits 10 m).rtakeWhile (· == '0'), c = '0' := fun c hc => by
    simpa using List.mem_rtakeWhile_imp hc
  have hsplit : Nat.toDigits 10 m = (Nat.toDigits 10 m).rdropWhile (· == '0') ++
      List.replicate ((Nat.toDigits 10 m).rtakeWhile (· == '0')).length '0' := by
    rw [← List.eq_replicate_of_mem hzeros, List.rdropWhile_append_rtakeWhile]
  refine ⟨_, hsplit, fun hnil => ?_⟩
  have hval := natOfDigits_toDigits m
  rw [hnil, List.nil_append] at hsplit
  rw [hsplit, natOfDigits_zeros] at hval
  omega

theorem exponent_printed (e : Int) :
    Exponent ((if e < 0 then "e-" else "e+") ++
      (if (toString e.natAbs).length < 2 then "0" ++ toString e.natAbs else toString e.natAbs)).toList e := by
  have hdigits : (toString e.natAbs).toList = Nat.toDigits 10 e.natAbs := Nat.toList_repr
  right
  have hsign : (if e < 0 then "e-" else "e+" : String).toList = ['e', if e < 0 then '-' else '+'] := by
    split <;> rfl
  rw [String.toList_append, hsign]
  by_cases hshort : (toString e.natAbs).length < 2
  · rw [if_pos hshort]
    refine ⟨'0' :: Nat.toDigits 10 e.natAbs, digits_cons.2 ⟨rfl, digits_toDigits _⟩, List.cons_ne_nil _ _, ?_, ?_⟩
    · have hcons : ('0' :: Nat.toDigits 10 e.natAbs).map digitVal =
          [0] ++ (Nat.toDigits 10 e.natAbs).map digitVal := rfl
      rw [hcons, natOfDigits_append, natOfDigits_toDigits]
      simp [natOfDigits]
    · rw [String.toList_append, hdigits]
      rfl
  · rw [if_neg hshort]
    refine ⟨Nat.toDigits 10 e.natAbs, digits_toDigits _, Nat.toDigits_ne_nil, natOfDigits_toDigits _, ?_⟩
    rw [hdigits]
    rfl

theorem layout_scientific {m : Nat} (hm : 0 < m) (k : Nat) :
    Layout (String.ofList (((Nat.toDigits 10 m).rdropWhile (· == '0')).take 1) ++
      (if ((Nat.toDigits 10 m).rdropWhile (· == '0')).length ≤ 1 then ""
        else "." ++ String.ofList (((Nat.toDigits 10 m).rdropWhile (· == '0')).drop 1)) ++
      (if (((Nat.toDigits 10 m).length : Int) - k - 1) < 0 then "e-" else "e+") ++
      (if (toString (((Nat.toDigits 10 m).length : Int) - k - 1).natAbs).length < 2
        then "0" ++ toString (((Nat.toDigits 10 m).length : Int) - k - 1).natAbs
        else toString (((Nat.toDigits 10 m).length : Int) - k - 1).natAbs)).toList (m / 10 ^ k) := by
  obtain ⟨z, hsplit, hne⟩ := trimmed_digits hm
  have hall := digits_toDigits m
  have hval := natOfDigits_toDigits m
  have hlen := congrArg List.length hsplit
  rw [List.length_append, List.length_replicate] at hlen
  rw [hsplit, digits_append] at hall
  rw [hsplit, List.map_append, natOfDigits_append, natOfDigits_zeros, List.length_map, List.length_replicate,
    Nat.add_zero] at hval
  rw [hlen]
  generalize (Nat.toDigits 10 m).rdropWhile (· == '0') = ms at hne hall hval ⊢
  have hex := exponent_printed (((ms.length + z : Nat) : Int) - k - 1)
  rw [String.append_assoc, String.toList_append]
  generalize ((if (((ms.length + z : Nat) : Int) - k - 1) < 0 then "e-" else "e+") ++ _).toList = ex at hex ⊢
  -- the value of the digits, moved by the zeros that were trimmed and the decimals
  have hten : (10 : ℚ) ≠ 0 := by norm_num
  have hvalue : (m / 10 ^ k : ℚ) = natOfDigits (ms.map digitVal) * 10 ^ ((z : Int) - k) := by
    rw [← hval, zpow_sub₀ hten, zpow_natCast, zpow_natCast]
    push_cast
    ring
  obtain ⟨c, cs, rfl⟩ := List.exists_cons_of_ne_nil hne
  obtain ⟨hc, hcs⟩ := digits_cons.1 hall.1
  have hfirst : Digits [c] := digits_cons.2 ⟨hc, digits_nil⟩
  cases cs with
  | nil =>
    have hlist : (String.ofList ([c].take 1) ++
        (if [c].length ≤ 1 then "" else "." ++ String.ofList ([c].drop 1))).toList = [c] := by simp
    rw [hlist]
    refine Layout.whole hfirst (List.cons_ne_nil _ _) hex ?_
    rw [hvalue]
    congr 2
    simp only [List.length_singleton]
    omega
  | cons d ds =>
    have hlist : (String.ofList ((c :: d :: ds).take 1) ++ (if (c :: d :: ds).length ≤ 1 then ""
        else "." ++ String.ofList ((c :: d :: ds).drop 1))).toList ++ ex = [c] ++ '.' :: (d :: ds ++ ex) := by
      have hlong : ¬ (c :: d :: ds).length ≤ 1 := by simp
      simp only [if_neg hlong, String.toList_append, String.toList_ofList, List.append_assoc]
      rfl
    rw [hlist]
    refine Layout.point hfirst (List.cons_ne_nil _ _) hcs (List.cons_ne_nil _ _) hex ?_
    rw [hvalue, List.singleton_append]
    congr 2
    simp only [List.length_cons]
    omega

theorem printed_layout {m : Nat} (hm : 0 < m) (k : Nat) : Layout (printed m k).toList (m / 10 ^ k) := by
  unfold printed
  dsimp only
  split
  · split
    · rename_i hk
      rw [hk]
      exact layout_integer m
    · rename_i hk
      split
      · rename_i hpoint
        rw [Int.toNat_sub]
        exact layout_split (Nat.pos_of_ne_zero hk) (by omega)
      · rename_i hpoint
        rw [neg_sub, Int.toNat_sub]
        exact layout_fraction (by omega)
  · exact layout_scientific hm k

theorem repr_eq_printed {q : ℚ} (hq : q ≠ 0) :
    repr (fin q) = (if q < 0 then "-" else "") ++ printed (q * 10 ^ decimals q).num.natAbs (decimals q) := by
  unfold repr printed
  dsimp only
  rw [if_neg hq]
  split
  · split
    · rw [String.append_assoc]
    · split
      · rw [String.append_assoc, String.append_assoc, String.append_assoc]
      · rw [String.append_assoc, String.append_assoc, String.append_assoc]
  · rw [String.append_assoc, String.append_assoc, String.append_assoc, String.append_assoc, String.append_assoc]

/-! ## Reading a print -/

/-- A value with at most eight decimals. -/
def EightDecimals (q : ℚ) : Prop := ∃ n : Int, q * 10 ^ 8 = n

theorem decimals_spec {q : ℚ} (h : EightDecimals q) : q * 10 ^ decimals q = (q * 10 ^ decimals q).num := by
  have hden : (q * 10 ^ decimals q).den = 1 := by
    unfold decimals
    cases hfind : (List.range (Nat.log2 q.den + 2)).find? fun k => decide ((q * 10 ^ k).den = 1) with
    | some k =>
      have hk := List.find?_some hfind
      exact of_decide_eq_true hk
    | none =>
      obtain ⟨n, hn⟩ := h
      have hmore : q * 10 ^ 17 = ((n * 10 ^ 9 : Int) : ℚ) := by
        push_cast
        rw [← hn]
        ring
      rw [Option.getD_none, hmore]
      exact Rat.den_intCast _
  exact (Rat.den_eq_one_iff _).1 hden |>.symm

/-- The characters of a printed number. -/
def PrintChar (c : Char) : Prop := c.isDigit = true ∨ c = '.' ∨ c = 'e' ∨ c = '-' ∨ c = '+'

theorem PrintChar.not_space {c : Char} (h : PrintChar c) : isSpace c = false := by
  rcases h with hdigit | rfl | rfl | rfl | rfl
  · obtain ⟨n, hn, rfl⟩ := digitChar_of_isDigit hdigit
    interval_cases n <;> decide
  all_goals decide

theorem PrintChar.not_bar {c : Char} (h : PrintChar c) : c ≠ '|' := by
  rintro rfl
  rcases h with hdigit | heq | heq | heq | heq
  · cases hdigit
  all_goals cases heq

theorem Digits.printChar {cs : List Char} (h : Digits cs) : ∀ c ∈ cs, PrintChar c := fun c hc => Or.inl (h c hc)

theorem Exponent.printChar {ex : List Char} {e : Int} (h : Exponent ex e) : ∀ c ∈ ex, PrintChar c := by
  rcases h with ⟨rfl, -⟩ | ⟨ds, hds, -, -, rfl⟩
  · exact fun c hc => absurd hc List.not_mem_nil
  · intro c hc
    rcases List.mem_cons.1 hc with rfl | hc
    · exact Or.inr (Or.inr (Or.inl rfl))
    · rcases List.mem_cons.1 hc with rfl | hc
      · split
        · exact Or.inr (Or.inr (Or.inr (Or.inl rfl)))
        · exact Or.inr (Or.inr (Or.inr (Or.inr rfl)))
      · exact hds.printChar c hc

theorem Layout.printChar {cs : List Char} {x : ℚ} (h : Layout cs x) : ∀ c ∈ cs, PrintChar c := by
  cases h with
  | whole hw _ hex _ => exact List.forall_mem_append.2 ⟨hw.printChar, hex.printChar⟩
  | point hw _ hf _ hex _ =>
    refine List.forall_mem_append.2 ⟨hw.printChar, List.forall_mem_cons.2 ⟨Or.inr (Or.inl rfl), ?_⟩⟩
    exact List.forall_mem_append.2 ⟨hf.printChar, hex.printChar⟩

theorem Layout.first {cs : List Char} {x : ℚ} (h : Layout cs x) : ∃ c rest, cs = c :: rest ∧ c.isDigit = true := by
  cases h with
  | whole hw hwne _ _ =>
    obtain ⟨c, ds, rfl⟩ := List.exists_cons_of_ne_nil hwne
    exact ⟨c, _, rfl, (digits_cons.1 hw).1⟩
  | point hw hwne _ _ _ _ =>
    obtain ⟨c, ds, rfl⟩ := List.exists_cons_of_ne_nil hwne
    exact ⟨c, _, rfl, (digits_cons.1 hw).1⟩

theorem stripChars_of_printChar {cs : List Char} (h : ∀ c ∈ cs, PrintChar c) : stripChars cs = cs :=
  stripChars_eq_self (fun c hc => (h c (List.mem_of_mem_head? hc)).not_space)
    fun c hc => (h c (List.mem_of_mem_getLast? hc)).not_space

theorem strip_digits {s : String} (h : Digits s.toList) : strip s = s := by
  rw [strip, stripChars_of_printChar h.printChar, String.ofList_toList]

theorem filter_isDigit {cs : List Char} (h : Digits cs) : cs.filter isDigit = cs := by
  refine List.filter_eq_self.2 fun c hc => ?_
  rw [isDigit, decimalDigit?_of_isDigit (h c hc)]
  rfl

/-- A layout with or without a sign is read as its value. -/
theorem ofText_layout {cs : List Char} {x : ℚ} (h : Layout cs x) (neg : Bool) :
    ofText (String.ofList ((if neg then ['-'] else []) ++ cs)) = some (ofRat (if neg then -x else x)) := by
  have hsign : ∀ c ∈ (if neg then ['-'] else []), PrintChar c := by
    cases neg with
    | true =>
      intro c hc
      obtain rfl := List.mem_singleton.1 hc
      exact Or.inr (Or.inr (Or.inr (Or.inl rfl)))
    | false => exact fun c hc => absurd hc List.not_mem_nil
  obtain ⟨c, rest, hcs, hdigit⟩ := h.first
  obtain ⟨n, hn, rfl⟩ := digitChar_of_isDigit hdigit
  have htake : takeSign ((if neg then ['-'] else []) ++ cs) = (neg, cs) := by
    rw [hcs]
    cases neg with
    | true => rfl
    | false => interval_cases n <;> rfl
  have hword : ∀ w : String, w.toList.head? = some 'n' ∨ w.toList.head? = some 'i' →
      String.ofList (cs.map lowerChar) ≠ w := by
    rintro w hw rfl
    rw [String.toList_ofList, hcs, List.map_cons, List.head?_cons] at hw
    interval_cases n <;> revert hw <;> decide
  unfold ofText
  rw [String.toList_ofList, stripChars_of_printChar (List.forall_mem_append.2 ⟨hsign, h.printChar⟩), htake]
  dsimp only
  rw [if_neg (hword "nan" (Or.inl rfl)), if_neg, h.read, Option.map_some]
  rintro (hinf | hinfinity)
  · exact hword "inf" (Or.inr rfl) hinf
  · exact hword "infinity" (Or.inr rfl) hinfinity

theorem repr_layout {q : ℚ} (hq : q ≠ 0) (h : EightDecimals q) :
    ∃ cs, Layout cs |q| ∧ (repr (fin q)).toList = (if q < 0 then ['-'] else []) ++ cs := by
  have hspec := decimals_spec h
  have hpow : (0 : ℚ) < 10 ^ decimals q := by positivity
  have habs : |q| = (q * 10 ^ decimals q).num.natAbs / 10 ^ decimals q := by
    rw [eq_div_iff (ne_of_gt hpow), Nat.cast_natAbs, Int.cast_abs, ← hspec, abs_mul, abs_of_pos hpow]
  have hm : 0 < (q * 10 ^ decimals q).num.natAbs := by
    apply Nat.pos_of_ne_zero
    intro hzero
    rw [Int.natAbs_eq_zero.1 hzero, Int.cast_zero] at hspec
    exact hq ((mul_eq_zero.1 hspec).resolve_right (ne_of_gt hpow))
  refine ⟨(printed (q * 10 ^ decimals q).num.natAbs (decimals q)).toList, ?_, ?_⟩
  · rw [habs]
    exact printed_layout hm _
  · rw [repr_eq_printed hq, String.toList_append]
    congr 1
    split <;> rfl

theorem repr_printChar {q : ℚ} (h : EightDecimals q) : ∀ c ∈ (repr (fin q)).toList, PrintChar c := by
  by_cases hq : q = 0
  · subst hq
    have hzero : (repr (fin 0)).toList = ['0', '.', '0'] := by decide +kernel
    rw [hzero]
    intro c hc
    simp only [List.mem_cons, List.not_mem_nil, or_false] at hc
    rcases hc with rfl | rfl | rfl
    · exact Or.inl rfl
    · exact Or.inr (Or.inl rfl)
    · exact Or.inl rfl
  · obtain ⟨cs, hlayout, hlist⟩ := repr_layout hq h
    rw [hlist]
    refine List.forall_mem_append.2 ⟨fun c hc => ?_, hlayout.printChar⟩
    split at hc
    · obtain rfl := List.mem_singleton.1 hc
      exact Or.inr (Or.inr (Or.inr (Or.inl rfl)))
    · exact absurd hc List.not_mem_nil

theorem maxFloat_lt_overflowBound : maxFloat < overflowBound :=
  sub_lt_sub_left (pow_lt_pow_right₀ one_lt_two (by decide)) _

theorem maxFloat_nonneg : 0 ≤ maxFloat := sub_nonneg.2 (pow_le_pow_right₀ one_le_two (by decide))

theorem ofRat_of_le {q : ℚ} (h : |q| ≤ maxFloat) : ofRat q = fin q := by
  obtain ⟨hlow, hhigh⟩ := abs_le.1 h
  have hbound := maxFloat_lt_overflowBound
  rw [ofRat, if_neg (by linarith), if_neg (by linarith), if_neg (by linarith), if_neg (by linarith)]

/-- Every finite value that is read is at most the largest one. -/
theorem abs_le_of_ofRat {p q : ℚ} (h : ofRat p = fin q) : |q| ≤ maxFloat := by
  unfold ofRat at h
  split at h
  · cases h
  · split at h
    · cases h
    · split at h
      · obtain rfl := Number.fin.inj h
        rw [abs_of_nonneg maxFloat_nonneg]
      · split at h
        · obtain rfl := Number.fin.inj h
          rw [abs_neg, abs_of_nonneg maxFloat_nonneg]
        · obtain rfl := Number.fin.inj h
          rename_i hhigh hlow
          exact abs_le.2 ⟨not_lt.1 hlow, not_lt.1 hhigh⟩

theorem abs_le_of_ofText {s : String} {q : ℚ} (h : ofText s = some (fin q)) : |q| ≤ maxFloat := by
  unfold ofText at h
  dsimp only at h
  split at h
  · cases h
  · split at h
    · cases h
    · obtain ⟨p, -, hp⟩ := Option.map_eq_some_iff.1 h
      exact abs_le_of_ofRat hp

/-- **Main.** A value of at most eight decimals is read back from its print. -/
theorem ofText_repr {q : ℚ} (h : EightDecimals q) (hmax : |q| ≤ maxFloat) :
    ofText (repr (fin q)) = some (fin q) := by
  by_cases hq : q = 0
  · subst hq
    decide +kernel
  · obtain ⟨cs, hlayout, hlist⟩ := repr_layout hq h
    have hread := ofText_layout hlayout (decide (q < 0))
    simp only [decide_eq_true_eq] at hread
    rw [← @String.ofList_toList (repr (fin q)), hlist, hread]
    refine congrArg some ?_
    by_cases hneg : q < 0
    · rw [if_pos hneg, abs_of_neg hneg, neg_neg]
      exact ofRat_of_le hmax
    · rw [if_neg hneg, abs_of_nonneg (not_lt.1 hneg)]
      exact ofRat_of_le hmax

/-! ## Rounding to eight decimals -/

theorem eightDecimals_roundRat (q : ℚ) : EightDecimals (roundRat 8 q) :=
  ⟨roundHalfEven (q * 10 ^ 8), by rw [roundRat, div_mul_cancel₀ _ (by norm_num)]⟩

theorem roundRat_of_eightDecimals {q : ℚ} (h : EightDecimals q) : roundRat 8 q = q := by
  obtain ⟨n, hn⟩ := h
  have hint : roundHalfEven (n : ℚ) = n := roundHalfEven_of_near (by rw [sub_self, abs_zero]; norm_num)
  rw [roundRat, hn, hint, ← hn, mul_div_cancel_right₀ _ (by norm_num)]

theorem maxFloat_eq : maxFloat = ((2 ^ 1024 - 2 ^ 971 : Int) : ℚ) := by
  rw [maxFloat, Int.cast_sub, Int.cast_pow, Int.cast_pow, Int.cast_ofNat]

/-- Rounding does not leave the range of finite values, whose ends are integers. -/
theorem abs_roundRat_le {q : ℚ} (h : |q| ≤ maxFloat) : |roundRat 8 q| ≤ maxFloat := by
  obtain ⟨M, hM⟩ : ∃ M : Int, maxFloat = M := ⟨_, maxFloat_eq⟩
  rw [hM] at h ⊢
  have hpow : (0 : ℚ) < 10 ^ 8 := by norm_num
  obtain ⟨hlow, hhigh⟩ := abs_le.1 h
  obtain ⟨hnearLow, hnearHigh⟩ := abs_le.1 (abs_sub_roundHalfEven (q * 10 ^ 8))
  have hlow' : -M * 10 ^ 8 ≤ q * 10 ^ 8 := mul_le_mul_of_nonneg_right hlow hpow.le
  have hhigh' : q * 10 ^ 8 ≤ M * 10 ^ 8 := mul_le_mul_of_nonneg_right hhigh hpow.le
  rw [roundRat, abs_le, le_div_iff₀ hpow, div_le_iff₀ hpow]
  generalize roundHalfEven (q * 10 ^ 8) = r at hnearLow hnearHigh ⊢
  constructor
  · have hlt : ((-M * 10 ^ 8 : Int) : ℚ) < ((r + 1 : Int) : ℚ) := by
      rw [Int.cast_mul, Int.cast_neg, Int.cast_pow, Int.cast_ofNat, Int.cast_add, Int.cast_one]
      linarith
    have hle : -M * 10 ^ 8 ≤ r := Int.lt_add_one_iff.1 (Int.cast_lt.1 hlt)
    exact_mod_cast hle
  · have hlt : (r : ℚ) < ((M * 10 ^ 8 + 1 : Int) : ℚ) := by
      rw [Int.cast_add, Int.cast_mul, Int.cast_pow, Int.cast_ofNat, Int.cast_one]
      linarith
    have hle : r ≤ M * 10 ^ 8 := Int.lt_add_one_iff.1 (Int.cast_lt.1 hlt)
    exact_mod_cast hle

end Py.Number

namespace Py

open Number

theorem takeSign_digits {ds : List Char} (h : Digits ds) : takeSign ds = (false, ds) := by
  cases ds with
  | nil => rfl
  | cons c cs =>
    obtain ⟨n, hn, rfl⟩ := digitChar_of_isDigit (digits_cons.1 h).1
    interval_cases n <;> rfl

/-- Text of digits alone is read as its value, unless it is too long. -/
theorem intOfText_digits {ds : List Char} (h : Digits ds) (hne : ds ≠ []) :
    intOfText (String.ofList ds) =
      if ds.length ≤ 4300 then some (natOfDigits (ds.map digitVal) : Int) else none := by
  have htake : takeDigits false (ds ++ []) = (ds.map digitVal, []) := takeDigits_digits h hne (by simp [Stops])
  rw [List.append_nil] at htake
  unfold intOfText
  rw [String.toList_ofList, stripChars_of_printChar h.printChar, takeSign_digits h]
  dsimp only
  rw [htake]
  by_cases hlen : ds.length ≤ 4300 <;> simp [hne, hlen]

end Py
