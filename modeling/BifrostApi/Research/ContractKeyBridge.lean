import BifrostApi.Py.DateText
import BifrostApi.Research.ContractKey

/-!
# Reading a contract key back (`research/contract_key_bridge.py`)

The encoder and the two readers of `symbol|OPT|expiry|strike|right` are written in three files. A key of normalised
parts (`Canonical`) is read as these parts; what the encoder writes and what the reader accepts is canonical.

| here | there |
| --- | --- |
| `IbContractParts` | `IbContractParts` (contract_key_bridge.py:14) |
| `isPolygonOptionTicker` | `is_polygon_option_ticker` (:22) |
| `parseIbContractKey` | `parse_ib_contract_key` (:26) |
| `ibContractKeyFromParts` | `ib_contract_key_from_parts` (:57) |
| `identityKey` | `identity_key` (:71) |
| `expiryToDate` | `_expiry_to_date` (:113) |
-/

namespace BifrostApi.Research

open Py

structure IbContractParts where
  underlying : String
  expiry : Date
  strike : Number
  optionRight : String
  originalKey : String
  deriving DecidableEq

def isPolygonOptionTicker (ck : String) : Bool := startsWith (upper (strip ck)) "O:"

/-- `YYYY-MM-DD…`, or the first eight digits of the text; a digit that is not decimal has no value. -/
def expiryToDate (expiry : String) : Option Date :=
  let e := (strip expiry).toList
  if e = [] then none
  else if 10 ≤ e.length ∧ e[4]? = some '-' then Date.fromIsoformat (e.take 10)
  else
    let digits := e.filter isDigit
    if 8 ≤ digits.length then do
      date? (← Date.digits? decimalDigit? (digits.take 4)) (← Date.digits? decimalDigit? ((digits.drop 4).take 2))
        (← Date.digits? decimalDigit? ((digits.drop 6).take 2))
    else none

/-- `CALL` is `C`, `PUT` is `P`. -/
def shortRight (optionRight : String) : String :=
  let r := upper (strip optionRight)
  let r := if r = "CALL" then "C" else r
  let r := if r = "PUT" then "P" else r
  r

def parseIbContractKey (ck : String) : Option IbContractParts :=
  let raw := strip ck
  if raw = "" ∨ isPolygonOptionTicker raw then none
  else match split '|' raw with
    | symbol :: kind :: expiry :: strike :: optionRight :: _ =>
      if upper (strip kind) ≠ "OPT" then none
      else
        let underlying := upper (strip symbol)
        if underlying = "" then none
        else match expiryToDate (strip expiry), Number.ofText strike with
          | some expiry, some strike =>
            let right := shortRight optionRight
            if right = "C" ∨ right = "P" then some ⟨underlying, expiry, strike.round 8, right, raw⟩ else none
          | _, _ => none
    | _ => none

/-- The expiry is a date or a text. -/
def ibContractKeyFromParts (underlying : String) (expiry : Date ⊕ String) (strike : Number) (optionRight : String) :
    String :=
  let expiry := match expiry with
    | .inl d => d.compact
    | .inr s => s
  contractKeyFromParts underlying expiry strike optionRight

/-- The right is cut to its first character. -/
def identityKey (underlying : String) (expiry : Date) (strike : Number) (optionRight : String) :
    String × Date × Number × String :=
  (upper (strip underlying), expiry, strike.round 8, String.ofList ((upper (strip optionRight)).toList.take 1))

theorem contractKeyFromParts_eq (symbol expiry : String) (strike : Number) (optionRight : String) :
    contractKeyFromParts symbol expiry strike optionRight = join "|"
      [upper (strip symbol), "OPT", normExpiry expiry, (strike.round 8).repr, shortRight optionRight] := rfl

/-! ## Expiries -/

theorem normExpiry_compact {d : Date} (h : 1000 ≤ d.year) : normExpiry d.compact = d.compact := by
  have hlen : ¬ (10 ≤ d.compact.toList.length ∧ d.compact.toList[4]? = some '-') := by
    rw [Date.toList_compact h]
    exact fun hlong => absurd hlong.1 (by simp [Date.pad4, Date.pad2])
  rw [normExpiry, Number.strip_digits (Date.digits_compact h)]
  exact if_neg hlen

/-- A date with dashes and anything after it. -/
theorem normExpiry_dashed {d : Date} (h : 1000 ≤ d.year) (suffix : String) :
    normExpiry (d.dashed ++ suffix) = d.compact := by
  have hfirst : ∀ c ∈ d.dashed.toList.head?, isSpace c = false := by
    intro c hc
    have hdigit : c ∈ Date.pad4 d.year := by
      rw [Date.toList_dashed h] at hc
      exact List.mem_of_mem_head? hc
    exact (Date.digits_pad4 d.year_lt).printChar c hdigit |>.not_space
  have hlast : ∀ c ∈ d.dashed.toList.getLast?, isSpace c = false := by
    intro c hc
    have hdigit : c ∈ Date.pad2 d.day := by
      rw [Date.toList_dashed h] at hc
      simp only [Date.pad2, List.append_assoc, List.cons_append, List.nil_append, List.getLast?_append,
        List.getLast?_cons_cons, List.getLast?_singleton, Option.some_or, Option.mem_def, Option.some.injEq] at hc
      rw [← hc, Date.pad2]
      simp
    exact (Date.digits_pad2 d.day_lt).printChar c hdigit |>.not_space
  have hne : d.dashed.toList ≠ [] := by
    rw [Date.toList_dashed h]
    exact List.cons_ne_nil _ _
  have hstrip : (strip (d.dashed ++ suffix)).toList = d.dashed.toList ++ suffix.toList.rdropWhile isSpace := by
    rw [strip, String.toList_ofList, String.toList_append, stripChars_append _ hne hfirst hlast]
  rw [normExpiry, hstrip, Date.toList_dashed h]
  have hten : 10 ≤ (Date.pad4 d.year ++ '-' :: Date.pad2 d.month ++ '-' :: Date.pad2 d.day ++
      suffix.toList.rdropWhile isSpace).length := by
    simp [Date.pad4, Date.pad2]
  rw [if_pos ⟨hten, rfl⟩, ← @String.ofList_toList d.compact, Date.toList_compact h]
  rfl

theorem expiryToDate_compact {d : Date} (h : 1000 ≤ d.year) : expiryToDate d.compact = some d := by
  have hdigits := Date.digits_compact h
  have hlist := Date.toList_compact h
  have hlength : d.compact.toList.length = 8 := by
    rw [hlist]
    rfl
  have hne : d.compact.toList ≠ [] := fun hnil => by rw [hnil] at hlength; cases hlength
  have hshort : ¬ (10 ≤ d.compact.toList.length ∧ d.compact.toList[4]? = some '-') := fun hlong => by omega
  have hyear : d.compact.toList.take 4 = Date.pad4 d.year := by
    rw [hlist]
    rfl
  have hmonth : (d.compact.toList.drop 4).take 2 = Date.pad2 d.month := by
    rw [hlist]
    rfl
  have hday : (d.compact.toList.drop 6).take 2 = Date.pad2 d.day := by
    rw [hlist]
    rfl
  rw [expiryToDate, Number.strip_digits hdigits]
  dsimp only
  rw [if_neg hne, if_neg hshort, Number.filter_isDigit hdigits, if_pos hlength.ge, hyear, hmonth, hday,
    Date.digits?_pad4 d.year_lt, Date.digits?_pad2 d.month_lt, Date.digits?_pad2 d.day_lt]
  exact d.date?_self

/-! ## Canonical keys -/

/-- Parts as the encoder and the reader leave them: nothing in them is changed by normalising once more. -/
structure Canonical (p : IbContractParts) : Prop where
  stripped : strip p.underlying = p.underlying
  uppered : upper p.underlying = p.underlying
  nonempty : p.underlying ≠ ""
  no_bar : '|' ∉ p.underlying.toList
  not_ticker : startsWith p.underlying "O:" = false
  year : 1000 ≤ p.expiry.year
  strike : ∃ q, p.strike = .fin q ∧ Number.EightDecimals q ∧ |q| ≤ Number.maxFloat
  optionRight : p.optionRight = "C" ∨ p.optionRight = "P"

namespace IbContractParts

/-- The key written for parts. -/
def written (p : IbContractParts) : String :=
  join "|" [p.underlying, "OPT", p.expiry.compact, p.strike.repr, p.optionRight]

theorem toList_written (p : IbContractParts) : p.written.toList =
    p.underlying.toList ++ '|' :: ("OPT|".toList ++ p.expiry.compact.toList ++ '|' :: p.strike.repr.toList ++
      '|' :: p.optionRight.toList) := by
  simp only [written, join, String.toList_append, List.append_assoc]
  rfl

end IbContractParts

theorem shortRight_short {r : String} (h : r = "C" ∨ r = "P") : shortRight r = r := by
  rcases h with rfl | rfl <;> decide +kernel

namespace Canonical

variable {p : IbContractParts}

theorem round_strike (h : Canonical p) : p.strike.round 8 = p.strike := by
  obtain ⟨q, hq, height, -⟩ := h.strike
  rw [hq, Number.round, Number.roundRat_of_eightDecimals height]

/-- Encoding canonical parts writes them as they are. -/
theorem encode (h : Canonical p) :
    ibContractKeyFromParts p.underlying (.inl p.expiry) p.strike p.optionRight = p.written := by
  dsimp only [ibContractKeyFromParts]
  rw [contractKeyFromParts_eq, h.stripped, h.uppered, normExpiry_compact h.year, h.round_strike,
    shortRight_short h.optionRight, IbContractParts.written]

theorem split_written (h : Canonical p) :
    split '|' p.written = [p.underlying, "OPT", p.expiry.compact, p.strike.repr, p.optionRight] := by
  refine split_join rfl (List.cons_ne_nil _ _) fun f hf => ?_
  obtain ⟨q, hq, height, -⟩ := h.strike
  simp only [List.mem_cons, List.not_mem_nil, or_false] at hf
  rcases hf with rfl | rfl | rfl | rfl | rfl
  · exact h.no_bar
  · decide
  · exact fun hbar => ((Date.digits_compact h.year).printChar _ hbar).not_bar rfl
  · rw [hq]
    exact fun hbar => (Number.repr_printChar height _ hbar).not_bar rfl
  · rcases h.optionRight with hr | hr <;> rw [hr] <;> decide

theorem underlying_head (h : Canonical p) :
    ∃ c cs, p.underlying.toList = c :: cs ∧ isSpace c = false := by
  have hne : p.underlying.toList ≠ [] := fun hnil => h.nonempty (String.toList_inj.1 hnil)
  obtain ⟨c, cs, hcs⟩ := List.exists_cons_of_ne_nil hne
  refine ⟨c, cs, hcs, ?_⟩
  have hstripped := congrArg String.toList h.stripped
  rw [strip, String.toList_ofList] at hstripped
  exact head?_stripChars (by rw [hstripped, hcs]; rfl)

/-- A key has no white space at its ends. -/
theorem strip_written (h : Canonical p) : strip p.written = p.written := by
  rw [strip, stripChars_eq_self, String.ofList_toList]
  · obtain ⟨c, cs, hcs, hc⟩ := h.underlying_head
    intro d hd
    rw [p.toList_written, hcs] at hd
    rw [← Option.some.inj hd]
    exact hc
  · intro d hd
    have hfront : p.written.toList = (p.underlying.toList ++ '|' :: ("OPT|".toList ++ p.expiry.compact.toList ++
        '|' :: p.strike.repr.toList ++ ['|'])) ++ p.optionRight.toList := by
      rw [p.toList_written]
      simp
    rw [hfront, List.getLast?_append] at hd
    rcases h.optionRight with hr | hr
    all_goals
      rw [hr] at hd
      rw [← Option.some.inj hd]
      decide

/-- A key does not start like a ticker: its symbol does not, and a separator follows it. -/
theorem not_ticker_written (h : Canonical p) : isPolygonOptionTicker p.written = false := by
  obtain ⟨c, cs, hcs, -⟩ := h.underlying_head
  have hupper : (upper p.written).toList = c :: cs ++ '|' :: ("OPT|".toList ++ p.expiry.compact.toList ++
      '|' :: p.strike.repr.toList ++ '|' :: p.optionRight.toList).flatMap upperChar := by
    have hself := congrArg String.toList h.uppered
    rw [upper, String.toList_ofList] at hself
    rw [upper, String.toList_ofList, p.toList_written, List.flatMap_append, hself, hcs, List.flatMap_cons]
    rfl
  have hnot := h.not_ticker
  rw [startsWith, hcs] at hnot
  rw [isPolygonOptionTicker, h.strip_written, startsWith, hupper]
  cases cs with
  | nil => simp [List.isPrefixOf]
  | cons d ds => simpa [List.isPrefixOf] using hnot

/-- **Main.** A canonical key is read as the parts it was written from. -/
theorem parse (h : Canonical p) : parseIbContractKey p.written = some { p with originalKey := p.written } := by
  have hne : p.written ≠ "" := by
    obtain ⟨c, cs, hcs, -⟩ := h.underlying_head
    intro hempty
    have hnil := p.toList_written
    rw [hempty, hcs] at hnil
    cases hnil
  obtain ⟨q, hq, height, hmax⟩ := h.strike
  have hread : Number.ofText p.strike.repr = some p.strike := by
    rw [hq]
    exact Number.ofText_repr height hmax
  have hopt : upper (strip "OPT") = "OPT" := by decide +kernel
  unfold parseIbContractKey
  dsimp only
  rw [h.strip_written, h.not_ticker_written, h.split_written]
  simp only [hne, Bool.false_eq_true, or_self, if_false, hopt, ne_eq, not_true_eq_false, h.stripped, h.uppered,
    h.nonempty, Number.strip_digits (Date.digits_compact h.year), expiryToDate_compact h.year, hread,
    shortRight_short h.optionRight, h.optionRight, if_true, h.round_strike]

/-- The chain's reader finds the same strike and right. -/
theorem parseContractKey_written (h : Canonical p) :
    parseContractKey p.written = some (p.strike, p.optionRight) := by
  obtain ⟨q, hq, height, hmax⟩ := h.strike
  rw [parseContractKey, h.split_written, hq]
  dsimp only
  rw [Number.ofText_repr height hmax]
  rfl

end Canonical

/-! ## What is canonical -/

theorem shortRight_cases {r : String} (h : upper (strip r) ∈ ["C", "P", "CALL", "PUT"]) :
    shortRight r = String.ofList ((upper (strip r)).toList.take 1) ∧ (shortRight r = "C" ∨ shortRight r = "P") := by
  unfold shortRight
  generalize upper (strip r) = r' at h ⊢
  simp only [List.mem_cons, List.not_mem_nil, or_false] at h
  rcases h with rfl | rfl | rfl | rfl <;> decide +kernel

theorem canonical_strike {x : Number} {q : ℚ} (hx : x = .fin q) (hmax : |q| ≤ Number.maxFloat) :
    ∃ q, x.round 8 = .fin q ∧ Number.EightDecimals q ∧ |q| ≤ Number.maxFloat :=
  ⟨_, by rw [hx]; rfl, Number.eightDecimals_roundRat q, Number.abs_roundRat_le hmax⟩

/-- The parts of an accepted key. -/
theorem parseIbContractKey_eq_some {ck : String} {p : IbContractParts} (h : parseIbContractKey ck = some p) :
    ∃ symbol kind expiry strike optionRight rest x,
      strip ck ≠ "" ∧ isPolygonOptionTicker (strip ck) = false ∧
      split '|' (strip ck) = symbol :: kind :: expiry :: strike :: optionRight :: rest ∧
      p.underlying = upper (strip symbol) ∧ p.underlying ≠ "" ∧ expiryToDate (strip expiry) = some p.expiry ∧
      Number.ofText strike = some x ∧ p.strike = x.round 8 ∧ (p.optionRight = "C" ∨ p.optionRight = "P") ∧
      p.originalKey = strip ck := by
  unfold parseIbContractKey at h
  dsimp only at h
  split at h
  · cases h
  · rename_i hraw
    obtain ⟨hne, hticker⟩ := not_or.1 hraw
    split at h
    · rename_i symbol kind expiry strike optionRight rest hsplit
      split at h
      · cases h
      · split at h
        · cases h
        · rename_i hunderlying
          split at h
          · rename_i d x hdate hstrike
            split at h
            · rename_i hright
              refine ⟨symbol, kind, expiry, strike, optionRight, rest, x, hne, Bool.eq_false_iff.2 hticker,
                hsplit, ?_⟩
              rw [← Option.some.inj h]
              dsimp only
              exact ⟨rfl, hunderlying, hdate, hstrike, rfl, hright, rfl⟩
            · cases h
          · cases h
    · cases h

/-- The symbol of a key that is no ticker does not start like one. -/
theorem startsWith_symbol {raw symbol : List Char} (hstrip : stripChars raw = raw) (hfront : symbol <+: raw)
    (hne : symbol ≠ []) (hnot : ['O', ':'].isPrefixOf (raw.flatMap upperChar) = false) :
    ['O', ':'].isPrefixOf ((stripChars symbol).flatMap upperChar) = false := by
  rw [Bool.eq_false_iff] at hnot ⊢
  intro hstart
  obtain ⟨rest, rfl⟩ := hfront
  have hhead : ∀ c ∈ symbol.head?, isSpace c = false := by
    intro c hc
    obtain ⟨d, ds, rfl⟩ := List.exists_cons_of_ne_nil hne
    obtain rfl := Option.some.inj hc
    exact head?_stripChars (by rw [hstrip]; rfl)
  obtain ⟨tail, htail⟩ := stripChars_isPrefixOf hhead
  apply hnot
  rw [List.isPrefixOf_iff_prefix] at hstart ⊢
  have happend : (symbol ++ rest).flatMap upperChar =
      (stripChars symbol).flatMap upperChar ++ (tail ++ rest).flatMap upperChar := by
    rw [← List.flatMap_append, ← List.append_assoc, htail]
  rw [happend]
  exact hstart.trans (List.prefix_append _ _)

/-- What the reader accepts is canonical, given a finite strike and a year of four digits. -/
theorem canonical_of_parse {ck : String} {p : IbContractParts} (h : parseIbContractKey ck = some p)
    (hfinite : Number.Finite p.strike) (hyear : 1000 ≤ p.expiry.year) : Canonical p := by
  obtain ⟨symbol, kind, expiry, strike, optionRight, rest, x, -, hticker, hsplit, hunderlying, hne, -, hstrike,
    hround, hright, -⟩ := parseIbContractKey_eq_some h
  have hfields : splitChars '|' (strip ck).toList = symbol.toList :: kind.toList :: expiry.toList ::
      strike.toList :: optionRight.toList :: rest.map String.toList := by
    have hlists := congrArg (List.map String.toList) hsplit
    rw [split, List.map_map] at hlists
    simpa [Function.comp_def] using hlists
  have hbar : '|' ∉ symbol.toList := notMem_of_mem_splitChars (by rw [hfields]; exact List.mem_cons_self ..)
  refine ⟨?_, ?_, hne, ?_, ?_, hyear, ?_, hright⟩
  · rw [hunderlying, strip_upper_strip]
  · rw [hunderlying, upper_upper]
  · rw [hunderlying]
    exact bar_notMem_upper fun hmem => hbar (mem_of_mem_strip hmem)
  · obtain ⟨tail, htail⟩ := append_of_splitChars hfields
    have hself : stripChars (strip ck).toList = (strip ck).toList := by
      rw [strip, String.toList_ofList, stripChars_stripChars]
    have hsymbol : symbol.toList ≠ [] := by
      intro hnil
      apply hne
      rw [hunderlying, String.toList_inj.1 (hnil.trans String.toList_empty.symm)]
      decide +kernel
    rw [isPolygonOptionTicker, startsWith, strip_strip, upper] at hticker
    rw [hunderlying, startsWith, upper, strip]
    simp only [String.toList_ofList] at hticker ⊢
    exact startsWith_symbol hself ⟨_, htail.symm⟩ hsymbol hticker
  · rw [hround] at hfinite ⊢
    cases x with
    | fin q => exact canonical_strike rfl (Number.abs_le_of_ofText hstrike)
    | nan =>
      obtain ⟨q, hq⟩ := hfinite
      cases hq
    | inf neg =>
      obtain ⟨q, hq⟩ := hfinite
      cases hq

/-! ## Spellings -/

/-- The encoder's arguments as a caller spells them: a date without dashes, or with dashes and anything after it,
and the right in any case, short or long. -/
structure Spelling where
  symbol : String
  date : Date
  expiry : String
  strike : ℚ
  optionRight : String
  symbol_ne : strip symbol ≠ ""
  symbol_bar : '|' ∉ symbol.toList
  year : 1000 ≤ date.year
  expiry_eq : expiry = date.compact ∨ ∃ suffix : String, '|' ∉ suffix.toList ∧ expiry = date.dashed ++ suffix
  strike_pos : 0 < strike
  strike_le : strike ≤ Number.maxFloat
  right_mem : upper (strip optionRight) ∈ ["C", "P", "CALL", "PUT"]

namespace Spelling

def key (i : Spelling) : String := contractKeyFromParts i.symbol i.expiry (.fin i.strike) i.optionRight

def identity (i : Spelling) : String × Date × Number × String :=
  identityKey i.symbol i.date (.fin i.strike) i.optionRight

/-- The right that is meant. -/
def side (i : Spelling) : String := if upper (strip i.optionRight) ∈ ["C", "CALL"] then "C" else "P"

/-- What a reader of the key is to find. -/
def parts (i : Spelling) : IbContractParts :=
  ⟨upper (strip i.symbol), i.date, (Number.fin i.strike).round 8, i.side, i.key⟩

variable (i : Spelling)

theorem side_eq : i.side = shortRight i.optionRight := by
  have hmem := i.right_mem
  unfold side shortRight
  generalize upper (strip i.optionRight) = r at hmem ⊢
  simp only [List.mem_cons, List.not_mem_nil, or_false] at hmem
  rcases hmem with rfl | rfl | rfl | rfl <;> decide +kernel

theorem normExpiry_expiry : normExpiry i.expiry = i.date.compact := by
  rcases i.expiry_eq with h | ⟨suffix, -, h⟩
  · rw [h, normExpiry_compact i.year]
  · rw [h, normExpiry_dashed i.year]

/-- Every spelling is written as its canonical parts. -/
theorem key_eq : i.key = i.parts.written := by
  rw [key, contractKeyFromParts_eq, i.normExpiry_expiry, ← i.side_eq, IbContractParts.written]
  simp only [parts]

theorem canonical (h : isPolygonOptionTicker i.symbol = false) : Canonical i.parts where
  stripped := strip_upper_strip i.symbol
  uppered := upper_upper (strip i.symbol)
  nonempty := upper_ne_empty i.symbol_ne
  no_bar := bar_notMem_upper fun hmem => i.symbol_bar (mem_of_mem_strip hmem)
  not_ticker := h
  year := i.year
  strike := canonical_strike rfl (abs_le.2 ⟨by linarith [i.strike_pos, Number.maxFloat_nonneg], i.strike_le⟩)
  optionRight := by
    rw [parts, side]
    split
    · exact Or.inl rfl
    · exact Or.inr rfl

theorem identity_eq : i.identity = (i.parts.underlying, i.parts.expiry, i.parts.strike, i.parts.optionRight) := by
  rw [identity, identityKey, ← (shortRight_cases i.right_mem).1, ← i.side_eq]
  simp only [parts]

theorem parse_key (h : isPolygonOptionTicker i.symbol = false) : parseIbContractKey i.key = some i.parts := by
  rw [i.key_eq, (i.canonical h).parse, ← i.key_eq]
  simp only [parts]

/-- Two spellings have one key exactly when they have one identity. -/
theorem key_inj (j : Spelling) (hi : isPolygonOptionTicker i.symbol = false)
    (hj : isPolygonOptionTicker j.symbol = false) : i.key = j.key ↔ i.identity = j.identity := by
  constructor
  · intro hkey
    have hparts : some i.parts = some j.parts := by
      rw [← i.parse_key hi, hkey, j.parse_key hj]
    rw [identity_eq, identity_eq, Option.some.inj hparts]
  · intro hidentity
    rw [identity_eq, identity_eq] at hidentity
    obtain ⟨hunderlying, hexpiry, hstrike, hright⟩ : _ ∧ _ ∧ _ ∧ _ := by simpa only [Prod.mk.injEq] using hidentity
    rw [key_eq, key_eq, IbContractParts.written, IbContractParts.written, hunderlying, hexpiry, hstrike, hright]

end Spelling

/-- The key of parts that were read. -/
def IbContractParts.encode (p : IbContractParts) : String :=
  ibContractKeyFromParts p.underlying (.inl p.expiry) p.strike p.optionRight

/-- Reading a re-encoded key changes the original key only. -/
theorem parse_encode {ck : String} {p : IbContractParts} (h : parseIbContractKey ck = some p)
    (hfinite : Number.Finite p.strike) (hyear : 1000 ≤ p.expiry.year) :
    parseIbContractKey p.encode = some { p with originalKey := p.encode } := by
  have hcanonical := canonical_of_parse h hfinite hyear
  rw [IbContractParts.encode, hcanonical.encode, hcanonical.parse]

/-- **Main.** A key is read as what it was written from, whatever its spelling; keys are equal as identities are;
and what is read from any text is read again from its re-encoding, which encoding again leaves as it is. -/
theorem contractKey_roundTrip (i : Spelling) (hi : isPolygonOptionTicker i.symbol = false) :
    parseIbContractKey i.key =
        some ⟨upper (strip i.symbol), i.date, (Number.fin i.strike).round 8, i.side, i.key⟩ ∧
      parseContractKey i.key = some ((Number.fin i.strike).round 8, i.side) ∧
      (∀ j : Spelling, isPolygonOptionTicker j.symbol = false → (i.key = j.key ↔ i.identity = j.identity)) ∧
      ∀ (ck : String) (p : IbContractParts), parseIbContractKey ck = some p → Number.Finite p.strike →
        1000 ≤ p.expiry.year →
        ∃ again, parseIbContractKey p.encode = some again ∧ again.underlying = p.underlying ∧
          again.expiry = p.expiry ∧ again.strike = p.strike ∧ again.optionRight = p.optionRight ∧
          again.encode = p.encode := by
  refine ⟨i.parse_key hi, ?_, fun j hj => i.key_inj j hi hj, fun ck p hp hfinite hyear => ?_⟩
  · rw [i.key_eq, (i.canonical hi).parseContractKey_written]
    simp only [Spelling.parts]
  · exact ⟨_, parse_encode hp hfinite hyear, rfl, rfl, rfl, rfl, by simp only [IbContractParts.encode]⟩

/-- A spelling with white space, a time of day and a long right. -/
def sampleSpelling : Spelling where
  symbol := " aapl"
  date := ⟨2026, 10, 16, by decide⟩
  expiry := "2026-10-16T00:00"
  strike := 195 / 2
  optionRight := "put"
  symbol_ne := by decide +kernel
  symbol_bar := by decide
  year := by decide
  expiry_eq := Or.inr ⟨"T00:00", by decide, by decide +kernel⟩
  strike_pos := by norm_num
  strike_le := by decide +kernel
  right_mem := by decide +kernel

/-- The same contract, spelled as short as it goes. -/
def shortSpelling : Spelling where
  symbol := "AAPL"
  date := ⟨2026, 10, 16, by decide⟩
  expiry := "20261016"
  strike := 195 / 2
  optionRight := "P"
  symbol_ne := by decide +kernel
  symbol_bar := by decide
  year := by decide
  expiry_eq := Or.inl (by decide +kernel)
  strike_pos := by norm_num
  strike_le := by decide +kernel
  right_mem := by decide +kernel

theorem contractKey_roundTrip_sample :
    parseIbContractKey sampleSpelling.key =
        some ⟨"AAPL", ⟨2026, 10, 16, by decide⟩, .fin (195 / 2), "P", "AAPL|OPT|20261016|97.5|P"⟩ ∧
      (sampleSpelling.key = shortSpelling.key ↔ sampleSpelling.identity = shortSpelling.identity) ∧
      ∃ again p, parseIbContractKey " aapl | opt |2026-10-16|97.500|call|x" = some p ∧
        parseIbContractKey p.encode = some again ∧ again.encode = p.encode := by
  obtain ⟨hparse, -, hkeys, hagain⟩ := contractKey_roundTrip sampleSpelling (by decide +kernel)
  refine ⟨?_, hkeys shortSpelling (by decide +kernel), ?_⟩
  · rw [hparse]
    decide +kernel
  · have hread : parseIbContractKey " aapl | opt |2026-10-16|97.500|call|x" =
        some ⟨"AAPL", ⟨2026, 10, 16, by decide⟩, .fin (195 / 2), "C", "aapl | opt |2026-10-16|97.500|call|x"⟩ := by
      decide +kernel
    obtain ⟨again, hparse', -, -, -, -, hencode⟩ := hagain _ _ hread ⟨_, rfl⟩ (by decide)
    exact ⟨again, _, hread, hparse', hencode⟩

/-- A symbol that becomes a ticker's start only when it is stripped. -/
def tickerSpelling : Spelling where
  symbol := " O:AAPL"
  date := ⟨2026, 10, 16, by decide⟩
  expiry := "20261016"
  strike := 95
  optionRight := "C"
  symbol_ne := by decide +kernel
  symbol_bar := by decide
  year := by decide
  expiry_eq := Or.inl (by decide +kernel)
  strike_pos := by norm_num
  strike_le := by decide +kernel
  right_mem := by decide +kernel

/-- The symbol as it is given does not start with `O:`, and its key is not read. -/
theorem contractKey_roundTrip_fails :
    ¬ ∀ i : Spelling, startsWith (upper i.symbol) "O:" = false →
      ∃ p, parseIbContractKey i.key = some p ∧ p.underlying = upper (strip i.symbol) := by
  intro h
  obtain ⟨p, hp, -⟩ := h tickerSpelling (by decide +kernel)
  have hnone : parseIbContractKey tickerSpelling.key = none := by decide +kernel
  rw [hnone] at hp
  cases hp

end BifrostApi.Research
