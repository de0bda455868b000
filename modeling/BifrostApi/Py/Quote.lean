import BifrostApi.Py.Url

/-!
# Quoted text

`quote` is `urllib.parse.quote(text, safe="")`: the text in UTF-8, the letters and digits of ASCII and
`_.-~` as they are, every other byte as `%XX`. `unquote` is `urllib.parse.unquote`, which reads it back
(`unquote_quote`).
-/

namespace Py

/-- `_ALWAYS_SAFE_BYTES`. -/
def alwaysSafe (n : Nat) : Bool :=
  (0x41 ≤ n && n ≤ 0x5A) || (0x61 ≤ n && n ≤ 0x7A) || (0x30 ≤ n && n ≤ 0x39) || [0x5F, 0x2E, 0x2D, 0x7E].contains n

def hexUpper (d : Nat) : Char := Char.ofNat (if d < 10 then 48 + d else 55 + d)

/-- `%{:02X}` for a byte that is not safe. -/
def quoteByte (b : UInt8) : List Char :=
  if alwaysSafe b.toNat then [Char.ofNat b.toNat] else ['%', hexUpper (b.toNat / 16), hexUpper (b.toNat % 16)]

/-- `text.encode("utf-8")`. -/
def encodeUtf8 (cs : List Char) : List UInt8 := cs.flatMap String.utf8EncodeChar

/-- `quote(text, safe="")`. -/
def quote (cs : List Char) : List Char := (encodeUtf8 cs).flatMap quoteByte

/-- `unquote(text)`. -/
def unquote (cs : List Char) : List Char := if '%' ∈ cs then unquoteRuns [] cs else cs

/-! ## Bytes -/

theorem safe_ne_percent : ∀ n < 256, alwaysSafe n = true → Char.ofNat n ≠ '%' := by decide +kernel

theorem hexDigit?_hexUpper : ∀ d < 16, hexDigit? (hexUpper d) = some d := by decide

theorem unquoteBytes_quoteByte (b : UInt8) (cs : List Char) :
    unquoteBytes 0 (quoteByte b ++ cs) = b :: unquoteBytes 0 cs := by
  have hb : b.toNat < 256 := b.toNat_lt
  unfold quoteByte
  split
  next hsafe =>
    have hpercent : Char.ofNat b.toNat ≠ '%' := safe_ne_percent b.toNat hb hsafe
    have hvalue : UInt8.ofNat (Char.ofNat b.toNat).toNat = b := by
      rw [toNat_ofNat (Or.inl (by omega)), UInt8.ofNat_toNat]
    rw [List.singleton_append, unquoteBytes, if_neg hpercent, hvalue]
  next =>
    have hhigh : hexDigit? (hexUpper (b.toNat / 16)) = some (b.toNat / 16) := hexDigit?_hexUpper _ (by omega)
    have hlow : hexDigit? (hexUpper (b.toNat % 16)) = some (b.toNat % 16) := hexDigit?_hexUpper _ (by omega)
    have hbyte : UInt8.ofNat (16 * (b.toNat / 16) + b.toNat % 16) = b := by
      rw [Nat.div_add_mod, UInt8.ofNat_toNat]
    simp only [List.cons_append, List.nil_append, unquoteBytes, if_true, hexByte?, hhigh, hlow, hbyte]

theorem unquoteBytes_flatMap (bs : List UInt8) : unquoteBytes 0 (bs.flatMap quoteByte) = bs := by
  induction bs with
  | nil => rfl
  | cons b bs ih => rw [List.flatMap_cons, unquoteBytes_quoteByte, ih]

/-! ## Characters -/

theorem toNat_byte {n : Nat} (h : n < 256) : (UInt8.ofNat n).toNat = n := by
  rw [UInt8.toNat_ofNat', Nat.mod_eq_of_lt h]

theorem decodeUtf8From_ascii {n : Nat} (h : n < 0x80) (bs : List UInt8) :
    decodeUtf8From .start (UInt8.ofNat n :: bs) = Char.ofNat n :: decodeUtf8From .start bs := by
  rw [decodeUtf8From, toNat_byte (by omega), utf8Step, utf8Start, if_pos h, List.singleton_append]

theorem utf8Start_two : ∀ k < 0x20, 2 ≤ k → utf8Start (k + 0xC0) = ([], .more 1 k 0x80 0xBF) := by decide

theorem utf8Start_three : ∀ k < 0x10, utf8Start (k + 0xE0) =
    ([], .more 2 k (if k = 0 then 0xA0 else 0x80) (if k = 0xD then 0x9F else 0xBF)) := by decide

theorem utf8Start_four : ∀ k < 5, utf8Start (k + 0xF0) =
    ([], .more 3 k (if k = 0 then 0x90 else 0x80) (if k = 4 then 0x8F else 0xBF)) := by decide

theorem decodeUtf8From_first {n : Nat} {st : Utf8State} (hst : utf8Start n = ([], st)) (h : n < 256)
    (bs : List UInt8) : decodeUtf8From .start (UInt8.ofNat n :: bs) = decodeUtf8From st bs := by
  rw [decodeUtf8From, toNat_byte h, utf8Step, hst, List.nil_append]

/-- A byte in bounds that ends the character. -/
theorem decodeUtf8From_last {acc lo hi n : Nat} (hlo : lo ≤ n) (hhi : n ≤ hi) (h : n < 256) (bs : List UInt8) :
    decodeUtf8From (.more 1 acc lo hi) (UInt8.ofNat n :: bs) =
      Char.ofNat (64 * acc + (n - 0x80)) :: decodeUtf8From .start bs := by
  rw [decodeUtf8From, toNat_byte h, utf8Step]
  simp only [if_pos (And.intro hlo hhi), if_true, List.singleton_append]

/-- A byte in bounds with more to come. -/
theorem decodeUtf8From_more {left acc lo hi n : Nat} (hlo : lo ≤ n) (hhi : n ≤ hi) (h : n < 256) (bs : List UInt8) :
    decodeUtf8From (.more (left + 2) acc lo hi) (UInt8.ofNat n :: bs) =
      decodeUtf8From (.more (left + 1) (64 * acc + (n - 0x80)) 0x80 0xBF) bs := by
  have hleft : ¬ left + 2 = 1 := by omega
  rw [decodeUtf8From, toNat_byte h, utf8Step]
  simp only [if_pos (And.intro hlo hhi), if_neg hleft, List.nil_append]
  rfl

/-- The decoder reads back the character that was encoded, one case for each length. -/
theorem decodeUtf8From_char (c : Char) (bs : List UInt8) :
    decodeUtf8From .start (String.utf8EncodeChar c ++ bs) = c :: decodeUtf8From .start bs := by
  have hvalid : c.toNat < 0xD800 ∨ (0xDFFF < c.toNat ∧ c.toNat < 0x110000) := c.valid
  have hchar : ∀ n, n = c.toNat → Char.ofNat n = c := fun n hn => by rw [hn, Char.ofNat_toNat]
  have hval : c.val.toNat = c.toNat := rfl
  unfold String.utf8EncodeChar
  rw [hval]
  generalize c.toNat = n at hvalid hchar
  simp only
  split
  next hone =>
    rw [List.singleton_append, decodeUtf8From_ascii (by omega), hchar _ rfl]
  next hone =>
  split
  next htwo =>
    have hstart := utf8Start_two (n / 64 % 0x20) (by omega) (by omega)
    rw [List.cons_append, List.singleton_append, decodeUtf8From_first hstart (by omega),
      decodeUtf8From_last (by omega) (by omega) (by omega), hchar _ (by omega)]
  next htwo =>
  split
  next hthree =>
    have hstart := utf8Start_three (n / 4096 % 0x10) (by omega)
    rw [List.cons_append, List.cons_append, List.singleton_append, decodeUtf8From_first hstart (by omega),
      decodeUtf8From_more (by split <;> omega) (by split <;> omega) (by omega),
      decodeUtf8From_last (by omega) (by omega) (by omega), hchar _ (by omega)]
  next hthree =>
    have hstart := utf8Start_four (n / 262144 % 0x08) (by omega)
    rw [List.cons_append, List.cons_append, List.cons_append, List.singleton_append,
      decodeUtf8From_first hstart (by omega),
      decodeUtf8From_more (by split <;> omega) (by split <;> omega) (by omega),
      decodeUtf8From_more (by omega) (by omega) (by omega),
      decodeUtf8From_last (by omega) (by omega) (by omega), hchar _ (by omega)]

theorem decodeUtf8_encodeUtf8 (cs : List Char) : decodeUtf8 (encodeUtf8 cs) = cs := by
  unfold decodeUtf8 encodeUtf8
  induction cs with
  | nil => rfl
  | cons c cs ih => rw [List.flatMap_cons, decodeUtf8From_char, ih]

/-! ## Quoting -/

/-- What a byte is quoted with. -/
theorem all_quoteByte : ∀ n < 256,
    (quoteByte (UInt8.ofNat n)).all (fun c => alwaysSafe c.toNat || c == '%') = true := by
  decide +kernel

theorem mem_quote {cs : List Char} {c : Char} (h : c ∈ quote cs) : alwaysSafe c.toNat = true ∨ c = '%' := by
  obtain ⟨b, _, hc⟩ := List.mem_flatMap.1 h
  have hb := all_quoteByte b.toNat b.toNat_lt
  rw [UInt8.ofNat_toNat] at hb
  have hsafe := List.all_eq_true.1 hb c hc
  rw [Bool.or_eq_true, beq_iff_eq] at hsafe
  exact hsafe

theorem alwaysSafe_lt {n : Nat} (h : alwaysSafe n = true) : n < 128 := by
  simp [alwaysSafe] at h
  omega

theorem quote_ascii {cs : List Char} {c : Char} (h : c ∈ quote cs) : c.toNat < 128 := by
  rcases mem_quote h with hsafe | rfl
  · exact alwaysSafe_lt hsafe
  · decide

/-- ASCII text is one run. -/
theorem unquoteRuns_ascii : ∀ (cs run : List Char), (∀ c ∈ cs, c.toNat < 128) →
    unquoteRuns run cs = decodeUtf8 (unquoteBytes 0 (run.reverse ++ cs))
  | [], run, _ => by rw [unquoteRuns, List.append_nil]
  | c :: cs, run, h => by
    have hc : c.toNat < 0x80 := h c List.mem_cons_self
    rw [unquoteRuns, if_pos hc, unquoteRuns_ascii cs (c :: run) fun d hd => h d (List.mem_cons_of_mem _ hd),
      List.reverse_cons, List.append_assoc, List.singleton_append]

/-- ASCII text with nothing to unquote is its own bytes. -/
theorem decodeUtf8_unquoteBytes {cs : List Char} (h : ∀ c ∈ cs, c.toNat < 128) (hp : '%' ∉ cs) :
    decodeUtf8 (unquoteBytes 0 cs) = cs := by
  unfold decodeUtf8
  induction cs with
  | nil => rfl
  | cons c cs ih =>
    have hc : c.toNat < 0x80 := h c List.mem_cons_self
    have hne : c ≠ '%' := fun heq => hp (heq ▸ List.mem_cons_self)
    rw [unquoteBytes, if_neg hne, decodeUtf8From_ascii hc, Char.ofNat_toNat,
      ih (fun d hd => h d (List.mem_cons_of_mem _ hd)) fun hmem => hp (List.mem_cons_of_mem _ hmem)]

/-- **Main.** Unquoting restores what was quoted. -/
theorem unquote_quote (cs : List Char) : unquote (quote cs) = cs := by
  have hbytes : decodeUtf8 (unquoteBytes 0 (quote cs)) = cs := by
    rw [quote, unquoteBytes_flatMap, decodeUtf8_encodeUtf8]
  unfold unquote
  split
  next =>
    rw [unquoteRuns_ascii _ [] fun c => quote_ascii, List.reverse_nil, List.nil_append, hbytes]
  next hp =>
    rw [← decodeUtf8_unquoteBytes (fun c => quote_ascii) hp, hbytes]

theorem quote_ne_nil {cs : List Char} (h : cs ≠ []) : quote cs ≠ [] := by
  intro hnil
  have hback := unquote_quote cs
  rw [hnil] at hback
  exact h hback.symm

/-- No separator of a path or a header is left in quoted text. -/
theorem quote_safe {cs : List Char} {c : Char} (h : c ∈ quote cs) : c ∉ ['/', '>', '\r', '\n'] := by
  intro hc
  have hsafe := mem_quote h
  simp only [List.mem_cons, List.not_mem_nil, or_false] at hc
  rcases hc with rfl | rfl | rfl | rfl
  all_goals exact absurd hsafe (by decide)

end Py
