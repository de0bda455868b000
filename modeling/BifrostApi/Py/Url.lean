import BifrostApi.Py.Dict
import BifrostApi.Py.Text

/-!
# Query strings

`parseQsl` is `urllib.parse.parse_qsl(text, keep_blank_values=True)`: fields between `&`, empty ones
dropped, split at the first `=`, `+` for a blank, percent escapes decoded as UTF-8 with U+FFFD for what
is no UTF-8. A percent escape is decoded within its run of ASCII characters; what is not ASCII stays.
-/

namespace Py

/-- `bytes.decode("latin-1")`. -/
def latin1 (bs : List UInt8) : List Char := bs.map fun b => Char.ofNat b.toNat

/-- U+FFFD. -/
def replacement : Char := Char.ofNat 0xFFFD

/-- The UTF-8 decoder between two bytes: at the start of a character, or with `left` bytes to come, the
next one in `lo..hi`. -/
inductive Utf8State
  | start
  | more (left acc lo hi : Nat)
  deriving DecidableEq, Repr

/-- The first byte of a character. -/
def utf8Start (b : Nat) : List Char × Utf8State :=
  if b < 0x80 then ([Char.ofNat b], .start)
  else if 0xC2 ≤ b ∧ b ≤ 0xDF then ([], .more 1 (b - 0xC0) 0x80 0xBF)
  else if 0xE0 ≤ b ∧ b ≤ 0xEF then
    ([], .more 2 (b - 0xE0) (if b = 0xE0 then 0xA0 else 0x80) (if b = 0xED then 0x9F else 0xBF))
  else if 0xF0 ≤ b ∧ b ≤ 0xF4 then
    ([], .more 3 (b - 0xF0) (if b = 0xF0 then 0x90 else 0x80) (if b = 0xF4 then 0x8F else 0xBF))
  else ([replacement], .start)

/-- A byte that does not continue the character stands for one U+FFFD and starts the next one. -/
def utf8Step (st : Utf8State) (b : Nat) : List Char × Utf8State :=
  match st with
  | .start => utf8Start b
  | .more left acc lo hi =>
    if lo ≤ b ∧ b ≤ hi then
      let acc := 64 * acc + (b - 0x80)
      if left = 1 then ([Char.ofNat acc], .start) else ([], .more (left - 1) acc 0x80 0xBF)
    else
      let r := utf8Start b
      (replacement :: r.1, r.2)

def decodeUtf8From (st : Utf8State) : List UInt8 → List Char
  | [] => if st = .start then [] else [replacement]
  | b :: bs => (utf8Step st b.toNat).1 ++ decodeUtf8From (utf8Step st b.toNat).2 bs

/-- `bs.decode("utf-8", "replace")`. -/
def decodeUtf8 (bs : List UInt8) : List Char := decodeUtf8From .start bs

def hexDigit? (c : Char) : Option Nat :=
  if '0' ≤ c ∧ c ≤ '9' then some (c.toNat - 48)
  else if 'a' ≤ c ∧ c ≤ 'f' then some (c.toNat - 87)
  else if 'A' ≤ c ∧ c ≤ 'F' then some (c.toNat - 55)
  else none

/-- `%xy` as one byte. -/
def hexByte? : List Char → Option UInt8
  | a :: b :: _ => match hexDigit? a, hexDigit? b with
    | some x, some y => some (UInt8.ofNat (16 * x + y))
    | _, _ => none
  | _ => none

/-- `unquote_to_bytes` on ASCII text; `skip` counts the hex digits of an escape that was read. -/
def unquoteBytes (skip : Nat) : List Char → List UInt8
  | [] => []
  | c :: cs => match skip with
    | skip + 1 => unquoteBytes skip cs
    | 0 => if c = '%' then match hexByte? cs with
        | some b => b :: unquoteBytes 2 cs
        | none => UInt8.ofNat c.toNat :: unquoteBytes 0 cs
      else UInt8.ofNat c.toNat :: unquoteBytes 0 cs

/-- The text run by run; `run` is the ASCII run read so far, last character first. -/
def unquoteRuns (run : List Char) : List Char → List Char
  | [] => decodeUtf8 (unquoteBytes 0 run.reverse)
  | c :: cs =>
    if c.toNat < 0x80 then unquoteRuns (c :: run) cs
    else decodeUtf8 (unquoteBytes 0 run.reverse) ++ c :: unquoteRuns [] cs

/-- `unquote_plus`. -/
def unquotePlus (cs : List Char) : String :=
  let cs := cs.map fun c => if c = '+' then ' ' else c
  String.ofList (if '%' ∈ cs then unquoteRuns [] cs else cs)

/-- `parse_qsl(text, keep_blank_values=True)`. -/
def parseQsl (text : List Char) : List (String × String) :=
  ((splitChars '&' text).filter (· ≠ [])).map fun field =>
    (unquotePlus (field.takeWhile (· ≠ '=')), unquotePlus ((field.dropWhile (· ≠ '=')).drop 1))

example : parseQsl "a=1&since%5Fts=%E2%82%AC+x&&b".toList = [("a", "1"), ("since_ts", "€ x"), ("b", "")] := by
  decide +kernel

end Py
