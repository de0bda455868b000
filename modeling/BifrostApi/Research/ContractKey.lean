import BifrostApi.Py.Date
import BifrostApi.Py.Json

/-!
# Contract keys and the strike ladder (`research/iv_atm.py`, `research/polygon_http.py`)

| here | there |
| --- | --- |
| `normExpiry` | `_norm_expiry` (polygon_http.py:16), `_norm_expiry_key` (screener.py:110) |
| `contractKeyFromParts` | `contract_key_from_parts` (polygon_http.py:33) |
| `parseContractKey` | `parse_contract_key` (iv_atm.py:28) |
| `strikesAroundSpot` | `strikes_around_spot` (iv_atm.py:14) |
-/

namespace BifrostApi.Research

open Py

/-- `YYYY-MM-DD…` becomes `YYYYMMDD`. -/
def normExpiry (s : String) : String :=
  let cs := (strip s).toList
  if 10 ≤ cs.length ∧ cs[4]? = some '-' then
    String.ofList (cs.take 4 ++ (cs.drop 5).take 2 ++ (cs.drop 8).take 2)
  else strip s

/-- `symbol|OPT|expiry|strike|right`. -/
def contractKeyFromParts (symbol expiry : String) (strike : Number) (optionRight : String) : String :=
  let r := upper (strip optionRight)
  let r := if r = "CALL" then "C" else r
  let r := if r = "PUT" then "P" else r
  join "|" [upper (strip symbol), "OPT", normExpiry expiry, (strike.round 8).repr, r]

/-- The strike and the right of a key; `none` where the source answers `None, None`. -/
def parseContractKey (ck : String) : Option (Number × String) :=
  match split '|' ck with
  | _ :: _ :: _ :: strike :: right :: _ => (Number.ofText strike).map fun x => (x, right)
  | _ => none

/-- The strikes around a spot, lowest first; `round(inf)` raises. -/
def strikesAroundSpot (spot : Number) (count : Nat) : Except Exc (List ℚ) :=
  match spot with
  | .nan => .ok []
  | .inf neg => if neg then .ok [] else .error .overflowError
  | .fin q =>
    if q ≤ 0 then .ok []
    else
      let step : ℚ := if q < 200 then 5 else 10
      let center := Number.roundHalfEven (q / step) * step
      let ladder := (List.range (2 * count + 1)).map fun i => center + ((i : ℚ) - count) * step
      .ok (ladder.filter (0 < ·))

example : contractKeyFromParts "xyz " "2026-10-16" (.fin 95) "put" = "XYZ|OPT|20261016|95.0|P" := by decide +kernel

example : parseContractKey "XYZ|OPT|20261016|95.0|P" = some (.fin 95, "P") := by decide +kernel

end BifrostApi.Research
