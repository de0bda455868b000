import BifrostApi.Lib.History
import BifrostApi.Lib.ReadThrough
import BifrostApi.Research.OptionSnapshots

/-!
# Snapshot requests while the market moves (`research/routers/option_discovery.py`)

`GET /research/option-snapshots` reads the day's price, looks into Redis, asks the plugin and stores the body for two
minutes. Requests run in worker threads and over several processes on one Redis, so between any two of these steps the
price and the plugin's rows may change, another request may store under the same key, and Redis may drop an entry. The
route is an instance of the read-through cache: every body is what a miss of the run gave in a market the run went
through, for the same symbol, day, source and contracts, and a hit is such a miss's stored body (`snapshots_current`).
The contracts of a request are few enough for one call of the plugin.

| here | there |
| --- | --- |
| `route.prepare` | `get_option_snapshots_pg` (option_discovery.py:87), lines 105-138 |
| `route.key`, `route.live` | lines 139-142, `SNAPSHOT_CACHE_TTL_SEC` |
| `route.build`, `route.respond` | lines 161-224, `JSONResponse` (:149, :235) |
-/

namespace BifrostApi.Research.SnapshotRuns

open Py OptionSnapshots History ReadThrough

/-- What changes while requests run. -/
structure Market where
  fallbackPrice : String → Option Number
  plugin : Plugin

def during (env : Env) (m : Market) : Env := { env with fallbackPrice := m.fallbackPrice, plugin := m.plugin }

/-- The clock and what Redis does are the events' here, not the request's. -/
def route (env : Env) : Route Market Request Query Json OptionSnapshots.Response String ℚ where
  prepare m r := readQuery (during env m) r
  key := cacheKey env
  build q := .read fun m => .done ((buildBody (during env m) q).mapError .raised)
  usable := Json.allFinite
  respond := render
  live storedAt now := decide (now < storedAt + snapshotCacheTtlSec)

/-- The queries ask for the same contracts; the spelling of the expiry and the day's price may differ. -/
structure Agrees (q q₀ : Query) : Prop where
  sym : q₀.sym = q.sym
  day : normExpiry q₀.exp = normExpiry q.exp
  src : q₀.src = q.src
  keys : q₀.keys = q.keys

theorem Agrees.refl (q : Query) : Agrees q q := ⟨rfl, rfl, rfl, rfl⟩

end BifrostApi.Research.SnapshotRuns
