import PageHarvest.Http.Answer
import PageHarvest.Http.Headers
import PageHarvest.RateLimit

/-!
A client: how it names itself to servers, and how it spaces its requests.
-/

namespace PageHarvest.Http

structure ClientSettings where
  rateLimit : Option RateLimit := none
  userAgent : String := "graphql-sync/0.1.0"
  /-- How long to wait for a connection. -/
  connectTimeout : Option Duration := none
deriving DecidableEq, Repr

structure Client where
  settings : ClientSettings
  limiter : Option Limiter
deriving DecidableEq, Repr

namespace Client

/-- A client that begins its work at a time. Its name has to fit in a header. -/
def start (settings : ClientSettings) (now : Duration) : Except Error Client :=
  if isHeaderText settings.userAgent then
    .ok ⟨settings, settings.rateLimit.map fun limit => .start limit now⟩
  else .error (.http .request)

def isLimited (c : Client) : Bool := c.limiter.isSome

/-- The time at which the next request may be sent, not before now, and the
client after it. -/
def admission (c : Client) (now : Duration) : Duration × Client :=
  match c.limiter with
  | none => (now, c)
  | some limiter =>
      let time := max now limiter.ready
      (time, { c with limiter := some (limiter.acquire time).2 })

end Client

end PageHarvest.Http
