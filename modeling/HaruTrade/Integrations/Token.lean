import HaruTrade.Coroutine.Held
import HaruTrade.Data.History
import HaruTrade.Integrations.ChartRows

/-!
# The access token of the broker's client

`KiwoomApiClient.post` sends a request with the token that the client holds, after a new one was asked
for when that one is missing or about to expire. Any number of requests are under way at once: the
orders and prices of the cycles, the backfill, the checks of the dashboard.

* `post`, `ensureToken`, `refreshToken` — the client as a coroutine over its calls.
* `ClientWorld` — the fields of the client, and a history of what it did.
* `clients` — the event loop with any number of requests.
-/

namespace HaruTrade

open Coro

namespace JsonValue

/-- `bool(value)`. Source: `app/integrations/kiwoom/client.py` `KiwoomApiClient.refresh_token`.
Kind: D -/
def truthy : JsonValue → Bool
  | .null => false
  | .bool b => b
  | .int n => n ≠ 0
  | .float x => x ≠ .of 0
  | .str s => s ≠ ""
  | .list items => !items.isEmpty
  | .dict fields => !fields.isEmpty

/-- `null` is `None`. Source: `app/integrations/kiwoom/client.py` `UrllibJsonTransport.post`.
Kind: D -/
def given : JsonValue → Option JsonValue
  | .null => none
  | value => some value

end JsonValue

namespace KiwoomApiClient

/-! ## The client -/

/-- What the client is built with, and what its messages and `datetime.strptime` depend on besides the
reply: the text of a value, and the time that a text other than fourteen digits stands for.
Source: `app/integrations/kiwoom/client.py` `KiwoomApiClient.__init__`. Kind: D -/
structure Setup where
  appKey : String
  appSecret : String
  tokenRetryBackoff : List ℚ := [1, 2, 4]
  format : JsonValue → String
  repr : String → String
  extended : String → Option DateTime

/-- A request of a caller. Source: `app/integrations/kiwoom/client.py` `KiwoomApiClient.post`.
Kind: D -/
structure ApiRequest where
  path : String
  apiId : String
  payload : JsonDict
  isOrder : Bool

/-- What the client does besides computing: it reads its caller's request and the clock, reads and
writes its fields, submits a request for a token or one of its caller, and sleeps.
Source: `app/integrations/kiwoom/client.py` `KiwoomApiClient`. Kind: D -/
inductive ClientCall where
  | request
  | now
  | client
  | setToken (token : JsonValue)
  | setExpiresAt (expiresAt : ℤ)
  | setRateToken (token : JsonValue) (expiresIn : ℤ)
  | submitToken (index : ℕ)
  | sleep (seconds : ℚ)
  | submit (req : ApiRequest) (token : Option JsonValue)

/-- What the calls are answered with; instants are microseconds of UTC.
Source: `app/integrations/kiwoom/client.py` `KiwoomApiClient`. Kind: D -/
abbrev ClientCall.Reply : ClientCall → Type
  | .request => ApiRequest
  | .now => ℤ
  | .client => Option JsonValue × Option ℤ
  | .setToken _ => Unit
  | .setExpiresAt _ => Unit
  | .setRateToken _ _ => Unit
  | .submitToken _ => Except Exn JsonValue
  | .sleep _ => Unit
  | .submit _ _ => Except Exn JsonValue

/-- A piece of the client. Source: none: infrastructure. Kind: D -/
abbrev ClientProg (α : Type) : Type := Coro ClientCall ClientCall.Reply Exn α

/-- Perform a call. Source: none: infrastructure. Kind: D -/
abbrev ask (e : ClientCall) : ClientProg e.Reply := perform e

/-- `timedelta(minutes=5)`. Source: `app/integrations/kiwoom/client.py`
`KiwoomApiClient.token_expiring`. Kind: D -/
def buffer : ℤ := 5 * 60 * 1000000

/-- Is a token with this expiry about to expire? Source: `app/integrations/kiwoom/client.py`
`KiwoomApiClient.token_expiring`. Kind: D -/
def expiring : Option JsonValue → Option ℤ → ClientProg Bool
  | some _, some expiresAt => do
      let now ← ask .now
      return decide (expiresAt - buffer ≤ now)
  | _, _ => return true

/-- Source: `app/integrations/kiwoom/client.py` `KiwoomApiClient.token_expiring`. Kind: D -/
def tokenExpiring : ClientProg Bool := do
  let held ← ask .client
  expiring (held.1.filter JsonValue.truthy) held.2

/-- The attempts to get a token: the reply, if one came, and the last error. Source:
`app/integrations/kiwoom/client.py` `KiwoomApiClient.refresh_token`. Kind: D -/
def attempts : ℕ → List ℚ → Option Exn → ClientProg (Option JsonValue × Option Exn)
  | _, [], lastError => return (none, lastError)
  | index, backoff :: later, lastError => do
      match ← ask (.submitToken index) with
      | .ok data => return (data.given, lastError)
      | .error x => do
          if later ≠ [] then
            ask (.sleep backoff)
          attempts (index + 1) later (some x)

variable (cfg : Setup)

/-- `data.get("token") or data.get("access_token")`, when it is true. Source:
`app/integrations/kiwoom/client.py` `KiwoomApiClient.refresh_token`. Kind: D -/
def replyToken (data : JsonDict) : Option JsonValue :=
  ((data.lookup "token").filter JsonValue.truthy).or
    ((data.lookup "access_token").filter JsonValue.truthy)

/-- `int(value)`. Source: `app/integrations/kiwoom/client.py` `KiwoomApiClient.refresh_token`.
Kind: D -/
def intOf : JsonValue → Except Exn ℤ
  | .int n => .ok n
  | .bool b => .ok (if b then 1 else 0)
  | .float (.of q) => .ok (truncInt q)
  | .float .nan => .error (.other "cannot convert float NaN to integer")
  | .float (.inf _) => .error (.other "cannot convert float infinity to integer")
  | .str s => (PyNum.ofIntText s).mapError fun e => .other (e.text cfg.repr)
  | .null => .error (.other (notInt "NoneType"))
  | .list _ => .error (.other (notInt "list"))
  | .dict _ => .error (.other (notInt "dict"))
where
  notInt (kind : String) : String :=
    "int() argument must be a string, a bytes-like object or a real number, not '" ++ kind ++ "'"

/-- `datetime.strptime(value, "%Y%m%d%H%M%S").replace(tzinfo=timezone.utc)`. Source:
`app/integrations/kiwoom/client.py` `KiwoomApiClient.refresh_token`. Kind: D -/
def instantOf (value : JsonValue) : Except Exn ℤ :=
  match value.text? with
  | none => .error (.other ("strptime() argument 1 must be str, not " ++ cfg.format value))
  | some text =>
    let read := if text.toList.all PyText.isDigitChar ∧ text.toList.length = 14
      then (strptimeUtc text.toList).map PyDatetime.wall else cfg.extended text
    match read with
    | some wall => .ok wall.toMicros
    | none => .error (.other ("time data " ++ cfg.repr text ++ " does not match format '%Y%m%d%H%M%S'"))

/-- `now + timedelta(seconds=seconds)`: a `datetime` is of the years 1 to 9999. Source:
`app/integrations/kiwoom/client.py` `KiwoomApiClient.refresh_token`. Kind: D -/
def later (now seconds : ℤ) : Except Exn ℤ :=
  let sum := now + seconds * 1000000
  if 0 ≤ sum ∧ sum < 3652059 * 86400000000 then .ok sum
  else .error (.other "date value out of range")

/-- When the token of a reply expires. Source: `app/integrations/kiwoom/client.py`
`KiwoomApiClient.refresh_token`. Kind: D -/
def expiryOf (data : JsonDict) : ClientProg ℤ :=
  match (data.lookup "expires_dt").filter JsonValue.truthy with
  | some expiresDt => ofExcept (instantOf cfg expiresDt)
  | none => do
      let expiresIn ← ofExcept (intOf cfg ((data.lookup "expires_in").getD (.int 3600)))
      let now ← ask .now
      ofExcept (later now expiresIn)

/-- Take the token of a reply, and then its expiry. Source: `app/integrations/kiwoom/client.py`
`KiwoomApiClient.refresh_token`. Kind: D -/
def takeReply (data : JsonValue) : ClientProg JsonValue :=
  match data.dict? with
  | none => raise (.other ("object has no attribute 'get': " ++ cfg.format data))
  | some fields =>
    match replyToken fields with
    | none => raise (.other ("token not found in response: " ++ cfg.format data))
    | some token => do
        ask (.setToken token)
        let expiresAt ← expiryOf cfg fields
        ask (.setExpiresAt expiresAt)
        return token

/-- The message after the last attempt. Source: `app/integrations/kiwoom/client.py`
`KiwoomApiClient.refresh_token`. Kind: D -/
def refreshFailed (lastError : Option Exn) : Exn :=
  .other ("kiwoom token refresh failed: " ++ (lastError.map Exn.str).getD "None")

/-- **Get a new token.** Source: `app/integrations/kiwoom/client.py`
`KiwoomApiClient.refresh_token`. Kind: D -/
def refreshToken : ClientProg JsonValue :=
  if cfg.appKey = "" ∨ cfg.appSecret = "" then
    raise (.other "KIWOOM_APP_KEY and KIWOOM_APP_SECRET are required")
  else do
    let made ← attempts 0 cfg.tokenRetryBackoff none
    match made.1 with
    | none => raise (refreshFailed made.2)
    | some data => takeReply cfg data

/-- Hand the token on to the rate-limited client. Source: `app/integrations/kiwoom/client.py`
`KiwoomApiClient.ensure_token`. Kind: D -/
def handOn : Option JsonValue → Option ℤ → ClientProg Unit
  | some token, some expiresAt => do
      let now ← ask .now
      ask (.setRateToken token (max (expiresAt - now) 0 / 1000000))
  | _, _ => return ()

/-- **The token for a request**; `none` is the empty text. Source:
`app/integrations/kiwoom/client.py` `KiwoomApiClient.ensure_token`. Kind: D -/
def ensureToken : ClientProg (Option JsonValue) := do
  if ← tokenExpiring then
    let _ ← refreshToken cfg
    let held ← ask .client
    handOn (held.1.filter JsonValue.truthy) held.2
  let held ← ask .client
  return held.1.filter JsonValue.truthy

/-- **A request with its token.** Source: `app/integrations/kiwoom/client.py`
`KiwoomApiClient.post`. Kind: D -/
def post (req : ApiRequest) : ClientProg JsonValue := do
  let token ← ensureToken cfg
  let reply ← ask (.submit req token)
  ofExcept reply

/-! ## The world of the client -/

/-- What the client did: it submitted a request for a token, with the index of the attempt; it took the
token of a reply; it took the time at which the token of that reply expires; it submitted a request.
`now` is what the clock showed last. Source: none: infrastructure. Kind: D -/
inductive ClientEvent where
  | asked (index : ℕ) (now : ℤ)
  | took (token : JsonValue)
  | expires (expiresAt : ℤ)
  | sent (token : Option JsonValue) (now : ℤ)

/-- The fields of the client, and as ghosts the last reading of the clock and the history.
Source: `app/integrations/kiwoom/client.py` `KiwoomApiClient.__init__`. Kind: D -/
structure ClientWorld where
  token : Option JsonValue := none
  expiresAt : Option ℤ := none
  /-- The token of the rate-limited client, with the seconds until it expires. -/
  rateToken : Option (JsonValue × ℤ) := none
  clock : ℤ := 0
  history : List ClientEvent := []

/-- What the world does not determine. Source: none: infrastructure. Kind: D -/
structure ClientAnswer where
  request : ApiRequest := ⟨"", "", [], false⟩
  now : ℤ := 0
  reply : Except Exn JsonValue := .error (.other "")

/-- How a call is answered. Source: `app/integrations/kiwoom/client.py` `KiwoomApiClient`. Kind: D -/
def exec : (e : ClientCall) → ClientAnswer → ClientWorld → e.Reply × ClientWorld
  | .request, a, w => (a.request, w)
  | .now, a, w => (a.now, { w with clock := a.now })
  | .client, _, w => ((w.token, w.expiresAt), w)
  | .setToken token, _, w =>
      ((), { w with token := some token, history := w.history ++ [.took token] })
  | .setExpiresAt expiresAt, _, w =>
      ((), { w with expiresAt := some expiresAt, history := w.history ++ [.expires expiresAt] })
  | .setRateToken token expiresIn, _, w => ((), { w with rateToken := some (token, expiresIn) })
  | .submitToken index, a, w =>
      (a.reply, { w with history := w.history ++ [.asked index w.clock] })
  | .sleep _, _, w => ((), w)
  | .submit _ token, a, w =>
      (a.reply, { w with history := w.history ++ [.sent token w.clock] })

/-- The calls that await. Source: `app/integrations/kiwoom/client.py` `KiwoomApiClient`. Kind: D -/
def ClientCall.suspends : ClientCall → Bool
  | .submitToken _ => true
  | .sleep _ => true
  | .submit _ _ => true
  | _ => false

end KiwoomApiClient

end HaruTrade
