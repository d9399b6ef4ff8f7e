import HaruTrade.Data.PyNumber
import HaruTrade.Runtime.World

/-!
# The order gateways

`KiwoomOrderGateway.placeOrder` turns an order request into the payload of the broker's order API
and the broker's reply into an `OrderResult`; `PaperOrderGateway.placeOrder` accepts everything.

The quantities of the payload are integers: `int(req.qty)` drops the fraction.
-/

namespace HaruTrade

/-- The decoded JSON of a reply: its own string fields and those of its nested objects.
Source: `app/integrations/kiwoom/schema.py` `first_non_empty`. Kind: D -/
structure ReplyData where
  fields : List (String × String)
  nested : List (String × List (String × String)) := []

namespace ReplyData

/-- The value of the first of some keys that is not blank. Source:
`app/integrations/kiwoom/schema.py` `first_non_empty`. Kind: D -/
def firstOf (fields : List (String × String)) (keys : List String) : Option String :=
  keys.findSome? fun key => (fields.lookup key).filter fun value => PyText.strip value ≠ ""

/-- Source: `app/integrations/kiwoom/schema.py` `first_non_empty`. Kind: D -/
def firstNonEmpty (data : ReplyData) (keys : List String) : Option String :=
  (firstOf data.fields keys).or <|
    ["output", "output1", "output2", "data", "result"].findSome? fun container =>
      (data.nested.lookup container).bind fun fields => firstOf fields keys

end ReplyData

/-- The payload of an order. Source: `app/integrations/kiwoom/gateway.py`
`KiwoomOrderGateway.place_order`. Kind: D -/
structure OrderPayload where
  apiId : String
  accNo : String
  dmstStexTp : String
  stkCd : String
  ordQty : ℤ
  ordUv : ℤ
  trdeTp : String
  deriving DecidableEq

namespace KiwoomOrderGateway

/-- Source: `app/integrations/kiwoom/gateway.py` `KiwoomOrderGateway.place_order`. Kind: D -/
def payload (accountNo : String) (req : OrderRequest) : OrderPayload where
  apiId := if req.side = "buy" then "kt10000" else "kt10001"
  accNo := accountNo
  dmstStexTp := "KRX"
  stkCd := req.ticker ++ "_AL"
  ordQty := truncInt req.qty
  ordUv := truncInt (req.price.getD 0)
  trdeTp := if req.orderType = .market then "3" else "0"

/-- The result that a reply of the broker means. Source: `app/integrations/kiwoom/gateway.py`
`KiwoomOrderGateway.place_order`. Kind: D -/
def parseOrder (data : ReplyData) : OrderResult :=
  let orderId := data.firstNonEmpty ["ord_no", "order_no", "odno"]
  let code := (data.firstNonEmpty ["return_code", "rt_cd", "code"]).getD "0"
  let message := data.firstNonEmpty ["return_msg", "msg1", "message"]
  let ok := decide (code ∈ ["0", "None"]) && truthy orderId
  { ok, orderId := if truthy orderId then orderId else none,
    error := if ok then none else orElse message (some "order_failed") }

/-- **Place an order at the broker**, which answers a payload by `post`.
Source: `app/integrations/kiwoom/gateway.py` `KiwoomOrderGateway.place_order`. Kind: D -/
def placeOrder (accountNo : String) (post : OrderPayload → Except Exn ReplyData)
    (req : OrderRequest) : Except Exn OrderResult :=
  if accountNo = "" then
    .ok { ok := false, orderId := none, error := some "KIWOOM_ACCOUNT_NO is required" }
  else if req.side ∉ ["buy", "sell"] then
    .ok { ok := false, orderId := none, error := some ("unsupported side: " ++ req.side) }
  else
    (post (payload accountNo req)).map parseOrder

end KiwoomOrderGateway

/-- The `seq`-th order of the paper gateway. Source: `app/orders/paper_gateway.py`
`PaperOrderGateway.place_order`. Kind: D -/
def PaperOrderGateway.placeOrder (seq : ℕ) : OrderResult where
  ok := true
  orderId := some ("PAPER-" ++ toString (seq + 1))

end HaruTrade
