import Mathlib.Data.Rat.Defs

/-!
# Domain records

The records that the loops, the order pipeline and the gateways exchange, with the fields the
source gives them. Prices and quantities are rationals (`float` in the source), times are seconds
in the server's time zone.

* `Signal`, `OrderRequest`, `OrderResult`, `OrderStatus`, `Candle` — `app/domain/models.py`.
* `PositionState`, `OrderType`, `UniverseStatus` — the string constants of the source.
* `Exn` — the exceptions the modelled code distinguishes when it catches.
-/

namespace HaruTrade

/-- A wall-clock time: seconds since a midnight, in the server's time zone.
Source: none: infrastructure. Kind: D -/
abbrev Time := ℕ

/-- The hour of the day. Source: none: infrastructure. Kind: D -/
def Time.hour (t : Time) : ℕ := t / 3600 % 24

/-- The minute of the hour. Source: none: infrastructure. Kind: D -/
def Time.minute (t : Time) : ℕ := t / 60 % 60

/-- The calendar day. Source: none: infrastructure. Kind: D -/
def Time.day (t : Time) : ℕ := t / 86400

/-- The exceptions that an `except` clause of the modelled code tells apart: `SQLAlchemyError`, the
`(KeyError, ValueError, TypeError)` of a settings read, and any other `Exception`.
Source: `app/loops/loop_a_runtime.py`. Kind: D -/
inductive Exn
  | sqlalchemy (text : String)
  | lookup (text : String)
  | other (text : String)
  deriving DecidableEq, Repr

/-- `str(exc)`. Source: none: infrastructure. Kind: D -/
def Exn.str : Exn → String
  | sqlalchemy s => s
  | lookup s => s
  | other s => s

/-- Is the optional string true in a Python condition: present and not empty?
Source: none: infrastructure. Kind: D -/
def truthy : Option String → Bool
  | some s => s ≠ ""
  | none => false

/-- `a or b` on optional strings. Source: none: infrastructure. Kind: D -/
def orElse (a b : Option String) : Option String := if truthy a then a else b

/-- A bar; its prices are rational numbers, unless another type of numbers is given.
Source: `app/domain/models.py` `Candle`. Kind: D -/
structure Candle (F : Type := ℚ) where
  «open» : F
  high : F
  low : F
  close : F
  ts : Time
  volume : ℚ := 0
  deriving DecidableEq, Repr

/-- Source: `app/domain/models.py` `Signal`. Kind: D -/
structure Signal where
  index : ℕ
  side : String
  ticker : String
  strategyId : String := "default"
  timeframe : String := "5m"
  price : Option ℚ := none
  signalTime : Option Time := none
  deriving DecidableEq, Repr

/-- The `order_type` strings. Source: `app/domain/models.py` `OrderRequest.order_type`. Kind: D -/
inductive OrderType
  | limit
  | market
  deriving DecidableEq, Repr

/-- Source: `app/domain/models.py` `OrderRequest`. Kind: D -/
structure OrderRequest where
  ticker : String
  side : String
  orderType : OrderType
  qty : ℚ
  price : Option ℚ
  deriving DecidableEq, Repr

/-- Source: `app/domain/models.py` `OrderResult`. Kind: D -/
structure OrderResult where
  ok : Bool
  orderId : Option String
  error : Option String := none
  deriving DecidableEq, Repr

/-- Source: `app/domain/models.py` `OrderStatus`; `present` is its field `exists`. Kind: D -/
structure OrderStatus where
  present : Bool
  status : String
  filledQty : ℚ := 0
  deriving DecidableEq, Repr

/-- The `state` strings of a position row. Source: `app/orders/state_machine.py`
`PositionStateMachine.decide`. Kind: D -/
inductive PositionState
  | OPEN
  | HALF_CLOSED
  | CLOSED
  deriving DecidableEq, Repr

/-- The `status` strings of a symbol row. Source: `app/domain/universe_status.py`
`UniverseStatus`. Kind: D -/
inductive UniverseStatus
  | NORMAL
  | EXIT_PENDING
  | REMOVED
  | HALTED
  deriving DecidableEq, Repr

end HaruTrade
