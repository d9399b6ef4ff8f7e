import HaruTrade.Data.LastByKey
import HaruTrade.Repositories.Ordering
import HaruTrade.Services.UniverseBootstrap

/-!
# Rebalancing of the universe

A rebalancing takes its target from the caller's tickers or from the constituents of the two
indices. It takes the target into the universe, retires the other symbols of the universe (at once,
or after the exit when a position is open), recomputes the active symbols and commits.

* `map_ticker_sourceItems` — the tickers of the source items are the target of the inputs.
* `pending_admitAll`, `pending_retireAll` — **what the two passes change**, row by row.
* `effect_rebalance`, `lists_rebalance` — the table and the lists of a successful run.
-/

namespace HaruTrade

namespace Rebalance

open UniverseBootstrap (recomputeActiveUniverse setActive shouldActivate)
open UniverseRepository (listSymbols)

/-! ## The target -/

/-- Source: `app/main.py` `_rebalance_universe`. Kind: D -/
structure SourceItem where
  ticker : String
  market : String
  name : String
  deriving DecidableEq, Repr

/-- An item of `_fetch_prd_initial_universe_seed`. Source: `app/services/universe_bootstrap.py`
`fetch_prd_initial_universe_seed`. Kind: D -/
structure SeedItem where
  ticker : String
  market : String
  name : String
  deriving DecidableEq, Repr

/-- Source: `app/main.py` `_rebalance_universe`. Kind: D -/
inductive RebalanceError where
  | seedFetch (error : String)
  | seedEmpty
  | seedLabel (market : String)
  | noTarget
  | config (error : ConfigError)
  | database
  deriving DecidableEq, Repr

/-- The `error` that is answered; `exc` is the text of a database error. A config error leaves the
function as an exception. Source: `app/main.py` `_rebalance_universe`. Kind: D -/
def RebalanceError.answer (exc : String) : RebalanceError → Option String
  | .seedFetch error => some ("초기 유니버스(코스피200+코스닥150) 조회 실패: " ++ error)
  | .seedEmpty => some "초기 유니버스(코스피200+코스닥150) 조회 결과가 비어 있습니다."
  | .seedLabel market => some ("초기 유니버스 소스 라벨 오류: " ++ market)
  | .noTarget => some "리밸런싱 대상 종목이 없습니다."
  | .config _ => none
  | .database => some exc

/-- `manual_source`. Source: `app/main.py` `_rebalance_universe`. Kind: D -/
def manualSource (tickers : Option (List String)) : List String :=
  ((tickers.getD []).map PyText.strip).filter (· ≠ "")

/-- The items of the caller's tickers. Source: `app/main.py` `_rebalance_universe`. Kind: D -/
def manualItem (s : Session Symbol.ticker) (current : List String) (ticker : String) : SourceItem :=
  match if ticker ∈ current then s.pending.get? ticker else none with
  | none => ⟨ticker, "USER", ticker⟩
  | some row => ⟨ticker, (normalizeUniverseSource (some row.market)).getD "USER", row.name⟩

/-- The items of the indices with their labels, in the order of the answer.
Source: `app/main.py` `_rebalance_universe`. Kind: D -/
def labelled : List SeedItem → Except RebalanceError (List SourceItem)
  | [] => .ok []
  | item :: rest =>
    let ticker := PyText.strip item.ticker
    if ticker = "" then labelled rest
    else
      match normalizeUniverseSource (some item.market) with
      | none => .error (.seedLabel item.market)
      | some market =>
        let name := PyText.strip item.name
        (labelled rest).map (⟨ticker, market, if name = "" then ticker else name⟩ :: ·)

/-- `source_type` and `source_items`; of the items of one ticker the last one counts.
Source: `app/main.py` `_rebalance_universe`. Kind: D -/
def sourceItems (s : Session Symbol.ticker) (current : List String) (tickers : Option (List String))
    (seeds : Except String (List SeedItem)) : Except RebalanceError (String × List SourceItem) :=
  if manualSource tickers ≠ [] then
    .ok ("manual", (sortedSet (manualSource tickers)).map (manualItem s current))
  else
    match seeds with
    | .error error => .error (.seedFetch error)
    | .ok [] => .error .seedEmpty
    | .ok items => (labelled items).map fun l => ("prd_index_constituents", lastByKey SourceItem.ticker l)

/-- The target that the inputs name. Source: `app/main.py` `_rebalance_universe`. Kind: D -/
def targetTickers (tickers : Option (List String)) (seeds : Except String (List SeedItem)) :
    List String :=
  if manualSource tickers ≠ [] then sortedSet (manualSource tickers)
  else
    match seeds with
    | .error _ => []
    | .ok items => sortedSet ((items.map fun x => PyText.strip x.ticker).filter (· ≠ ""))

/-! ## The passes -/

/-- The session and the lists of the result. Source: `app/main.py` `_rebalance_universe`.
Kind: D -/
structure Pass where
  session : Session Symbol.ticker
  added : List String := []
  removed : List String := []
  pendingExit : List String := []
  kept : List String := []

/-- A symbol that is new in the table. Source: `app/main.py` `_rebalance_universe`. Kind: D -/
def newSymbol (item : SourceItem) : Symbol where
  ticker := item.ticker
  name := item.name
  market := item.market
  inUniverse := true
  isActive := false
  isBlocked := false
  status := .NORMAL

/-- What the target makes of a status. Source: `app/main.py` `_rebalance_universe`. Kind: D -/
def admittedStatus (opens : List String) (a : Symbol) : UniverseStatus :=
  if a.status ∈ [.REMOVED, .EXIT_PENDING] ∧ a.ticker ∉ opens then .NORMAL else a.status

/-- A symbol of the target that the table has. Source: `app/main.py` `_rebalance_universe`.
Kind: D -/
def rejoin (opens : List String) (item : SourceItem) (a : Symbol) : Symbol :=
  { a with
    name := item.name, market := item.market, inUniverse := true, status := admittedStatus opens a }

/-- `for ticker in target`. Source: `app/main.py` `_rebalance_universe`. Kind: D -/
def admitTurn (opens current : List String) (p : Pass) (item : SourceItem) : Pass :=
  if item.ticker ∈ current then
    { p with
      session := p.session.modify item.ticker (rejoin opens item) fun _ => rfl
      kept := p.kept ++ [item.ticker] }
  else
    { p with session := p.session.add (newSymbol item), added := p.added ++ [item.ticker] }

/-- A symbol outside the target leaves the universe, after the exit when a position is open.
Source: `app/main.py` `_rebalance_universe`. Kind: D -/
def retire (target opens : List String) (a : Symbol) : Symbol :=
  if a.inUniverse = false ∨ a.ticker ∈ target then a
  else if a.ticker ∈ opens then { a with status := .EXIT_PENDING, isActive := false }
  else { a with inUniverse := false, isActive := false, status := .REMOVED }

theorem ticker_retire {target opens : List String} (a : Symbol) :
    (retire target opens a).ticker = a.ticker := by
  unfold retire
  split_ifs
  · rfl
  · rfl
  · rfl

/-- `for ticker, row in current.items()`. Source: `app/main.py` `_rebalance_universe`. Kind: D -/
def retireTurn (target opens : List String) (p : Pass) (ticker : String) : Pass :=
  match p.session.pending.get? ticker with
  | none => p
  | some row =>
    let session := p.session.modify ticker (retire target opens) ticker_retire
    if row.inUniverse = false ∨ ticker ∈ target then p
    else if ticker ∈ opens then { p with session, pendingExit := p.pendingExit ++ [ticker] }
    else { p with session, removed := p.removed ++ [ticker] }

/-- What a successful run answers, with its target and the kept tickers.
Source: `app/main.py` `_rebalance_universe`. Kind: D -/
structure Outcome where
  source : String
  target : List String
  added : List String
  removed : List String
  pendingExit : List String
  kept : List String
  liquidity : UniverseBootstrap.Liquidity
  deriving DecidableEq, Repr

/-- The tickers with open positions. Source: `app/main.py` `_rebalance_universe`. Kind: D -/
def openTickers (w : World) : List String :=
  (OrderingRepository.listOpenPositions w).map Position.ticker

/-- The run up to its commit. Source: `app/main.py` `_rebalance_universe`. Kind: D -/
def prepare (config : ConfigManager) (w : World) (symbols : Table Symbol.ticker)
    (tickers : Option (List String)) (seeds : Except String (List SeedItem)) :
    Except RebalanceError (Session Symbol.ticker × Outcome) := do
  let s := Session.ofTable symbols
  let current := (listSymbols s none 20000).map Symbol.ticker
  let opens := openTickers w
  let (source, items) ← sourceItems s current tickers seeds
  let target := items.map SourceItem.ticker
  if target = [] then .error .noTarget
  else do
    let p := items.foldl (admitTurn opens current) { session := s }
    let p := current.foldl (retireTurn target opens) p
    let (s, liquidity) ← (recomputeActiveUniverse config w p.session).mapError .config
    .ok (s, ⟨source, target, p.added, p.removed, p.pendingExit, p.kept, liquidity⟩)

/-- The table that the run leaves, and its answer. Source: `app/main.py` `_rebalance_universe`.
Kind: D -/
def rebalance (config : ConfigManager) (w : World) (symbols : Table Symbol.ticker)
    (tickers : Option (List String)) (seeds : Except String (List SeedItem)) :
    Table Symbol.ticker × Except RebalanceError Outcome :=
  match prepare config w symbols tickers seeds with
  | .error e => (symbols, .error e)
  | .ok (s, outcome) =>
    match s.commit with
    | none => (symbols, .error .database)
    | some symbols' => (symbols', .ok outcome)

/-! ## The tickers of the source items -/

section source

variable {s : Session Symbol.ticker} {current : List String} {tickers : Option (List String)}
  {seeds : Except String (List SeedItem)} {items : List SourceItem} {source : String}

theorem nodup_targetTickers : (targetTickers tickers seeds).Nodup := by
  unfold targetTickers
  split_ifs
  · exact nodup_sortedSet
  · split
    · exact List.nodup_nil
    · exact nodup_sortedSet

theorem map_ticker_labelled {l : List SeedItem} (h : labelled l = .ok items) :
    items.map SourceItem.ticker = (l.map fun x => PyText.strip x.ticker).filter (· ≠ "") := by
  induction l generalizing items with
  | nil =>
      obtain rfl : [] = items := Except.ok.inj h
      rfl
  | cons x l ih =>
      replace h : (if PyText.strip x.ticker = "" then labelled l else _) = .ok items := h
      rw [List.map_cons, List.filter_cons]
      by_cases hblank : PyText.strip x.ticker = ""
      · rw [if_pos hblank] at h
        rw [ih h]
        simp [hblank]
      · rw [if_neg hblank] at h
        cases hmarket : normalizeUniverseSource (some x.market) with
        | none =>
            rw [hmarket] at h
            exact absurd h (by simp)
        | some market =>
            rw [hmarket] at h
            cases hrest : labelled l with
            | error e =>
                rw [hrest] at h
                exact absurd h (by simp [Except.map])
            | ok rest =>
                rw [hrest] at h
                obtain rfl := Except.ok.inj h
                rw [List.map_cons, ih hrest]
                simp [hblank]

/-- **The source items are the target of the inputs**, whatever the table has.
Source: `app/main.py` `_rebalance_universe`. Kind: L -/
theorem map_ticker_sourceItems (h : sourceItems s current tickers seeds = .ok (source, items)) :
    items.map SourceItem.ticker = targetTickers tickers seeds := by
  unfold sourceItems at h
  unfold targetTickers
  by_cases hmanual : manualSource tickers ≠ []
  · rw [if_pos hmanual] at h
    rw [if_pos hmanual]
    obtain ⟨-, rfl⟩ := Prod.mk.inj (Except.ok.inj h)
    rw [List.map_map]
    refine (List.map_congr_left ?_).trans (List.map_id _)
    intro ticker _
    simp only [Function.comp_apply, manualItem]
    split
    · rfl
    · rfl
  · rw [if_neg hmanual] at h
    rw [if_neg hmanual]
    cases seeds with
    | error e => exact absurd h (by simp)
    | ok l =>
        cases l with
        | nil => exact absurd h (by simp)
        | cons x l =>
            dsimp only at h ⊢
            cases hlabelled : labelled (x :: l) with
            | error e =>
                rw [hlabelled] at h
                exact absurd h (by simp [Except.map])
            | ok found =>
                rw [hlabelled] at h
                obtain ⟨-, rfl⟩ := Prod.mk.inj (Except.ok.inj h)
                rw [map_key_lastByKey, sortedKeys, map_ticker_labelled hlabelled]

end source

/-! ## What the passes change -/

section passes

variable {opens current target : List String} {items : List SourceItem} {l : List String} {p : Pass}

/-- The symbols that the first pass adds and keeps. Source: `app/main.py` `_rebalance_universe`.
Kind: L -/
theorem admitAll_lists :
    items.foldl (admitTurn opens current) p =
      { session := (items.foldl (admitTurn opens current) p).session
        added := p.added ++ (items.map SourceItem.ticker).filter (· ∉ current)
        removed := p.removed
        pendingExit := p.pendingExit
        kept := p.kept ++ (items.map SourceItem.ticker).filter (· ∈ current) } := by
  induction items generalizing p with
  | nil => simp
  | cons item items ih =>
      rw [List.foldl_cons, ih]
      unfold admitTurn
      by_cases hitem : item.ticker ∈ current
      · simp [hitem]
      · simp [hitem]

theorem admitAll_session (opens current : List String) (items : List SourceItem) (p : Pass) :
    (items.foldl (admitTurn opens current) p).session.stored = p.session.stored ∧
      (items.foldl (admitTurn opens current) p).session.added =
        p.session.added ++ (items.filter fun x => x.ticker ∉ current).map newSymbol := by
  induction items generalizing p with
  | nil => simp
  | cons item items ih =>
      obtain ⟨hstored, hadded⟩ := ih (admitTurn opens current p item)
      rw [List.foldl_cons, hstored, hadded]
      unfold admitTurn
      by_cases hitem : item.ticker ∈ current
      · simp only [hitem, if_true, not_true, decide_false, List.filter_cons_of_neg,
          Bool.false_eq_true, not_false_iff]
        exact ⟨rfl, rfl⟩
      · simp [hitem]

/-- **What the first pass changes**: the rows of the target that the table has.
Source: `app/main.py` `_rebalance_universe`. Kind: L -/
theorem pending_admitAll (opens current : List String) (p : Pass)
    (hnodup : (items.map SourceItem.ticker).Nodup) :
    (∀ item ∈ items, (items.foldl (admitTurn opens current) p).session.pending.get? item.ticker =
      (p.session.pending.get? item.ticker).map
        (if item.ticker ∈ current then rejoin opens item else id)) ∧
    ∀ k, k ∉ items.map SourceItem.ticker →
      (items.foldl (admitTurn opens current) p).session.pending.get? k =
        p.session.pending.get? k := by
  apply Session.look_foldl (fun (p : Pass) k => p.session.pending.get? k)
    (admitTurn opens current) SourceItem.ticker
    (fun item => if item.ticker ∈ current then rejoin opens item else id) _ hnodup
  intro item _ q k
  unfold admitTurn
  by_cases hitem : item.ticker ∈ current
  · simp only [if_pos hitem]
    exact Session.get?_pending_modify _
  · simp only [if_neg hitem, Session.pending_add, Option.map_id, id_eq, ite_self]

/-- One turn of the second pass changes its own row. Source: `app/main.py` `_rebalance_universe`.
Kind: L -/
theorem pending_retireTurn {ticker k : String} :
    (retireTurn target opens p ticker).session.pending.get? k =
      if k = ticker then (p.session.pending.get? k).map (retire target opens)
      else p.session.pending.get? k := by
  unfold retireTurn
  cases hrow : p.session.pending.get? ticker with
  | none =>
      dsimp only
      by_cases hk : k = ticker
      · subst hk
        rw [if_pos rfl, hrow]
        rfl
      · rw [if_neg hk]
  | some row =>
      dsimp only
      have hticker : row.ticker = ticker := (Table.get?_eq_some_iff.mp hrow).2
      by_cases hstays : row.inUniverse = false ∨ ticker ∈ target
      · rw [if_pos hstays]
        by_cases hk : k = ticker
        · subst hk
          rw [if_pos rfl, hrow, Option.map_some, retire, hticker, if_pos hstays]
        · rw [if_neg hk]
      · rw [if_neg hstays]
        split_ifs
        all_goals
          refine (Session.get?_pending_modify _).trans ?_
          first
            | rw [if_pos ‹_›]
            | rw [if_neg ‹_›]

/-- The symbol is in the universe, and outside the target. Source: `app/main.py`
`_rebalance_universe`. Kind: D -/
def Leaves (target : List String) (t : Table Symbol.ticker) (ticker : String) : Prop :=
  InUniverse t ticker ∧ ticker ∉ target

instance {t : Table Symbol.ticker} {ticker : String} : Decidable (Leaves target t ticker) :=
  inferInstanceAs (Decidable (_ ∧ _))

/-- A pass that has changed its session, and the lists of the second loop.
Source: none: infrastructure. Kind: L -/
theorem retireTurn_lists (target opens : List String) (p : Pass) (ticker : String) :
    ∃ session, session.stored = p.session.stored ∧ session.added = p.session.added ∧
      retireTurn target opens p ticker =
        { p with
          session
          removed := p.removed ++
            if Leaves target p.session.pending ticker ∧ ticker ∉ opens then [ticker] else []
          pendingExit := p.pendingExit ++
            if Leaves target p.session.pending ticker ∧ ticker ∈ opens then [ticker] else [] } := by
  unfold retireTurn
  cases hrow : p.session.pending.get? ticker with
  | none =>
      have hleaves : ¬ Leaves target p.session.pending ticker :=
        fun h => not_inUniverse_of_none hrow h.1
      exact ⟨p.session, rfl, rfl, by simp [hleaves]⟩
  | some row =>
      dsimp only
      by_cases hstays : row.inUniverse = false ∨ ticker ∈ target
      · have hleaves : ¬ Leaves target p.session.pending ticker := by
          rintro ⟨hin, hout⟩
          rw [inUniverse_iff hrow] at hin
          rcases hstays with hstays | hstays
          · exact absurd hin (by simp [hstays])
          · exact hout hstays
        refine ⟨p.session, rfl, rfl, ?_⟩
        rw [if_pos hstays]
        simp [hleaves]
      · have hleaves : Leaves target p.session.pending ticker := by
          rw [not_or, Bool.not_eq_false] at hstays
          exact ⟨(inUniverse_iff hrow).mpr hstays.1, hstays.2⟩
        refine ⟨p.session.modify ticker (retire target opens) ticker_retire, rfl, rfl, ?_⟩
        rw [if_neg hstays]
        by_cases hopen : ticker ∈ opens
        · simp [hleaves, hopen]
        · simp [hleaves, hopen]

/-- Changing other rows does not change who leaves. Source: none: infrastructure. Kind: L -/
theorem leaves_congr {t t' : Table Symbol.ticker} {ticker : String}
    (h : ticker ∉ target → t'.get? ticker = t.get? ticker) :
    Leaves target t' ticker ↔ Leaves target t ticker := by
  unfold Leaves InUniverse
  by_cases hticker : ticker ∈ target
  · simp only [hticker, not_true, and_false]
  · rw [h hticker]

/-- **The lists of the second loop**: the symbols that leave, without and with an open position.
Source: `app/main.py` `_rebalance_universe`. Kind: L -/
theorem retireAll_lists (opens target : List String) (p : Pass) (hnodup : l.Nodup) :
    ∃ session, session.stored = p.session.stored ∧ session.added = p.session.added ∧
      l.foldl (retireTurn target opens) p =
        { p with
          session
          removed := p.removed ++
            l.filter fun k => Leaves target p.session.pending k ∧ k ∉ opens
          pendingExit := p.pendingExit ++
            l.filter fun k => Leaves target p.session.pending k ∧ k ∈ opens } := by
  induction l generalizing p with
  | nil => exact ⟨p.session, rfl, rfl, by simp⟩
  | cons k l ih =>
      rw [List.nodup_cons] at hnodup
      obtain ⟨session, hstored, hadded, hturn⟩ := retireTurn_lists target opens p k
      obtain ⟨session', hstored', hadded', hall⟩ :=
        ih (retireTurn target opens p k) hnodup.2
      have hsame : ∀ j ∈ l, (Leaves target (retireTurn target opens p k).session.pending j ↔
          Leaves target p.session.pending j) := by
        intro j hj
        apply leaves_congr
        intro _
        rw [pending_retireTurn, if_neg]
        rintro rfl
        exact hnodup.1 hj
      refine ⟨session', hstored'.trans ?_, hadded'.trans ?_, ?_⟩
      · rw [hturn]
        exact hstored
      · rw [hturn]
        exact hadded
      · rw [List.foldl_cons, hall]
        have hfilter (q : String → Prop) [DecidablePred q] :
            (l.filter fun j => Leaves target (retireTurn target opens p k).session.pending j ∧ q j) =
              l.filter fun j => Leaves target p.session.pending j ∧ q j := by
          apply List.filter_congr
          intro j hj
          simp only [hsame j hj]
        rw [hfilter, hfilter, hturn]
        simp only [List.filter_cons, List.append_assoc]
        congr 2
        · by_cases hk : Leaves target p.session.pending k ∧ k ∉ opens
          · simp [hk]
          · simp [hk]
        · by_cases hk : Leaves target p.session.pending k ∧ k ∈ opens
          · simp [hk]
          · simp [hk]

/-- **What the second pass changes**: the rows that it goes through, each by `retire`.
Source: `app/main.py` `_rebalance_universe`. Kind: L -/
theorem pending_retireAll (opens target : List String) (p : Pass) (hnodup : l.Nodup) (k : String) :
    (l.foldl (retireTurn target opens) p).session.pending.get? k =
      if k ∈ l then (p.session.pending.get? k).map (retire target opens)
      else p.session.pending.get? k := by
  have hnodup' : (l.map id).Nodup := by
    rw [List.map_id]
    exact hnodup
  obtain ⟨hin, hout⟩ := Session.look_foldl (fun (p : Pass) k => p.session.pending.get? k)
    (retireTurn target opens) id (fun _ => retire target opens) (s := p)
    (fun ticker _ q j => pending_retireTurn) hnodup'
  by_cases hk : k ∈ l
  · rw [if_pos hk]
    exact hin k hk
  · rw [if_neg hk]
    exact hout k (by rwa [List.map_id])

end passes

/-! ## A successful run -/

section run

variable {config : ConfigManager} {w : World} {symbols symbols' : Table Symbol.ticker}
  {tickers : Option (List String)} {seeds : Except String (List SeedItem)} {out : Outcome}
  {s : Session Symbol.ticker}

/-- The tickers that the run sees. Source: `app/main.py` `_rebalance_universe`. Kind: D -/
def current (symbols : Table Symbol.ticker) : List String :=
  UniverseRepository.listedTickers symbols none 20000

/-- The first pass over the items. Source: `app/main.py` `_rebalance_universe`. Kind: D -/
def admitAll (w : World) (symbols : Table Symbol.ticker) (items : List SourceItem) : Pass :=
  items.foldl (admitTurn (openTickers w) (current symbols)) { session := Session.ofTable symbols }

/-- Both passes. Source: `app/main.py` `_rebalance_universe`. Kind: D -/
def retireAll (w : World) (symbols : Table Symbol.ticker) (items : List SourceItem) : Pass :=
  (current symbols).foldl (retireTurn (items.map SourceItem.ticker) (openTickers w))
    (admitAll w symbols items)

theorem ok_of_mapError {ε ε' α : Type} {x : Except ε α} {f : ε → ε'} {a : α}
    (h : x.mapError f = .ok a) : x = .ok a := by
  cases x with
  | error e => exact absurd h (by simp [Except.mapError])
  | ok b => exact congrArg Except.ok (Except.ok.inj h)

theorem prepare_ok (h : prepare config w symbols tickers seeds = .ok (s, out)) :
    ∃ items, sourceItems (Session.ofTable symbols) (current symbols) tickers seeds =
        .ok (out.source, items) ∧
      items ≠ [] ∧
      recomputeActiveUniverse config w (retireAll w symbols items).session =
        .ok (s, out.liquidity) ∧
      out.target = items.map SourceItem.ticker ∧
      out.added = (retireAll w symbols items).added ∧
      out.removed = (retireAll w symbols items).removed ∧
      out.pendingExit = (retireAll w symbols items).pendingExit ∧
      out.kept = (retireAll w symbols items).kept := by
  unfold prepare at h
  obtain ⟨⟨source, items⟩, hitems, h⟩ := ok_of_bind h
  dsimp only at h
  split_ifs at h with hempty
  · obtain ⟨⟨s', liquidity⟩, hliquidity, h⟩ := ok_of_bind h
    obtain ⟨rfl, rfl⟩ := Prod.mk.inj (Except.ok.inj h)
    refine ⟨items, hitems, ?_, ?_, rfl, rfl, rfl, rfl, rfl⟩
    · rintro rfl
      exact hempty rfl
    · exact ok_of_mapError hliquidity

theorem rebalance_ok (h : rebalance config w symbols tickers seeds = (symbols', .ok out)) :
    ∃ s, prepare config w symbols tickers seeds = .ok (s, out) ∧ s.commit = some symbols' := by
  unfold rebalance at h
  cases hprepare : prepare config w symbols tickers seeds with
  | error e =>
      rw [hprepare] at h
      exact absurd (Prod.mk.inj h).2 (by simp)
  | ok prepared =>
      obtain ⟨s, found⟩ := prepared
      rw [hprepare] at h
      dsimp only at h
      cases hcommit : s.commit with
      | none =>
          rw [hcommit] at h
          exact absurd (Prod.mk.inj h).2 (by simp)
      | some t =>
          rw [hcommit] at h
          obtain ⟨rfl, hout⟩ := Prod.mk.inj h
          obtain rfl := Except.ok.inj hout
          exact ⟨s, rfl, hcommit⟩

/-- The recomputation of a row, if its query has seen it: it sees the rows that are stored as in the
universe. Source: `app/main.py` `_rebalance_universe`. Kind: D -/
def recomputed (w : World) (won : PyNum) (symbols : Table Symbol.ticker) (a : Symbol) : Symbol :=
  if a.ticker ∈ UniverseRepository.listedTickers symbols (some true) 20000 then
    setActive (shouldActivate w won a) a
  else a

/-- What a successful run leaves of each row. Source: `app/main.py` `_rebalance_universe`.
Kind: D -/
structure Effect (w : World) (won : PyNum) (items : List SourceItem)
    (symbols symbols' : Table Symbol.ticker) : Prop where
  new : ∀ item ∈ items, item.ticker ∉ current symbols →
    symbols.get? item.ticker = none ∧ symbols'.get? item.ticker = some (newSymbol item)
  admitted : ∀ item ∈ items, item.ticker ∈ current symbols →
    symbols'.get? item.ticker = (symbols.get? item.ticker).map fun a =>
      recomputed w won symbols (rejoin (openTickers w) item a)
  retired : ∀ k, k ∉ items.map SourceItem.ticker → k ∈ current symbols →
    symbols'.get? k = (symbols.get? k).map fun a =>
      recomputed w won symbols (retire (items.map SourceItem.ticker) (openTickers w) a)
  other : ∀ k, k ∉ items.map SourceItem.ticker → k ∉ current symbols →
    symbols'.get? k = (symbols.get? k).map (recomputed w won symbols)

theorem nodup_current (symbols : Table Symbol.ticker) : (current symbols).Nodup :=
  UniverseRepository.nodup_listedTickers

/-- The two passes leave the stored rows, and add the symbols that are new.
Source: `app/main.py` `_rebalance_universe`. Kind: L -/
theorem session_retireAll (w : World) (symbols : Table Symbol.ticker) (items : List SourceItem) :
    (retireAll w symbols items).session.stored = symbols ∧
      (retireAll w symbols items).session.added =
        (items.filter fun x => x.ticker ∉ current symbols).map newSymbol := by
  obtain ⟨session, hstored, hadded, hall⟩ := retireAll_lists (openTickers w)
    (items.map SourceItem.ticker) (admitAll w symbols items) (nodup_current symbols)
  obtain ⟨hstored', hadded'⟩ := admitAll_session (openTickers w) (current symbols) items
    { session := Session.ofTable symbols }
  unfold retireAll
  rw [hall]
  exact ⟨hstored.trans hstored', hadded.trans (hadded'.trans (List.nil_append _))⟩

/-- **The row of a ticker** before the recomputation. Source: `app/main.py`
`_rebalance_universe`. Kind: L -/
theorem pending_retireAll_get? (w : World) (symbols : Table Symbol.ticker)
    {items : List SourceItem} (hnodup : (items.map SourceItem.ticker).Nodup) :
    (∀ item ∈ items, item.ticker ∈ current symbols →
      (retireAll w symbols items).session.pending.get? item.ticker =
        (symbols.get? item.ticker).map (rejoin (openTickers w) item)) ∧
    (∀ k, k ∉ items.map SourceItem.ticker → k ∈ current symbols →
      (retireAll w symbols items).session.pending.get? k =
        (symbols.get? k).map (retire (items.map SourceItem.ticker) (openTickers w))) ∧
    ∀ k, k ∉ items.map SourceItem.ticker → k ∉ current symbols →
      (retireAll w symbols items).session.pending.get? k = symbols.get? k := by
  obtain ⟨hin, hout⟩ := pending_admitAll (openTickers w) (current symbols)
    { session := Session.ofTable symbols } hnodup
  have hretire := pending_retireAll (openTickers w) (items.map SourceItem.ticker)
    (admitAll w symbols items) (nodup_current symbols)
  refine ⟨?_, ?_, ?_⟩
  · intro item hitem hcurrent
    unfold retireAll
    rw [hretire, if_pos hcurrent]
    unfold admitAll
    rw [hin item hitem, if_pos hcurrent, Option.map_map]
    apply Option.map_congr
    intro a ha
    -- the second pass leaves the target alone
    have hticker : a.ticker ∈ items.map SourceItem.ticker := by
      rw [(Table.get?_eq_some_iff.mp ha).2]
      exact List.mem_map_of_mem hitem
    exact if_pos (Or.inr hticker)
  · intro k hk hcurrent
    unfold retireAll
    rw [hretire, if_pos hcurrent]
    unfold admitAll
    rw [hout k hk]
    rfl
  · intro k hk hcurrent
    unfold retireAll
    rw [hretire, if_neg hcurrent]
    unfold admitAll
    rw [hout k hk]
    rfl

/-- The recomputation after passes that have changed the row of a ticker by `f`.
Source: `app/main.py` `_rebalance_universe`. Kind: L -/
theorem pending_recomputed {before s : Session Symbol.ticker}
    {liquidity : UniverseBootstrap.Liquidity}
    (h : recomputeActiveUniverse config w before = .ok (s, liquidity))
    (hstored : before.stored = symbols) {k : String} {f : Symbol → Symbol}
    (hf : ∀ a, (f a).ticker = a.ticker) (hbefore : before.pending.get? k = (symbols.get? k).map f) :
    s.pending.get? k = (symbols.get? k).map fun a =>
      recomputed w liquidity.thresholdWon symbols (f a) := by
  rw [UniverseBootstrap.pending_recompute h, hstored, hbefore, Option.map_map]
  by_cases hseen : k ∈ UniverseRepository.listedTickers symbols (some true) 20000
  · rw [if_pos hseen]
    apply Option.map_congr
    intro a ha
    have hticker : (f a).ticker = k := (hf a).trans (Table.get?_eq_some_iff.mp ha).2
    unfold recomputed
    rw [hticker, if_pos hseen]
    rfl
  · rw [if_neg hseen]
    apply Option.map_congr
    intro a ha
    have hticker : (f a).ticker = k := (hf a).trans (Table.get?_eq_some_iff.mp ha).2
    unfold recomputed
    rw [hticker, if_neg hseen]

theorem find?_eq_some_of_nodup {l : List Symbol} (hnodup : (l.map Symbol.ticker).Nodup)
    {a : Symbol} (ha : a ∈ l) : (l.find? fun b => b.ticker = a.ticker) = some a :=
  Table.get?_eq_some_iff (t := ⟨l, hnodup⟩).mpr ⟨ha, rfl⟩

/-- **What a successful run leaves** of each row. Source: `app/main.py` `_rebalance_universe`.
Kind: L -/
theorem effect_rebalance (h : rebalance config w symbols tickers seeds = (symbols', .ok out)) :
    ∃ items, sourceItems (Session.ofTable symbols) (current symbols) tickers seeds =
        .ok (out.source, items) ∧
      out.target = items.map SourceItem.ticker ∧
      Effect w out.liquidity.thresholdWon items symbols symbols' := by
  obtain ⟨s, hprepare, hcommit⟩ := rebalance_ok h
  obtain ⟨items, hitems, -, hliquidity, htarget, -⟩ := prepare_ok hprepare
  have hnodup : (items.map SourceItem.ticker).Nodup := by
    rw [map_ticker_sourceItems hitems]
    exact nodup_targetTickers
  obtain ⟨hstored, hadded⟩ := UniverseBootstrap.session_recompute hliquidity
  obtain ⟨hstored', hadded'⟩ := session_retireAll w symbols items
  obtain ⟨hadmitted, hretired, hother⟩ :=
    pending_retireAll_get? w symbols hnodup
  rw [hstored'] at hstored
  rw [hadded'] at hadded
  -- the keys of the new rows
  have hkeys : s.added.map Symbol.ticker =
      (items.map SourceItem.ticker).filter fun k => k ∉ current symbols := by
    rw [hadded, List.map_map, List.filter_map]
    rfl
  have hfind (k : String) (hk : k ∈ items.map SourceItem.ticker → k ∈ current symbols) :
      (s.added.find? fun a => a.ticker = k) = none := by
    rw [List.find?_eq_none]
    intro a ha hak
    have hmem : k ∈ s.added.map Symbol.ticker :=
      List.mem_map.mpr ⟨a, ha, by simpa using hak⟩
    rw [hkeys, List.mem_filter] at hmem
    exact absurd (hk hmem.1) (by simpa using hmem.2)
  -- an old row is what the recomputation makes of it
  have hrow (k : String) (f : Symbol → Symbol) (hf : ∀ a, (f a).ticker = a.ticker)
      (hk : k ∈ items.map SourceItem.ticker → k ∈ current symbols)
      (hpending : (retireAll w symbols items).session.pending.get? k = (symbols.get? k).map f) :
      symbols'.get? k = (symbols.get? k).map fun a =>
        recomputed w out.liquidity.thresholdWon symbols (f a) := by
    rw [Session.get?_of_commit hcommit, hfind k hk, Option.or_none]
    exact pending_recomputed hliquidity hstored' hf hpending
  refine ⟨items, hitems, htarget, ⟨?_, ?_, ?_, ?_⟩⟩
  · intro item hitem hcurrent
    have hnew : newSymbol item ∈ s.added := by
      rw [hadded]
      exact List.mem_map_of_mem (List.mem_filter.mpr ⟨hitem, by simpa using hcurrent⟩)
    have hnone : symbols.get? item.ticker = none := by
      rw [← hstored]
      exact Session.get?_stored_of_commit hcommit hnew
    refine ⟨hnone, ?_⟩
    have hpending : s.pending.get? item.ticker = none := by
      rw [← Option.not_isSome_iff_eq_none, Session.isSome_get?_pending, hstored, hnone]
      simp
    have hunique : (s.added.map Symbol.ticker).Nodup := by
      rw [hkeys]
      exact hnodup.filter _
    rw [Session.get?_of_commit hcommit, hpending, Option.none_or]
    exact find?_eq_some_of_nodup hunique hnew
  · intro item hitem hcurrent
    exact hrow item.ticker _ (fun _ => rfl) (fun _ => hcurrent) (hadmitted item hitem hcurrent)
  · intro k hk hcurrent
    exact hrow k _ ticker_retire (fun hmem => absurd hmem hk) (hretired k hk hcurrent)
  · intro k hk hcurrent
    refine hrow k id (fun _ => rfl) (fun hmem => absurd hmem hk) ?_
    rw [hother k hk hcurrent, Option.map_id]
    rfl

/-- **The lists of the result.** Source: `app/main.py` `_rebalance_universe`. Kind: L -/
theorem lists_rebalance (h : rebalance config w symbols tickers seeds = (symbols', .ok out)) :
    out.added = out.target.filter (· ∉ current symbols) ∧
      out.kept = out.target.filter (· ∈ current symbols) ∧
      out.removed = (current symbols).filter (fun k =>
        Leaves out.target symbols k ∧ k ∉ openTickers w) ∧
      out.pendingExit = (current symbols).filter fun k =>
        Leaves out.target symbols k ∧ k ∈ openTickers w := by
  obtain ⟨s, hprepare, -⟩ := rebalance_ok h
  obtain ⟨items, hitems, -, -, htarget, hadded, hremoved, hpendingExit, hkept⟩ :=
    prepare_ok hprepare
  have hnodup : (items.map SourceItem.ticker).Nodup := by
    rw [map_ticker_sourceItems hitems]
    exact nodup_targetTickers
  obtain ⟨session, -, -, hall⟩ := retireAll_lists (openTickers w)
    (items.map SourceItem.ticker) (admitAll w symbols items) (nodup_current symbols)
  obtain ⟨-, hout⟩ := pending_admitAll (openTickers w) (current symbols)
    { session := Session.ofTable symbols } hnodup
  have hfirst : admitAll w symbols items = _ := admitAll_lists
  have hleaves (k : String) : Leaves (items.map SourceItem.ticker)
      (admitAll w symbols items).session.pending k ↔
        Leaves (items.map SourceItem.ticker) symbols k :=
    leaves_congr (hout k)
  rw [htarget, hadded, hkept, hremoved, hpendingExit]
  unfold retireAll
  rw [hall]
  dsimp only
  simp only [hleaves]
  rw [hfirst]
  dsimp only
  simp only [List.nil_append, and_self]

end run

end Rebalance

end HaruTrade
