import Mathlib.Data.List.Dedup
import HaruTrade.Services.LoopRuntime

/-!
# The tickers of a cycle

What `_load_tracking_tickers` lists: the page of active symbols of the universe, and the tickers of the
open positions.

* `heldTickers`, `activeBelow` — what the positions add, and where the page is cut.
* `WithinLimit` — no active symbol that has to be listed stands behind the page.
* `load_tracking_tickers` — the list is ordered and without repetitions, and **it has every traded and
  every held ticker exactly for the tables that are `WithinLimit`**; `load_tracking_tickers_held` has
  a held ticker behind the page.
* `tracking_misses_traded` — 501 active symbols, the first one blocked: the last one is traded, and it
  is not tracked.
-/

namespace HaruTrade

open Coro OrderService

section tracking

/-- What the open positions add to the list. Source: `app/services/runtime_factory.py`
`_load_tracking_tickers`. Kind: D -/
def heldTickers (positions : List Position) : List String :=
  (positions.map fun p => PyText.strip p.ticker).filter (· ≠ "")

/-- The active symbols of the universe. Source: `app/repositories/universe.py`
`UniverseRepository.list_tracking_tickers`. Kind: D -/
def activeSymbols (w : World) : List SymbolRow :=
  w.symbols.select fun s => s.inUniverse && s.isActive

/-- How many active symbols stand before a ticker. Source: `app/repositories/universe.py`
`UniverseRepository.list_tracking_tickers`. Kind: D -/
def activeBelow (w : World) (ticker : String) : ℕ :=
  (activeSymbols w).countP fun s => s.ticker < ticker

/-- **No ticker is cut off**: a traded symbol stands on the page of active symbols, or it is held;
an open position has a ticker without spaces around it, or the ticker stands on the page.
Source: `app/services/runtime_factory.py` `_load_tracking_tickers`. Kind: D -/
structure WithinLimit (w : World) : Prop where
  traded : ∀ s ∈ w.symbols.rows, s.tradable = true →
    ((w.symbols.select SymbolRow.tradable).countP fun r => r.ticker < s.ticker) < 500 →
      activeBelow w s.ticker < 500 ∨
        s.ticker ∈ heldTickers (OrderingRepository.listOpenPositions w)
  held : ∀ p ∈ w.positions.rows, p.state ≠ .CLOSED →
    p.ticker ∈ heldTickers (OrderingRepository.listOpenPositions w) ∨
      (∃ s ∈ activeSymbols w, s.ticker = p.ticker) ∧ activeBelow w p.ticker < 500

variable {w : World} {tracking : List String} {positions : List Position} {ticker : String}

/-- **The merged list** is strictly ordered. Source: `app/services/runtime_factory.py`
`_load_tracking_tickers`. Kind: L -/
theorem pairwise_lt_mergeTickers : (mergeTickers tracking positions).Pairwise (· < ·) := by
  have hle := List.pairwise_insertionSort (· ≤ ·)
    (tracking ++ (positions.map fun p => PyText.strip p.ticker).filter (· ≠ "")).dedup
  have hnodup := (List.perm_insertionSort (· ≤ ·)
    (tracking ++ (positions.map fun p => PyText.strip p.ticker).filter (· ≠ "")).dedup
      ).nodup_iff.mpr (List.nodup_dedup _)
  exact (hle.and hnodup).imp fun h => lt_of_le_of_ne h.1 h.2

/-- Source: `app/services/runtime_factory.py` `_load_tracking_tickers`. Kind: L -/
theorem mem_mergeTickers :
    ticker ∈ mergeTickers tracking positions ↔ ticker ∈ tracking ∨ ticker ∈ heldTickers positions := by
  rw [mergeTickers, List.mem_insertionSort, List.mem_dedup, List.mem_append]
  rfl

/-- Source: `app/repositories/universe.py` `UniverseRepository.list_trading_tickers`. Kind: L -/
theorem mem_listTradingTickers : ticker ∈ UniverseRepository.listTradingTickers w ↔
    ∃ s ∈ w.symbols.rows, s.ticker = ticker ∧ s.tradable = true ∧
      ((w.symbols.select SymbolRow.tradable).countP fun r => r.ticker < ticker) < 500 := by
  rw [UniverseRepository.listTradingTickers,
    UniverseRepository.mem_orderedTickers_iff Table.nodup_select]
  constructor
  · rintro ⟨⟨s, hs, hticker⟩, hcount⟩
    obtain ⟨hs, htradable⟩ := List.mem_filter.mp hs
    exact ⟨s, hs, hticker, htradable, hcount⟩
  · rintro ⟨s, hs, hticker, htradable, hcount⟩
    exact ⟨⟨s, List.mem_filter.mpr ⟨hs, htradable⟩, hticker⟩, hcount⟩

/-- Source: `app/repositories/universe.py` `UniverseRepository.list_tracking_tickers`. Kind: L -/
theorem mem_listTrackingTickers : ticker ∈ UniverseRepository.listTrackingTickers w ↔
    (∃ s ∈ activeSymbols w, s.ticker = ticker) ∧ activeBelow w ticker < 500 :=
  UniverseRepository.mem_orderedTickers_iff Table.nodup_select

/-- A traded symbol is active. Source: `app/repositories/universe.py`
`UniverseRepository.list_trading_tickers`. Kind: L -/
theorem mem_activeSymbols {s : SymbolRow} (hs : s ∈ w.symbols.rows) (h : s.tradable = true) :
    s ∈ activeSymbols w := by
  refine List.mem_filter.mpr ⟨hs, ?_⟩
  rw [SymbolRow.tradable, Bool.and_eq_true, Bool.and_eq_true] at h
  exact h.1.1

/-- What is loaded when no query fails. Source: `app/services/runtime_factory.py`
`_load_tracking_tickers`. Kind: L -/
theorem eval_loadTrackingTickers {env : Op → World → Answer} (henv : ∀ e w, (env e w).db = none) :
    loadTrackingTickers.eval exec env w =
      (.ok (mergeTickers (UniverseRepository.listTrackingTickers w)
        (OrderingRepository.listOpenPositions w)), w) := by
  simp only [loadTrackingTickers, catchSql, orRaise, ask, bind_eq, pure_eq, perform_bind,
    eval_tryCatch, eval_call, eval_bind, exec, Answer.queried, henv, eval_ofExcept, eval_ret]

end tracking

/-- **The tickers of a cycle.** For every table of symbols and every table of positions, when no query
fails: the list is strictly ordered and has the stripped ticker of every open position; it has every
ticker of `list_trading_tickers` and the ticker of every open position if and only if no ticker is cut
off. Source: `app/services/runtime_factory.py` `_load_tracking_tickers`. Kind: P -/
theorem load_tracking_tickers (env : Op → World → Answer) (henv : ∀ e w, (env e w).db = none)
    (w : World) :
    ∃ listed, loadTrackingTickers.eval exec env w = (.ok listed, w) ∧ listed.Pairwise (· < ·) ∧
      (∀ p ∈ w.positions.rows, p.state ≠ .CLOSED → PyText.strip p.ticker ≠ "" →
        PyText.strip p.ticker ∈ listed) ∧
      (((∀ ticker ∈ UniverseRepository.listTradingTickers w, ticker ∈ listed) ∧
        ∀ p ∈ w.positions.rows, p.state ≠ .CLOSED → p.ticker ∈ listed) ↔ WithinLimit w) := by
  refine ⟨_, eval_loadTrackingTickers henv, pairwise_lt_mergeTickers, ?_, ?_, ?_⟩
  · intro p hp hopen hblank
    rw [mem_mergeTickers]
    refine Or.inr (List.mem_filter.mpr ⟨List.mem_map_of_mem ?_, by simpa using hblank⟩)
    exact List.mem_filter.mpr ⟨hp, by simpa using hopen⟩
  · rintro ⟨htraded, hheld⟩
    refine ⟨fun s hs htradable hpage => ?_, fun p hp hopen => ?_⟩
    · have hlisted := htraded s.ticker (mem_listTradingTickers.mpr ⟨s, hs, rfl, htradable, hpage⟩)
      rw [mem_mergeTickers, mem_listTrackingTickers] at hlisted
      exact hlisted.imp_left And.right
    · have hlisted := hheld p hp hopen
      rw [mem_mergeTickers, mem_listTrackingTickers] at hlisted
      exact hlisted.symm
  · intro hlimit
    refine ⟨fun ticker hticker => ?_, fun p hp hopen => ?_⟩
    · obtain ⟨s, hs, rfl, htradable, hpage⟩ := mem_listTradingTickers.mp hticker
      rw [mem_mergeTickers, mem_listTrackingTickers]
      exact (hlimit.traded s hs htradable hpage).imp_left fun hbelow =>
        ⟨⟨s, mem_activeSymbols hs htradable, rfl⟩, hbelow⟩
    · rw [mem_mergeTickers, mem_listTrackingTickers]
      exact (hlimit.held p hp hopen).symm

/-! ## A full page -/

/-- Four digits. Source: none: infrastructure. Kind: D -/
def tickerOf (n : ℕ) : String :=
  String.ofList ['0', (n / 100).digitChar, (n / 10 % 10).digitChar, (n % 10).digitChar]

theorem digitChar_lt : ∀ a < 10, ∀ b < 10, a < b → a.digitChar < b.digitChar := by decide

theorem digitChar_inj {a b : ℕ} (ha : a < 10) (hb : b < 10) (h : a.digitChar = b.digitChar) :
    a = b := by
  rcases lt_trichotomy a b with hlt | heq | hgt
  · exact absurd h (ne_of_lt (digitChar_lt a ha b hb hlt))
  · exact heq
  · exact absurd h.symm (ne_of_lt (digitChar_lt b hb a ha hgt))

theorem tickerOf_inj {a b : ℕ} (ha : a < 1000) (hb : b < 1000) (h : tickerOf a = tickerOf b) :
    a = b := by
  rw [tickerOf, tickerOf, String.ofList_inj, List.cons_inj_right, List.cons.injEq, List.cons.injEq,
    List.cons.injEq] at h
  obtain ⟨hhundreds, htens, hunits, -⟩ := h
  have hhundreds := digitChar_inj (by omega) (by omega) hhundreds
  have htens := digitChar_inj (by omega) (by omega) htens
  have hunits := digitChar_inj (by omega) (by omega) hunits
  omega

/-- Source: none: infrastructure. Kind: L -/
theorem tickerOf_lt {a b : ℕ} (hab : a < b) (hb : b < 1000) : tickerOf a < tickerOf b := by
  rw [String.lt_iff_toList_lt, tickerOf, tickerOf, String.toList_ofList, String.toList_ofList,
    List.cons_lt_cons_self, List.cons_lt_cons_iff, List.cons_lt_cons_iff, List.cons_lt_cons_iff]
  by_cases hhundreds : a / 100 = b / 100
  · refine Or.inr ⟨congrArg Nat.digitChar hhundreds, ?_⟩
    by_cases htens : a / 10 % 10 = b / 10 % 10
    · exact Or.inr ⟨congrArg Nat.digitChar htens,
        Or.inl (digitChar_lt _ (by omega) _ (by omega) (by omega))⟩
    · exact Or.inl (digitChar_lt _ (by omega) _ (by omega) (by omega))
  · exact Or.inl (digitChar_lt _ (by omega) _ (by omega) (by omega))

/-- A symbol of the universe; the first one is blocked. Source: none: infrastructure. Kind: D -/
def listedSymbol (n : ℕ) : SymbolRow where
  ticker := tickerOf n
  isActive := true
  isBlocked := n = 0

/-- `n + 1` active symbols and no position. Source: none: infrastructure. Kind: D -/
def symbolPage (n : ℕ) (hn : n < 1000) : World where
  symbols := {
    rows := (List.range (n + 1)).map listedSymbol
    nodup := by
      rw [List.map_map]
      refine List.nodup_range.map_on fun a ha b hb h => ?_
      rw [List.mem_range] at ha hb
      exact tickerOf_inj (by omega) (by omega) h }

section page

variable {n : ℕ} {hn : n < 1000}

theorem rows_symbolPage :
    (symbolPage n hn).symbols.rows = (List.range (n + 1)).map listedSymbol := rfl

theorem activeSymbols_symbolPage :
    activeSymbols (symbolPage n hn) = (List.range (n + 1)).map listedSymbol :=
  List.filter_eq_self.mpr fun s hs => by
    obtain ⟨m, -, rfl⟩ := List.mem_map.mp hs
    rfl

theorem tickerOf_lt_iff {a b : ℕ} (ha : a < 1000) (hb : b < 1000) :
    tickerOf a < tickerOf b ↔ a < b :=
  ⟨fun h => lt_of_not_ge fun hba => by
    rcases hba.lt_or_eq with hlt | rfl
    · exact lt_asymm h (tickerOf_lt hlt ha)
    · exact lt_irrefl _ h, fun h => tickerOf_lt h hb⟩

/-- As many symbols stand before a ticker as its number says. Source: none: infrastructure. Kind: L -/
theorem activeBelow_symbolPage {m : ℕ} (hm : m ≤ n) :
    activeBelow (symbolPage n hn) (tickerOf m) = m := by
  have hsplit : n + 1 = m + (n + 1 - m) := by omega
  rw [activeBelow, activeSymbols_symbolPage, List.countP_map, hsplit, List.range_add,
    List.countP_append]
  have hbelow : (List.range m).countP ((fun s : SymbolRow => decide (s.ticker < tickerOf m)) ∘
      listedSymbol) = (List.range m).length := by
    rw [List.countP_eq_length]
    intro k hk
    exact decide_eq_true (tickerOf_lt (List.mem_range.mp hk) (by omega))
  have habove : ((List.range (n + 1 - m)).map (m + ·)).countP
      ((fun s : SymbolRow => decide (s.ticker < tickerOf m)) ∘ listedSymbol) = 0 := by
    rw [List.countP_eq_zero]
    intro k hk hlt
    obtain ⟨i, hi, rfl⟩ := List.mem_map.mp hk
    have hrange := List.mem_range.mp hi
    have hbound : m + i < m :=
      (tickerOf_lt_iff (by omega) (by omega)).mp (of_decide_eq_true hlt)
    omega
  rw [hbelow, habove, List.length_range]
  exact Nat.add_zero m

/-- The first symbol is not traded. Source: none: infrastructure. Kind: L -/
theorem tradable_symbolPage : (symbolPage n hn).symbols.select SymbolRow.tradable =
    ((List.range n).map Nat.succ).map listedSymbol := by
  have hfirst : ¬ (listedSymbol 0).tradable = true := by decide
  rw [Table.select, rows_symbolPage, List.range_succ_eq_map, List.map_cons,
    List.filter_cons_of_neg hfirst, List.filter_eq_self]
  intro s hs
  obtain ⟨_, hm, rfl⟩ := List.mem_map.mp hs
  obtain ⟨m, -, rfl⟩ := List.mem_map.mp hm
  simp [SymbolRow.tradable, listedSymbol]

/-- The last symbol is traded. Source: none: infrastructure. Kind: L -/
theorem mem_trading_symbolPage (hpos : 0 < n) (hlimit : n ≤ 500) :
    tickerOf n ∈ UniverseRepository.listTradingTickers (symbolPage n hn) := by
  have hmem : listedSymbol n ∈ (symbolPage n hn).symbols.select SymbolRow.tradable := by
    rw [tradable_symbolPage]
    exact List.mem_map_of_mem (List.mem_map.mpr
      ⟨n - 1, List.mem_range.mpr (by omega), Nat.succ_pred_eq_of_pos hpos⟩)
  obtain ⟨hrow, htradable⟩ := List.mem_filter.mp hmem
  refine mem_listTradingTickers.mpr ⟨listedSymbol n, hrow, rfl, htradable, ?_⟩
  -- the last ticker is not below itself
  have hcount :
      ((symbolPage n hn).symbols.select SymbolRow.tradable).countP (fun r => r.ticker < tickerOf n) ≠
        ((symbolPage n hn).symbols.select SymbolRow.tradable).length := by
    intro heq
    exact absurd (of_decide_eq_true (List.countP_eq_length.mp heq _ hmem)) (lt_irrefl _)
  have hlength : ((symbolPage n hn).symbols.select SymbolRow.tradable).length = n := by
    rw [tradable_symbolPage, List.length_map, List.length_map, List.length_range]
  have hle := List.countP_le_length (p := fun r : SymbolRow => r.ticker < tickerOf n)
    (l := (symbolPage n hn).symbols.select SymbolRow.tradable)
  omega

/-- A page that is full does not have the last ticker. Source: none: infrastructure. Kind: L -/
theorem notMem_mergeTickers_symbolPage (hfull : 500 ≤ n) :
    tickerOf n ∉ mergeTickers (UniverseRepository.listTrackingTickers (symbolPage n hn))
      (OrderingRepository.listOpenPositions (symbolPage n hn)) := by
  rw [mem_mergeTickers, mem_listTrackingTickers]
  rintro (⟨-, hbelow⟩ | hheld)
  · rw [activeBelow_symbolPage le_rfl] at hbelow
    exact absurd hbelow (not_lt.mpr hfull)
  · exact absurd hheld List.not_mem_nil

end page

/-- **A full page is cut before a traded symbol.** Source: `app/services/runtime_factory.py`
`_load_tracking_tickers`. Kind: C -/
theorem tracking_misses_traded : ∃ (w : World) (listed : List String) (ticker : String),
    loadTrackingTickers.eval exec (fun _ _ => {}) w = (.ok listed, w) ∧
      ticker ∈ UniverseRepository.listTradingTickers w ∧ ticker ∉ listed :=
  ⟨symbolPage 500 (by omega), _, tickerOf 500, eval_loadTrackingTickers fun _ _ => rfl,
    mem_trading_symbolPage (by omega) (le_refl 500), notMem_mergeTickers_symbolPage (le_refl 500)⟩

/-! ## A held ticker -/

/-- 501 active symbols, the first one blocked, and an open position in the last one.
Source: `tests/test_runtime_factory_phase10.py`. Kind: D -/
def heldPage : World :=
  { symbolPage 500 (by omega) with
    positions :=
      { rows := [⟨1, none, tickerOf 500, "1", .OPEN, 100, 90, 120, none, none, 10, 10, none⟩]
        nodup := List.nodup_singleton _ } }

theorem withinLimit_heldPage : WithinLimit heldPage where
  traded := by
    intro s hs _ _
    have hrows : heldPage.symbols.rows = (symbolPage 500 (by omega)).symbols.rows := rfl
    rw [hrows, rows_symbolPage] at hs
    obtain ⟨m, hm, rfl⟩ := List.mem_map.mp hs
    have hle : m ≤ 500 := Nat.lt_succ_iff.mp (List.mem_range.mp hm)
    rcases hle.lt_or_eq with hlt | rfl
    · left
      have hbelow : activeBelow heldPage (tickerOf m) = m :=
        @activeBelow_symbolPage 500 (by omega) m hle
      exact hbelow.trans_lt hlt
    · right
      decide +kernel
  held := by
    intro p hp _
    obtain rfl := List.mem_singleton.mp hp
    left
    decide +kernel

/-- **The position keeps the ticker behind the page on the list.** Source:
`app/services/runtime_factory.py` `_load_tracking_tickers`. Kind: C -/
theorem load_tracking_tickers_held :
    ∃ listed, loadTrackingTickers.eval exec (fun _ _ => {}) heldPage = (.ok listed, heldPage) ∧
      listed.Pairwise (· < ·) ∧ tickerOf 500 ∈ listed ∧
      ∀ ticker ∈ UniverseRepository.listTradingTickers heldPage, ticker ∈ listed := by
  obtain ⟨listed, hload, horder, -, hiff⟩ :=
    load_tracking_tickers (fun _ _ => {}) (fun _ _ => rfl) heldPage
  obtain ⟨htraded, hheld⟩ := hiff.mpr withinLimit_heldPage
  have hticker : tickerOf 500 ∈ UniverseRepository.listTradingTickers heldPage :=
    @mem_trading_symbolPage 500 (by omega) (by omega) (le_refl 500)
  exact ⟨listed, hload, horder, htraded _ hticker, htraded⟩

end HaruTrade
