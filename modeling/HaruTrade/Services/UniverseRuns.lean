import HaruTrade.Data.History
import HaruTrade.Data.Machine
import HaruTrade.Services.KrxSeed

/-!
# The universe over its whole life

What is done to the symbol table, in any order and as often as it likes: starts of the service, which
migrate the source labels and fill an empty table, upserts and blocks over the API, rebalancings, and
recomputations of the active symbols.

* `machine` — the table over these calls.
* `Evolves` — what a call can do to a row; `evolves_step` for every call.
* `labelled_start` — a start leaves no label that is not one of the sources.
* `universe_runs` — **what holds over every run.**
-/

namespace HaruTrade

namespace UniverseRuns

open KrxSeed (BootstrapStatus bootstrap seedSymbols)
open Rebalance (SeedItem SourceItem Outcome RebalanceError rebalance)
open UniverseBootstrap (Liquidity recomputeActiveUniverse)

/-! ## The calls -/

/-- The label that a row is given. Source: `app/services/universe_bootstrap.py`
`migrate_universe_source_labels`. Kind: D -/
def label (market : String) : String := (normalizeUniverseSource (some market)).getD "USER"

/-- Source: `app/services/universe_bootstrap.py` `migrate_universe_source_labels`. Kind: D -/
def relabel (a : Symbol) : Symbol := { a with market := label a.market }

theorem ticker_relabel (a : Symbol) : (relabel a).ticker = a.ticker := by rw [relabel]

theorem isBlocked_relabel (a : Symbol) : (relabel a).isBlocked = a.isBlocked := by rw [relabel]

theorem market_relabel (a : Symbol) : (relabel a).market = label a.market := by rw [relabel]

/-- One turn of the loop. Source: `app/services/universe_bootstrap.py`
`migrate_universe_source_labels`. Kind: D -/
def migrateTurn (p : Session Symbol.ticker × ℕ) (row : Symbol) : Session Symbol.ticker × ℕ :=
  (p.1.modify row.ticker relabel ticker_relabel, p.2 + if row.market = label row.market then 0 else 1)

/-- The table after a migration, and how many rows it has changed; `stores` says whether the database
takes the changes. Source: `app/services/universe_bootstrap.py` `migrate_universe_source_labels`.
Kind: D -/
def migrate (t : Table Symbol.ticker) (stores : Bool) : Table Symbol.ticker × Option ℕ :=
  let rows := UniverseRepository.listSymbols (Session.ofTable t) none 20000
  let (s, updated) := rows.foldl migrateTurn (Session.ofTable t, 0)
  if 0 < updated then
    match if stores then s.commit else none with
    | none => (t, none)
    | some t' => (t', some updated)
  else (t, some updated)

/-- Source: `app/main.py` `upsert_universe_symbol`, `app/repositories/universe.py`
`UniverseRepository.upsert_symbol`. Kind: D -/
def upsertSymbol (t : Table Symbol.ticker) (a : Symbol) : Option (Table Symbol.ticker) :=
  (normalizeUniverseSource (some a.market)).map fun market =>
    t.upsert { a with market } (fun b => { a with ticker := b.ticker, market }) fun _ => rfl

/-- Source: `app/repositories/universe.py` `UniverseRepository.set_blocked`. Kind: D -/
def setBlocked (blocked : Bool) (a : Symbol) : Symbol := { a with isBlocked := blocked }

theorem ticker_setBlocked {blocked : Bool} (a : Symbol) : (setBlocked blocked a).ticker = a.ticker := rfl

/-- Source: `app/main.py` `block_universe_symbol`. Kind: D -/
def blockSymbol (t : Table Symbol.ticker) (ticker : String) (blocked : Bool) :
    Option (Table Symbol.ticker) :=
  (t.get? ticker).map fun _ => t.modify ticker (setBlocked blocked) ticker_setBlocked

/-- The recomputation of the active symbols, with its commit. Source: `app/main.py`
`_handle_config_changed`, `_run_post_seed_bootstrap`, `lifespan`. Kind: D -/
def recompute (config : ConfigManager) (w : World) (t : Table Symbol.ticker) :
    Option (Table Symbol.ticker) :=
  match recomputeActiveUniverse config w (Session.ofTable t) with
  | .error _ => none
  | .ok (s, _) => s.commit

/-- What is done to the table. `stores` says whether the database takes what the call writes; a start
writes twice. Source: `app/main.py` `lifespan`, `upsert_universe_symbol`, `block_universe_symbol`,
`_rebalance_universe`, `_handle_config_changed`. Kind: D -/
inductive UniverseCall
  | start (seeds : Except String (List SeedItem)) (migrates stores : Bool)
  | upsert (a : Symbol) (stores : Bool)
  | block (ticker : String) (blocked stores : Bool)
  | rebalance (config : ConfigManager) (w : World) (tickers : Option (List String))
      (seeds : Except String (List SeedItem)) (stores : Bool)
  | recompute (config : ConfigManager) (w : World) (stores : Bool)

/-- What a call answers, as far as the table depends on it. Source: `app/main.py`. Kind: D -/
inductive UniverseReply
  | started (migrated : Option ℕ) (status : BootstrapStatus)
  | upserted
  | blocked
  | rebalanced (outcome : Outcome)
  | recomputed
  | refused

/-- A call that leaves the table as it is, or commits. Source: none: infrastructure. Kind: D -/
def committed (t : Table Symbol.ticker) (stores : Bool) (reply : UniverseReply)
    (t' : Option (Table Symbol.ticker)) : Table Symbol.ticker × UniverseReply :=
  match if stores then t' else none with
  | none => (t, .refused)
  | some t' => (t', reply)

/-- **The table over the calls.** Source: `app/main.py`. Kind: D -/
def machine : Machine (Table Symbol.ticker) UniverseCall UniverseReply where
  step t call :=
    match call with
    | .start seeds migrates stores =>
      let (t, migrated) := migrate t migrates
      let (t, status) := bootstrap t seeds stores
      (t, .started migrated status)
    | .upsert a stores => committed t stores .upserted (upsertSymbol t a)
    | .block ticker value stores => committed t stores .blocked (blockSymbol t ticker value)
    | .rebalance config w tickers seeds stores =>
      match if stores then rebalance config w t tickers seeds else (t, .error .database) with
      | (t', .ok outcome) => (t', .rebalanced outcome)
      | (t', .error _) => (t', .refused)
    | .recompute config w stores => committed t stores .recomputed (recompute config w t)

/-! ## What a call can do to a row -/

/-- The block that a call sets. Source: `app/main.py` `upsert_universe_symbol`, `block_universe_symbol`.
Kind: D -/
def setsBlock (ticker : String) (e : UniverseCall × UniverseReply) : Option Bool :=
  match e with
  | (.upsert a _, .upserted) => if a.ticker = ticker then some a.isBlocked else none
  | (.block k value _, .blocked) => if k = ticker then some value else none
  | _ => none

/-- The block of a ticker, that of a row that is not there yet among them.
Source: `app/db/models/universe.py` `Symbol`. Kind: D -/
def isBlocked (t : Table Symbol.ticker) (ticker : String) : Bool :=
  ((t.get? ticker).map Symbol.isBlocked).getD false

/-- **What a call can do**: it removes no row, it writes no label but the sources', and the block of a
ticker is the one that the call sets, if it sets one. Source: `app/main.py`. Kind: D -/
structure Evolves (t t' : Table Symbol.ticker) (blocks : String → Option Bool) : Prop where
  keeps : ∀ k, (t.get? k).isSome = true → (t'.get? k).isSome = true
  label : ∀ k b, t'.get? k = some b → b.market ∈ validUniverseSources ∨
    ∃ a, t.get? k = some a ∧ b.market = a.market
  block : ∀ k, isBlocked t' k = (blocks k).getD (isBlocked t k)

section evolves

variable {t t' t'' : Table Symbol.ticker} {blocks blocks' : String → Option Bool}

theorem Evolves.refl : Evolves t t fun _ => none :=
  ⟨fun _ h => h, fun _ b h => .inr ⟨b, h, rfl⟩, fun _ => rfl⟩

/-- A change of the rows that keeps their blocks, and their labels or makes them sources'.
Source: none: infrastructure. Kind: L -/
theorem evolves_of_rows (h : ∀ k, (∃ a, t.get? k = some a ∧ ∃ b, t'.get? k = some b ∧
      b.isBlocked = a.isBlocked ∧ (b.market ∈ validUniverseSources ∨ b.market = a.market)) ∨
    t.get? k = none ∧ ∀ b, t'.get? k = some b →
      b.isBlocked = false ∧ b.market ∈ validUniverseSources) : Evolves t t' fun _ => none := by
  refine ⟨fun k hk => ?_, fun k b hb => ?_, fun k => ?_⟩
  · rcases h k with ⟨a, -, b, hb, -⟩ | ⟨hnone, -⟩
    · rw [hb]
      rfl
    · rw [hnone] at hk
      exact absurd hk Bool.false_ne_true
  · rcases h k with ⟨a, ha, b', hb', -, hlabel⟩ | ⟨-, hnew⟩
    · obtain rfl := Option.some.inj (hb.symm.trans hb')
      exact hlabel.imp_right fun heq => ⟨a, ha, heq⟩
    · exact .inl (hnew b hb).2
  · show isBlocked t' k = isBlocked t k
    unfold isBlocked
    rcases h k with ⟨a, ha, b, hb, hblock, -⟩ | ⟨hnone, hnew⟩
    · rw [ha, hb]
      exact hblock
    · rw [hnone]
      cases hb : t'.get? k with
      | none => rfl
      | some b => exact (hnew b hb).1

/-- What two calls do one after the other. Source: none: infrastructure. Kind: L -/
theorem Evolves.trans (h : Evolves t t' fun _ => none) (h' : Evolves t' t'' blocks) :
    Evolves t t'' blocks := by
  refine ⟨fun k hk => h'.keeps k (h.keeps k hk), fun k b hb => ?_, fun k => ?_⟩
  · rcases h'.label k b hb with hvalid | ⟨a, ha, heq⟩
    · exact .inl hvalid
    · rw [heq]
      exact h.label k a ha
  · rw [h'.block k, h.block k]
    rfl

end evolves

/-! ## Migrations and first runs -/

section start

variable {t t' : Table Symbol.ticker} {stores : Bool} {rows : List Symbol} {k : String} {a : Symbol}
  {items : List SeedItem} {symbols : List Symbol} {seeds : Except String (List SeedItem)}

theorem label_mem (market : String) : label market ∈ validUniverseSources := by
  unfold label
  cases h : normalizeUniverseSource (some market) with
  | none => exact List.mem_of_getLast? rfl
  | some found => exact mem_validUniverseSources h

theorem session_migrateTurns (rows : List Symbol) (p : Session Symbol.ticker × ℕ) :
    (rows.foldl migrateTurn p).1.added = p.1.added ∧
      (rows.foldl migrateTurn p).2 = p.2 + rows.countP fun a => ¬ a.market = label a.market := by
  induction rows generalizing p with
  | nil => exact ⟨rfl, rfl⟩
  | cons a rows ih =>
      obtain ⟨hadded, hcount⟩ := ih (migrateTurn p a)
      rw [List.foldl_cons, hadded, hcount, List.countP_cons]
      refine ⟨rfl, ?_⟩
      unfold migrateTurn
      by_cases hsame : a.market = label a.market
      · simp only [if_pos hsame, decide_not, decide_eq_true hsame]
        simp
      · simp only [if_neg hsame, decide_not, decide_eq_false hsame]
        simp
        omega

/-- **What the turns of a migration leave**: the rows of its query with their new labels.
Source: `app/services/universe_bootstrap.py` `migrate_universe_source_labels`. Kind: L -/
theorem pending_migrateTurns (t : Table Symbol.ticker) (k : String) :
    ((UniverseRepository.listSymbols (Session.ofTable t) none 20000).foldl migrateTurn
        (Session.ofTable t, 0)).1.pending.get? k =
      if k ∈ UniverseRepository.listedTickers t none 20000 then (t.get? k).map relabel else t.get? k := by
  obtain ⟨hin, hout⟩ := Session.look_foldl
    (fun (p : Session Symbol.ticker × ℕ) ticker => p.1.pending.get? ticker) migrateTurn Symbol.ticker
    (fun _ => relabel) (l := UniverseRepository.listSymbols (Session.ofTable t) none 20000)
    (s := (Session.ofTable t, 0))
    (fun row _ p j => Session.get?_pending_modify (f := relabel) ticker_relabel)
    Session.nodup_map_key_query
  show _ = if k ∈ (UniverseRepository.listSymbols (Session.ofTable t) none 20000).map Symbol.ticker
    then (t.get? k).map relabel else t.get? k
  split_ifs with hseen
  · obtain ⟨row, hrow, rfl⟩ := List.mem_map.mp hseen
    exact hin row hrow
  · exact hout k hseen

/-- **What a migration leaves** of a row that its query has seen, when it goes through.
Source: `app/services/universe_bootstrap.py` `migrate_universe_source_labels`. Kind: L -/
theorem get?_migrate (t : Table Symbol.ticker) (stores : Bool) (k : String) :
    (migrate t stores).1.get? k = t.get? k ∨ (migrate t stores).1.get? k = (t.get? k).map relabel := by
  obtain ⟨hadded, -⟩ := session_migrateTurns
    (UniverseRepository.listSymbols (Session.ofTable t) none 20000) (Session.ofTable t, 0)
  have hpending := pending_migrateTurns t k
  unfold migrate
  dsimp only
  generalize (UniverseRepository.listSymbols (Session.ofTable t) none 20000).foldl migrateTurn
    (Session.ofTable t, 0) = p at hadded hpending ⊢
  by_cases hsome : 0 < p.2
  · rw [if_pos hsome]
    cases hcommit : if stores then p.1.commit else none with
    | none => exact .inl rfl
    | some t' =>
        have hcommit : p.1.commit = some t' := by
          cases stores with
          | false => exact absurd hcommit.symm (Option.some_ne_none t')
          | true => exact hcommit
        have hget : t'.get? k = p.1.pending.get? k := by
          rw [Session.get?_of_commit hcommit, hadded]
          exact Option.or_none
        show t'.get? k = _ ∨ t'.get? k = _
        rw [hget, hpending]
        split_ifs
        · exact .inr rfl
        · exact .inl rfl
  · rw [if_neg hsome]
    exact .inl rfl

theorem evolves_migrate (t : Table Symbol.ticker) (stores : Bool) :
    Evolves t (migrate t stores).1 fun _ => none := by
  refine evolves_of_rows fun k => ?_
  cases ha : t.get? k with
  | none =>
      refine .inr ⟨rfl, fun b hb => ?_⟩
      rcases get?_migrate t stores k with hsame | hnew
      · rw [hsame, ha] at hb
        exact absurd hb.symm (Option.some_ne_none b)
      · rw [hnew, ha] at hb
        exact absurd hb.symm (Option.some_ne_none b)
  | some a =>
      refine .inl ⟨a, rfl, ?_⟩
      rcases get?_migrate t stores k with hsame | hnew
      · exact ⟨a, hsame.trans ha, rfl, .inr rfl⟩
      · refine ⟨relabel a, by rw [hnew, ha, Option.map_some], isBlocked_relabel a, .inl ?_⟩
        rw [market_relabel]
        exact label_mem a.market

/-- **A migration that goes through** leaves no label but the sources' on the rows that its query has seen.
Source: `app/services/universe_bootstrap.py` `migrate_universe_source_labels`. Kind: L -/
theorem market_migrate {n : ℕ} {b : Symbol} (h : (migrate t stores).2 = some n)
    (hk : k ∈ UniverseRepository.listedTickers t none 20000)
    (hb : (migrate t stores).1.get? k = some b) : b.market ∈ validUniverseSources := by
  obtain ⟨hadded, hcount⟩ := session_migrateTurns
    (UniverseRepository.listSymbols (Session.ofTable t) none 20000) (Session.ofTable t, 0)
  have hpending := pending_migrateTurns t k
  rw [if_pos hk] at hpending
  unfold migrate at h hb
  dsimp only at h hb
  generalize (UniverseRepository.listSymbols (Session.ofTable t) none 20000).foldl migrateTurn
    (Session.ofTable t, 0) = p at hadded hcount hpending h hb
  by_cases hsome : 0 < p.2
  · rw [if_pos hsome] at h hb
    cases hcommit : if stores then p.1.commit else none with
    | none =>
        rw [hcommit] at h
        exact absurd h.symm (Option.some_ne_none n)
    | some t' =>
        rw [hcommit] at hb
        have hcommit : p.1.commit = some t' := by
          cases stores with
          | false => exact absurd hcommit.symm (Option.some_ne_none t')
          | true => exact hcommit
        have hget : t'.get? k = some b := hb
        rw [Session.get?_of_commit hcommit, hadded, hpending] at hget
        obtain ⟨a, -, rfl⟩ := Option.map_eq_some_iff.mp (Option.or_none.symm.trans hget)
        rw [market_relabel]
        exact label_mem a.market
  · -- nothing was to be changed: every listed row has its label
    rw [if_neg hsome] at hb
    have hb : t.get? k = some b := hb
    rw [Nat.zero_add] at hcount
    have hzero := List.countP_eq_zero.mp (hcount.symm.trans (Nat.eq_zero_of_not_pos hsome))
    obtain ⟨row, hrow, hkey⟩ := List.mem_map.mp hk
    obtain ⟨hobject, -⟩ := Session.exists_of_mem_query hrow
    have hsame : row = b := by
      rw [hkey] at hobject
      exact Option.some.inj (hobject.symm.trans hb)
    have hlabel : row.market = label row.market := by simpa using hzero row hrow
    rw [← hsame, hlabel]
    exact label_mem row.market

/-- The symbols of a seed are labelled and free. Source: `app/services/universe_bootstrap.py`
`bootstrap_universe_on_first_run`. Kind: L -/
theorem seedSymbols_labelled (h : seedSymbols items = .ok symbols) :
    ∀ a ∈ symbols, a.isBlocked = false ∧ a.market ∈ validUniverseSources := by
  induction items generalizing symbols with
  | nil =>
      obtain rfl := Except.ok.inj h
      exact fun a ha => absurd ha List.not_mem_nil
  | cons item items ih =>
      unfold seedSymbols at h
      dsimp only at h
      split_ifs at h with hticker
      · exact ih h
      all_goals
        cases hmarket : normalizeUniverseSource (some item.market) with
        | none =>
            rw [hmarket] at h
            exact absurd h (by simp)
        | some market =>
            cases hrest : seedSymbols items with
            | error e =>
                rw [hmarket, hrest] at h
                exact absurd h (by simp [Except.map])
            | ok rest =>
                rw [hmarket, hrest] at h
                obtain rfl := Except.ok.inj h
                intro a ha
                rcases List.mem_cons.mp ha with rfl | ha
                · exact ⟨rfl, mem_validUniverseSources hmarket⟩
                · exact ih hrest a ha

/-- **What a first run does**: nothing, or it fills an empty table. Source:
`app/services/universe_bootstrap.py` `bootstrap_universe_on_first_run`. Kind: L -/
theorem bootstrap_cases (t : Table Symbol.ticker) (seeds : Except String (List SeedItem)) (stores : Bool) :
    (∃ items symbols t', seeds = .ok items ∧ seedSymbols items = .ok symbols ∧ t.rows = [] ∧
        t'.rows = symbols ∧ bootstrap t seeds stores = (t', .bootstrapped symbols.length)) ∨
      ∃ status, bootstrap t seeds stores = (t, status) ∧ ∀ n, status ≠ .bootstrapped n := by
  unfold bootstrap
  by_cases hrows : 0 < t.rows.length
  · rw [if_pos hrows]
    exact .inr ⟨_, rfl, fun n => by simp⟩
  · rw [if_neg hrows]
    have hempty : t.rows = [] := List.length_eq_zero_iff.mp (Nat.eq_zero_of_not_pos hrows)
    cases seeds with
    | error error => exact .inr ⟨_, rfl, fun n => by simp⟩
    | ok items =>
        cases items with
        | nil => exact .inr ⟨_, rfl, fun n => by simp⟩
        | cons item items =>
            dsimp only
            cases hsymbols : seedSymbols (item :: items) with
            | error market => exact .inr ⟨_, rfl, fun n => by simp⟩
            | ok symbols =>
                dsimp only
                cases hinsert : if stores then Session.insertAll t symbols else none with
                | none => exact .inr ⟨_, rfl, fun n => by simp⟩
                | some t' =>
                    have hinsert : Session.insertAll t symbols = some t' := by
                      cases stores with
                      | false => exact absurd hinsert.symm (Option.some_ne_none t')
                      | true => exact hinsert
                    have hrows' := Session.insertAll_eq_some_iff.mp hinsert
                    rw [hempty, List.nil_append] at hrows'
                    exact .inl ⟨_, symbols, t', rfl, hsymbols, hempty, hrows', rfl⟩

theorem evolves_bootstrap (t : Table Symbol.ticker) (seeds : Except String (List SeedItem))
    (stores : Bool) : Evolves t (bootstrap t seeds stores).1 fun _ => none := by
  rcases bootstrap_cases t seeds stores with
    ⟨items, symbols, t', -, hsymbols, hempty, hrows, heq⟩ | ⟨status, heq, -⟩
  · rw [heq]
    refine evolves_of_rows fun k => .inr ⟨?_, fun b hb => ?_⟩
    · refine Table.get?_eq_none_iff.mpr fun a ha => ?_
      rw [hempty] at ha
      exact absurd ha List.not_mem_nil
    · have hmem : b ∈ symbols := hrows ▸ (Table.get?_eq_some_iff.mp hb).1
      exact seedSymbols_labelled hsymbols b hmem
  · rw [heq]
    exact Evolves.refl

end start

/-! ## Upserts, blocks, rebalancings and recomputations -/

section calls

variable {t t' : Table Symbol.ticker} {a : Symbol} {k ticker : String} {blocked : Bool}
  {config : ConfigManager} {w : World} {tickers : Option (List String)}
  {seeds : Except String (List SeedItem)} {items : List SourceItem} {source : String} {out : Outcome}

theorem evolves_upsert (h : upsertSymbol t a = some t') :
    Evolves t t' fun k => if a.ticker = k then some a.isBlocked else none := by
  obtain ⟨market, hmarket, rfl⟩ := Option.map_eq_some_iff.mp h
  have hvalid := mem_validUniverseSources hmarket
  -- the row of the ticker is the one that is asked for, the others stay
  have hget (k : String) : (t.upsert { a with market }
      (fun b => { a with ticker := b.ticker, market }) fun _ => rfl).get? k =
        if k = a.ticker then some { a with ticker := k, market } else t.get? k := by
    rw [Table.get?_upsert]
    by_cases hk : k = a.ticker
    · subst hk
      rw [if_pos rfl, if_pos rfl]
      cases ha : t.get? a.ticker with
      | none => rw [Option.elim_none]
      | some b => rw [Option.elim_some, (Table.get?_eq_some_iff.mp ha).2]
    · rw [if_neg hk, if_neg hk]
  refine ⟨fun k hk => ?_, fun k b hb => ?_, fun k => ?_⟩
  · rw [hget]
    split_ifs
    · rfl
    · exact hk
  · rw [hget] at hb
    split_ifs at hb
    · rw [← Option.some.inj hb]
      exact .inl hvalid
    · exact .inr ⟨b, hb, rfl⟩
  · unfold isBlocked
    rw [hget]
    by_cases hk : k = a.ticker
    · rw [if_pos hk, if_pos hk.symm]
      rfl
    · rw [if_neg hk, if_neg (Ne.symm hk)]
      rfl

theorem evolves_block (h : blockSymbol t ticker blocked = some t') :
    Evolves t t' fun k => if ticker = k then some blocked else none := by
  obtain ⟨a, ha, rfl⟩ := Option.map_eq_some_iff.mp h
  refine ⟨fun k hk => ?_, fun k b hb => ?_, fun k => ?_⟩
  · rw [Table.get?_modify]
    split_ifs
    · rw [Option.isSome_map]
      exact hk
    · exact hk
  · rw [Table.get?_modify] at hb
    split_ifs at hb
    · obtain ⟨c, hc, rfl⟩ := Option.map_eq_some_iff.mp hb
      exact .inr ⟨c, hc, rfl⟩
    · exact .inr ⟨b, hb, rfl⟩
  · unfold isBlocked
    rw [Table.get?_modify]
    by_cases hk : k = ticker
    · subst hk
      rw [if_pos rfl, if_pos rfl, ha]
      rfl
    · rw [if_neg hk, if_neg (Ne.symm hk)]
      rfl

theorem market_labelled {l : List SeedItem} (h : Rebalance.labelled l = .ok items) :
    ∀ item ∈ items, item.market ∈ validUniverseSources := by
  have hsymbols := KrxSeed.seedSymbols_eq l
  rw [h] at hsymbols
  cases hseed : seedSymbols l with
  | error e =>
      rw [hseed] at hsymbols
      exact absurd hsymbols (by simp [Except.map, Except.mapError])
  | ok symbols =>
      rw [hseed] at hsymbols
      have hsame : items.map Rebalance.newSymbol = symbols := Except.ok.inj hsymbols
      intro item hitem
      exact (seedSymbols_labelled hseed _ (hsame ▸ List.mem_map_of_mem hitem)).2

/-- The items of a rebalancing carry the labels of the sources. Source: `app/main.py`
`_rebalance_universe`. Kind: L -/
theorem market_sourceItems {s : Session Symbol.ticker} {current : List String}
    (h : Rebalance.sourceItems s current tickers seeds = .ok (source, items)) :
    ∀ item ∈ items, item.market ∈ validUniverseSources := by
  unfold Rebalance.sourceItems at h
  split_ifs at h with hmanual
  · obtain ⟨-, rfl⟩ := Prod.mk.inj (Except.ok.inj h)
    intro item hitem
    obtain ⟨ticker, -, rfl⟩ := List.mem_map.mp hitem
    unfold Rebalance.manualItem
    split
    · exact List.mem_of_getLast? rfl
    · next row _ =>
        dsimp only
        rw [← label]
        exact label_mem row.market
  · cases seeds with
    | error e => exact absurd h (by simp)
    | ok l =>
        cases l with
        | nil => exact absurd h (by simp)
        | cons x l =>
            dsimp only at h
            cases hlabelled : Rebalance.labelled (x :: l) with
            | error e =>
                rw [hlabelled] at h
                exact absurd h (by simp [Except.map])
            | ok found =>
                rw [hlabelled] at h
                obtain ⟨-, rfl⟩ := Prod.mk.inj (Except.ok.inj h)
                intro item hitem
                obtain ⟨k, -, hfind⟩ := List.mem_filterMap.mp hitem
                exact market_labelled hlabelled item
                  (List.mem_reverse.mp (List.mem_of_find?_eq_some hfind))

theorem market_recomputed {won : PyNum} :
    (Rebalance.recomputed w won t a).market = a.market := by
  unfold Rebalance.recomputed
  split_ifs
  · rfl
  · rfl

theorem market_retire {target opens : List String} :
    (Rebalance.retire target opens a).market = a.market := by
  unfold Rebalance.retire
  split_ifs
  · rfl
  · rfl
  · rfl

theorem evolves_rebalance (h : rebalance config w t tickers seeds = (t', .ok out)) :
    Evolves t t' fun _ => none := by
  obtain ⟨items, hitems, -, heffect⟩ := Rebalance.effect_rebalance h
  have hmarket := market_sourceItems hitems
  -- a row that is changed in place
  have hplace {k : String} {f : Symbol → Symbol} (hget : t'.get? k = (t.get? k).map f)
      (hblock : ∀ a, (f a).isBlocked = a.isBlocked)
      (hlabel : ∀ a, (f a).market ∈ validUniverseSources ∨ (f a).market = a.market) :
      (∃ a, t.get? k = some a ∧ ∃ b, t'.get? k = some b ∧ b.isBlocked = a.isBlocked ∧
          (b.market ∈ validUniverseSources ∨ b.market = a.market)) ∨
        t.get? k = none ∧ ∀ b, t'.get? k = some b →
          b.isBlocked = false ∧ b.market ∈ validUniverseSources := by
    cases ha : t.get? k with
    | none =>
        refine .inr ⟨rfl, fun b hb => ?_⟩
        rw [hget, ha] at hb
        exact absurd hb.symm (Option.some_ne_none b)
    | some a =>
        refine .inl ⟨a, rfl, f a, ?_, hblock a, hlabel a⟩
        rw [hget, ha, Option.map_some]
  refine evolves_of_rows fun k => ?_
  by_cases hk : k ∈ items.map SourceItem.ticker
  · obtain ⟨item, hitem, rfl⟩ := List.mem_map.mp hk
    by_cases hcurrent : item.ticker ∈ Rebalance.current t
    · refine hplace (heffect.admitted item hitem hcurrent) (fun a => ?_) fun a => ?_
      · rw [Rebalance.isBlocked_recomputed]
        rfl
      · rw [market_recomputed]
        exact .inl (hmarket item hitem)
    · obtain ⟨hnone, hnew⟩ := heffect.new item hitem hcurrent
      refine .inr ⟨hnone, fun b hb => ?_⟩
      rw [hnew] at hb
      rw [← Option.some.inj hb]
      exact ⟨rfl, hmarket item hitem⟩
  · by_cases hcurrent : k ∈ Rebalance.current t
    · refine hplace (heffect.retired k hk hcurrent) (fun a => ?_) fun a => ?_
      · rw [Rebalance.isBlocked_recomputed, Rebalance.isBlocked_retire]
      · rw [market_recomputed, market_retire]
        exact .inr rfl
    · refine hplace (heffect.other k hk hcurrent) (fun a => ?_) fun a => ?_
      · exact Rebalance.isBlocked_recomputed
      · exact .inr market_recomputed

theorem evolves_recompute (h : recompute config w t = some t') : Evolves t t' fun _ => none := by
  unfold recompute at h
  cases hrun : recomputeActiveUniverse config w (Session.ofTable t) with
  | error e =>
      rw [hrun] at h
      exact absurd h.symm (Option.some_ne_none t')
  | ok p =>
      obtain ⟨s, liquidity⟩ := p
      rw [hrun] at h
      have hadded : s.added = [] := (UniverseBootstrap.session_recompute hrun).2
      refine evolves_of_rows fun k => ?_
      have hget : t'.get? k = s.pending.get? k := by
        rw [Session.get?_of_commit h, hadded]
        exact Option.or_none
      rw [hget, UniverseBootstrap.pending_recompute hrun k]
      show (∃ a, t.get? k = some a ∧ _) ∨ _
      cases ha : t.get? k with
      | none =>
          refine .inr ⟨rfl, fun b hb => ?_⟩
          have hnone : (Session.ofTable t).pending.get? k = none := ha
          rw [hnone, Option.map_none, ite_self] at hb
          exact absurd hb.symm (Option.some_ne_none b)
      | some a =>
          have hsome : (Session.ofTable t).pending.get? k = some a := ha
          rw [hsome, Option.map_some]
          refine .inl ⟨a, rfl, ?_⟩
          split_ifs
          · exact ⟨_, rfl, rfl, .inr rfl⟩
          · exact ⟨a, rfl, rfl, .inr rfl⟩

end calls

/-! ## Every call, and every run -/

section runs

variable {t t' : Table Symbol.ticker} {stores : Bool} {reply : UniverseReply}
  {blocks : String → Option Bool} {seeds : Except String (List SeedItem)}

/-- A call that commits or does nothing does what its commit does. Source: none: infrastructure. Kind: L -/
theorem committed_cases (t : Table Symbol.ticker) (stores : Bool) (reply : UniverseReply)
    (new : Option (Table Symbol.ticker)) :
    (∃ t', new = some t' ∧ committed t stores reply new = (t', reply)) ∨
      committed t stores reply new = (t, .refused) := by
  unfold committed
  cases stores with
  | false => exact .inr rfl
  | true =>
      cases new with
      | none => exact .inr rfl
      | some t' => exact .inl ⟨t', rfl, rfl⟩

/-- **Every call evolves the table.** Source: `app/main.py`. Kind: L -/
theorem evolves_step (t : Table Symbol.ticker) (call : UniverseCall) :
    Evolves t (machine.step t call).1 fun k => setsBlock k (call, (machine.step t call).2) := by
  cases call with
  | start seeds migrates stores =>
      exact (evolves_migrate t migrates).trans (evolves_bootstrap (migrate t migrates).1 seeds stores)
  | upsert a stores =>
      show Evolves t (committed t stores .upserted (upsertSymbol t a)).1 fun k =>
        setsBlock k (.upsert a stores, (committed t stores .upserted (upsertSymbol t a)).2)
      rcases committed_cases t stores .upserted (upsertSymbol t a) with ⟨t', hnew, heq⟩ | heq
      · rw [heq]
        exact evolves_upsert hnew
      · rw [heq]
        exact Evolves.refl
  | block ticker value stores =>
      show Evolves t (committed t stores .blocked (blockSymbol t ticker value)).1 fun k =>
        setsBlock k (.block ticker value stores, (committed t stores .blocked (blockSymbol t ticker value)).2)
      rcases committed_cases t stores .blocked (blockSymbol t ticker value) with ⟨t', hnew, heq⟩ | heq
      · rw [heq]
        exact evolves_block hnew
      · rw [heq]
        exact Evolves.refl
  | rebalance config w tickers seeds stores =>
      cases stores with
      | false => exact Evolves.refl
      | true =>
          cases hrun : rebalance config w t tickers seeds with
          | mk t' answer =>
              have hstep : machine.step t (.rebalance config w tickers seeds true) =
                  match (t', answer) with
                  | (t', .ok outcome) => (t', .rebalanced outcome)
                  | (t', .error _) => (t', .refused) := by
                rw [← hrun]
                rfl
              cases answer with
              | ok outcome =>
                  rw [hstep]
                  exact evolves_rebalance hrun
              | error e =>
                  rw [hstep]
                  have hsame : t' = t := by
                    unfold rebalance at hrun
                    split at hrun
                    · exact (Prod.mk.inj hrun).1.symm
                    · split at hrun
                      · exact (Prod.mk.inj hrun).1.symm
                      · exact absurd (Prod.mk.inj hrun).2 (by simp)
                  rw [hsame]
                  exact Evolves.refl
  | recompute config w stores =>
      show Evolves t (committed t stores .recomputed (recompute config w t)).1 fun k =>
        setsBlock k (.recompute config w stores, (committed t stores .recomputed (recompute config w t)).2)
      rcases committed_cases t stores .recomputed (recompute config w t) with ⟨t', hnew, heq⟩ | heq
      · rw [heq]
        exact evolves_recompute hnew
      · rw [heq]
        exact Evolves.refl

/-- Every row has the label of a source. Source: `app/services/universe_bootstrap.py`
`_VALID_UNIVERSE_SOURCES`. Kind: D -/
def Labelled (t : Table Symbol.ticker) : Prop :=
  ∀ k a, t.get? k = some a → a.market ∈ validUniverseSources

theorem Evolves.labelled (h : Evolves t t' blocks) (ht : Labelled t) : Labelled t' := by
  intro k b hb
  rcases h.label k b hb with hvalid | ⟨a, ha, heq⟩
  · exact hvalid
  · rw [heq]
    exact ht k a ha

theorem rows_ne_nil_iff : t.rows ≠ [] ↔ ∃ k, (t.get? k).isSome = true := by
  constructor
  · intro hne
    obtain ⟨a, rest, hrows⟩ := List.exists_cons_of_ne_nil hne
    exact ⟨a.ticker, by rw [Table.mem_iff_get?.mp (hrows ▸ List.mem_cons_self)]; rfl⟩
  · rintro ⟨k, hk⟩ hnil
    obtain ⟨a, ha⟩ := Option.isSome_iff_exists.mp hk
    exact absurd (hnil ▸ (Table.get?_eq_some_iff.mp ha).1) List.not_mem_nil

theorem Evolves.rows_ne_nil (h : Evolves t t' blocks) (ht : t.rows ≠ []) : t'.rows ≠ [] := by
  obtain ⟨k, hk⟩ := rows_ne_nil_iff.mp ht
  exact rows_ne_nil_iff.mpr ⟨k, h.keeps k hk⟩

/-- A start has filled the table. Source: `app/services/universe_bootstrap.py`
`bootstrap_universe_on_first_run`. Kind: D -/
def fills (e : UniverseCall × UniverseReply) : Bool :=
  match e.2 with
  | .started _ (.bootstrapped n) => 0 < n
  | _ => false

/-- **A start that fills the table** found it empty, and leaves exactly the symbols of the seed.
Source: `app/services/universe_bootstrap.py` `bootstrap_universe_on_first_run`. Kind: L -/
theorem step_bootstrapped {migrates : Bool} {migrated : Option ℕ} {n : ℕ}
    (h : (machine.step t (.start seeds migrates stores)).2 = .started migrated (.bootstrapped n)) :
    ∃ items symbols, seeds = .ok items ∧ seedSymbols items = .ok symbols ∧ t.rows = [] ∧
      (machine.step t (.start seeds migrates stores)).1.rows = symbols ∧ n = symbols.length := by
  have hreply : UniverseReply.started (migrate t migrates).2
      (bootstrap (migrate t migrates).1 seeds stores).2 = .started migrated (.bootstrapped n) := h
  show ∃ items symbols, _ ∧ _ ∧ _ ∧ (bootstrap (migrate t migrates).1 seeds stores).1.rows = symbols ∧ _
  rcases bootstrap_cases (migrate t migrates).1 seeds stores with
    ⟨items, symbols, t', hseeds, hsymbols, hempty, hrows, heq⟩ | ⟨status, heq, hstatus⟩
  · rw [heq] at hreply ⊢
    injection hreply with _ hstatus
    injection hstatus with hn
    refine ⟨items, symbols, hseeds, hsymbols, ?_, hrows, hn.symm⟩
    by_contra hne
    exact (evolves_migrate t migrates).rows_ne_nil hne hempty
  · rw [heq] at hreply
    injection hreply with _ hbootstrapped
    exact absurd hbootstrapped (hstatus n)

theorem committed_ne_started {new : Option (Table Symbol.ticker)} {migrated : Option ℕ}
    {status : BootstrapStatus} (hreply : reply ≠ .started migrated status) :
    (committed t stores reply new).2 ≠ .started migrated status := by
  rcases committed_cases t stores reply new with ⟨t', -, heq⟩ | heq
  · rw [heq]
    exact hreply
  · rw [heq]
    exact fun h => UniverseReply.noConfusion h

/-- A start is answered to starts only. Source: `app/main.py` `lifespan`. Kind: L -/
theorem exists_start_of_started {call : UniverseCall} {migrated : Option ℕ} {status : BootstrapStatus}
    (h : (machine.step t call).2 = .started migrated status) :
    ∃ seeds migrates stores, call = .start seeds migrates stores := by
  cases call with
  | start seeds migrates stores => exact ⟨seeds, migrates, stores, rfl⟩
  | upsert a stores => exact absurd h (committed_ne_started fun h => UniverseReply.noConfusion h)
  | block ticker value stores => exact absurd h (committed_ne_started fun h => UniverseReply.noConfusion h)
  | recompute config w stores => exact absurd h (committed_ne_started fun h => UniverseReply.noConfusion h)
  | rebalance config w tickers seeds stores =>
      have hanswer : (machine.step t (.rebalance config w tickers seeds stores)).2 =
          match (if stores then rebalance config w t tickers seeds else (t, .error .database)).2 with
          | .ok outcome => .rebalanced outcome
          | .error _ => .refused := by
        show (match if stores then rebalance config w t tickers seeds else (t, .error .database) with
          | (t', .ok outcome) => (t', UniverseReply.rebalanced outcome)
          | (t', .error _) => (t', .refused)).2 = _
        generalize (if stores then rebalance config w t tickers seeds else (t, .error .database)) = p
        obtain ⟨t', answer⟩ := p
        cases answer with
        | ok outcome => rfl
        | error e => rfl
      rw [hanswer] at h
      split at h
      · exact UniverseReply.noConfusion h
      · exact UniverseReply.noConfusion h

/-- A start fills an empty table only, and leaves it filled. Source:
`app/services/universe_bootstrap.py` `bootstrap_universe_on_first_run`. Kind: L -/
theorem rows_of_fills {call : UniverseCall} (h : fills (call, (machine.step t call).2) = true) :
    t.rows = [] ∧ (machine.step t call).1.rows ≠ [] := by
  unfold fills at h
  split at h
  · next migrated n hreply =>
      obtain ⟨seeds, migrates, stores, rfl⟩ := exists_start_of_started hreply
      obtain ⟨items, symbols, -, -, hempty, hrows, hn⟩ := step_bootstrapped hreply
      refine ⟨hempty, fun hnil => ?_⟩
      rw [hrows] at hnil
      rw [hn, hnil] at h
      exact absurd h (by simp)
  · exact absurd h Bool.false_ne_true

/-- A migration whose changes the database takes goes through.
Source: `app/services/universe_bootstrap.py` `migrate_universe_source_labels`. Kind: L -/
theorem exists_migrated (t : Table Symbol.ticker) : ∃ n, (migrate t true).2 = some n := by
  obtain ⟨hadded, -⟩ := session_migrateTurns
    (UniverseRepository.listSymbols (Session.ofTable t) none 20000) (Session.ofTable t, 0)
  unfold migrate
  dsimp only
  generalize (UniverseRepository.listSymbols (Session.ofTable t) none 20000).foldl migrateTurn
    (Session.ofTable t, 0) = p at hadded ⊢
  by_cases hsome : 0 < p.2
  · have hcommit : p.1.commit = some p.1.pending := by
      refine Session.commit_eq_some_iff.mpr ?_
      rw [hadded]
      exact (List.append_nil _).symm
    rw [if_pos hsome, if_pos rfl, hcommit]
    exact ⟨p.2, rfl⟩
  · rw [if_neg hsome]
    exact ⟨p.2, rfl⟩

/-- **A start leaves no label but the sources'** on a table that its query sees whole.
Source: `app/main.py` `lifespan`. Kind: L -/
theorem labelled_start (hsize : t.rows.length ≤ 20000) (seeds : Except String (List SeedItem))
    (stores : Bool) : Labelled (machine.step t (.start seeds true stores)).1 := by
  refine (evolves_bootstrap (migrate t true).1 seeds stores).labelled fun k b hb => ?_
  obtain ⟨n, hn⟩ := exists_migrated t
  refine market_migrate hn (UniverseRepository.mem_listedTickers hsize |>.mpr ?_) hb
  rcases get?_migrate t true k with hsame | hnew
  · exact ⟨b, hsame.symm.trans hb, rfl⟩
  · obtain ⟨a, ha, -⟩ := Option.map_eq_some_iff.mp (hnew.symm.trans hb)
    exact ⟨a, ha, rfl⟩

/-! ## Runs -/

/-- **A run evolves the table** as its calls do one after the other: a block is the last one set.
Source: `app/main.py`. Kind: L -/
theorem evolves_after (t : Table Symbol.ticker) (calls : List UniverseCall) :
    Evolves t (machine.after t calls) fun k => lastOf (setsBlock k) (machine.log t calls) := by
  refine Machine.invariant (I := fun log s => Evolves t s fun k => lastOf (setsBlock k) log)
    (C := fun _ _ _ => True) Evolves.refl (fun log s call _ h => ?_) fun _ _ _ _ => trivial
  have hstep := evolves_step s call
  refine ⟨fun k hk => hstep.keeps k (h.keeps k hk), fun k b hb => ?_, fun k => ?_⟩
  · rcases hstep.label k b hb with hvalid | ⟨a, ha, heq⟩
    · exact .inl hvalid
    · rw [heq]
      exact h.label k a ha
  · rw [hstep.block k, h.block k, lastOf_append_singleton]
    cases setsBlock k (call, (machine.step s call).2) with
    | none => rfl
    | some value => rfl

/-- **The table is filled once at most**, and never when it has rows.
Source: `app/services/universe_bootstrap.py` `bootstrap_universe_on_first_run`. Kind: L -/
theorem countP_fills (t : Table Symbol.ticker) (calls : List UniverseCall) :
    (machine.log t calls).countP fills ≤ if t.rows = [] then 1 else 0 := by
  -- not filled yet, or filled and never empty again
  have run : (machine.log t calls).countP fills = 0 ∧
        (t.rows ≠ [] → (machine.after t calls).rows ≠ []) ∨
      (machine.log t calls).countP fills = 1 ∧ t.rows = [] ∧ (machine.after t calls).rows ≠ [] := by
    refine Machine.invariant
      (I := fun log (s : Table Symbol.ticker) =>
        log.countP fills = 0 ∧ (t.rows ≠ [] → s.rows ≠ []) ∨
        log.countP fills = 1 ∧ t.rows = [] ∧ s.rows ≠ [])
      (C := fun _ _ _ => True) (.inl ⟨rfl, id⟩) (fun log s call _ h => ?_) fun _ _ _ _ => trivial
    have hstep := evolves_step s call
    by_cases hfills : fills (call, (machine.step s call).2) = true
    · obtain ⟨hempty, hne⟩ := rows_of_fills hfills
      rw [List.countP_append, List.countP_singleton, if_pos hfills]
      rcases h with ⟨hcount, hkeep⟩ | ⟨-, -, hfilled⟩
      · refine .inr ⟨by rw [hcount], ?_, hne⟩
        by_contra hrows
        exact hkeep hrows hempty
      · exact absurd hempty hfilled
    · rw [List.countP_append, List.countP_singleton, if_neg hfills, Nat.add_zero]
      rcases h with ⟨hcount, hkeep⟩ | ⟨hcount, hrows, hfilled⟩
      · exact .inl ⟨hcount, fun hrows => hstep.rows_ne_nil (hkeep hrows)⟩
      · exact .inr ⟨hcount, hrows, hstep.rows_ne_nil hfilled⟩
  rcases run with ⟨hcount, -⟩ | ⟨hcount, hrows, -⟩
  · rw [hcount]
    exact Nat.zero_le _
  · rw [hcount, if_pos hrows]

/-- **The universe over its whole life.** Whatever is done to the table, in any order: a ticker that is
there stays; labels of the sources stay labels of the sources, and after a start that migrates they are
nothing else; a ticker's block is the last one that was set over the API, through rebalancings and
restarts; the table is filled once at most and never when it has rows, and then with exactly the symbols
of the seed. Source: `app/main.py` `lifespan`. Kind: P -/
theorem universe_runs (t : Table Symbol.ticker) (calls : List UniverseCall) :
    (∀ k, (t.get? k).isSome = true → ((machine.after t calls).get? k).isSome = true) ∧
    (Labelled t → Labelled (machine.after t calls)) ∧
    (∀ pre seeds stores post, calls = pre ++ .start seeds true stores :: post →
      (machine.after t pre).rows.length ≤ 20000 → Labelled (machine.after t calls)) ∧
    (∀ k, isBlocked (machine.after t calls) k =
      (lastOf (setsBlock k) (machine.log t calls)).getD (isBlocked t k)) ∧
    (machine.log t calls).countP fills ≤ (if t.rows = [] then 1 else 0) ∧
    AtEvery (fun pre e => ∀ seeds migrates stores migrated n,
      e = (.start seeds migrates stores, .started migrated (.bootstrapped n)) →
        ∃ items symbols, seeds = .ok items ∧ seedSymbols items = .ok symbols ∧ n = symbols.length ∧
          (machine.after t (pre.map Prod.fst)).rows = [] ∧
          (machine.after t (pre.map Prod.fst ++ [e.1])).rows = symbols) (machine.log t calls) := by
  have hevolves := evolves_after t calls
  refine ⟨hevolves.keeps, hevolves.labelled, ?_, hevolves.block, countP_fills t calls, ?_⟩
  · rintro pre seeds stores post rfl hsize
    rw [Machine.after_append]
    exact (evolves_after _ post).labelled (labelled_start hsize seeds stores)
  · rintro pre e post hlog seeds migrates stores migrated n rfl
    obtain ⟨js, ks, -, rfl, hreply⟩ := Machine.log_eq_append_cons hlog
    rw [Machine.map_fst_log, Machine.after_append]
    obtain ⟨items, symbols, hseeds, hsymbols, hempty, hrows, hn⟩ := step_bootstrapped hreply.symm
    exact ⟨items, symbols, hseeds, hsymbols, hn, hempty, hrows⟩

end runs

end UniverseRuns

end HaruTrade
