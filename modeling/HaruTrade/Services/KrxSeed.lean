import HaruTrade.Data.Calendar
import HaruTrade.Data.LastByKey
import HaruTrade.Integrations.Token
import HaruTrade.Services.UniverseMembership

/-!
# The seed of the universe

The first universe is read off the exchange: the constituents of the two indices, each with a form that
needs a one-time password. `fetchSeed` accepts what it reads only when it is complete.

* `constituents` — the items of a reply, the last one of every ticker, in order.
* `fetchSeed` — the whole exchange; `fetchSeed_ok_iff` says when it is accepted.
* `bootstrap` — the first run writes an accepted seed into an empty table.
* `krx_seed` — **what an accepted seed is**, and what a first run and a rebalancing make of it.
* `krx_seed_fullExchange` — an exchange that lists 350 shares is accepted.
-/

namespace HaruTrade

namespace KrxSeed

open Rebalance (SeedItem SourceItem labelled newSymbol targetTickers)

/-! ## Replies -/

/-- What is raised while the exchange is read: the errors that are named, a `ValueError` among them, and
any other. Source: `app/services/universe_bootstrap.py` `fetch_prd_initial_universe_seed`. Kind: D -/
inductive FetchError
  | networkOrParse (exc : String)
  | other (exc : String)
  deriving DecidableEq, Repr

/-- The answers to one form: the page that is opened first, the one-time password and the reply, which is
decoded or is no JSON. Source: `app/services/universe_bootstrap.py` `_krx_fetch_index_constituents`.
Kind: D -/
structure Exchange where
  page : Except FetchError Unit
  otp : Except FetchError String
  body : Except FetchError (Except String JsonValue)

/-- `str` of a decoded value, and `str.upper`, which brings no space to the ends of a text.
Source: none: infrastructure. Kind: D -/
structure KrxText where
  str : JsonValue → String
  upper : String → String
  strip_upper : ∀ s, PyText.strip (upper (PyText.strip s)) = upper (PyText.strip s)

/-- The texts of replies that have texts and whole numbers only, and upper case as far as it is ASCII.
Source: none: infrastructure. Kind: D -/
def asciiText : KrxText where
  str
    | .str s => s
    | .int n => toString n
    | _ => ""
  upper := PyText.upper
  strip_upper := PyText.strip_upper

/-- Source: `app/services/universe_bootstrap.py` `_krx_generate_otp`. Kind: D -/
def generateOtp (x : Exchange) (bld : String) : Except FetchError String := do
  let otp ← x.otp
  let otp := PyText.strip otp
  if otp = "" then .error (.networkOrParse s!"krx_otp_empty:{bld}") else .ok otp

/-- Source: `app/services/universe_bootstrap.py` `_krx_post_json_with_otp`. Kind: D -/
def postJsonWithOtp (x : Exchange) : Except FetchError JsonDict := do
  let parsed ← x.body
  match parsed with
  | .error exc => .error (.networkOrParse s!"krx_json_decode_error:{exc}")
  | .ok (.dict fields) => .ok fields
  | .ok _ => .error (.networkOrParse "krx_json_not_object")

/-- The rows under the first key that holds a list. Source: `app/services/universe_bootstrap.py`
`_krx_json_rows`. Kind: D -/
def krxJsonRows (payload : JsonDict) : List JsonDict :=
  (JsonDict.listOf payload ["block1", "output", "DS1", "result"]).getD []

/-- `row.get(key) or row.get(key') or ...`. Source: `app/services/universe_bootstrap.py`
`_krx_fetch_index_constituents`. Kind: D -/
def firstTruthy (row : JsonDict) (keys : List String) : Option JsonValue :=
  keys.findSome? fun key => (row.lookup key).filter JsonValue.truthy

variable (r : KrxText)

/-- The date of a row, when it is one. Source: `app/services/universe_bootstrap.py`
`_krx_latest_trading_date`. Kind: D -/
def rowDate (row : JsonDict) : Option String :=
  let rawDate := PyText.strip (((row.lookup "max_work_dt").map r.str).getD "")
  if rawDate.length = 8 ∧ PyText.isDigit rawDate = true then some rawDate else none

/-- Source: `app/services/universe_bootstrap.py` `_krx_latest_trading_date`. Kind: D -/
def latestTradingDate (x : Exchange) : Except FetchError String := do
  let _ ← generateOtp x "/COM/market_date_t"
  let payload ← postJsonWithOtp x
  match (krxJsonRows payload).findSome? (rowDate r) with
  | some rawDate => .ok rawDate
  | none => .error (.networkOrParse "krx_market_date_missing")

/-- The item of a row that has a ticker. Source: `app/services/universe_bootstrap.py`
`_krx_fetch_index_constituents`. Kind: D -/
def constituent (market : String) (row : JsonDict) : Option SeedItem :=
  let ticker := r.upper (PyText.strip (((firstTruthy row ["isu_cd", "ISU_CD"]).map r.str).getD ""))
  if ticker = "" then none
  else
    let name := PyText.strip
      (((firstTruthy row ["isu_nm", "ISU_NM", "isu_abbrv", "ISU_ABBRV"]).map r.str).getD ticker)
    some ⟨ticker, market, if name = "" then ticker else name⟩

/-- The items of a reply: the last one of every ticker, in the order of the tickers.
Source: `app/services/universe_bootstrap.py` `_krx_fetch_index_constituents`. Kind: D -/
def constituents (market : String) (payload : JsonDict) : List SeedItem :=
  lastByKey SeedItem.ticker ((krxJsonRows payload).filterMap (constituent r market))

/-- Source: `app/services/universe_bootstrap.py` `_krx_fetch_index_constituents`. Kind: D -/
def fetchIndexConstituents (market : String) (x : Exchange) : Except FetchError (List SeedItem) := do
  let _ ← x.page
  let _ ← generateOtp x "/IDX/03/0304/03040101/mkd03040101T3_01"
  let payload ← postJsonWithOtp x
  .ok (constituents r market payload)

/-! ## The seed -/

/-- All that the exchange answers. Source: `app/services/universe_bootstrap.py`
`fetch_prd_initial_universe_seed`. Kind: D -/
structure Exchanges where
  home : Except FetchError Unit
  date : Exchange
  kospi200 : Exchange
  kosdaq150 : Exchange

/-- Source: `app/services/universe_bootstrap.py` `fetch_prd_initial_universe_seed`. Kind: D -/
structure Seed where
  items : List SeedItem
  tradeDate : String
  kospi200Count : ℕ
  kosdaq150Count : ℕ
  unionCount : ℕ
  deriving DecidableEq, Repr

/-- Everything that is read. Source: `app/services/universe_bootstrap.py`
`fetch_prd_initial_universe_seed`. Kind: D -/
def readAll (x : Exchanges) : Except FetchError (String × List SeedItem × List SeedItem) := do
  let _ ← x.home
  let tradeDate ← latestTradingDate r x.date
  let kospi200Items ← fetchIndexConstituents r "KOSPI200" x.kospi200
  let kosdaq150Items ← fetchIndexConstituents r "KOSDAQ150" x.kosdaq150
  .ok (tradeDate, kospi200Items, kosdaq150Items)

/-- Both indices, the last item of every ticker. Source: `app/services/universe_bootstrap.py`
`fetch_prd_initial_universe_seed`. Kind: D -/
def union (kospi200Items kosdaq150Items : List SeedItem) : List SeedItem :=
  lastByKey (fun item => PyText.strip item.ticker)
    ((kospi200Items ++ kosdaq150Items).filter fun item => PyText.strip item.ticker ≠ "")

/-- **The seed of the universe**, or the error that is answered.
Source: `app/services/universe_bootstrap.py` `fetch_prd_initial_universe_seed`. Kind: D -/
def fetchSeed (x : Exchanges) : Except String Seed :=
  match readAll r x with
  | .error (.networkOrParse exc) => .error s!"seed_fetch_network_or_parse_error:{exc}"
  | .error (.other exc) => .error s!"seed_fetch_exception:{exc}"
  | .ok (tradeDate, kospi200Items, kosdaq150Items) =>
    if kospi200Items.length ≠ 200 then
      .error s!"constituent_count_mismatch:kospi200={kospi200Items.length}"
    else if kosdaq150Items.length ≠ 150 then
      .error s!"constituent_count_mismatch:kosdaq150={kosdaq150Items.length}"
    else
      let items := union kospi200Items kosdaq150Items
      if items.length ≠ 350 then .error s!"constituent_union_count_mismatch:{items.length}"
      else .ok ⟨items, tradeDate, kospi200Items.length, kosdaq150Items.length, items.length⟩

/-! ## The first run -/

/-- What a first run answers. Source: `app/services/universe_bootstrap.py`
`bootstrap_universe_on_first_run`. Kind: D -/
inductive BootstrapStatus
  | alreadyInitialized (count : ℕ)
  | seedFetchFailed (error : String)
  | seedFetchEmpty
  | invalidMarket (market : String)
  | bootstrapped (seededCount : ℕ)
  | dbError
  deriving DecidableEq, Repr

/-- `message`; `exc` is the text of a database error. Source: `app/services/universe_bootstrap.py`
`bootstrap_universe_on_first_run`. Kind: D -/
def BootstrapStatus.message (exc : String) : BootstrapStatus → String
  | .alreadyInitialized count => s!"already_initialized:{count}"
  | .seedFetchFailed error => s!"seed_fetch_failed:{error}"
  | .seedFetchEmpty => "seed_fetch_empty"
  | .invalidMarket market => s!"bootstrap_error:invalid_market:{market}"
  | .bootstrapped seededCount => s!"bootstrapped:{seededCount}"
  | .dbError => s!"bootstrap_db_error:{exc}"

/-- The rows that are added, or the label that none of the sources has.
Source: `app/services/universe_bootstrap.py` `bootstrap_universe_on_first_run`. Kind: D -/
def seedSymbols : List SeedItem → Except String (List Symbol)
  | [] => .ok []
  | item :: rest =>
    let ticker := PyText.strip item.ticker
    if ticker = "" then seedSymbols rest
    else
      match normalizeUniverseSource (some item.market) with
      | none => .error item.market
      | some market =>
        let name := PyText.strip item.name
        (seedSymbols rest).map fun symbols =>
          { ticker, name := if name = "" then ticker else name, market, inUniverse := true
            isActive := false, isBlocked := false, status := .NORMAL } :: symbols

/-- **The first run** fills an empty table with the seed, or leaves the table as it is; `stores` says
whether the database takes the rows. Source: `app/services/universe_bootstrap.py`
`bootstrap_universe_on_first_run`. Kind: D -/
def bootstrap (t : Table Symbol.ticker) (seeds : Except String (List SeedItem)) (stores : Bool) :
    Table Symbol.ticker × BootstrapStatus :=
  if 0 < t.rows.length then (t, .alreadyInitialized t.rows.length)
  else
    match seeds with
    | .error error => (t, .seedFetchFailed error)
    | .ok [] => (t, .seedFetchEmpty)
    | .ok items =>
      match seedSymbols items with
      | .error market => (t, .invalidMarket market)
      | .ok symbols =>
        match if stores then Session.insertAll t symbols else none with
        | none => (t, .dbError)
        | some t' => (t', .bootstrapped symbols.length)

/-! ## What is read -/

section items

variable {r : KrxText} {market : String} {payload : JsonDict} {row : JsonDict} {item : SeedItem}
  {items kospi200Items kosdaq150Items : List SeedItem} {x : Exchanges} {seed : Seed}
  {tradeDate : String}

/-- **An item as the seed has it**: no text has space at its ends and none is empty, and the label is one of
the sources. Source: `app/services/universe_bootstrap.py` `_krx_fetch_index_constituents`. Kind: D -/
structure Clean (item : SeedItem) : Prop where
  ticker : PyText.strip item.ticker = item.ticker
  ticker_ne : item.ticker ≠ ""
  name : PyText.strip item.name = item.name
  name_ne : item.name ≠ ""
  market : normalizeUniverseSource (some item.market) = some item.market

theorem clean_constituent (hmarket : normalizeUniverseSource (some market) = some market)
    (h : constituent r market row = some item) : Clean item ∧ item.market = market := by
  unfold constituent at h
  dsimp only at h
  have hticker := r.strip_upper (((firstTruthy row ["isu_cd", "ISU_CD"]).map r.str).getD "")
  split_ifs at h with hne hname
  · obtain rfl := Option.some.inj h
    exact ⟨⟨hticker, hne, hticker, hne, hmarket⟩, rfl⟩
  · obtain rfl := Option.some.inj h
    exact ⟨⟨hticker, hne, PyText.strip_strip _, hname, hmarket⟩, rfl⟩

/-- The items of an index are clean, carry its label and come in the order of their tickers.
Source: `app/services/universe_bootstrap.py` `_krx_fetch_index_constituents`. Kind: L -/
theorem clean_constituents (hmarket : normalizeUniverseSource (some market) = some market) :
    ∀ item ∈ constituents r market payload, Clean item ∧ item.market = market := by
  intro item hitem
  obtain ⟨row, -, hrow⟩ := List.mem_filterMap.mp (mem_of_mem_lastByKey hitem)
  exact clean_constituent hmarket hrow

theorem union_of_clean (h : ∀ item ∈ kospi200Items ++ kosdaq150Items, Clean item) :
    union kospi200Items kosdaq150Items = lastByKey SeedItem.ticker (kospi200Items ++ kosdaq150Items) := by
  unfold union
  have hall : (kospi200Items ++ kosdaq150Items).filter (fun item => PyText.strip item.ticker ≠ "") =
      kospi200Items ++ kosdaq150Items := by
    refine List.filter_eq_self.mpr fun item hitem => decide_eq_true ?_
    rw [(h item hitem).ticker]
    exact (h item hitem).ticker_ne
  rw [hall]
  exact lastByKey_congr fun item hitem => (h item hitem).ticker

theorem normalize_kospi200 : normalizeUniverseSource (some "KOSPI200") = some "KOSPI200" := by
  decide +kernel

theorem normalize_kosdaq150 : normalizeUniverseSource (some "KOSDAQ150") = some "KOSDAQ150" := by
  decide +kernel

/-- Everything that is read is the items of two replies. Source: `app/services/universe_bootstrap.py`
`fetch_prd_initial_universe_seed`. Kind: L -/
theorem readAll_ok (h : readAll r x = .ok (tradeDate, kospi200Items, kosdaq150Items)) :
    ∃ payload payload', kospi200Items = constituents r "KOSPI200" payload ∧
      kosdaq150Items = constituents r "KOSDAQ150" payload' := by
  unfold readAll at h
  obtain ⟨-, -, h⟩ := ok_of_bind h
  obtain ⟨date, -, h⟩ := ok_of_bind h
  obtain ⟨kospi, hkospi, h⟩ := ok_of_bind h
  obtain ⟨kosdaq, hkosdaq, h⟩ := ok_of_bind h
  obtain ⟨-, hitems⟩ := Prod.mk.inj (Except.ok.inj h)
  obtain ⟨rfl, rfl⟩ := Prod.mk.inj hitems
  unfold fetchIndexConstituents at hkospi hkosdaq
  obtain ⟨-, -, hkospi⟩ := ok_of_bind hkospi
  obtain ⟨-, -, hkospi⟩ := ok_of_bind hkospi
  obtain ⟨payload, -, hkospi⟩ := ok_of_bind hkospi
  obtain ⟨-, -, hkosdaq⟩ := ok_of_bind hkosdaq
  obtain ⟨-, -, hkosdaq⟩ := ok_of_bind hkosdaq
  obtain ⟨payload', -, hkosdaq⟩ := ok_of_bind hkosdaq
  exact ⟨payload, payload', (Except.ok.inj hkospi).symm, (Except.ok.inj hkosdaq).symm⟩

/-- **When a seed is accepted**: both indices are complete and share no ticker.
Source: `app/services/universe_bootstrap.py` `fetch_prd_initial_universe_seed`. Kind: L -/
theorem fetchSeed_ok_iff : fetchSeed r x = .ok seed ↔
    ∃ kospi200Items kosdaq150Items, readAll r x = .ok (seed.tradeDate, kospi200Items, kosdaq150Items) ∧
      kospi200Items.length = 200 ∧ kosdaq150Items.length = 150 ∧
      (∀ a ∈ kospi200Items, ∀ b ∈ kosdaq150Items, a.ticker ≠ b.ticker) ∧
      seed = ⟨lastByKey SeedItem.ticker (kospi200Items ++ kosdaq150Items), seed.tradeDate, 200, 150, 350⟩ := by
  unfold fetchSeed
  cases hread : readAll r x with
  | error e =>
      cases e with
      | networkOrParse exc =>
          refine ⟨fun h => absurd h (by simp), ?_⟩
          rintro ⟨_, _, h, -⟩
          exact absurd h (by simp)
      | other exc =>
          refine ⟨fun h => absurd h (by simp), ?_⟩
          rintro ⟨_, _, h, -⟩
          exact absurd h (by simp)
  | ok read =>
      obtain ⟨date, kospi, kosdaq⟩ := read
      obtain ⟨payload, payload', hkospi, hkosdaq⟩ := readAll_ok hread
      have hclean : ∀ item ∈ kospi ++ kosdaq, Clean item := by
        intro item hitem
        rcases List.mem_append.mp hitem with hitem | hitem
        · rw [hkospi] at hitem
          exact (clean_constituents normalize_kospi200 item hitem).1
        · rw [hkosdaq] at hitem
          exact (clean_constituents normalize_kosdaq150 item hitem).1
      have hnodup : (kospi.map SeedItem.ticker).Nodup := hkospi ▸ nodup_map_lastByKey
      have hnodup' : (kosdaq.map SeedItem.ticker).Nodup := hkosdaq ▸ nodup_map_lastByKey
      have hunion := length_lastByKey_append hnodup hnodup'
      simp only [union_of_clean hclean]
      constructor
      · intro h
        split_ifs at h with hlen hlen' hlen''
        obtain rfl := Except.ok.inj h
        rw [not_not] at hlen hlen' hlen''
        refine ⟨kospi, kosdaq, rfl, hlen, hlen', hunion.mp (by omega), ?_⟩
        simp only [hlen, hlen', hlen'']
      · rintro ⟨_, _, hread', hlen, hlen', hdisjoint, hseed⟩
        obtain ⟨hdate, hitems⟩ := Prod.mk.inj (Except.ok.inj hread')
        obtain ⟨rfl, rfl⟩ := Prod.mk.inj hitems
        have hlen'' := hunion.mpr hdisjoint
        rw [if_neg (not_not.mpr hlen), if_neg (not_not.mpr hlen'), if_neg (by omega), hseed, hdate]
        simp only [hlen, hlen', hlen'']

/-- What an accepted seed is. Source: `app/services/universe_bootstrap.py`
`fetch_prd_initial_universe_seed`. Kind: D -/
structure WellFormed (items : List SeedItem) : Prop where
  sorted : (items.map SeedItem.ticker).Pairwise (· < ·)
  length : items.length = 350
  kospi200 : items.countP (fun item => item.market = "KOSPI200") = 200
  kosdaq150 : items.countP (fun item => item.market = "KOSDAQ150") = 150
  clean : ∀ item ∈ items, Clean item

/-- **An accepted seed is well-formed.** Source: `app/services/universe_bootstrap.py`
`fetch_prd_initial_universe_seed`. Kind: L -/
theorem wellFormed_of_fetchSeed (h : fetchSeed r x = .ok seed) : WellFormed seed.items := by
  obtain ⟨kospi, kosdaq, hread, hlen, hlen', hdisjoint, hseed⟩ := fetchSeed_ok_iff.mp h
  obtain ⟨payload, payload', hkospi, hkosdaq⟩ := readAll_ok hread
  have hmarket : ∀ item ∈ kospi, Clean item ∧ item.market = "KOSPI200" :=
    hkospi ▸ clean_constituents normalize_kospi200
  have hmarket' : ∀ item ∈ kosdaq, Clean item ∧ item.market = "KOSDAQ150" :=
    hkosdaq ▸ clean_constituents normalize_kosdaq150
  have hnodup : ((kospi ++ kosdaq).map SeedItem.ticker).Nodup := by
    rw [List.map_append, List.nodup_append]
    refine ⟨hkospi ▸ nodup_map_lastByKey, hkosdaq ▸ nodup_map_lastByKey, fun k hk k' hk' => ?_⟩
    obtain ⟨a, ha, rfl⟩ := List.mem_map.mp hk
    obtain ⟨b, hb, rfl⟩ := List.mem_map.mp hk'
    exact hdisjoint a ha b hb
  have hperm := lastByKey_perm hnodup
  have hcount (label : String) (n n' : ℕ)
      (hn : kospi.countP (fun item => item.market = label) = n)
      (hn' : kosdaq.countP (fun item => item.market = label) = n') :
      (lastByKey SeedItem.ticker (kospi ++ kosdaq)).countP (fun item => item.market = label) = n + n' := by
    rw [hperm.countP_eq, List.countP_append, hn, hn']
  have hall {l : List SeedItem} {label : String} (hl : ∀ item ∈ l, Clean item ∧ item.market = label) :
      l.countP (fun item => item.market = label) = l.length :=
    List.countP_eq_length.mpr fun item hitem => decide_eq_true (hl item hitem).2
  have hnone {l : List SeedItem} {label label' : String} (hne : label ≠ label')
      (hl : ∀ item ∈ l, Clean item ∧ item.market = label) :
      l.countP (fun item => item.market = label') = 0 :=
    List.countP_eq_zero.mpr fun item hitem => by simpa [(hl item hitem).2] using hne
  rw [hseed]
  constructor
  · exact pairwise_lastByKey
  · rw [hperm.length_eq, List.length_append, hlen, hlen']
  · exact hcount _ 200 0 ((hall hmarket).trans hlen) (hnone (by decide) hmarket')
  · exact hcount _ 0 150 (hnone (by decide) hmarket) ((hall hmarket').trans hlen')
  · intro item hitem
    rcases List.mem_append.mp (hperm.mem_iff.mp hitem) with hitem | hitem
    · exact (hmarket item hitem).1
    · exact (hmarket' item hitem).1

/-! ## What becomes of it -/

/-- **The first run and a rebalancing read a seed in the same way.**
Source: `app/services/universe_bootstrap.py` `bootstrap_universe_on_first_run`. Kind: L -/
theorem seedSymbols_eq (items : List SeedItem) :
    (labelled items).map (List.map newSymbol) = (seedSymbols items).mapError .seedLabel := by
  induction items with
  | nil => rfl
  | cons item items ih =>
      unfold labelled seedSymbols
      dsimp only
      by_cases hticker : PyText.strip item.ticker = ""
      · rw [if_pos hticker, if_pos hticker]
        exact ih
      · rw [if_neg hticker, if_neg hticker]
        cases normalizeUniverseSource (some item.market) with
        | none => rfl
        | some market =>
            cases hlabelled : labelled items with
            | error e =>
                rw [hlabelled] at ih
                cases hsymbols : seedSymbols items with
                | error e' =>
                    rw [hsymbols] at ih
                    exact ih
                | ok symbols =>
                    rw [hsymbols] at ih
                    exact absurd ih (by simp [Except.map, Except.mapError])
            | ok l =>
                rw [hlabelled] at ih
                cases hsymbols : seedSymbols items with
                | error e' =>
                    rw [hsymbols] at ih
                    exact absurd ih (by simp [Except.map, Except.mapError])
                | ok symbols =>
                    rw [hsymbols] at ih
                    have hsame : l.map newSymbol = symbols := Except.ok.inj ih
                    rw [← hsame]
                    rfl

/-- The symbol of a clean item. Source: `app/services/universe_bootstrap.py`
`bootstrap_universe_on_first_run`. Kind: D -/
def symbolOf (item : SeedItem) : Symbol := newSymbol ⟨item.ticker, item.market, item.name⟩

theorem seedSymbols_of_clean (h : ∀ item ∈ items, Clean item) :
    seedSymbols items = .ok (items.map symbolOf) := by
  induction items with
  | nil => rfl
  | cons item items ih =>
      have hitem := h item List.mem_cons_self
      unfold seedSymbols
      simp only [hitem.ticker, hitem.name, hitem.market, if_neg hitem.ticker_ne, if_neg hitem.name_ne]
      rw [ih fun other hother => h other (List.mem_cons_of_mem item hother)]
      rfl

theorem map_ticker_symbolOf : (items.map symbolOf).map Symbol.ticker = items.map SeedItem.ticker := by
  rw [List.map_map]
  rfl

/-- **A first run on an empty table** leaves exactly the symbols of a clean seed.
Source: `app/services/universe_bootstrap.py` `bootstrap_universe_on_first_run`. Kind: L -/
theorem bootstrap_of_clean {t : Table Symbol.ticker} (hempty : t.rows = []) (hne : items ≠ [])
    (hclean : ∀ item ∈ items, Clean item) (hnodup : (items.map SeedItem.ticker).Nodup) :
    ∃ t', bootstrap t (.ok items) true = (t', .bootstrapped items.length) ∧
      t'.rows = items.map symbolOf := by
  have hsymbols : ((items.map symbolOf).map Symbol.ticker).Nodup := by
    rw [map_ticker_symbolOf]
    exact hnodup
  refine ⟨⟨items.map symbolOf, hsymbols⟩, ?_, rfl⟩
  have hinsert : Session.insertAll t (items.map symbolOf) = some ⟨items.map symbolOf, hsymbols⟩ :=
    Session.insertAll_eq_some_iff.mpr (by rw [hempty, List.nil_append])
  obtain ⟨item, rest, rfl⟩ := List.exists_cons_of_ne_nil hne
  unfold bootstrap
  rw [hempty, List.length_nil, if_neg (Nat.lt_irrefl 0)]
  simp only [seedSymbols_of_clean hclean, if_true, hinsert, List.length_map]

/-- The target of a rebalancing from a well-formed seed is its tickers.
Source: `app/main.py` `_rebalance_universe`. Kind: L -/
theorem targetTickers_of_wellFormed (h : WellFormed items) :
    targetTickers none (.ok items) = items.map SeedItem.ticker := by
  have hmap : (items.map fun item => PyText.strip item.ticker) = items.map SeedItem.ticker :=
    List.map_congr_left fun item hitem => (h.clean item hitem).ticker
  have hfilter : (items.map SeedItem.ticker).filter (· ≠ "") = items.map SeedItem.ticker := by
    refine List.filter_eq_self.mpr fun k hk => decide_eq_true ?_
    obtain ⟨item, hitem, rfl⟩ := List.mem_map.mp hk
    exact (h.clean item hitem).ticker_ne
  show sortedSet ((items.map fun item => PyText.strip item.ticker).filter (· ≠ "")) = _
  rw [hmap, hfilter]
  exact sortedSet_eq_self h.sorted

/-- **A rebalancing right after the first run**, from the same seed, changes no membership.
Source: `app/main.py` `_rebalance_universe`. Kind: L -/
theorem rebalance_again (h : WellFormed items) {t t' : Table Symbol.ticker} {config : ConfigManager}
    {w : World} {out : Rebalance.Outcome} (ht : t.rows = items.map symbolOf)
    (hrun : Rebalance.rebalance config w t none (.ok items) = (t', .ok out)) :
    out.target = items.map SeedItem.ticker ∧ out.kept = out.target ∧ out.added = [] ∧
      out.removed = [] ∧ out.pendingExit = [] := by
  have htarget : out.target = items.map SeedItem.ticker := by
    rw [Rebalance.target_rebalance hrun, targetTickers_of_wellFormed h]
  have hsize : t.rows.length ≤ 20000 := by
    rw [ht, List.length_map, h.length]
    decide
  -- the run sees exactly the tickers of the seed
  have hcurrent : ∀ k, k ∈ Rebalance.current t ↔ k ∈ out.target := by
    intro k
    rw [Rebalance.mem_current hsize, htarget, ← map_ticker_symbolOf, ← ht, List.mem_map]
    exact exists_congr fun a => Table.get?_eq_some_iff
  obtain ⟨hadded, hkept, hremoved, hpendingExit⟩ := Rebalance.lists_rebalance hrun
  refine ⟨htarget, ?_, ?_, ?_, ?_⟩
  · rw [hkept]
    exact List.filter_eq_self.mpr fun k hk => decide_eq_true ((hcurrent k).mpr hk)
  · rw [hadded]
    refine List.filter_eq_nil_iff.mpr fun k hk => ?_
    simpa using (hcurrent k).mpr hk
  · rw [hremoved]
    refine List.filter_eq_nil_iff.mpr fun k hk => ?_
    simp [Rebalance.Leaves, (hcurrent k).mp hk]
  · rw [hpendingExit]
    refine List.filter_eq_nil_iff.mpr fun k hk => ?_
    simp [Rebalance.Leaves, (hcurrent k).mp hk]

/-- **The seed of the universe.** Whatever the exchange answers: a seed is accepted exactly when everything
could be read, the indices have 200 and 150 tickers and share none. An accepted seed is well-formed, a first
run fills an empty table with exactly its symbols, a rebalancing reads them in the same way, and one
right after the first run keeps them all. Source: `app/services/universe_bootstrap.py`
`fetch_prd_initial_universe_seed`. Kind: P -/
theorem krx_seed (r : KrxText) (x : Exchanges) :
    ((∃ seed, fetchSeed r x = .ok seed) ↔
      ∃ tradeDate kospi200Items kosdaq150Items,
        readAll r x = .ok (tradeDate, kospi200Items, kosdaq150Items) ∧
        kospi200Items.length = 200 ∧ kosdaq150Items.length = 150 ∧
        ∀ a ∈ kospi200Items, ∀ b ∈ kosdaq150Items, a.ticker ≠ b.ticker) ∧
    (∀ items, (labelled items).map (List.map newSymbol) = (seedSymbols items).mapError .seedLabel) ∧
    ∀ seed, fetchSeed r x = .ok seed → WellFormed seed.items ∧
      ∀ t : Table Symbol.ticker, t.rows = [] →
        ∃ t', bootstrap t (.ok seed.items) true = (t', .bootstrapped 350) ∧
          t'.rows = seed.items.map symbolOf ∧
          ∀ config w t'' out, Rebalance.rebalance config w t' none (.ok seed.items) = (t'', .ok out) →
            out.target = seed.items.map SeedItem.ticker ∧ out.kept = out.target ∧ out.added = [] ∧
              out.removed = [] ∧ out.pendingExit = [] := by
  refine ⟨⟨?_, ?_⟩, seedSymbols_eq, fun seed h => ?_⟩
  · rintro ⟨seed, h⟩
    obtain ⟨kospi, kosdaq, hread, hlen, hlen', hdisjoint, -⟩ := fetchSeed_ok_iff.mp h
    exact ⟨seed.tradeDate, kospi, kosdaq, hread, hlen, hlen', hdisjoint⟩
  · rintro ⟨tradeDate, kospi, kosdaq, hread, hlen, hlen', hdisjoint⟩
    exact ⟨⟨lastByKey SeedItem.ticker (kospi ++ kosdaq), tradeDate, 200, 150, 350⟩,
      fetchSeed_ok_iff.mpr ⟨kospi, kosdaq, hread, hlen, hlen', hdisjoint, rfl⟩⟩
  · have hwell := wellFormed_of_fetchSeed h
    refine ⟨hwell, fun t hempty => ?_⟩
    have hne : seed.items ≠ [] := fun hnil => by
      have hlen := hwell.length
      rw [hnil] at hlen
      exact absurd hlen (by decide)
    obtain ⟨t', hrun, hrows⟩ :=
      bootstrap_of_clean hempty hne hwell.clean (hwell.sorted.imp fun hlt => hlt.ne)
    rw [hwell.length] at hrun
    exact ⟨t', hrun, hrows, fun config w t'' out hout => rebalance_again hwell hrows hout⟩

end items

/-! ## A reply of the exchange -/

/-- A letter and the digits of a number below 1000. Source: none: infrastructure. Kind: D -/
def code (letter : Char) (i : ℕ) : String := String.ofList (letter :: digits 3 i)

/-- A row as the exchange writes it. Source: none: infrastructure. Kind: D -/
def listedRow (i : ℕ) : JsonDict := [("isu_cd", .str (code 'a' i)), ("isu_nm", .str " Share ")]

/-- Source: none: infrastructure. Kind: D -/
def listing (first count : ℕ) : JsonDict :=
  [("output", .list ((List.range' first count).map fun i => .dict (listedRow i)))]

/-- Source: none: infrastructure. Kind: D -/
def answering (fields : JsonDict) : Exchange := ⟨.ok (), .ok "otp", .ok (.ok (.dict fields))⟩

/-- An exchange that lists 200 and 150 shares. Source: none: infrastructure. Kind: D -/
def fullExchange : Exchanges where
  home := .ok ()
  date := answering [("output", .list [.dict [("max_work_dt", .str "20260213")]])]
  kospi200 := answering (listing 0 200)
  kosdaq150 := answering (listing 200 150)

section reply

variable {i j first count : ℕ} {market : String} {fields : JsonDict}

theorem code_ne (letter : Char) (i : ℕ) : code letter i ≠ "" := by
  intro h
  have hnil : letter :: digits 3 i = [] := String.ofList_injective h
  exact List.cons_ne_nil _ _ hnil

/-- The code tells the number. Source: none: infrastructure. Kind: L -/
theorem code_injective {letter : Char} (hi : i < 1000) (hj : j < 1000)
    (h : code letter i = code letter j) : i = j := by
  have hdigits : digits 3 i = digits 3 j := (List.cons.inj (String.ofList_injective h)).2
  have hvalue := congrArg ofDigits hdigits
  rwa [ofDigits_digits hi, ofDigits_digits hj] at hvalue

theorem upper_code (i : ℕ) : PyText.upper (PyText.strip (code 'a' i)) = code 'A' i := by
  have hdigits : ∀ c ∈ digits 3 i, PyText.isSpace c = false ∧ PyText.asciiUpper c = [c] := by
    intro c hc
    have hall : ∀ d < 10, PyText.isSpace (Nat.digitChar d) = false ∧
        PyText.asciiUpper (Nat.digitChar d) = [Nat.digitChar d] := by decide
    have hc : c.isDigit = true := isDigit_of_mem_digits hc
    obtain ⟨hlo, hhi⟩ := toNat_of_isDigit hc
    rw [← digitChar_toNat hc]
    apply hall
    show c.toNat - 48 < 10
    omega
  have hspace : ∀ c ∈ 'a' :: digits 3 i, PyText.isSpace c = false :=
    List.forall_mem_cons.mpr ⟨by decide, fun c hc => (hdigits c hc).1⟩
  have hsame : (digits 3 i).flatMap PyText.asciiUpper = digits 3 i :=
    (List.flatMap_congr fun c hc => (hdigits c hc).2).trans (List.flatMap_singleton' _)
  unfold code
  rw [PyText.strip_of_forall hspace]
  unfold PyText.upper
  rw [String.toList_ofList, List.flatMap_cons, hsame]
  rfl

/-- What is read off a row. Source: `app/services/universe_bootstrap.py`
`_krx_fetch_index_constituents`. Kind: L -/
theorem constituent_listedRow (market : String) (i : ℕ) :
    constituent asciiText market (listedRow i) = some ⟨code 'A' i, market, "Share"⟩ := by
  have hname : PyText.strip " Share " = "Share" := by decide +kernel
  have htext : (JsonValue.str (code 'a' i)).truthy = true := decide_eq_true (code_ne 'a' i)
  have hcode : firstTruthy (listedRow i) ["isu_cd", "ISU_CD"] = some (.str (code 'a' i)) := by
    simp [firstTruthy, listedRow, htext]
  have hshare : firstTruthy (listedRow i) ["isu_nm", "ISU_NM", "isu_abbrv", "ISU_ABBRV"] =
      some (.str " Share ") := rfl
  unfold constituent
  rw [hcode, hshare]
  show (if PyText.upper (PyText.strip (code 'a' i)) = "" then none
    else some (SeedItem.mk (PyText.upper (PyText.strip (code 'a' i))) market
      (if PyText.strip " Share " = "" then PyText.upper (PyText.strip (code 'a' i))
        else PyText.strip " Share "))) = _
  rw [upper_code, if_neg (code_ne 'A' i), hname]
  rfl

theorem generateOtp_answering (bld : String) : generateOtp (answering fields) bld = .ok "otp" := by
  have hstrip : PyText.strip "otp" = "otp" := by decide +kernel
  show (if PyText.strip "otp" = "" then
      Except.error (FetchError.networkOrParse s!"krx_otp_empty:{bld}")
    else Except.ok (PyText.strip "otp")) = Except.ok "otp"
  rw [hstrip]
  rfl

theorem fetchIndexConstituents_answering :
    fetchIndexConstituents asciiText market (answering fields) =
      .ok (constituents asciiText market fields) := by
  unfold fetchIndexConstituents
  rw [generateOtp_answering]
  rfl

theorem readAll_answering {date : Exchange} {tradeDate : String} {fields' : JsonDict}
    (hdate : latestTradingDate asciiText date = .ok tradeDate) :
    readAll asciiText ⟨.ok (), date, answering fields, answering fields'⟩ = .ok (tradeDate,
      constituents asciiText "KOSPI200" fields, constituents asciiText "KOSDAQ150" fields') := by
  unfold readAll
  rw [hdate, fetchIndexConstituents_answering, fetchIndexConstituents_answering]
  rfl

theorem krxJsonRows_listing :
    krxJsonRows (listing first count) = (List.range' first count).map listedRow := by
  have hrows : krxJsonRows (listing first count) =
      ((List.range' first count).map fun i => JsonValue.dict (listedRow i)).filterMap
        JsonValue.dict? := rfl
  rw [hrows, List.filterMap_map, ← List.filterMap_eq_map]
  rfl

/-- Every row of a listing has its item. Source: `app/services/universe_bootstrap.py`
`_krx_fetch_index_constituents`. Kind: L -/
theorem constituents_listing (market : String) (h : first + count ≤ 1000) :
    (constituents asciiText market (listing first count)).Perm
      ((List.range' first count).map fun i => ⟨code 'A' i, market, "Share"⟩) := by
  have hbelow : ∀ i ∈ List.range' first count, i < 1000 := fun i hi =>
    (List.mem_range'_1.mp hi).2.trans_le h
  have hitems : ((List.range' first count).map listedRow).filterMap (constituent asciiText market) =
      (List.range' first count).map fun i => ⟨code 'A' i, market, "Share"⟩ := by
    rw [List.filterMap_map, ← List.filterMap_eq_map]
    refine List.filterMap_congr fun i _ => ?_
    rw [Function.comp_apply, constituent_listedRow]
    rfl
  unfold constituents
  rw [krxJsonRows_listing, hitems]
  refine lastByKey_perm ?_
  rw [List.map_map]
  refine List.Nodup.map_on (fun i hi j hj => ?_) List.nodup_range'
  exact code_injective (hbelow i hi) (hbelow j hj)

/-- **A full reply is accepted**, and a first run fills an empty table with its 350 symbols.
Source: `app/services/universe_bootstrap.py` `bootstrap_universe_on_first_run`. Kind: P -/
theorem krx_seed_fullExchange :
    ∃ seed, fetchSeed asciiText fullExchange = .ok seed ∧ WellFormed seed.items ∧
      ∃ t', bootstrap Table.empty (.ok seed.items) true = (t', .bootstrapped 350) ∧
        t'.rows = seed.items.map symbolOf := by
  have hdate : latestTradingDate asciiText fullExchange.date = .ok "20260213" := by decide +kernel
  obtain ⟨haccepted, -, hseed⟩ := krx_seed asciiText fullExchange
  have hkospi : (constituents asciiText "KOSPI200" (listing 0 200)).Perm _ :=
    constituents_listing "KOSPI200" (by decide)
  have hkosdaq : (constituents asciiText "KOSDAQ150" (listing 200 150)).Perm _ :=
    constituents_listing "KOSDAQ150" (by decide)
  have hdisjoint : ∀ a ∈ constituents asciiText "KOSPI200" (listing 0 200),
      ∀ b ∈ constituents asciiText "KOSDAQ150" (listing 200 150), a.ticker ≠ b.ticker := by
    intro a ha b hb heq
    obtain ⟨i, hi, rfl⟩ := List.mem_map.mp (hkospi.mem_iff.mp ha)
    obtain ⟨j, hj, rfl⟩ := List.mem_map.mp (hkosdaq.mem_iff.mp hb)
    obtain ⟨-, hi⟩ := List.mem_range'_1.mp hi
    obtain ⟨hj, hj'⟩ := List.mem_range'_1.mp hj
    obtain rfl := code_injective (by omega) (by omega) heq
    omega
  obtain ⟨seed, h⟩ := haccepted.mpr ⟨_, _, _, readAll_answering hdate,
    hkospi.length_eq.trans (by rw [List.length_map, List.length_range']),
    hkosdaq.length_eq.trans (by rw [List.length_map, List.length_range']), hdisjoint⟩
  obtain ⟨hwell, hfirst⟩ := hseed seed h
  obtain ⟨t', hrun, hrows, -⟩ := hfirst Table.empty rfl
  exact ⟨seed, h, hwell, t', hrun, hrows⟩

end reply

end KrxSeed

end HaruTrade
