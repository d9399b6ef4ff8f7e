import HaruTrade.Data.Session
import HaruTrade.Repositories.Candle

/-!
# Batches of candles

`upsert_batch` decides from the rows that were stored before the batch whether an item is an insert
or an update; `upsert_incremental` looks at the table again for every item.

* `upsertBatch`, `upsertOneByOne` — the two ways to write a batch.
* `Follows` — what the session of the batch has in common with the table of the other way.
* `commit_batchState` — the commit goes through when no new time is repeated.
* **`upsertBatch_eq_iff`** — the batches for which the two ways leave the same table.
-/

namespace HaruTrade

/-- An item of a batch; its `candle_time` may be no `datetime`. Source:
`app/repositories/candle.py` `CandleRepository.upsert_batch`. Kind: D -/
structure BatchItem where
  candleTime : Option Time
  «open» : ℚ
  high : ℚ
  low : ℚ
  close : ℚ
  volume : ℚ

/-- The candle of an item that has a time. Source: `app/repositories/candle.py`
`CandleRepository.upsert_batch`. Kind: D -/
def BatchItem.candle? (item : BatchItem) : Option Candle :=
  item.candleTime.map fun ts =>
    { «open» := item.open, high := item.high, low := item.low, close := item.close, ts := ts,
      volume := item.volume }

/-- An update leaves the key of a row. Source: `app/db/models/candle.py` `Candle`. Kind: L -/
theorem CandleRow.key_withCandle (c : Candle) (row : CandleRow) :
    CandleRow.key { row with candle := { c with ts := row.candle.ts } } = CandleRow.key row :=
  rfl

namespace CandleRepository

/-- The local variables of the loop. Source: `app/repositories/candle.py`
`CandleRepository.upsert_batch`. Kind: D -/
structure BatchState where
  session : Session CandleRow.key
  inserted : ℕ := 0
  updated : ℕ := 0

/-- The candle of an item, with the times that `existing_map` has. Source:
`app/repositories/candle.py` `CandleRepository.upsert_batch`. Kind: D -/
def upsertCandle (ticker : String) (timeframe : Timeframe) (existing : List Time) (s : BatchState)
    (c : Candle) : BatchState :=
  if c.ts ∈ existing then
    { s with
      session := s.session.modify (ticker, timeframe, c.ts)
        (fun row => { row with candle := { c with ts := row.candle.ts } })
        (CandleRow.key_withCandle c)
      updated := s.updated + 1 }
  else
    { s with session := s.session.add ⟨ticker, timeframe, c⟩, inserted := s.inserted + 1 }

/-- One item; one without a time is left out. Source: `app/repositories/candle.py`
`CandleRepository.upsert_batch`. Kind: D -/
def upsertItem (ticker : String) (timeframe : Timeframe) (existing : List Time) (s : BatchState)
    (item : BatchItem) : BatchState :=
  match item.candle? with
  | none => s
  | some c => upsertCandle ticker timeframe existing s c

/-- The keys of `existing_map`. Source: `app/repositories/candle.py`
`CandleRepository.upsert_batch`. Kind: D -/
def existingTimes (w : World) (ticker : String) (timeframe : Timeframe) (items : List BatchItem) :
    List Time :=
  let times := items.filterMap BatchItem.candleTime
  (w.candles.select fun row =>
    row.ticker = ticker ∧ row.timeframe = timeframe ∧ row.candle.ts ∈ times).map fun row =>
      row.candle.ts

/-- The batch, with the counts of its inserts and updates. A repeated key is refused by the unique
constraint at the commit, and nothing of the batch is stored. Source:
`app/repositories/candle.py` `CandleRepository.upsert_batch`. Kind: D -/
def upsertBatch (w : World) (ticker : String) (timeframe : Timeframe) (items : List BatchItem) :
    World × Except Exn (ℕ × ℕ) :=
  if items = [] then (w, .ok (0, 0))
  else
    let s := items.foldl (upsertItem ticker timeframe (existingTimes w ticker timeframe items))
      { session := Session.ofTable w.candles }
    match s.session.commit with
    | some candles => ({ w with candles := candles }, .ok (s.inserted, s.updated))
    | none => (w, .error (.sqlalchemy "uq_rebuild_candle_unique"))

/-- The items one after another; one without a time is left out. Source:
`app/repositories/candle.py` `CandleRepository.upsert_incremental`. Kind: D -/
def upsertOneByOne (w : World) (ticker : String) (timeframe : Timeframe) (items : List BatchItem) :
    World :=
  (items.filterMap BatchItem.candle?).foldl (fun w c => upsertIncremental w ticker timeframe c) w

/-- The times of a batch that are not stored yet. Source: none: infrastructure. Kind: D -/
def newTimes (w : World) (ticker : String) (timeframe : Timeframe) (items : List BatchItem) :
    List Time :=
  (items.filterMap BatchItem.candleTime).filter fun ts => w.candles.get? (ticker, timeframe, ts) = none

variable {w : World} {ticker : String} {timeframe : Timeframe} {items : List BatchItem}
  {w' : World} {c : Candle} {cs : List Candle} {s : BatchState} {ts : Time} {existing : List Time}

theorem filterMap_candleTime :
    items.filterMap BatchItem.candleTime = (items.filterMap BatchItem.candle?).map Candle.ts := by
  rw [List.map_filterMap]
  congr 1
  funext item
  unfold BatchItem.candle?
  cases item.candleTime with
  | none => rfl
  | some ts => rfl

/-- A time of the batch is in `existing_map` when it is stored. Source:
`app/repositories/candle.py` `CandleRepository.upsert_batch`. Kind: L -/
theorem mem_existingTimes (h : ts ∈ items.filterMap BatchItem.candleTime) :
    ts ∈ existingTimes w ticker timeframe items ↔ w.candles.get? (ticker, timeframe, ts) ≠ none := by
  unfold existingTimes Table.select
  dsimp only
  rw [List.mem_map, Option.ne_none_iff_exists']
  constructor
  · rintro ⟨⟨t, tf, c⟩, hrow, rfl⟩
    obtain ⟨hmem, hp⟩ := List.mem_filter.mp hrow
    obtain ⟨rfl, rfl, -⟩ := of_decide_eq_true hp
    exact ⟨_, Table.get?_eq_some_iff.mpr ⟨hmem, rfl⟩⟩
  · rintro ⟨⟨t, tf, c⟩, hrow⟩
    obtain ⟨hmem, hkey⟩ := Table.get?_eq_some_iff.mp hrow
    obtain ⟨rfl, rfl, rfl⟩ : t = ticker ∧ tf = timeframe ∧ c.ts = ts := by
      simpa [CandleRow.key] using hkey
    exact ⟨_, List.mem_filter.mpr ⟨hmem, decide_eq_true ⟨rfl, rfl, h⟩⟩, rfl⟩

theorem foldl_upsertItem :
    items.foldl (upsertItem ticker timeframe existing) s =
      (items.filterMap BatchItem.candle?).foldl (upsertCandle ticker timeframe existing) s := by
  rw [List.foldl_filterMap]
  congr 1
  funext s item
  unfold upsertItem
  cases item.candle? with
  | none => rfl
  | some c => rfl

/-! ## The two ways -/

/-- The keys of the candles that are not stored yet. Source: none: infrastructure. Kind: D -/
def newKeys (w : World) (ticker : String) (timeframe : Timeframe) (cs : List Candle) :
    List (String × Timeframe × Time) :=
  (cs.map fun c => (ticker, timeframe, c.ts)).filter fun k => w.candles.get? k = none

/-- **The session and the table**: the rows of the session, changed and new ones, are the rows that
the other way has stored. Source: `app/repositories/candle.py` `CandleRepository.upsert_batch`.
Kind: D -/
structure Follows (w w' : World) (s : BatchState) : Prop where
  rows : w'.candles.rows = s.session.pending.rows ++ s.session.added
  rest : w' = { w with candles := w'.candles }
  stored : s.session.stored = w.candles
  added : ∀ row ∈ s.session.added, w.candles.get? row.key = none

theorem Follows.isSome_pending (h : Follows w w' s) (k : String × Timeframe × Time) :
    (s.session.pending.get? k).isSome = (w.candles.get? k).isSome := by
  rw [Session.isSome_get?_pending, h.stored]

/-- An update of a stored row. Source: `app/repositories/candle.py`
`CandleRepository.upsert_batch`. Kind: L -/
theorem Follows.update (h : Follows w w' s) (hc : c.ts ∈ existing)
    (hstored : w.candles.get? (ticker, timeframe, c.ts) ≠ none) :
    Follows w (upsertIncremental w' ticker timeframe c)
      (upsertCandle ticker timeframe existing s c) := by
  obtain ⟨row, hrow⟩ : ∃ row, w'.candles.get? (ticker, timeframe, c.ts) = some row := by
    have hsome := h.isSome_pending (ticker, timeframe, c.ts)
    rw [Option.isSome_iff_ne_none.mpr hstored] at hsome
    obtain ⟨row, hrow⟩ := Option.isSome_iff_exists.mp hsome
    obtain ⟨hmem, hkey⟩ := Table.get?_eq_some_iff.mp hrow
    refine ⟨row, Table.get?_eq_some_iff.mpr ⟨?_, hkey⟩⟩
    rw [h.rows]
    exact List.mem_append_left _ hmem
  have hadded : ∀ old ∈ s.session.added, old.key ≠ (ticker, timeframe, c.ts) :=
    fun old hold hkey => hstored (hkey ▸ h.added old hold)
  unfold upsertCandle
  rw [if_pos hc]
  refine ⟨?_, ?_, h.stored, h.added⟩
  · have hrows : (upsertIncremental w' ticker timeframe c).candles.rows =
        w'.candles.rows.map fun old =>
          if old.key = (ticker, timeframe, c.ts) then
            { old with candle := { c with ts := old.candle.ts } } else old :=
      Table.rows_upsert_of_some hrow
    rw [hrows, h.rows, List.map_append]
    congr 1
    exact (List.map_congr_left fun old hold => if_neg (hadded old hold)).trans (List.map_id' _)
  · unfold upsertIncremental
    rw [h.rest]

/-- An insert of a row whose key is neither stored nor among the new ones. Source:
`app/repositories/candle.py` `CandleRepository.upsert_batch`. Kind: L -/
theorem Follows.insert (h : Follows w w' s) (hc : c.ts ∉ existing)
    (hnew : w.candles.get? (ticker, timeframe, c.ts) = none)
    (hfresh : (ticker, timeframe, c.ts) ∉ s.session.added.map CandleRow.key) :
    Follows w (upsertIncremental w' ticker timeframe c)
      (upsertCandle ticker timeframe existing s c) := by
  have hnone : w'.candles.get? (ticker, timeframe, c.ts) = none := by
    refine Table.get?_eq_none_iff.mpr fun row hrow hkey => ?_
    rw [h.rows] at hrow
    rcases List.mem_append.mp hrow with hrow | hrow
    · have hsome := h.isSome_pending (ticker, timeframe, c.ts)
      rw [hnew, Table.get?_eq_some_iff.mpr ⟨hrow, hkey⟩] at hsome
      cases hsome
    · exact hfresh (hkey ▸ List.mem_map_of_mem hrow)
  unfold upsertCandle
  rw [if_neg hc]
  refine ⟨?_, ?_, h.stored, ?_⟩
  · have hrows : (upsertIncremental w' ticker timeframe c).candles.rows =
        w'.candles.rows ++ [⟨ticker, timeframe, c⟩] := Table.rows_upsert_of_none hnone
    rw [hrows, h.rows, List.append_assoc]
    rfl
  · unfold upsertIncremental
    rw [h.rest]
  · intro row hrow
    rcases List.mem_append.mp hrow with hrow | hrow
    · exact h.added row hrow
    · rw [List.mem_singleton.mp hrow]
      exact hnew

theorem newKeys_cons_of_new (h : w.candles.get? (ticker, timeframe, c.ts) = none) :
    newKeys w ticker timeframe (c :: cs) =
      (ticker, timeframe, c.ts) :: newKeys w ticker timeframe cs :=
  List.filter_cons_of_pos (decide_eq_true h)

theorem newKeys_cons_of_stored (h : w.candles.get? (ticker, timeframe, c.ts) ≠ none) :
    newKeys w ticker timeframe (c :: cs) = newKeys w ticker timeframe cs :=
  List.filter_cons_of_neg (by simpa using h)

theorem keys_upsertCandle_of_mem (hc : c.ts ∈ existing) :
    (upsertCandle ticker timeframe existing s c).session.added.map CandleRow.key =
      s.session.added.map CandleRow.key := by
  unfold upsertCandle
  rw [if_pos hc]
  rfl

theorem keys_upsertCandle_of_notMem (hc : c.ts ∉ existing) :
    (upsertCandle ticker timeframe existing s c).session.added.map CandleRow.key =
      s.session.added.map CandleRow.key ++ [(ticker, timeframe, c.ts)] := by
  unfold upsertCandle
  rw [if_neg hc]
  dsimp only
  rw [Session.added_add, List.map_append]
  rfl

/-- **The session follows the table** as long as no key is new twice. Source:
`app/repositories/candle.py` `CandleRepository.upsert_batch`. Kind: L -/
theorem Follows.foldl (h : Follows w w' s)
    (hexisting : ∀ c ∈ cs, c.ts ∈ existing ↔ w.candles.get? (ticker, timeframe, c.ts) ≠ none)
    (hnodup : (s.session.added.map CandleRow.key ++ newKeys w ticker timeframe cs).Nodup) :
    Follows w (cs.foldl (fun w c => upsertIncremental w ticker timeframe c) w')
      (cs.foldl (upsertCandle ticker timeframe existing) s) := by
  induction cs generalizing w' s with
  | nil => exact h
  | cons c cs ih =>
      have hrest := fun c' hc' => hexisting c' (List.mem_cons_of_mem c hc')
      have hmem := hexisting c List.mem_cons_self
      rw [List.foldl_cons, List.foldl_cons]
      by_cases hnew : w.candles.get? (ticker, timeframe, c.ts) = none
      · have hc : c.ts ∉ existing := fun hc => hmem.mp hc hnew
        rw [newKeys_cons_of_new hnew] at hnodup
        have hfresh : (ticker, timeframe, c.ts) ∉ s.session.added.map CandleRow.key :=
          fun hk => List.disjoint_of_nodup_append hnodup hk List.mem_cons_self
        refine ih (h.insert hc hnew hfresh) hrest ?_
        rw [keys_upsertCandle_of_notMem hc, List.append_assoc]
        exact hnodup
      · have hc : c.ts ∈ existing := hmem.mpr hnew
        rw [newKeys_cons_of_stored hnew] at hnodup
        refine ih (h.update hc hnew) hrest ?_
        rw [keys_upsertCandle_of_mem hc]
        exact hnodup

/-- The new rows of the session are those of the new times, in their order. Source:
`app/repositories/candle.py` `CandleRepository.upsert_batch`. Kind: L -/
theorem keys_added_foldl
    (hexisting : ∀ c ∈ cs, c.ts ∈ existing ↔ w.candles.get? (ticker, timeframe, c.ts) ≠ none) :
    (cs.foldl (upsertCandle ticker timeframe existing) s).session.added.map CandleRow.key =
      s.session.added.map CandleRow.key ++ newKeys w ticker timeframe cs := by
  induction cs generalizing s with
  | nil => exact (List.append_nil _).symm
  | cons c cs ih =>
      have hmem := hexisting c List.mem_cons_self
      rw [List.foldl_cons, ih fun c' hc' => hexisting c' (List.mem_cons_of_mem c hc')]
      by_cases hnew : w.candles.get? (ticker, timeframe, c.ts) = none
      · have hc : c.ts ∉ existing := fun hc => hmem.mp hc hnew
        rw [keys_upsertCandle_of_notMem hc, newKeys_cons_of_new hnew, List.append_assoc]
        rfl
      · rw [keys_upsertCandle_of_mem (hmem.mpr hnew), newKeys_cons_of_stored hnew]

/-- A candle that was written is stored. Source: `app/repositories/candle.py`
`CandleRepository.upsert_incremental`. Kind: L -/
theorem get?_foldl_upsertIncremental {k : String × Timeframe × Time}
    (h : w.candles.get? k ≠ none ∨ ∃ c ∈ cs, k = (ticker, timeframe, c.ts)) :
    (cs.foldl (fun w c => upsertIncremental w ticker timeframe c) w).candles.get? k ≠ none := by
  induction cs generalizing w with
  | nil =>
      rcases h with h | ⟨c, hc, -⟩
      · exact h
      · exact absurd hc List.not_mem_nil
  | cons c cs ih =>
      rw [List.foldl_cons]
      apply ih
      by_cases hk : k = (ticker, timeframe, c.ts)
      · left
        rw [get?_upsertIncremental, if_pos hk]
        exact Option.some_ne_none _
      · rcases h with h | ⟨c', hc', heq⟩
        · left
          rw [get?_upsertIncremental, if_neg hk]
          exact h
        · rcases List.mem_cons.mp hc' with rfl | hc'
          · exact absurd heq hk
          · exact Or.inr ⟨c', hc', heq⟩

/-- The new keys are the new times. Source: none: infrastructure. Kind: L -/
theorem nodup_newKeys_iff :
    (newKeys w ticker timeframe (items.filterMap BatchItem.candle?)).Nodup ↔
      (newTimes w ticker timeframe items).Nodup := by
  have heq : newKeys w ticker timeframe (items.filterMap BatchItem.candle?) =
      (newTimes w ticker timeframe items).map fun ts => (ticker, timeframe, ts) := by
    unfold newKeys newTimes
    rw [filterMap_candleTime, List.filter_map, List.filter_map, List.map_map]
    rfl
  rw [heq]
  refine List.nodup_map_iff fun a b h => ?_
  exact (Prod.mk.inj (Prod.mk.inj h).2).2

/-- The session of the batch after its loop. Source: `app/repositories/candle.py`
`CandleRepository.upsert_batch`. Kind: D -/
def batchState (w : World) (ticker : String) (timeframe : Timeframe) (items : List BatchItem) :
    BatchState :=
  items.foldl (upsertItem ticker timeframe (existingTimes w ticker timeframe items))
    { session := Session.ofTable w.candles }

theorem batchState_eq :
    batchState w ticker timeframe items =
      (items.filterMap BatchItem.candle?).foldl
        (upsertCandle ticker timeframe (existingTimes w ticker timeframe items))
        { session := Session.ofTable w.candles } := foldl_upsertItem

theorem mem_existingTimes_of_candle (hc : c ∈ items.filterMap BatchItem.candle?) :
    c.ts ∈ existingTimes w ticker timeframe items ↔
      w.candles.get? (ticker, timeframe, c.ts) ≠ none := by
  refine mem_existingTimes ?_
  rw [filterMap_candleTime]
  exact List.mem_map_of_mem hc

theorem follows_batchState (h : (newTimes w ticker timeframe items).Nodup) :
    Follows w (upsertOneByOne w ticker timeframe items) (batchState w ticker timeframe items) := by
  have hstart : Follows w w { session := Session.ofTable w.candles } :=
    ⟨(List.append_nil _).symm, rfl, rfl, fun row hrow => absurd hrow List.not_mem_nil⟩
  rw [batchState_eq]
  exact hstart.foldl (fun c hc => mem_existingTimes_of_candle hc) (nodup_newKeys_iff.mpr h)

/-- The commit of a batch goes through exactly when no new time is repeated, and it leaves what the
items leave one by one. Source: `app/repositories/candle.py` `CandleRepository.upsert_batch`.
Kind: L -/
theorem commit_batchState (h : (newTimes w ticker timeframe items).Nodup) :
    (batchState w ticker timeframe items).session.commit =
        some (upsertOneByOne w ticker timeframe items).candles ∧
      upsertOneByOne w ticker timeframe items =
        { w with candles := (upsertOneByOne w ticker timeframe items).candles } := by
  have hfollows := follows_batchState h
  exact ⟨Session.commit_eq_some_iff.mpr hfollows.rows, hfollows.rest⟩

theorem commit_batchState_eq_none (h : ¬ (newTimes w ticker timeframe items).Nodup) :
    (batchState w ticker timeframe items).session.commit = none := by
  by_contra hcommit
  obtain ⟨t, ht⟩ := Option.ne_none_iff_exists'.mp hcommit
  have hnodup := t.nodup
  have hkeys : (batchState w ticker timeframe items).session.added.map CandleRow.key =
      [] ++ newKeys w ticker timeframe (items.filterMap BatchItem.candle?) := by
    rw [batchState_eq]
    exact keys_added_foldl fun c hc => mem_existingTimes_of_candle hc
  rw [Session.commit_eq_some_iff.mp ht, List.map_append, hkeys, List.nil_append] at hnodup
  exact h (nodup_newKeys_iff.mp (List.Nodup.of_append_right hnodup))

/-- **A batch is its items one by one exactly when no new time is repeated**: for every candle table
and every batch, `upsert_batch` leaves the table that `upsert_incremental` leaves item by item, if and
only if no time that is not stored yet occurs twice among the items; otherwise the commit is refused
and the whole batch is lost. Source: `app/repositories/candle.py` `CandleRepository.upsert_batch`.
Kind: P -/
theorem upsertBatch_eq_iff (w : World) (ticker : String) (timeframe : Timeframe)
    (items : List BatchItem) :
    (upsertBatch w ticker timeframe items).1 = upsertOneByOne w ticker timeframe items ↔
      (newTimes w ticker timeframe items).Nodup := by
  by_cases hempty : items = []
  · subst hempty
    exact ⟨fun _ => List.nodup_nil, fun _ => rfl⟩
  · have hbatch : upsertBatch w ticker timeframe items =
        (batchState w ticker timeframe items).session.commit.elim
          (w, .error (.sqlalchemy "uq_rebuild_candle_unique"))
          fun candles => ({ w with candles := candles },
            .ok ((batchState w ticker timeframe items).inserted,
              (batchState w ticker timeframe items).updated)) := by
      unfold upsertBatch batchState
      rw [if_neg hempty]
      dsimp only
      cases (items.foldl (upsertItem ticker timeframe (existingTimes w ticker timeframe items))
        { session := Session.ofTable w.candles }).session.commit with
      | none => rfl
      | some candles => rfl
    constructor
    · intro heq
      by_contra hnot
      rw [hbatch, commit_batchState_eq_none hnot, Option.elim_none] at heq
      -- the table is as it was, but there is a new time in the batch
      obtain ⟨ts, hts⟩ : ∃ ts, ts ∈ newTimes w ticker timeframe items := by
        refine List.exists_mem_of_ne_nil _ fun hnil => hnot ?_
        rw [hnil]
        exact List.nodup_nil
      obtain ⟨hmem, hnew⟩ := List.mem_filter.mp hts
      rw [filterMap_candleTime] at hmem
      obtain ⟨c, hc, rfl⟩ := List.mem_map.mp hmem
      have hstored : (upsertOneByOne w ticker timeframe items).candles.get?
          (ticker, timeframe, c.ts) ≠ none :=
        get?_foldl_upsertIncremental (Or.inr ⟨c, hc, rfl⟩)
      rw [← heq] at hstored
      exact hstored (of_decide_eq_true hnew)
    · intro hnodup
      obtain ⟨hcommit, hrest⟩ := commit_batchState hnodup
      rw [hbatch, hcommit, Option.elim_some]
      exact hrest.symm

/-! ## What a batch counts -/

theorem length_newKeys : (newKeys w ticker timeframe (items.filterMap BatchItem.candle?)).length =
    (newTimes w ticker timeframe items).length := by
  unfold newKeys newTimes
  rw [filterMap_candleTime, List.filter_map, List.filter_map, List.length_map, List.length_map]
  rfl

theorem length_added_batchState : (batchState w ticker timeframe items).session.added.length =
    (newTimes w ticker timeframe items).length := by
  have hkeys := congrArg List.length (@keys_added_foldl w ticker timeframe
    (items.filterMap BatchItem.candle?) { session := Session.ofTable w.candles }
    (existingTimes w ticker timeframe items) fun c hc => mem_existingTimes_of_candle hc)
  rw [← batchState_eq, List.length_map, List.length_append, length_newKeys] at hkeys
  rw [hkeys]
  exact Nat.zero_add _

theorem counts_upsertCandle :
    (upsertCandle ticker timeframe existing s c).inserted + s.session.added.length =
        s.inserted + (upsertCandle ticker timeframe existing s c).session.added.length ∧
      (upsertCandle ticker timeframe existing s c).inserted +
          (upsertCandle ticker timeframe existing s c).updated =
        s.inserted + s.updated + 1 := by
  unfold upsertCandle
  split_ifs
  · exact ⟨rfl, rfl⟩
  · constructor
    · dsimp only
      rw [Session.added_add, List.length_append, List.length_singleton]
      omega
    · dsimp only
      omega

theorem counts_foldl :
    (cs.foldl (upsertCandle ticker timeframe existing) s).inserted + s.session.added.length =
        s.inserted + (cs.foldl (upsertCandle ticker timeframe existing) s).session.added.length ∧
      (cs.foldl (upsertCandle ticker timeframe existing) s).inserted +
          (cs.foldl (upsertCandle ticker timeframe existing) s).updated =
        s.inserted + s.updated + cs.length := by
  induction cs generalizing s with
  | nil => exact ⟨rfl, rfl⟩
  | cons c cs ih =>
      obtain ⟨hadded, htotal⟩ := @counts_upsertCandle ticker timeframe c s existing
      obtain ⟨haddeds, htotals⟩ := @ih (upsertCandle ticker timeframe existing s c)
      rw [List.foldl_cons, List.length_cons]
      constructor
      · omega
      · omega

/-- **A batch that goes through** stores its items one by one, and counts the new times and the rest.
Source: `app/repositories/candle.py` `CandleRepository.upsert_batch`. Kind: L -/
theorem upsertBatch_of_nodup (h : (newTimes w ticker timeframe items).Nodup) :
    upsertBatch w ticker timeframe items = (upsertOneByOne w ticker timeframe items,
      .ok ((newTimes w ticker timeframe items).length,
        (items.filterMap BatchItem.candle?).length - (newTimes w ticker timeframe items).length)) := by
  by_cases hempty : items = []
  · subst hempty
    rfl
  · obtain ⟨hcommit, hrest⟩ := commit_batchState h
    obtain ⟨hadded, htotal⟩ := @counts_foldl ticker timeframe (items.filterMap BatchItem.candle?)
      { session := Session.ofTable w.candles } (existingTimes w ticker timeframe items)
    rw [← batchState_eq] at hadded htotal
    rw [length_added_batchState] at hadded
    have hinserted : (batchState w ticker timeframe items).inserted =
        (newTimes w ticker timeframe items).length := by
      simp only [Session.ofTable, List.length_nil] at hadded
      omega
    have hupdated : (batchState w ticker timeframe items).updated =
        (items.filterMap BatchItem.candle?).length - (newTimes w ticker timeframe items).length := by
      dsimp only at htotal
      omega
    unfold upsertBatch
    rw [if_neg hempty]
    unfold batchState at hcommit hinserted hupdated
    dsimp only
    rw [hcommit, hinserted, hupdated]
    exact Prod.ext hrest.symm rfl

/-- **A batch that is refused** leaves the table as it is. Source: `app/repositories/candle.py`
`CandleRepository.upsert_batch`. Kind: L -/
theorem upsertBatch_of_not_nodup (h : ¬ (newTimes w ticker timeframe items).Nodup) :
    upsertBatch w ticker timeframe items =
      (w, .error (.sqlalchemy "uq_rebuild_candle_unique")) := by
  have hne : items ≠ [] := by
    rintro rfl
    exact h List.nodup_nil
  have hcommit := commit_batchState_eq_none h
  unfold upsertBatch
  rw [if_neg hne]
  unfold batchState at hcommit
  dsimp only
  rw [hcommit]

/-- The rows that a batch adds are those of its new times. Source: `app/repositories/candle.py`
`CandleRepository.upsert_batch`. Kind: L -/
theorem length_rows_upsertOneByOne (h : (newTimes w ticker timeframe items).Nodup) :
    (upsertOneByOne w ticker timeframe items).candles.rows.length =
      w.candles.rows.length + (newTimes w ticker timeframe items).length := by
  obtain ⟨hcommit, -⟩ := commit_batchState h
  have hpending : (batchState w ticker timeframe items).session.pending.rows.length =
      w.candles.rows.length := by
    have hsame := congrArg List.length (batchState w ticker timeframe items).session.same
    rw [List.length_map, List.length_map, (follows_batchState h).stored] at hsame
    exact hsame
  rw [Session.commit_eq_some_iff.mp hcommit, List.length_append, hpending,
    length_added_batchState]

/-- Two items of one new time: one by one the second wins, and the batch is refused.
Source: `app/repositories/candle.py` `CandleRepository.upsert_batch`. Kind: C -/
theorem upsertBatch_repeated :
    (upsertBatch {} "005930" .m5 [⟨some 60, 1, 1, 1, 1, 1⟩, ⟨some 60, 2, 2, 2, 2, 2⟩]).1 ≠
      upsertOneByOne {} "005930" .m5 [⟨some 60, 1, 1, 1, 1, 1⟩, ⟨some 60, 2, 2, 2, 2, 2⟩] := by
  intro heq
  have hlength := congrArg (fun w : World => w.candles.rows.length) heq
  exact absurd hlength (by decide +kernel)

end CandleRepository

end HaruTrade
