import HaruTrade.Services.EquityCurve

/-!
# The time-weighted return of a range in two parts

A snapshot inside a range splits it in two. The query answers the snapshots of the two parts with the
splitting snapshot in both, and every cash flow counts in exactly one period, so that the growth
factor of the range is the product of those of its parts.

* `listByTime_split` — the rows of a range, split at one of them.
* `flowBetween_listCashFlows` — a period of the range has the same cash flows in every range around
  it.
* `compoundTwr_split` — the compound return goes on from the splitting snapshot.
* **`twr_split`** — one plus the return of the range is the product over its two parts.
-/

namespace HaruTrade

/-! ## Ranges of rows -/

section ranges

variable {α : Type} {time : α → Instant} {start stop : Instant} {limit : ℕ} {rows l : List α} {b : α}

theorem inRange_some {x : α} :
    inRange time (some start) (some stop) x = true ↔ start ≤ time x ∧ time x ≤ stop := by
  simp [inRange]

theorem mem_listByTime (h : (rows.filter (inRange time (some start) (some stop))).length ≤ limit)
    {x : α} : x ∈ listByTime time (some start) (some stop) limit rows ↔
      x ∈ rows ∧ start ≤ time x ∧ time x ≤ stop := by
  rw [(listByTime_perm h).mem_iff, List.mem_filter, inRange_some]

/-- A range inside another has no more rows. Source: none: infrastructure. Kind: L -/
theorem length_inRange_le {start' stop' : Instant} (hstart : start ≤ start') (hstop : stop' ≤ stop)
    (h : (rows.filter (inRange time (some start) (some stop))).length ≤ limit) :
    (rows.filter (inRange time (some start') (some stop'))).length ≤ limit := by
  refine le_trans (List.Sublist.length_le (List.monotone_filter_right rows fun x hx => ?_)) h
  obtain ⟨hlo, hhi⟩ := inRange_some.mp hx
  exact inRange_some.mpr ⟨hstart.trans hlo, hhi.trans hstop⟩

/-- **Rows of different times in order** are what the query answers, when they are the rows of the
range. Source: `app/repositories/performance.py` `PerformanceRepository.list_snapshots`. Kind: L -/
theorem eq_listByTime (htimes : (rows.map time).Nodup)
    (hlimit : (rows.filter (inRange time (some start) (some stop))).length ≤ limit)
    (hl : l.Pairwise fun a b => time a ≤ time b) (hnodup : l.Nodup)
    (hmem : ∀ x, x ∈ l ↔ x ∈ rows ∧ start ≤ time x ∧ time x ≤ stop) :
    listByTime time (some start) (some stop) limit rows = l := by
  have hrows : rows.Nodup := htimes.of_map time
  have hperm : (listByTime time (some start) (some stop) limit rows).Perm l := by
    refine (listByTime_perm hlimit).trans ?_
    rw [List.perm_ext_iff_of_nodup (hrows.filter _) hnodup]
    intro x
    rw [hmem, List.mem_filter, inRange_some]
  refine List.Perm.eq_of_pairwise (fun x y hx hy hxy hyx => ?_) pairwise_listByTime hl hperm
  exact List.inj_on_of_nodup_map htimes ((mem_listByTime hlimit).mp hx).1 ((hmem y).mp hy).1
    (le_antisymm hxy hyx)

/-- **A range split at one of its rows**: the row ends the first part and begins the second.
Source: `app/repositories/performance.py` `PerformanceRepository.list_snapshots`. Kind: L -/
theorem listByTime_split (htimes : (rows.map time).Nodup)
    (hlimit : (rows.filter (inRange time (some start) (some stop))).length ≤ limit)
    (hb : b ∈ rows) (hstart : start ≤ time b) (hstop : time b ≤ stop) :
    ∃ front back,
      listByTime time (some start) (some (time b)) limit rows = front ++ [b] ∧
      listByTime time (some (time b)) (some stop) limit rows = b :: back ∧
      listByTime time (some start) (some stop) limit rows = front ++ b :: back := by
  have hmem := fun x => mem_listByTime (x := x) hlimit
  obtain ⟨front, back, hsplit⟩ := List.append_of_mem ((hmem b).mpr ⟨hb, hstart, hstop⟩)
  have hsorted : (front ++ b :: back).Pairwise fun a b => time a ≤ time b := by
    rw [← hsplit]
    exact pairwise_listByTime
  have hnodup : (front ++ b :: back).Nodup := by
    rw [← hsplit, (listByTime_perm hlimit).nodup_iff]
    exact (htimes.of_map time).filter _
  rw [hsplit] at hmem
  obtain ⟨hfront, hback, hcross⟩ := List.pairwise_append.mp hsorted
  have hbefore : ∀ x ∈ front, time x ≤ time b := fun x hx => hcross x hx b List.mem_cons_self
  have hafter : ∀ x ∈ back, time b ≤ time x := (List.pairwise_cons.mp hback).1
  have hsame : ∀ x ∈ rows, time x = time b → x = b := fun x hx heq =>
    List.inj_on_of_nodup_map htimes hx hb heq
  refine ⟨front, back, ?_, ?_, hsplit⟩
  · apply eq_listByTime htimes (length_inRange_le le_rfl hstop hlimit)
    · exact hsorted.sublist (List.Sublist.append_left (List.singleton_sublist.mpr (by simp)) front)
    · exact hnodup.sublist (List.Sublist.append_left (List.singleton_sublist.mpr (by simp)) front)
    · intro x
      constructor
      · intro hx
        rcases List.mem_append.mp hx with hx | hx
        · obtain ⟨hrow, hlo, -⟩ := (hmem x).mp (List.mem_append_left _ hx)
          exact ⟨hrow, hlo, hbefore x hx⟩
        · obtain rfl := List.mem_singleton.mp hx
          exact ⟨hb, hstart, le_rfl⟩
      · rintro ⟨hrow, hlo, hhi⟩
        rcases List.mem_append.mp ((hmem x).mpr ⟨hrow, hlo, hhi.trans hstop⟩) with hx | hx
        · exact List.mem_append_left _ hx
        · apply List.mem_append_right
          rcases List.mem_cons.mp hx with rfl | hx
          · exact List.mem_singleton_self x
          · exact List.mem_singleton.mpr (hsame x hrow (le_antisymm hhi (hafter x hx)))
  · apply eq_listByTime htimes (length_inRange_le hstart le_rfl hlimit)
    · exact hsorted.sublist (List.sublist_append_right front (b :: back))
    · exact hnodup.sublist (List.sublist_append_right front (b :: back))
    · intro x
      constructor
      · intro hx
        obtain ⟨hrow, -, hhi⟩ := (hmem x).mp (List.mem_append_right _ hx)
        rcases List.mem_cons.mp hx with rfl | hx
        · exact ⟨hrow, le_rfl, hhi⟩
        · exact ⟨hrow, hafter x hx, hhi⟩
      · rintro ⟨hrow, hlo, hhi⟩
        rcases List.mem_append.mp ((hmem x).mpr ⟨hrow, hstart.trans hlo, hhi⟩) with hx | hx
        · rw [hsame x hrow (le_antisymm (hbefore x hx) hlo)]
          exact List.mem_cons_self
        · exact hx

end ranges

namespace PerformanceService

open PerformanceRepository (listSnapshots listCashFlows)
open CashFlow (sumWhere)

/-! ## Cash flows of a period -/

section flows

variable {t : PerformanceTables} {cashFlows cashFlows' : List CashFlow} {start stop p q : Instant}
  {k : ℚ} {b : AccountSnapshot} {front back snapshots : List AccountSnapshot}

/-- **A period has the same cash flows in every range around it**: the ends of a range count, the
begin of a period does not. Source: `app/repositories/performance.py`
`PerformanceRepository.list_cash_flows`. Kind: L -/
theorem flowBetween_listCashFlows
    (hlimit : (t.cashFlows.rows.filter
      (inRange CashFlow.flowTime (some start) (some stop))).length ≤ 5000)
    (hp : start ≤ p) (hq : q ≤ stop) :
    flowBetween (listCashFlows t (some start) (some stop)) p q = flowBetween t.cashFlows.rows p q := by
  have hperm : (listCashFlows t (some start) (some stop)).Perm _ := listByTime_perm hlimit
  unfold flowBetween sumWhere
  rw [((hperm.filter _).map CashFlow.amount).sum_eq, List.filter_filter]
  congr 2
  apply List.filter_congr
  intro x _
  by_cases hx : p < x.flowTime ∧ x.flowTime ≤ q
  · have hin : inRange CashFlow.flowTime (some start) (some stop) x = true :=
      inRange_some.mpr ⟨hp.trans hx.1.le, hx.2.trans hq⟩
    rw [hin, Bool.and_true]
  · rw [decide_eq_false hx, Bool.false_and]

theorem compoundTwr_congr
    (h : ∀ a ∈ snapshots, ∀ b ∈ snapshots,
      flowBetween cashFlows a.snapshotTime b.snapshotTime =
        flowBetween cashFlows' a.snapshotTime b.snapshotTime) :
    compoundTwr cashFlows k snapshots = compoundTwr cashFlows' k snapshots := by
  induction snapshots generalizing k with
  | nil => rfl
  | cons a rest ih =>
      cases rest with
      | nil => rfl
      | cons b rest =>
          have hgross : gross cashFlows a b = gross cashFlows' a b := by
            unfold gross
            rw [h a List.mem_cons_self b (List.mem_cons_of_mem a List.mem_cons_self)]
          rw [compoundTwr, compoundTwr, hgross]
          exact ih fun c hc d hd => h c (List.mem_cons_of_mem a hc) d (List.mem_cons_of_mem a hd)

/-! ## The compound return -/

theorem compoundTwr_eq_mul :
    compoundTwr cashFlows k snapshots = k * compoundTwr cashFlows 1 snapshots := by
  induction snapshots generalizing k with
  | nil => exact (mul_one k).symm
  | cons a rest ih =>
      cases rest with
      | nil => exact (mul_one k).symm
      | cons b rest =>
          by_cases ha : a.totalAssets ≤ 0
          · rw [compoundTwr, compoundTwr, if_pos ha, if_pos ha]
            exact ih
          · rw [compoundTwr, compoundTwr, if_neg ha, if_neg ha, one_mul, ih, mul_assoc, ← ih]

/-- **The compound return goes on from any snapshot.** Source: `app/services/performance.py`
`PerformanceService._compute_twr`. Kind: L -/
theorem compoundTwr_split :
    compoundTwr cashFlows k (front ++ b :: back) =
      compoundTwr cashFlows k (front ++ [b]) * compoundTwr cashFlows 1 (b :: back) := by
  induction front generalizing k with
  | nil => exact compoundTwr_eq_mul
  | cons a front ih =>
      cases front with
      | nil =>
          rw [List.singleton_append, compoundTwr, compoundTwr_eq_mul]
          rfl
      | cons c front => exact ih

/-- The report compounds the returns of its snapshots, also when there are fewer than two.
Source: `app/services/performance.py` `PerformanceService.twr_report`. Kind: L -/
theorem one_add_twr {start stop : Option Instant} :
    1 + (twrReport t start stop).twr =
      compoundTwr (listCashFlows t start stop) 1 (listSnapshots t start stop) := by
  unfold twrReport
  dsimp only
  split
  · next first second rest hlisted =>
      rw [computeTwr, hlisted]
      ring
  · next hshort =>
      cases hlisted : listSnapshots t start stop with
      | nil => exact add_zero 1
      | cons first rest =>
          cases rest with
          | nil => exact add_zero 1
          | cons second rest => exact absurd hlisted (hshort first second rest)

/-- The return of a range, on all cash flows of the account. Source: `app/services/performance.py`
`PerformanceService.twr_report`. Kind: L -/
theorem one_add_twr_eq
    (hsnapshots : (t.snapshots.rows.filter
      (inRange AccountSnapshot.snapshotTime (some start) (some stop))).length ≤ 5000)
    (hflows : (t.cashFlows.rows.filter
      (inRange CashFlow.flowTime (some start) (some stop))).length ≤ 5000) :
    1 + (twrReport t (some start) (some stop)).twr =
      compoundTwr t.cashFlows.rows 1 (listSnapshots t (some start) (some stop)) := by
  rw [one_add_twr]
  apply compoundTwr_congr
  intro a ha c hc
  obtain ⟨-, hlo, -⟩ := (mem_listByTime hsnapshots).mp ha
  obtain ⟨-, -, hhi⟩ := (mem_listByTime hsnapshots).mp hc
  exact flowBetween_listCashFlows hflows hlo hhi

end flows

/-- **The return of a range is that of its two parts**: for snapshots of different times and any cash
flows, a snapshot `b` in the range splits its growth factor into the one up to `b` and the one from
`b` on. Source: `app/services/performance.py` `PerformanceService.twr_report`. Kind: P -/
theorem twr_split (t : PerformanceTables) (start stop : Instant) (b : AccountSnapshot)
    (htimes : (t.snapshots.rows.map AccountSnapshot.snapshotTime).Nodup)
    (hsnapshots : (t.snapshots.rows.filter
      (inRange AccountSnapshot.snapshotTime (some start) (some stop))).length ≤ 5000)
    (hflows : (t.cashFlows.rows.filter
      (inRange CashFlow.flowTime (some start) (some stop))).length ≤ 5000)
    (hb : b ∈ t.snapshots.rows) (hstart : start ≤ b.snapshotTime) (hstop : b.snapshotTime ≤ stop) :
    1 + (twrReport t (some start) (some stop)).twr =
      (1 + (twrReport t (some start) (some b.snapshotTime)).twr) *
        (1 + (twrReport t (some b.snapshotTime) (some stop)).twr) := by
  obtain ⟨front, back, hfirst, hsecond, hwhole⟩ :=
    listByTime_split htimes hsnapshots hb hstart hstop
  rw [one_add_twr_eq hsnapshots hflows,
    one_add_twr_eq (length_inRange_le le_rfl hstop hsnapshots)
      (length_inRange_le le_rfl hstop hflows),
    one_add_twr_eq (length_inRange_le hstart le_rfl hsnapshots)
      (length_inRange_le hstart le_rfl hflows)]
  unfold listSnapshots
  rw [hfirst, hsecond, hwhole]
  exact compoundTwr_split

/-- Three snapshots, with a deposit at each of their times and one between.
Source: none: infrastructure. Kind: D -/
def depositsAtSnapshots : PerformanceTables where
  snapshots := ⟨[⟨1, 0, "pre_market", 100, 100, 0, 0, 0⟩, ⟨2, 10, "pre_market", 130, 130, 0, 0, 0⟩,
    ⟨3, 20, "pre_market", 160, 160, 0, 0, 0⟩], by decide⟩
  cashFlows := ⟨[⟨1, 0, 7, 93, 100, "auto"⟩, ⟨2, 5, 10, 100, 110, "auto"⟩,
    ⟨3, 10, 10, 120, 130, "auto"⟩, ⟨4, 20, 4, 156, 160, "auto"⟩], by decide⟩
  trades := Table.empty

/-- The deposits at the ends of a part count once: 1.32 is 1.1 times 1.2.
Source: none: infrastructure. Kind: P -/
theorem twr_split_deposits :
    1 + (twrReport depositsAtSnapshots (some 0) (some 20)).twr =
      (1 + (twrReport depositsAtSnapshots (some 0) (some 10)).twr) *
        (1 + (twrReport depositsAtSnapshots (some 10) (some 20)).twr) ∧
    (twrReport depositsAtSnapshots (some 0) (some 10)).twr = 1 / 10 ∧
    (twrReport depositsAtSnapshots (some 10) (some 20)).twr = 1 / 5 :=
  ⟨twr_split depositsAtSnapshots 0 20 ⟨2, 10, "pre_market", 130, 130, 0, 0, 0⟩ (by decide)
    (by decide +kernel) (by decide +kernel) (by decide +kernel) (by decide) (by decide),
    by decide +kernel, by decide +kernel⟩

end PerformanceService

end HaruTrade
