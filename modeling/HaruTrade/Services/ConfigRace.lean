import HaruTrade.Services.ConfigService

/-!
# Two changes of one setting

Two calls of `ConfigService.set` on the same key run at once. Each reads its row, sets the key in
memory and commits; no lock spans the three steps, and the database is read-committed.

* `step`, `run` — the steps of the two calls, in any order.
* `Settled` — memory and row agree, and the two history rows form a chain.
* `commit_of_row` — what a commit does when the row exists by then: it fails if the call had read
  none, and otherwise it writes only when the text differs from the one it had read.
* `ready_of_order` — **the state before the last commit**, which is the same for every order with the
  same first commit, up to what the second call has read and who wrote to memory last.
* `settled_iff` — the calls settle exactly when the second to commit has read after the first commit,
  or the row had the first call's text all along and the memory was written in commit order.
-/

namespace HaruTrade

namespace ConfigRace

open ConfigService (SetCall)

/-- One of the two calls. Source: none: infrastructure. Kind: D -/
inductive Request where
  | a
  | b
  deriving DecidableEq, Repr

/-- The other call. Source: none: infrastructure. Kind: D -/
def Request.other : Request → Request
  | a => b
  | b => a

/-- How far a call is; from its read on it keeps the text that the row had.
Source: `app/repositories/config.py` `ConfigRepository.set`. Kind: D -/
inductive Phase where
  | begun
  | read (old : Option String)
  | stored (old : Option String)
  | returned
  | raised (error : ConfigError)
  deriving DecidableEq, Repr

/-- The store, and how far the calls are. Source: none: infrastructure. Kind: D -/
structure State where
  store : ConfigStore
  phase : Request → Phase

/-- The commit of a call that has read `old`; after a database error the key is set in memory again.
Source: `app/services/config_service.py` `ConfigService.set`. Kind: D -/
def commit (call : SetCall) (old : Option String) (s : ConfigStore) :
    ConfigStore × Except ConfigError Unit :=
  match ConfigRepository.commit s.db call.key call.value call.changedBy old with
  | .ok db => ({ s with db }, .ok ())
  | .error _ => ConfigService.setInMemory s call

/-- The next step of a call: its read, its write to memory, its commit.
Source: `app/repositories/config.py` `ConfigRepository.set`, `app/services/config_service.py`
`ConfigService.set`. Kind: D -/
def step (calls : Request → SetCall) (s : State) (r : Request) : State :=
  match s.phase r with
  | .begun =>
    { s with
      phase := Function.update s.phase r
        (.read (ConfigRepository.read s.store.db (calls r).key)) }
  | .read old =>
    match s.store.manager.set (calls r).key (calls r).value false with
    | (manager, .ok ()) =>
      ⟨{ s.store with manager }, Function.update s.phase r (.stored old)⟩
    | (manager, .error e) =>
      ⟨{ s.store with manager }, Function.update s.phase r (.raised e)⟩
  | .stored old =>
    match commit (calls r) old s.store with
    | (store, .ok ()) => ⟨store, Function.update s.phase r .returned⟩
    | (store, .error e) => ⟨store, Function.update s.phase r (.raised e)⟩
  | .returned => s
  | .raised _ => s

/-- The steps of an order. Source: none: infrastructure. Kind: D -/
def run (calls : Request → SetCall) (s : State) (order : List Request) : State :=
  order.foldl (step calls) s

/-- Two calls that have not begun. Source: none: infrastructure. Kind: D -/
def begin (store : ConfigStore) : State := ⟨store, fun _ => .begun⟩

/-- When a call takes its steps: the positions of its read, its write to memory and its commit.
Source: none: infrastructure. Kind: D -/
def times (order : List Request) (r : Request) : List ℕ :=
  (order.zipIdx.filter fun e => e.1 = r).map Prod.snd

/-- Source: none: infrastructure. Kind: D -/
def readAt (order : List Request) (r : Request) : ℕ := (times order r).getD 0 0

/-- Source: none: infrastructure. Kind: D -/
def storedAt (order : List Request) (r : Request) : ℕ := (times order r).getD 1 0

/-- Source: none: infrastructure. Kind: D -/
def committedAt (order : List Request) (r : Request) : ℕ := (times order r).getD 2 0

/-- Memory and committed row agree on the key, and the two new history rows form a chain.
Source: none: infrastructure. Kind: D -/
structure Settled (key : String) (start final : ConfigStore) : Prop where
  agree : final.manager.value? key = final.db.value? key
  chain : ∃ earlier later : ConfigHistory,
    final.db.history.rows = start.db.history.rows ++ [earlier, later] ∧
      earlier.key = key ∧ later.key = key ∧ later.oldValue = some earlier.newValue

/-- The calls do not cross: the second to commit has read after the first commit, or what it read
is what the first call committed and the memory was written in the order of the commits.
Source: none: infrastructure. Kind: D -/
def Uncrossed (order : List Request) (calls : Request → SetCall) (row : Option String) : Prop :=
  ∀ r, committedAt order r < committedAt order r.other →
    committedAt order r < readAt order r.other ∨
      (row = some (calls r).value ∧ (storedAt order r < storedAt order r.other ∨
        (calls r).value = (calls r.other).value))

/-! ## Commits -/

section commits

variable {t : ConfigTables} {key text : String}

theorem commit_of_no_read (h : t.value? key = some text) (value changedBy : String) :
    ConfigRepository.commit t key value changedBy none = .error (.sqlalchemy "IntegrityError") := by
  obtain ⟨row, hrow, -⟩ := Option.map_eq_some_iff.mp h
  have hflush : ConfigRepository.flushRow t key value none =
      .error (.sqlalchemy "IntegrityError") := by
    refine dif_neg ?_
    rw [hrow]
    simp
  rw [ConfigRepository.commit, hflush]

/-- **A commit on a row**, by a call that may have read another text than the row has by now.
Source: `app/repositories/config.py` `ConfigRepository.set`. Kind: L -/
theorem commit_of_row (h : t.value? key = some text) (value changedBy old : String) :
    ∃ t', ConfigRepository.commit t key value changedBy (some old) = .ok t' ∧
      t'.value? key = some (if old = value then text else value) ∧
      t'.history.rows = t.history.rows ++
        [ConfigRepository.historyRow key value changedBy (some old) t.history.fresh] := by
  obtain ⟨row, hrow, htext⟩ := Option.map_eq_some_iff.mp h
  unfold ConfigRepository.commit ConfigRepository.flushRow
  by_cases hsame : old = value
  · simp only [if_pos hsame]
    exact ⟨_, rfl, h, rfl⟩
  · simp only [if_neg hsame]
    refine ⟨_, rfl, ?_, rfl⟩
    show ((t.rows.modify key (fun row => { row with value }) fun _ => rfl).get? key).map _ = _
    rw [Table.get?_modify_self, hrow]
    rfl

end commits

/-! ## Orders -/

/-- The steps of two calls but for the last one. Source: none: infrastructure. Kind: D -/
structure Front where
  steps : List Request
  /-- The second call to commit has read after the first commit. -/
  late : Bool
  /-- The second call to commit writes to memory after the first. -/
  last : Bool

/-- The orders in which `f` is the first to commit. Source: none: infrastructure. Kind: D -/
def frontsOf (f s : Request) : List Front :=
  [⟨[f, f, f, s, s], true, true⟩, ⟨[s, f, f, f, s], false, true⟩, ⟨[f, s, f, f, s], false, true⟩,
   ⟨[f, f, s, f, s], false, true⟩, ⟨[s, s, f, f, f], false, false⟩,
   ⟨[s, f, s, f, f], false, false⟩, ⟨[s, f, f, s, f], false, true⟩,
   ⟨[f, s, s, f, f], false, false⟩, ⟨[f, s, f, s, f], false, true⟩,
   ⟨[f, f, s, s, f], false, true⟩]

instance {p : Request → Prop} [DecidablePred p] : Decidable (∀ r, p r) :=
  decidable_of_iff (p .a ∧ p .b)
    ⟨fun h r => match r with | .a => h.1 | .b => h.2, fun h => ⟨h .a, h .b⟩⟩

theorem mem_frontsOf : ∀ r₁ r₂ r₃ r₄ r₅ r₆ : Request, [r₁, r₂, r₃, r₄, r₅, r₆].count .a = 3 →
    [r₁, r₂, r₃, r₄, r₅] ∈ (frontsOf r₆.other r₆).map Front.steps := by
  decide +kernel

theorem other_other : ∀ r : Request, r.other.other = r := by decide

theorem count_add_count (order : List Request) :
    order.count .a + order.count .b = order.length := by
  induction order with
  | nil => rfl
  | cons r order ih =>
      rw [List.count_cons, List.count_cons, List.length_cons, ← ih]
      cases r
      · simp
        omega
      · simp
        omega

/-- **Every order of two calls** with three steps each, by its last step.
Source: none: infrastructure. Kind: L -/
theorem exists_front {order : List Request} (ha : order.count .a = 3) (hb : order.count .b = 3) :
    ∃ f, ∃ front ∈ frontsOf f f.other, order = front.steps ++ [f.other] := by
  have hlen : order.length = 6 := by rw [← count_add_count, ha, hb]
  match order, hlen with
  | [r₁, r₂, r₃, r₄, r₅, r₆], _ =>
      obtain ⟨front, hfront, hsteps⟩ := List.mem_map.mp (mem_frontsOf r₁ r₂ r₃ r₄ r₅ r₆ ha)
      refine ⟨r₆.other, front, ?_, ?_⟩
      · rw [other_other]
        exact hfront
      · rw [other_other, hsteps]
        rfl

/-- The flags of an order say when its steps are taken. Source: none: infrastructure. Kind: L -/
theorem times_of_front : ∀ f, ∀ front ∈ frontsOf f f.other,
    committedAt (front.steps ++ [f.other]) f < committedAt (front.steps ++ [f.other]) f.other ∧
    (committedAt (front.steps ++ [f.other]) f < readAt (front.steps ++ [f.other]) f.other ↔
      front.late = true) ∧
    (storedAt (front.steps ++ [f.other]) f < storedAt (front.steps ++ [f.other]) f.other ↔
      front.last = true) := by
  decide +kernel

theorem last_of_late : ∀ f, ∀ front ∈ frontsOf f f.other, front.late = true →
    front.last = true := by
  decide +kernel

/-! ## The state before the last commit -/

section ready

variable {calls : Request → SetCall} {store : ConfigStore} {key : String} {f : Request}

/-- The first call has committed and the second has only its commit left.
Source: none: infrastructure. Kind: D -/
structure Ready (calls : Request → SetCall) (store : ConfigStore) (key : String) (f : Request)
    (front : Front) (s : State) : Prop where
  returned : s.phase f = .returned
  phase : s.phase f.other =
    .stored (if front.late then some (calls f).value else store.db.value? key)
  memory : s.store.manager.value? key = some (calls (if front.last then f.other else f)).value
  db : ConfigRepository.commit store.db key (calls f).value (calls f).changedBy
    (store.db.value? key) = .ok s.store.db

theorem other_ne (f : Request) : f.other ≠ f := by cases f <;> decide

/-- How far the first call to commit and the other one are. Source: none: infrastructure. Kind: D -/
def phases (f : Request) (first second : Phase) : Request → Phase :=
  fun r => if r = f then first else second

variable {first second : Phase} {st : ConfigStore} {t : ConfigTables} {old : Option String}

theorem update_first {p : Phase} :
    Function.update (phases f first second) f p = phases f p second := by
  funext r
  by_cases hr : r = f
  · rw [hr, Function.update_self, phases, if_pos rfl]
  · rw [Function.update_of_ne hr, phases, phases, if_neg hr, if_neg hr]

theorem update_second {p : Phase} :
    Function.update (phases f first second) f.other p = phases f first p := by
  funext r
  by_cases hr : r = f
  · rw [hr, Function.update_of_ne (other_ne f).symm, phases, phases, if_pos rfl, if_pos rfl]
  · have hother : r = f.other := by revert hr; cases r <;> cases f <;> simp [Request.other]
    rw [hother, Function.update_self, phases, if_neg (other_ne f)]

@[simp] theorem phases_first : phases f first second f = first := if_pos rfl

@[simp] theorem phases_second : phases f first second f.other = second := if_neg (other_ne f)

theorem begin_eq (f : Request) : begin store = ⟨store, phases f .begun .begun⟩ := by
  unfold begin phases
  simp only [ite_self]

/-! What each of the two calls does at each of its steps. -/

theorem first_reads (hkey : ∀ r, (calls r).key = key) :
    step calls ⟨st, phases f .begun second⟩ f =
      ⟨st, phases f (.read (st.db.value? key)) second⟩ := by
  simp only [step, phases_first, update_first, hkey, ConfigRepository.read]

theorem second_reads (hkey : ∀ r, (calls r).key = key) :
    step calls ⟨st, phases f first .begun⟩ f.other =
      ⟨st, phases f first (.read (st.db.value? key))⟩ := by
  simp only [step, phases_second, update_second, hkey, ConfigRepository.read]

theorem first_stores (hkey : ∀ r, (calls r).key = key)
    (valid : ∀ r, ConfigManager.check key (calls r).value false = .ok ()) :
    step calls ⟨st, phases f (.read old) second⟩ f =
      ⟨⟨st.manager.store key (calls f).value, st.db⟩, phases f (.stored old) second⟩ := by
  simp only [step, phases_first, hkey, ConfigManager.set_of_check (valid f), update_first]

theorem second_stores (hkey : ∀ r, (calls r).key = key)
    (valid : ∀ r, ConfigManager.check key (calls r).value false = .ok ()) :
    step calls ⟨st, phases f first (.read old)⟩ f.other =
      ⟨⟨st.manager.store key (calls f.other).value, st.db⟩, phases f first (.stored old)⟩ := by
  simp only [step, phases_second, hkey, ConfigManager.set_of_check (valid f.other), update_second]

theorem first_commits {manager : ConfigManager} {db : ConfigTables}
    (hkey : ∀ r, (calls r).key = key)
    (hcommit : ConfigRepository.commit db key (calls f).value (calls f).changedBy
      (db.value? key) = .ok t) :
    step calls ⟨⟨manager, db⟩, phases f (.stored (db.value? key)) second⟩ f =
      ⟨⟨manager, t⟩, phases f .returned second⟩ := by
  simp only [step, phases_first, commit, hkey, hcommit, update_first]

/-- **The state before the last commit.** Source: `app/services/config_service.py`
`ConfigService.set`. Kind: L -/
theorem ready_of_order (store : ConfigStore) (hkey : ∀ r, (calls r).key = key)
    (valid : ∀ r, ConfigManager.check key (calls r).value false = .ok ()) {front : Front}
    (h : front ∈ frontsOf f f.other) :
    Ready calls store key f front (run calls (begin store) front.steps) := by
  obtain ⟨t, hcommit, -, hvalue⟩ := ConfigRepository.commit_read store.db key
    (calls f).value (calls f).changedBy
  have hf : t.value? key = some (calls f).value := by rw [hvalue, if_pos rfl]
  simp only [frontsOf, List.mem_cons, List.not_mem_nil, or_false] at h
  rcases h with rfl | rfl | rfl | rfl | rfl | rfl | rfl | rfl | rfl | rfl
  all_goals
    simp only [run, List.foldl_cons, List.foldl_nil, begin_eq f, first_reads hkey,
      second_reads hkey, first_stores hkey valid, second_stores hkey valid,
      first_commits hkey hcommit]
    refine ⟨phases_first, ?_, ?_, hcommit⟩
    · simp [hf]
    · simp

end ready

/-! ## The last commit -/

section settled

variable {calls : Request → SetCall} {store : ConfigStore} {key : String}

theorem uncrossed_iff {f : Request} {front : Front} (h : front ∈ frontsOf f f.other)
    {row : Option String} :
    Uncrossed (front.steps ++ [f.other]) calls row ↔ front.late = true ∨
      (row = some (calls f).value ∧
        (front.last = true ∨ (calls f).value = (calls f.other).value)) := by
  obtain ⟨hcommitted, hlate, hlast⟩ := times_of_front f front h
  unfold Uncrossed
  constructor
  · intro hall
    have hf := hall f hcommitted
    rw [hlate, hlast] at hf
    exact hf
  · intro hf r hr
    by_cases hrf : r = f
    · rw [hrf, hlate, hlast]
      exact hf
    · have hother : r = f.other := by revert hrf; cases r <;> cases f <;> simp [Request.other]
      rw [hother, other_other] at hr
      omega

/-- **The last commit settles the calls** when its call has read what the first one committed and the
memory has its own text. Source: `app/services/config_service.py` `ConfigService.set`. Kind: L -/
theorem settled_commit_iff {f : Request} {s : ConfigStore} {text : String}
    (hkey : ∀ r, (calls r).key = key)
    (valid : ∀ r, ConfigManager.check key (calls r).value false = .ok ())
    (hdb : ConfigRepository.commit store.db key (calls f).value (calls f).changedBy
      (store.db.value? key) = .ok s.db)
    (htext : s.manager.value? key = some text) (old : Option String) :
    (commit (calls f.other) old s).2 = .ok () ∧
      (Settled key store (commit (calls f.other) old s).1 ↔
        old = some (calls f).value ∧ text = (calls f.other).value) := by
  obtain ⟨t, hcommit, hhistory, hvalue⟩ := ConfigRepository.commit_read store.db key
    (calls f).value (calls f).changedBy
  have hts : t = s.db := Except.ok.inj (hcommit.symm.trans hdb)
  rw [hts] at hhistory hvalue
  have hrow : s.db.value? key = some (calls f).value := by rw [hvalue, if_pos rfl]
  rcases old with _ | old
  · -- both calls have inserted the row: the second commit fails and leaves no history row
    have hlast : commit (calls f.other) none s =
        (⟨s.manager.store key (calls f.other).value, s.db⟩, .ok ()) := by
      unfold commit ConfigService.setInMemory
      rw [hkey, commit_of_no_read hrow _ _]
      simp only [ConfigManager.set_of_check (valid f.other)]
    rw [hlast]
    refine ⟨rfl, ?_⟩
    constructor
    · rintro ⟨-, earlier, later, hrows, -⟩
      have hlen := congrArg List.length (hhistory.symm.trans hrows)
      simp at hlen
    · rintro ⟨hnone, -⟩
      exact absurd hnone (by simp)
  · obtain ⟨t', hcommit', hvalue', hhistory'⟩ := commit_of_row hrow (calls f.other).value
      (calls f.other).changedBy old
    have hlast : commit (calls f.other) (some old) s = (⟨s.manager, t'⟩, .ok ()) := by
      unfold commit
      rw [hkey, hcommit']
    rw [hlast]
    refine ⟨rfl, ?_⟩
    constructor
    · rintro ⟨hagree, earlier, later, hrows, -, -, hold⟩
      rw [hhistory', hhistory, List.append_assoc] at hrows
      have hpair := List.append_cancel_left hrows
      simp only [List.singleton_append, List.cons.injEq, and_true] at hpair
      obtain ⟨rfl, rfl⟩ := hpair
      have hsame : old = (calls f).value := Option.some.inj hold
      refine ⟨congrArg some hsame, ?_⟩
      have hmemory : some text = t'.value? key := htext.symm.trans hagree
      rw [hvalue', hsame, Option.some.injEq] at hmemory
      rw [hmemory]
      split
      · next heq => exact heq
      · rfl
    · rintro ⟨hold, htext'⟩
      have hsame : old = (calls f).value := Option.some.inj hold
      refine ⟨?_, ?_⟩
      · show s.manager.value? key = t'.value? key
        rw [htext, hvalue', htext', hsame]
        split
        · next heq => rw [heq]
        · rfl
      · refine ⟨ConfigRepository.historyRow key (calls f).value (calls f).changedBy
            (store.db.value? key) store.db.history.fresh,
          ConfigRepository.historyRow key (calls f.other).value (calls f.other).changedBy
            (some old) s.db.history.fresh, ?_, rfl, rfl, congrArg some hsame⟩
        show t'.history.rows = _
        rw [hhistory', hhistory, List.append_assoc]
        rfl

theorem second_commits {s : State} {old : Option String} {r : Request}
    (hphase : s.phase r = .stored old) (hok : (commit (calls r) old s.store).2 = .ok ()) :
    step calls s r =
      ⟨(commit (calls r) old s.store).1, Function.update s.phase r .returned⟩ := by
  rcases hcommit : commit (calls r) old s.store with ⟨st, result⟩
  rw [hcommit] at hok
  obtain rfl : result = .ok () := hok
  simp only [step, hphase, hcommit]

/-- **Two calls on one key with valid texts**, in any order of their reads, writes to memory and
commits: both return, and memory, row and history agree afterwards exactly when the calls do not
cross. Source: `app/services/config_service.py` `ConfigService.set`. Kind: P -/
theorem settled_iff {order : List Request} (hkey : ∀ r, (calls r).key = key)
    (valid : ∀ r, ConfigManager.check key (calls r).value false = .ok ())
    (steps : ∀ r, order.count r = 3) :
    let final := run calls (begin store) order
    (∀ r, final.phase r = .returned) ∧
      (Settled key store final.store ↔ Uncrossed order calls (store.db.value? key)) := by
  intro final
  obtain ⟨f, front, hfront, rfl⟩ := exists_front (steps .a) (steps .b)
  have hready := ready_of_order store hkey valid hfront
  obtain ⟨hok, hsettled⟩ := settled_commit_iff hkey valid hready.db hready.memory
    (if front.late then some (calls f).value else store.db.value? key)
  have hlast := second_commits hready.phase hok
  have hfinal : final = step calls (run calls (begin store) front.steps) f.other := by
    show run calls (begin store) (front.steps ++ [f.other]) = _
    rw [run, List.foldl_append]
    rfl
  rw [hfinal, hlast]
  refine ⟨?_, ?_⟩
  · intro r
    by_cases hr : r = f.other
    · simp only [hr, Function.update_self]
    · have hrf : r = f := by revert hr; cases r <;> cases f <;> simp [Request.other]
      simp only [hrf, Function.update_of_ne (other_ne f).symm, hready.returned]
  · rw [uncrossed_iff hfront, hsettled]
    have htext : (calls (if front.last then f.other else f)).value = (calls f.other).value ↔
        front.last = true ∨ (calls f).value = (calls f.other).value := by
      by_cases hlast : front.last = true
      · simp [hlast]
      · simp [hlast]
    rw [htext]
    by_cases hlate : front.late = true
    · -- the second call has read after the first commit, so it also writes to memory after it
      have horder : front.last = true := last_of_late f front hfront hlate
      simp [hlate, horder]
    · simp [hlate]

end settled

/-! ## Two calls that cross -/

/-- One call sets the mode to `manual`, the other one to `auto`. Source: none: infrastructure.
Kind: D -/
def modes : Request → SetCall
  | .a => { key := "sync_mode", value := "manual" }
  | .b => { key := "sync_mode", value := "auto" }

theorem modes_valid : ∀ r, ConfigManager.check "sync_mode" (modes r).value false = .ok () := by
  intro r
  apply eq_ok_of_toOption
  cases r <;> decide +kernel

/-- The two calls do as they should when the second begins after the first has committed.
Source: `app/services/config_service.py` `ConfigService.set`. Kind: P -/
theorem settled_in_turn : Settled "sync_mode" ConfigService.start
    (run modes (begin ConfigService.start) [.a, .a, .a, .b, .b, .b]).store :=
  (settled_iff (by decide) modes_valid (by decide)).2.mpr (by
    intro r hr
    left
    revert hr
    revert r
    decide +kernel)

/-- **Two calls cross.** The row is `auto`; both calls read it, write to memory, and commit in the
other order: the memory says `auto`, the row `manual`.
Source: `app/services/config_service.py` `ConfigService.set`. Kind: C -/
theorem crossed :
    let start := ConfigService.machine.after ConfigService.start [modes .b]
    let final := run modes (begin start) [.a, .b, .a, .b, .b, .a]
    (∀ r, ConfigManager.check "sync_mode" (modes r).value false = .ok ()) ∧
      (∀ r, final.phase r = .returned) ∧
      final.store.manager.value? "sync_mode" = some "auto" ∧
      final.store.db.value? "sync_mode" = some "manual" ∧
      ¬ Settled "sync_mode" start final.store := by
  intro start final
  have hmemory : final.store.manager.value? "sync_mode" = some "auto" := by decide +kernel
  have hrow : final.store.db.value? "sync_mode" = some "manual" := by decide +kernel
  refine ⟨modes_valid, by decide +kernel, hmemory, hrow, ?_⟩
  intro h
  exact absurd (hmemory.symm.trans (h.agree.trans hrow)) (by decide)

end ConfigRace

end HaruTrade
