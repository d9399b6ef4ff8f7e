import HaruTrade.Integrations.Schema

/-!
# The broker's clock

`TimeSyncService` keeps the difference between the broker's clock and the local one, and
`alignedNow` adds it to the local clock. The broker's clock is read by
`KiwoomOrderGateway.getServerTime`.

* `alignedNow_sync` — at the instant of a synchronisation the aligned clock shows what was read.
* `alignedNow_ne_wallClock` — which is never the broker's wall-clock time in Seoul: the time is taken
  for UTC and moved by nine hours.
* `syncIfDuePreMarket` — the synchronisation before the market opens, and `syncIfDuePreMarket_of_due`,
  `syncIfDuePreMarket_of_not_due`: when it is not due it leaves the service as it is.
-/

namespace HaruTrade

namespace KiwoomOrderGateway

/-- Where a reply may hold the time. Source: `app/integrations/kiwoom/gateway.py`
`KiwoomOrderGateway.get_server_time`. Kind: D -/
def serverTimeKeys : List String := ["server_time", "trd_tm", "stck_cntg_hour", "time"]

/-- **The broker's time** in a reply; `utcNow` is what `datetime.now(timezone.utc)` reads.
Source: `app/integrations/kiwoom/gateway.py` `KiwoomOrderGateway.get_server_time`. Kind: D -/
def getServerTime (extended : String → Option PyDatetime) (data : ReplyData) (utcNow : DateTime) :
    PyDatetime :=
  let timestamp := data.firstNonEmpty serverTimeKeys
  match parseDtAny extended timestamp with
  | some parsed => parsed
  | none =>
    let today := utcNow.compactDate
    match buildDatetime today (some (String.ofList today)) timestamp with
    | some fromParts => fromParts
    | none => ⟨utcNow, some 0⟩

end KiwoomOrderGateway

/-- `server_timezone`: Seoul is nine hours ahead of UTC. Source: `app/core/time_sync.py`
`TimeSyncService.__init__`. Kind: D -/
def seoulOffset : ℤ := 9 * 3600

/-- The instant of a `datetime`, in microseconds of UTC; one without a time zone is taken for a time
of the given zone. Source: `app/core/time_sync.py` `TimeSyncService.sync_offset_seconds`. Kind: D -/
def PyDatetime.instant (dt : PyDatetime) (zone : ℤ) : ℤ :=
  dt.wall.toMicros - dt.utcOffset.getD zone * 1000000

/-- The wall-clock reading of an instant in a time zone, in microseconds.
Source: `app/core/time_sync.py` `TimeSyncService.aligned_now`. Kind: D -/
def astimezone (instant zone : ℤ) : ℤ := instant + zone * 1000000

/-- The state of the service; times are microseconds, and the days count from the same beginning.
Source: `app/core/time_sync.py` `TimeSyncService.__init__`. Kind: D -/
structure TimeSyncService where
  zone : ℤ := seoulOffset
  offset : ℤ := 0
  lastSyncedDate : Option ℤ := none
  lastAttemptAt : Option ℤ := none
  deriving DecidableEq, Repr

/-- When the clock is synchronised before the market opens, and how long an attempt is not repeated.
Source: `app/core/time_sync.py` `TimeSyncService.__init__`. Kind: D -/
structure PreMarket where
  syncHour : ℤ := 7
  syncMinute : ℤ := 50
  windowMinutes : ℤ := 10
  minRetrySeconds : ℤ := 30

namespace PreMarket

variable (cfg : PreMarket)

/-- `max(min_retry_seconds, 1)`, in microseconds. Source: `app/core/time_sync.py`
`TimeSyncService.__init__`. Kind: D -/
def minRetry : ℤ := max cfg.minRetrySeconds 1 * 1000000

theorem minRetry_pos : 0 < cfg.minRetry := by
  rw [minRetry]
  omega

/-- Source: `app/core/time_sync.py` `TimeSyncService._in_pre_market_sync_window`. Kind: D -/
def inSyncWindow (nowLocal : ℤ) : Bool :=
  let currentMinutes := nowLocal / 60000000 % 1440
  let start := cfg.syncHour * 60 + cfg.syncMinute
  start ≤ currentMinutes && currentMinutes < start + cfg.windowMinutes

end PreMarket

/-- What a synchronisation reads: the local clock, the broker's reply, and the local clock after it.
Source: `app/core/time_sync.py` `TimeSyncService.sync_if_due_pre_market`. Kind: D -/
structure ClockReadings where
  now : ℤ
  reply : Except Exn PyDatetime
  later : ℤ

/-- The date of a wall-clock reading. Source: `app/core/time_sync.py`
`TimeSyncService.sync_offset_seconds`. Kind: D -/
def localDate (nowLocal : ℤ) : ℤ := nowLocal / 86400000000

namespace TimeSyncService

variable (s : TimeSyncService)

/-- Take over the broker's time; `now` is the instant that `now_fn` reads.
Source: `app/core/time_sync.py` `TimeSyncService.sync_offset_seconds`. Kind: D -/
def syncOffsetSeconds (serverNow : PyDatetime) (now : ℤ) : TimeSyncService :=
  let localNow := astimezone now s.zone
  let server := astimezone (serverNow.instant s.zone) s.zone
  { s with
    offset := server - localNow
    lastSyncedDate := some (localNow / 86400000000)
    lastAttemptAt := some localNow }

/-- The aligned wall-clock time, in microseconds. Source: `app/core/time_sync.py`
`TimeSyncService.aligned_now`. Kind: D -/
def alignedNow (now : ℤ) : ℤ := astimezone now s.zone + s.offset

/-- Is the last attempt too recent? Source: `app/core/time_sync.py`
`TimeSyncService.sync_if_due_pre_market`. Kind: D -/
def waits (cfg : PreMarket) (nowLocal : ℤ) : Bool :=
  match s.lastAttemptAt with
  | none => false
  | some last => nowLocal - last < cfg.minRetry

/-- **The synchronisation before the market opens.** Source: `app/core/time_sync.py`
`TimeSyncService.sync_if_due_pre_market`. Kind: D -/
def syncIfDuePreMarket (cfg : PreMarket) (r : ClockReadings) :
    Except Exn (Option ℤ) × TimeSyncService :=
  let nowLocal := astimezone r.now s.zone
  if !cfg.inSyncWindow nowLocal then (.ok none, s)
  else if s.lastSyncedDate = some (localDate nowLocal) then (.ok (some s.offset), s)
  else if s.waits cfg nowLocal then (.ok none, s)
  else
    let attempting := { s with lastAttemptAt := some nowLocal }
    match r.reply with
    | .error x => (.error x, attempting)
    | .ok serverNow =>
      let synced := attempting.syncOffsetSeconds serverNow r.later
      (.ok (some synced.offset), synced)

/-- Is the broker's clock read? Source: `app/core/time_sync.py`
`TimeSyncService.sync_if_due_pre_market`. Kind: D -/
def due (cfg : PreMarket) (now : ℤ) : Bool :=
  let nowLocal := astimezone now s.zone
  cfg.inSyncWindow nowLocal && s.lastSyncedDate ≠ some (localDate nowLocal) && !s.waits cfg nowLocal

variable {s}

theorem due_iff {cfg : PreMarket} {now : ℤ} :
    s.due cfg now = true ↔ cfg.inSyncWindow (astimezone now s.zone) = true ∧
      s.lastSyncedDate ≠ some (localDate (astimezone now s.zone)) ∧
      ∀ last, s.lastAttemptAt = some last → last + cfg.minRetry ≤ astimezone now s.zone := by
  rw [due]
  simp only [Bool.and_eq_true, Bool.not_eq_true', decide_eq_true_eq, and_assoc, ne_eq]
  refine and_congr_right fun _ => and_congr_right fun _ => ?_
  rw [waits]
  cases s.lastAttemptAt with
  | none => simp
  | some last => simp [add_comm last, le_sub_iff_add_le]

/-- When it is not due, the synchronisation changes nothing and does not raise.
Source: `app/core/time_sync.py` `TimeSyncService.sync_if_due_pre_market`. Kind: L -/
theorem syncIfDuePreMarket_of_not_due {cfg : PreMarket} {r : ClockReadings}
    (h : s.due cfg r.now = false) :
    ∃ offset, s.syncIfDuePreMarket cfg r = (.ok offset, s) := by
  rw [syncIfDuePreMarket]
  by_cases hwindow : cfg.inSyncWindow (astimezone r.now s.zone) = true
  · rw [if_neg (by simp [hwindow])]
    by_cases hsynced : s.lastSyncedDate = some (localDate (astimezone r.now s.zone))
    · exact ⟨some s.offset, if_pos hsynced⟩
    · rw [if_neg hsynced]
      have hwaits : s.waits cfg (astimezone r.now s.zone) = true := by
        simpa [due, hwindow, hsynced] using h
      exact ⟨none, if_pos hwaits⟩
  · exact ⟨none, if_pos (by simpa using hwindow)⟩

/-- When it is due, the reply decides. Source: `app/core/time_sync.py`
`TimeSyncService.sync_if_due_pre_market`. Kind: L -/
theorem syncIfDuePreMarket_of_due {cfg : PreMarket} {r : ClockReadings}
    (h : s.due cfg r.now = true) :
    s.syncIfDuePreMarket cfg r = match r.reply with
      | .error x => (.error x, { s with lastAttemptAt := some (astimezone r.now s.zone) })
      | .ok serverNow => (.ok (some (s.syncOffsetSeconds serverNow r.later).offset),
          s.syncOffsetSeconds serverNow r.later) := by
  rw [due] at h
  simp only [Bool.and_eq_true, Bool.not_eq_true', decide_eq_true_eq, and_assoc] at h
  obtain ⟨hwindow, hsynced, hwaits⟩ := h
  rw [syncIfDuePreMarket, if_neg (by simp [hwindow]), if_neg hsynced, if_neg (by simp [hwaits])]
  cases r.reply <;> rfl

variable {extended : String → Option PyDatetime}

/-- **At the instant of a synchronisation the aligned clock shows the time that was read**, whatever
the local clock says. Source: `app/core/time_sync.py` `TimeSyncService`. Kind: L -/
theorem alignedNow_sync {serverNow : PyDatetime} {now : ℤ} :
    (s.syncOffsetSeconds serverNow now).alignedNow now =
      astimezone (serverNow.instant s.zone) s.zone := by
  show astimezone now s.zone +
    (astimezone (serverNow.instant s.zone) s.zone - astimezone now s.zone) = _
  omega

/-- The two forms in which the broker reports its wall-clock time: `HHMMSS` and `YYYYMMDDHHMMSS`.
Source: `tests/fixtures/kiwoom/stkinfo_hhmmss.json`. Kind: D -/
def reports (w : DateTime) : List String :=
  [String.ofList w.compactTime, String.ofList (w.compactDate ++ w.compactTime)]

/-- **A reported time is read as UTC**: of the local UTC date for `HHMMSS`, of its own date
otherwise. Source: `app/integrations/kiwoom/gateway.py` `KiwoomOrderGateway.get_server_time`.
Kind: L -/
theorem getServerTime_reported (extended : String → Option PyDatetime) {data : ReplyData}
    {w : DateTime} (utcNow : DateTime) {text : String}
    (hdata : data.firstNonEmpty KiwoomOrderGateway.serverTimeKeys = some text)
    (htext : text ∈ reports w) :
    ∃ day : DateTime, KiwoomOrderGateway.getServerTime extended data utcNow =
      ⟨day.withTime w, some 0⟩ := by
  have htime : ∀ c ∈ w.compactTime, c.isDigit = true := fun c => w.isDigit_of_mem_compactTime
  simp only [KiwoomOrderGateway.getServerTime, hdata]
  simp only [reports, List.mem_cons, List.not_mem_nil, or_false] at htext
  rcases htext with rfl | rfl
  · -- six digits: the date of the local clock is put in front
    refine ⟨utcNow, ?_⟩
    simp only [parseDtAny_six htime w.length_compactTime, buildDatetime_compact utcNow w]
  · refine ⟨w, ?_⟩
    simp only [parseDtAny_compact w w]

/-- **The aligned clock never shows the broker's time.** Whenever the broker reports its wall-clock
time in Seoul, in either form, the aligned clock read at the instant of the synchronisation is not
that time to the second, whatever the two readings of the local clock are.
Source: `app/core/time_sync.py` `TimeSyncService.aligned_now`. Kind: P -/
theorem alignedNow_ne_wallClock (extended : String → Option PyDatetime) (data : ReplyData)
    (w utcNow : DateTime) (now : ℤ) (text : String)
    (hdata : data.firstNonEmpty KiwoomOrderGateway.serverTimeKeys = some text)
    (htext : text ∈ reports w) :
    (({} : TimeSyncService).syncOffsetSeconds
        (KiwoomOrderGateway.getServerTime extended data utcNow) now).alignedNow now / 1000000 ≠
      w.toMicros / 1000000 := by
  obtain ⟨day, hread⟩ := getServerTime_reported extended utcNow hdata htext
  have haligned : (({} : TimeSyncService).syncOffsetSeconds
      (KiwoomOrderGateway.getServerTime extended data utcNow) now).alignedNow now / 1000000 =
        (day.withTime w).toMicros / 1000000 + 32400 := by
    rw [alignedNow_sync, hread]
    show ((day.withTime w).toMicros - 0 * 1000000 + 9 * 3600 * 1000000) / 1000000 = _
    omega
  -- the two times of day are nine hours apart
  have hday := (day.withTime w).toMicros_time
  have hw := w.toMicros_time
  rw [DateTime.secondOfDay_withTime] at hday
  intro hsame
  rw [haligned] at hsame
  omega

/-- Nine in the morning of the second of March 2026. Source: none: infrastructure. Kind: D -/
def marketOpen : DateTime where
  year := 2026
  month := 3
  day := 2
  hour := 9
  valid := by decide

/-- The same instant on a local clock without error, in UTC. Source: none: infrastructure. Kind: D -/
def marketOpenUtc : DateTime where
  year := 2026
  month := 3
  day := 2
  valid := by decide

/-- The reply that reports `marketOpen`. Source: `tests/fixtures/kiwoom/stkinfo_hhmmss.json`.
Kind: D -/
def marketOpenReply : ReplyData where
  fields := []
  nested := [("output", [("stck_cntg_hour", "090000")])]

/-- With an exact local clock, at nine in the morning, the aligned clock shows six in the evening.
Source: `app/core/time_sync.py` `TimeSyncService.aligned_now`. Kind: P -/
theorem alignedNow_at_marketOpen :
    (({} : TimeSyncService).syncOffsetSeconds (KiwoomOrderGateway.getServerTime (fun _ => none)
        marketOpenReply marketOpenUtc) marketOpenUtc.toMicros).alignedNow marketOpenUtc.toMicros =
      marketOpen.toMicros + 9 * 3600 * 1000000 := by
  decide +kernel

/-- The statement about the aligned clock at `marketOpen`. Source: `app/core/time_sync.py`
`TimeSyncService.aligned_now`. Kind: P -/
theorem alignedNow_ne_marketOpen :
    (({} : TimeSyncService).syncOffsetSeconds (KiwoomOrderGateway.getServerTime (fun _ => none)
        marketOpenReply marketOpenUtc) marketOpenUtc.toMicros).alignedNow marketOpenUtc.toMicros /
          1000000 ≠
      marketOpen.toMicros / 1000000 :=
  alignedNow_ne_wallClock (fun _ => none) marketOpenReply marketOpen marketOpenUtc
    marketOpenUtc.toMicros "090000" (by decide +kernel) (by decide +kernel)

end TimeSyncService

end HaruTrade
