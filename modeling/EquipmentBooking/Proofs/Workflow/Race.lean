import EquipmentBooking.Proofs.Workflow.Courses

namespace EquipmentBooking

/-- A check was handed out by a call to begin, with the query that the call built and the bound of
the configuration. -/
def HandedOut (config : ClientConfig) (log : List (Nat × Occurrence)) (pending : PendingCheck) :
    Prop :=
  ∃ entry ∈ log, ∃ event form target, entry.2 = .called event ∧
    event.intent = .begin form target ∧ event.begun? = some pending ∧
    ClashQuery.build form.time event.before.roster.kind event.before.roster.entries =
      .ok (.ok pending.query) ∧
    pending.bound = config.bound?

theorem HandedOut.bound_eq {config : ClientConfig} {log : List (Nat × Occurrence)}
    {pending : PendingCheck} (h : HandedOut config log pending) : pending.bound = config.bound? := by
  obtain ⟨entry, -, event, form, target, -, -, -, -, hBound⟩ := h
  exact hBound

namespace Course

variable {roster : Roster} {config : ClientConfig} {s : Session}
  {log earlier later : List (Nat × Occurrence)} {t : Nat} {what : Occurrence} {trip : Trip}
  {result : Except ApiError (List ClashRecord)}

/-- No check comes from anywhere else than a call to begin. -/
theorem handedOut (h : Course (.fresh roster config) log s) {pending : PendingCheck}
    (hBegun : pending ∈ observed Occurrence.begun? log) : HandedOut config log pending := by
  obtain ⟨⟨t, what⟩, hEntry, hBegun⟩ := mem_observed.mp hBegun
  cases what with
  | called event =>
      obtain ⟨past, rest, hEarlier, hCall, -⟩ := h.split_calls hEntry
      obtain ⟨form, target, hIntent, hQuery, hBound⟩ := hCall.query_of_begun hBegun
      refine ⟨_, hEntry, event, form, target, rfl, hIntent, hBegun, hQuery, ?_⟩
      rw [hBound, hEarlier.bound_eq]
      rfl
  | _ => cases hBegun

/-- No attempt is handed out two checks. -/
theorem begun_nodup (h : Course (.fresh roster config) log s) :
    ((observed Occurrence.begun? log).map PendingCheck.attempt).Nodup := by
  have hSame : observed Occurrence.begun? log =
      (observed Occurrence.event? log).filterMap Event.begun? := by
    rw [observed, observed, List.filterMap_filterMap]
    congr 1
    funext entry
    obtain ⟨t, what⟩ := entry
    cases what <;> rfl
  rw [hSame]
  refine List.pairwise_map.mpr (h.calls.begun_sorted.2.imp fun hLt hEq => ?_)
  rw [hEq] at hLt
  exact Nat.lt_irrefl _ hLt

theorem ran_nodup (h : Course (.fresh roster config) log s) :
    ((observed Occurrence.ran? log).map PendingCheck.attempt).Nodup := by
  have hAll := (h.begun_perm.map PendingCheck.attempt).nodup_iff.mp h.begun_nodup
  rw [List.map_append] at hAll
  exact (List.nodup_append.mp hAll).2.1

/-- A run is cut off if the attempt has ended, and asks the authority otherwise. -/
theorem run_cases (h : Course (.fresh roster config) (earlier ++ (t, what) :: later) s)
    {pending : PendingCheck} (hRan : what.ran? = some pending) :
    HandedOut config earlier pending ∧
      (Ended earlier pending.attempt →
        what.query? = none ∧ what.check? = some ⟨pending.attempt, .error .cancelled⟩) ∧
      (¬ Ended earlier pending.attempt →
        what.query? = some pending.query ∧ what.check? = none) := by
  obtain ⟨before, after, hEarlier, -, hNext⟩ := h.split
  have hHanded : pending ∈ before.waiting → HandedOut config earlier pending := fun hWaits =>
    hEarlier.handedOut (hEarlier.begun_perm.mem_iff.mpr (List.mem_append_left _ hWaits))
  cases hNext with
  | cut hWaiting hWithdrawn =>
      cases hRan
      refine ⟨hHanded (by simp [hWaiting]), fun _ => ⟨rfl, rfl⟩, fun hNot => ?_⟩
      exact absurd (hEarlier.isWithdrawn_iff.mp hWithdrawn) hNot
  | ask reply hWaiting hLive =>
      cases hRan
      refine ⟨hHanded (by simp [hWaiting]), fun hEnded => ?_, fun _ => ⟨rfl, rfl⟩⟩
      exact absurd hEnded (hEarlier.live_iff.mp hLive)
  | _ => cases hRan

/-- A trip that is under way was begun at its time, for a check that was handed out. -/
theorem asked_of_underWay (h : Course (.fresh roster config) log s) (hTrip : trip ∈ s.underWay) :
    (trip.since, .asked trip) ∈ log ∧ HandedOut config log trip.pending := by
  have hStarted := h.started_perm.mem_iff.mpr (List.mem_append_left _ hTrip)
  obtain ⟨⟨t, what⟩, hEntry, hWhat⟩ := mem_observed.mp hStarted
  cases what with
  | asked asked =>
      obtain rfl : asked = trip := Option.some.inj hWhat
      refine ⟨?_, h.handedOut (h.begun_perm.mem_iff.mpr (List.mem_append_right _ ?_))⟩
      · obtain ⟨earlier, later, rfl⟩ := List.append_of_mem hEntry
        obtain ⟨before, after, -, rfl, hNext⟩ := h.split
        cases hNext
        exact hEntry
      · exact mem_observed.mpr ⟨_, hEntry, rfl⟩
  | _ => cases hWhat

/-- An answer is in time: the trip is cancelled at the time when its attempt ends, or it ends with
its wait. -/
theorem answered_cases
    (h : Course (.fresh roster config) (earlier ++ (t, .answered trip result) :: later) s) :
    (trip.since, .asked trip) ∈ earlier ∧ trip.pending.bound = config.bound? ∧
      (∀ moment ended, trip.Settles config.timeoutMs moment ended → t ≤ moment) ∧
      (Ended earlier trip.pending.attempt → result = .error .cancelled ∧
        ∀ entry ∈ earlier, entry.2.Ends trip.pending.attempt → entry.1 = t) ∧
      (¬ Ended earlier trip.pending.attempt → trip.Settles config.timeoutMs t result) := by
  obtain ⟨before, after, hEarlier, rfl, hNext⟩ := h.split
  cases hNext with
  | answer hUnderWay hPoll =>
      have hTrip : trip ∈ before.underWay := by simp [hUnderWay]
      obtain ⟨hAsked, hHanded⟩ := hEarlier.asked_of_underWay hTrip
      have hBound := hHanded.bound_eq
      obtain ⟨hWait, hEnded⟩ := hEarlier.on_time hTrip
      refine ⟨hAsked, hBound, ?_, fun hEnd => ⟨?_, hEnded⟩, fun hNot => ?_⟩
      · intro moment ended hSettles
        obtain ⟨wait, hSettled, rfl⟩ := (Trip.settles_iff hBound).mp hSettles
        exact hWait wait ended hSettled
      · rw [hEarlier.isWithdrawn_iff.mpr hEnd] at hPoll
        cases hPoll
        rfl
      · rw [hEarlier.live_iff.mpr hNot] at hPoll
        exact (Trip.settles_iff hBound).mpr (Trip.settled?_of_poll? hPoll hWait)

/-- The end of an attempt is decisive if it comes before the wait is over, and too late if it comes
after that. -/
theorem answered_of_ends (h : Course (.fresh roster config) log s)
    (hAnswered : (t, .answered trip result) ∈ log) {entry : Nat × Occurrence} (hEntry : entry ∈ log)
    (hEnds : entry.2.Ends trip.pending.attempt) :
    ((∀ moment ended, trip.Settles config.timeoutMs moment ended → entry.1 < moment) →
        t = entry.1 ∧ result = .error .cancelled) ∧
      ∀ moment ended, trip.Settles config.timeoutMs moment ended → moment < entry.1 →
        t = moment ∧ result = ended := by
  obtain ⟨earlier, later, rfl⟩ := List.append_of_mem hAnswered
  obtain ⟨-, -, hInTime, hCancelled, hSettled⟩ := h.answered_cases
  rcases List.mem_append.mp hEntry with hEarlier | hRest
  · obtain ⟨hResult, hWhen⟩ := hCancelled ⟨entry, hEarlier, hEnds⟩
    rw [hWhen entry hEarlier hEnds]
    refine ⟨fun _ => ⟨rfl, hResult⟩, fun moment ended hSettles hLate => ?_⟩
    exact absurd (hInTime moment ended hSettles) (Nat.not_le.mpr hLate)
  · rcases List.mem_cons.mp hRest with rfl | hLater
    · exact hEnds.elim
    · -- What is logged later is not earlier, and the attempt ends only once.
      have hOrder : t ≤ entry.1 :=
        List.rel_of_pairwise_cons (List.pairwise_append.mp h.sorted.2).2.1 hLater
      have hNot : ¬ Ended earlier trip.pending.attempt := by
        rintro ⟨first, hFirst, hAlready⟩
        exact (List.pairwise_append.mp h.ended_once).2.2 first hFirst entry hRest _ hAlready hEnds
      have hNow := hSettled hNot
      refine ⟨fun hBefore => ?_, fun moment ended hSettles _ => hNow.unique hSettles⟩
      exact absurd hOrder (Nat.not_le.mpr (hBefore t result hNow))

/-- The result of a trip is what the round trip computes from its reply, its bound and the time at
which its own attempt ends, unless that is the very time at which the wait is over. -/
theorem run?_of_answered (h : Course (.fresh roster config) log s)
    (hAnswered : (t, .answered trip result) ∈ log) :
    ((∀ entry ∈ log, ¬ entry.2.Ends trip.pending.attempt) →
        trip.pending.run? false none trip.reply = some ⟨true, result⟩) ∧
      ∀ entry ∈ log, entry.2.Ends trip.pending.attempt →
        (∀ moment ended, trip.Settles config.timeoutMs moment ended → entry.1 ≠ moment) →
        trip.pending.run? false (some (entry.1 - trip.since)) trip.reply = some ⟨true, result⟩ := by
  obtain ⟨earlier, later, rfl⟩ := List.append_of_mem hAnswered
  obtain ⟨hAsked, hBound, -, -, hSettled⟩ := h.answered_cases
  have hSince : trip.since ≤ t :=
    (List.pairwise_append.mp h.sorted.2).2.2 _ hAsked _ List.mem_cons_self
  constructor
  · intro hNever
    have hNow := hSettled fun ⟨entry, hEntry, hEnds⟩ =>
      hNever entry (List.mem_append_left _ hEntry) hEnds
    obtain ⟨wait, hWait, -⟩ := (Trip.settles_iff hBound).mp hNow
    simp [PendingCheck.run?, hWait]
  · intro entry hEntry hEnds hNoTie
    obtain ⟨hFirst, hLast⟩ := h.answered_of_ends hAnswered hEntry hEnds
    cases hWait : trip.pending.settled? trip.reply with
    | none =>
        obtain ⟨-, rfl⟩ := hFirst fun moment ended hSettles => by
          obtain ⟨wait, hSome, -⟩ := (Trip.settles_iff hBound).mp hSettles
          rw [hWait] at hSome
          cases hSome
        simp [PendingCheck.run?, hWait]
    | some ending =>
        obtain ⟨wait, ended⟩ := ending
        have hSettles : trip.Settles config.timeoutMs (trip.since + wait) ended :=
          (Trip.settles_iff hBound).mpr ⟨wait, hWait, rfl⟩
        rcases Nat.lt_or_gt_of_ne (hNoTie _ _ hSettles) with hBefore | hAfter
        · obtain ⟨rfl, rfl⟩ := hFirst fun moment other hOther => by
            rw [(hOther.unique hSettles).1]
            exact hBefore
          have hEarly : entry.1 - trip.since < wait := by omega
          simp [PendingCheck.run?, hWait, hEarly]
        · obtain ⟨-, rfl⟩ := hLast _ _ hSettles hAfter
          have hLate : ¬ entry.1 - trip.since < wait := by omega
          simp [PendingCheck.run?, hWait, hLate]

theorem spent_of_cancels (h : Course (.fresh roster config) log s) {event : Event} {id : AttemptId}
    (hEvent : (t, .called event) ∈ log) (hCancels : event.Cancels id) : s.workflow.Spent id := by
  obtain ⟨past, rest, hEarlier, hCall, hLater⟩ := h.split_calls hEvent
  have hSound := hEarlier.sound (Workflow.sound_fresh roster config.bound?)
  exact (hLater.spent (hCall.spent_of_ends hSound (.inl hCancels))).1

/-- A check that waits can be run. -/
theorem runnable (h : Course (.fresh roster config) log s) {pending : PendingCheck}
    (hWaits : pending ∈ s.waiting) :
    (Ended log pending.attempt → ∃ after, s.Next (.cut pending) after) ∧
      (¬ Ended log pending.attempt →
        ∀ reply, ∃ after, s.Next (.asked ⟨pending, s.now, reply⟩) after) := by
  obtain ⟨front, back, hWaiting⟩ := List.append_of_mem hWaits
  rw [← h.isWithdrawn_iff, Bool.not_eq_true]
  exact ⟨fun hWithdrawn => ⟨_, .cut hWaiting hWithdrawn⟩,
    fun hLive reply => ⟨_, .ask reply hWaiting hLive⟩⟩

/-- A trip whose attempt has ended, or whose wait is over, can be answered. -/
theorem answerable (h : Course (.fresh roster config) log s) (hTrip : trip ∈ s.underWay)
    (hOver : Ended log trip.pending.attempt ∨
      ∃ ended, trip.Settles config.timeoutMs s.now ended) :
    ∃ result after, s.Next (.answered trip result) after := by
  obtain ⟨front, back, hUnderWay⟩ := List.append_of_mem hTrip
  have hBound := (h.asked_of_underWay hTrip).2.bound_eq
  have hPoll : ∃ result,
      trip.poll? (s.isWithdrawn trip.pending.attempt) s.now = some result := by
    cases hLive : s.isWithdrawn trip.pending.attempt with
    | true => exact ⟨_, rfl⟩
    | false =>
        obtain ⟨ended, hSettles⟩ := hOver.resolve_left (h.live_iff.mp hLive)
        obtain ⟨wait, hSettled, hNow⟩ := (Trip.settles_iff hBound).mp hSettles
        rw [hNow]
        exact ⟨ended, Trip.poll?_of_settled? hSettled⟩
  obtain ⟨result, hResult⟩ := hPoll
  exact ⟨result, _, .answer hUnderWay hResult⟩

/-- Time passes while no trip can be answered. -/
theorem passes (h : Course (.fresh roster config) log s)
    (hQuiet : ∀ trip ∈ s.underWay, ¬ Ended log trip.pending.attempt ∧
      ∀ ended, ¬ trip.Settles config.timeoutMs s.now ended) :
    Course (.fresh roster config) log { s with now := s.now + 1 } := by
  refine h.waits (Nat.lt_succ_self _) fun trip hTrip t hFrom hBefore => ?_
  obtain rfl : t = s.now := Nat.le_antisymm (Nat.le_of_lt_succ hBefore) hFrom
  obtain ⟨hGoes, hWaits⟩ := hQuiet trip hTrip
  have hBound := (h.asked_of_underWay hTrip).2.bound_eq
  rw [h.live_iff.mpr hGoes, Trip.poll?_eq_none_iff]
  intro wait ended hSettled
  refine Nat.lt_of_le_of_ne ((h.on_time hTrip).1 wait ended hSettled) fun hNow => ?_
  exact hWaits ended ((Trip.settles_iff hBound).mpr ⟨wait, hSettled, hNow⟩)

end Course

/-- How the race of reply, limit and end of the attempt is decided for the checks of a course, as
it stands. -/
structure RaceDecided (config : ClientConfig) (log : List (Nat × Occurrence)) (s : Session) :
    Prop where
  /-- An attempt is handed out one check. -/
  begun_once : ((observed Occurrence.begun? log).map PendingCheck.attempt).Nodup
  /-- The check is run at most once. -/
  ran_once : ((observed Occurrence.ran? log).map PendingCheck.attempt).Nodup
  /-- Until then it waits, and can be run. -/
  waiting : ∀ pending ∈ observed Occurrence.begun? log,
    pending ∈ observed Occurrence.ran? log ∨
      pending ∈ s.waiting ∧
        (Ended log pending.attempt → ∃ after, s.Next (.cut pending) after) ∧
        (¬ Ended log pending.attempt →
          ∀ reply, ∃ after, s.Next (.asked ⟨pending, s.now, reply⟩) after)
  /-- If the attempt ended before, the run comes to a cancellation and the authority is not asked.
  Otherwise it is asked the query that was built when the attempt began. -/
  run : ∀ earlier t what later pending, log = earlier ++ (t, what) :: later →
    what.ran? = some pending →
      HandedOut config earlier pending ∧
        (Ended earlier pending.attempt →
          what.query? = none ∧ what.check? = some ⟨pending.attempt, .error .cancelled⟩) ∧
        (¬ Ended earlier pending.attempt →
          what.query? = some pending.query ∧ what.check? = none)
  /-- A trip is under way until it is answered, which it is once. -/
  trips : (observed Occurrence.started? log).Perm (s.underWay ++ observed Occurrence.ended? log)
  /-- If the attempt ended before the answer, that is a cancellation. Otherwise it is the reply, or
  the time-out, at its time. -/
  answered : ∀ earlier t trip result later, log = earlier ++ (t, .answered trip result) :: later →
    (trip.since, .asked trip) ∈ earlier ∧
      (Ended earlier trip.pending.attempt → result = .error .cancelled) ∧
      (¬ Ended earlier trip.pending.attempt → trip.Settles config.timeoutMs t result)
  /-- An end strictly before the reply and the limit is decisive, one strictly after the earlier of
  them comes too late. -/
  ends : ∀ t trip result entry, (t, .answered trip result) ∈ log → entry ∈ log →
    entry.2.Ends trip.pending.attempt →
      ((∀ moment ended, trip.Settles config.timeoutMs moment ended → entry.1 < moment) →
        t = entry.1 ∧ result = .error .cancelled) ∧
      ∀ moment ended, trip.Settles config.timeoutMs moment ended → moment < entry.1 →
        t = moment ∧ result = ended
  /-- No trip is under way for longer than that. -/
  on_time : ∀ trip ∈ s.underWay,
    (∀ moment ended, trip.Settles config.timeoutMs moment ended → s.now ≤ moment) ∧
      ∀ entry ∈ log, entry.2.Ends trip.pending.attempt → entry.1 = s.now
  /-- Once its attempt has ended or its wait is over, it can be answered. -/
  answerable : ∀ trip ∈ s.underWay,
    (Ended log trip.pending.attempt ∨ ∃ ended, trip.Settles config.timeoutMs s.now ended) →
      ∃ result after, s.Next (.answered trip result) after
  /-- Without ties, the result is what the round trip computes from the reply, the bound and the end
  of the attempt itself. Other attempts play no part in it. -/
  own : ∀ t trip result, (t, .answered trip result) ∈ log →
    ((∀ entry ∈ log, ¬ entry.2.Ends trip.pending.attempt) →
        trip.pending.run? false none trip.reply = some ⟨true, result⟩) ∧
      ∀ entry ∈ log, entry.2.Ends trip.pending.attempt →
        (∀ moment ended, trip.Settles config.timeoutMs moment ended → entry.1 ≠ moment) →
        trip.pending.run? false (some (entry.1 - trip.since)) trip.reply = some ⟨true, result⟩
  /-- What ends an attempt leaves the checks and trips of the others as they are. -/
  others : ∀ what after id, s.Next what after → what.Ends id →
    after.waiting = s.waiting ∧ after.underWay = s.underWay ∧
      ∀ other, other ≠ id → after.isWithdrawn other = s.isWithdrawn other
  /-- Once an attempt was given up, completing any check for it is stale and releases nothing. -/
  stale : ∀ t event id, (t, .called event) ∈ log → event.Cancels id → ∀ result submitter,
    (s.workflow.complete ⟨id, result⟩ submitter).answer = .error (.stale id) ∧
      (s.workflow.complete ⟨id, result⟩ submitter).released = none

/-- Whatever happens in a session and in whatever order, the race is decided for every check that is
handed out. Time passes unless there is a trip to be answered. -/
theorem Course.race_decided {roster : Roster} {config : ClientConfig}
    {log : List (Nat × Occurrence)} {s : Session} (h : Course (.fresh roster config) log s) :
    RaceDecided config log s ∧
      ((∀ trip ∈ s.underWay, ¬ Ended log trip.pending.attempt ∧
          ∀ ended, ¬ trip.Settles config.timeoutMs s.now ended) →
        Course (.fresh roster config) log { s with now := s.now + 1 }) := by
  refine ⟨?_, h.passes⟩
  constructor
  case begun_once => exact h.begun_nodup
  case ran_once => exact h.ran_nodup
  case waiting =>
    intro pending hBegun
    rcases List.mem_append.mp (h.begun_perm.mem_iff.mp hBegun) with hWaits | hRan
    · exact .inr ⟨hWaits, h.runnable hWaits⟩
    · exact .inl hRan
  case run =>
    rintro earlier t what later pending rfl hRan
    exact h.run_cases hRan
  case trips => exact h.started_perm
  case answered =>
    rintro earlier t trip result later rfl
    obtain ⟨hAsked, -, -, hCancelled, hSettled⟩ := h.answered_cases
    exact ⟨hAsked, fun hEnded => (hCancelled hEnded).1, hSettled⟩
  case ends =>
    intro t trip result entry hAnswered hEntry hEnds
    exact h.answered_of_ends hAnswered hEntry hEnds
  case on_time =>
    intro trip hTrip
    obtain ⟨hWait, hEnded⟩ := h.on_time hTrip
    refine ⟨fun moment ended hSettles => ?_, hEnded⟩
    obtain ⟨wait, hSettled, rfl⟩ :=
      (Trip.settles_iff (h.asked_of_underWay hTrip).2.bound_eq).mp hSettles
    exact hWait wait ended hSettled
  case answerable => exact fun trip hTrip hOver => h.answerable hTrip hOver
  case own => exact fun t trip result hAnswered => h.run?_of_answered hAnswered
  case others => exact fun what after id hNext hEnds => hNext.frame_of_ends h.sound hEnds
  case stale =>
    intro t event id hEvent hCancels
    exact (h.spent_of_cancels hEvent hCancels).complete_eq

/-- An attempt is begun and given up. -/
private theorem begun_and_given_up : ∃ first second pending,
    (Workflow.ofConfig sampleRoster {}).perform (.begin sampleForm ⟨"first"⟩) = .ok (some first) ∧
      first.after.perform .cancel = .ok (some second) ∧ first.begun? = some pending ∧
      second.begun? = none ∧ pending.attempt = ⟨1⟩ ∧ pending.bound = some 30000 ∧
      first.after.withdrawn = [] ∧ second.after.withdrawn = [⟨1⟩] ∧ second.Cancels ⟨1⟩ :=
  ⟨_, _, _, rfl, rfl, rfl, rfl, rfl, rfl, rfl, rfl, rfl, rfl⟩

/-- An attempt is given up while the authority is being asked, two milliseconds before it answers. -/
theorem race_decided_when_given_up :
    ∃ log s trip, Course (.fresh sampleRoster {}) log s ∧
      (3, .answered trip (.error .cancelled)) ∈ log ∧ trip.reply = ⟨some 5, .ok []⟩ ∧
      trip.pending.run? false (some 3) trip.reply = some ⟨true, .error .cancelled⟩ ∧
      (s.workflow.complete ⟨⟨1⟩, .ok []⟩ (fun _ => .error .cancelled)).answer =
        .error (.stale ⟨1⟩) := by
  obtain ⟨first, second, pending, hBegin, hCancel, hBegun, hNone, hAttempt, hBound, hLive,
    hWithdrawn, hCancels⟩ := begun_and_given_up
  let trip : Trip := ⟨pending, 0, ⟨some 5, .ok []⟩⟩
  have hFirst : Course (.fresh sampleRoster {}) [(0, .called first)]
      { workflow := first.after, waiting := [pending] } := by
    have hNext : (Session.fresh sampleRoster {}).Next (.called first) _ := .call rfl rfl hBegin
    simpa [Session.fresh, hBegun] using Course.begins.goesOn hNext
  have hAsked : Course (.fresh sampleRoster {}) [(0, .called first), (0, .asked trip)]
      { workflow := first.after, underWay := [trip] } :=
    hFirst.goesOn (@Session.Next.ask _ [] [] pending ⟨some 5, .ok []⟩ rfl
      (by simp [Session.isWithdrawn, hLive]))
  have hWaited : Course (.fresh sampleRoster {}) [(0, .called first), (0, .asked trip)]
      { workflow := first.after, now := 3, underWay := [trip] } := by
    refine hAsked.waits (Nat.zero_lt_succ 2) fun member hMember t _ hBefore => ?_
    obtain rfl := List.mem_singleton.mp hMember
    have hEarly : ¬ 5 ≤ t := by omega
    have hWithin : ¬ 30000 ≤ t := by omega
    simp [trip, Trip.poll?, Session.isWithdrawn, hLive, hBound, hEarly, hWithin]
  have hGivenUp : Course (.fresh sampleRoster {})
      [(0, .called first), (0, .asked trip), (3, .called second)]
      { workflow := second.after, now := 3, underWay := [trip] } := by
    simpa [hNone] using hWaited.goesOn (.call rfl rfl hCancel)
  have hCourse : Course (.fresh sampleRoster {})
      [(0, .called first), (0, .asked trip), (3, .called second),
        (3, .answered trip (.error .cancelled))]
      { workflow := second.after, now := 3 } :=
    hGivenUp.goesOn (@Session.Next.answer _ [] [] _ _ rfl
      (by simp [trip, Trip.poll?, Session.isWithdrawn, hWithdrawn, hAttempt]))
  obtain ⟨hDecided, -⟩ := Course.race_decided hCourse
  have hEnds : Occurrence.Ends (.called second) trip.pending.attempt := by
    rw [hAttempt]
    exact .inl hCancels
  refine ⟨_, _, trip, hCourse, by simp, rfl, ?_, ?_⟩
  · refine (hDecided.own 3 trip _ (by simp)).2 (3, .called second) (by simp) hEnds ?_
    intro moment ended hSettles
    cases hSettles with
    | replied hReply =>
        cases hReply
        exact Nat.ne_of_lt (by decide : 3 < 0 + 5)
    | timedOut => exact Nat.ne_of_lt (by decide : 3 < 0 + 30000)
  · exact (hDecided.stale 3 second ⟨1⟩ (by simp) hCancels _ _).1

end EquipmentBooking
