import MacpRuntime.Kernel.Deadline

/-!
Time during which a session was open, along a run with non-decreasing clocks: the pauses since some
instant form a timeline, the banked total has grown by their length, and the time spent open is what
remains (`Elapsed`, kept by every such run: `Elapsed.run`).
-/

namespace MacpRuntime

open Timeline

variable {mode : Mode}

/-! ### Clocks -/

/-- The clocks of a run, in order. -/
def clocks (ops : List Op) : List ℤ := ops.filterMap fun op => op.clock.map Int64.toInt

/-- The clock after a call that was made after `last`. -/
def Op.clockFrom (op : Op) (last : ℤ) : ℤ := (op.clock.map Int64.toInt).getD last

/-- The clock after a run that began after `last`. -/
def lastClock (last : ℤ) (ops : List Op) : ℤ := ops.foldl (fun last op => op.clockFrom last) last

/-- The time a run spends with the session open: between two clocks the session is as the
call at the first of them left it. -/
def openTime (mode : Mode) : Session → ℤ → List Op → ℤ
  | _, _, [] => 0
  | s, last, op :: ops =>
    (if s.state = .Open then op.clockFrom last - last else 0)
      + openTime mode (op.apply mode s) (op.clockFrom last) ops

lemma openTime_append (s : Session) (last : ℤ) (ops ops' : List Op) :
    openTime mode s last (ops ++ ops')
      = openTime mode s last ops + openTime mode (run mode s ops) (lastClock last ops) ops' := by
  induction ops generalizing s last with
  | nil => simp [openTime, lastClock]
  | cons op ops ih =>
    simp only [List.cons_append, openTime, run_cons, ih]
    rw [add_assoc]
    rfl

/-- Non-decreasing clocks, one call at a time. -/
lemma pairwise_clocks_cons {last : ℤ} {op : Op} {ops : List Op}
    (h : (last :: clocks (op :: ops)).Pairwise (· ≤ ·)) :
    last ≤ op.clockFrom last ∧ (op.clockFrom last :: clocks ops).Pairwise (· ≤ ·) := by
  cases hc : op.clock with
  | none =>
    simp only [clocks, List.filterMap_cons, hc, Option.map_none, Op.clockFrom,
      Option.getD_none] at h ⊢
    exact ⟨le_rfl, h⟩
  | some c =>
    simp only [clocks, List.filterMap_cons, hc, Option.map_some, Op.clockFrom,
      Option.getD_some] at h ⊢
    exact ⟨List.rel_of_pairwise_cons h List.mem_cons_self, h.of_cons⟩

/-- Non-decreasing clocks go on from the last one. -/
lemma pairwise_lastClock {last : ℤ} {ops : List Op} {rest : List ℤ}
    (h : (last :: (clocks ops ++ rest)).Pairwise (· ≤ ·)) :
    (lastClock last ops :: rest).Pairwise (· ≤ ·) := by
  induction ops generalizing last with
  | nil => exact h
  | cons op ops ih =>
    have hnext : (op.clockFrom last :: (clocks ops ++ rest)).Pairwise (· ≤ ·) := by
      cases hc : op.clock with
      | none =>
        simp only [clocks, List.filterMap_cons, hc, Option.map_none, Op.clockFrom,
          Option.getD_none] at h ⊢
        exact h
      | some c =>
        simp only [clocks, List.filterMap_cons, hc, Option.map_some, Op.clockFrom,
          Option.getD_some] at h ⊢
        exact h.of_cons
    exact ih hnext

/-- No clock is below the smallest one. -/
lemma le_of_mem_clocks {ops : List Op} {c : ℤ} (h : c ∈ clocks ops) : -2 ^ 63 ≤ c := by
  obtain ⟨op, _, hc⟩ := List.mem_filterMap.mp h
  obtain ⟨now, _, rfl⟩ := Option.map_eq_some_iff.mp hc
  exact now.le_toInt

lemma clocks_append (ops ops' : List Op) : clocks (ops ++ ops') = clocks ops ++ clocks ops' :=
  List.filterMap_append

lemma clocks_singleton {op : Op} {c : Int64} (h : op.clock = some c) : clocks [op] = [c.toInt] := by
  simp [clocks, h]

/-! ### The account -/

/-- **The account of a run** since the session was `base` at the instant `o`: `ps` are the
pauses completed since, `opened` is the time spent open up to the clock `last`. -/
structure Elapsed (base : Session) (o : ℤ) (s : Session) (last : ℤ) (ps : List (Int64 × Int64))
    (opened : ℤ) : Prop where
  intervals : s.suspensionIntervals = base.suspensionIntervals ++ ps
  ordered : Ordered o (toTimeline ps)
  ended : lastEnd o (toTimeline ps) ≤ last
  banked : s.accumulatedSuspendedMs.toInt
    = min i64Max (base.accumulatedSuspendedMs.toInt + total (toTimeline ps))
  running : s.state = .Open → opened = last - o - total (toTimeline ps)
  pausing : s.state = .Suspended → ∃ a, s.suspendedAtMs = some a
    ∧ lastEnd o (toTimeline ps) ≤ a.toInt ∧ a.toInt ≤ last
    ∧ opened = a.toInt - o - total (toTimeline ps)

/-- An account begins with a session that is not suspended. -/
lemma Elapsed.start {s : Session} (hns : s.state ≠ .Suspended) (o : ℤ) : Elapsed s o s o [] 0 := by
  have hlt := s.accumulatedSuspendedMs.toInt_lt
  refine ⟨by simp, trivial, le_rfl, ?_, fun _ => ?_, fun h => absurd h hns⟩
  · simp only [toTimeline, List.map_nil, total, add_zero, i64Max]
    omega
  · simp [toTimeline, total]

/-- What a call other than a suspend or a resume leaves of the suspension state. -/
structure Session.SamePauses (s s' : Session) : Prop where
  accumulated : s'.accumulatedSuspendedMs = s.accumulatedSuspendedMs
  intervals : s'.suspensionIntervals = s.suspensionIntervals
  state : (s'.state = s.state ∧ s'.suspendedAtMs = s.suspendedAtMs)
    ∨ s'.state.isTerminal = true

/-- A response leaves the suspension state alone, or resolves the session. -/
lemma Session.SamePauses.applyModeResponse {s t : Session} (h : s.SamePauses t)
    (r : ModeResponse) : s.SamePauses (t.applyModeResponse r) := by
  cases r with
  | NoOp => exact h
  | PersistState state => exact ⟨h.accumulated, h.intervals, h.state⟩
  | Resolve resolution => exact ⟨h.accumulated, h.intervals, .inr rfl⟩
  | PersistAndResolve state resolution => exact ⟨h.accumulated, h.intervals, .inr rfl⟩

/-- A call that neither suspends nor resumes leaves the suspension state alone. -/
lemma Op.samePauses {op : Op} (hs : ∀ c, op ≠ .suspend c) (hr : ∀ c, op ≠ .resume c)
    (s : Session) : s.SamePauses (op.apply mode s) := by
  refine (op.apply_moves s).invariant (P := s.SamePauses) ?_ ⟨rfl, rfl, .inl ⟨rfl, rfl⟩⟩
  intro t t' hm h
  cases hm with
  | @synthetic _ _ syn _ _ _ =>
    have h' : s.SamePauses
        { t with seenMessageIds := t.seenMessageIds.insert syn.envelope.messageId } :=
      ⟨h.accumulated, h.intervals, h.state⟩
    exact h'.applyModeResponse _
  | @commit _ _ env _ nowMs _ _ _ _ =>
    have h' : s.SamePauses (Session.recordParticipantActivity
        { t with seenMessageIds := t.seenMessageIds.insert env.messageId } env.sender nowMs) :=
      ⟨h.accumulated, h.intervals, h.state⟩
    exact h'.applyModeResponse _
  | suspend _ => exact absurd rfl (hs _)
  | resume _ => exact absurd rfl (hr _)
  | cancel _ => exact ⟨h.accumulated, h.intervals, .inr rfl⟩
  | expire _ => exact ⟨h.accumulated, h.intervals, .inr rfl⟩

section Account

variable {base s : Session} {o last now opened : ℤ} {ps : List (Int64 × Int64)}

/-- Time passes: up to `now` the session stays as it is. -/
lemma Elapsed.wait (h : Elapsed base o s last ps opened) (hnow : last ≤ now) :
    Elapsed base o s now ps (opened + if s.state = .Open then now - last else 0) := by
  refine ⟨h.intervals, h.ordered, h.ended.trans hnow, h.banked, fun hopen => ?_, fun hsusp => ?_⟩
  · have hrun := h.running hopen
    rw [if_pos hopen]
    omega
  · obtain ⟨a, ha, hle, hlast, hrun⟩ := h.pausing hsusp
    refine ⟨a, ha, hle, hlast.trans hnow, ?_⟩
    rw [if_neg (by simp [hsusp]), add_zero, hrun]

/-- A call that neither suspends nor resumes changes nothing of the account. -/
lemma Elapsed.of_samePauses (h : Elapsed base o s last ps opened) {s' : Session}
    (hsame : s.SamePauses s') : Elapsed base o s' last ps opened := by
  refine ⟨hsame.intervals.trans h.intervals, h.ordered, h.ended, ?_, ?_, ?_⟩
  · rw [hsame.accumulated]
    exact h.banked
  · intro hopen
    rcases hsame.state with ⟨hst, _⟩ | hterm
    · exact h.running (hst.symm.trans hopen)
    · rw [hopen] at hterm
      cases hterm
  · intro hsusp
    rcases hsame.state with ⟨hst, hat⟩ | hterm
    · rw [hat]
      exact h.pausing (hst.symm.trans hsusp)
    · rw [hsusp] at hterm
      cases hterm

/-- A suspend at the clock of the account begins a pause there. -/
lemma Elapsed.suspend {c : Int64} (h : Elapsed base o s c.toInt ps opened) :
    Elapsed base o (s.suspend c).1 c.toInt ps opened := by
  rw [Session.suspend]
  split_ifs with hopen
  · exact h
  · rw [ne_eq, not_not] at hopen
    refine ⟨h.intervals, h.ordered, h.ended, h.banked, fun hst => (by cases hst), fun _ => ?_⟩
    exact ⟨c, rfl, h.ended, le_rfl, h.running hopen⟩

/-- A resume at the clock of the account completes the pause in progress. -/
lemma Elapsed.resume {c : Int64} (h : Elapsed base o s c.toInt ps opened) (ho : 0 ≤ o)
    (hrev : 2 ≤ s.semanticsRev) :
    ∃ ps', Elapsed base o (s.resume c).1 c.toInt (ps ++ ps') opened := by
  by_cases hsusp : s.state = .Suspended
  · obtain ⟨a, ha, hle, hlast, hrun⟩ := h.pausing hsusp
    have hpush : 2 ≤ s.semanticsRev ∨ s.suspensionIntervals.length < maxSuspensionCycles :=
      .inl hrev
    have hstart := h.ordered.le_lastEnd
    have hc := c.toInt_lt
    -- the pause began after `o`, so its width does not overflow
    have hwidth : (s.banked c).toInt = c.toInt - a.toInt := by
      have hfit : ∀ b, s.suspendedAtMs = some b → PauseFits b c := by
        intro b hb
        rw [ha] at hb
        cases hb
        constructor <;> omega
      rw [Session.toInt_banked hfit, ha, Option.getD_some, pauseWidth]
      exact max_eq_left (sub_nonneg.mpr hlast)
    have hrecord : Elapsed base o { s.recordPause c with state := .Open } c.toInt
        (ps ++ [(a, c)]) opened := by
      have htotal := h.ordered.total_nonneg
      refine ⟨?_, ?_, ?_, ?_, fun _ => ?_, fun hst => (by cases hst)⟩
      · simp only [Session.recordPause, if_pos hpush, ha, Option.getD_some]
        rw [h.intervals, List.append_assoc]
      · rw [toTimeline_append, ordered_append]
        exact ⟨h.ordered, hle, hlast, trivial⟩
      · rw [toTimeline_append, lastEnd_append]
        exact le_rfl
      · simp only [Session.recordPause]
        rw [Int64.toInt_saturatingAdd_of_nonneg _ (by omega), hwidth, h.banked,
          toTimeline_append, total_append]
        simp only [toTimeline, List.map_cons, List.map_nil, total, i64Max] at htotal ⊢
        omega
      · rw [toTimeline_append, total_append, hrun]
        simp only [toTimeline, List.map_cons, List.map_nil, total]
        omega
    refine ⟨[(a, c)], ?_⟩
    rw [Session.resume, if_neg (not_not.mpr hsusp)]
    dsimp only
    split_ifs <;> refine ⟨hrecord.intervals, hrecord.ordered, hrecord.ended, hrecord.banked, ?_,
      fun hst => (by cases hst)⟩
    · exact fun hst => (by cases hst)
    · exact fun hst => (by cases hst)
    · exact hrecord.running
  · refine ⟨[], ?_⟩
    rw [Session.resume, if_pos hsusp, List.append_nil]
    exact h

/-- Every call keeps the account. -/
lemma Elapsed.apply (mode : Mode) (h : Elapsed base o s last ps opened) (ho : 0 ≤ o)
    (hrev : 2 ≤ s.semanticsRev) (op : Op) (hclock : last ≤ op.clockFrom last) :
    ∃ ps', Elapsed base o (op.apply mode s) (op.clockFrom last) (ps ++ ps')
      (opened + if s.state = .Open then op.clockFrom last - last else 0) := by
  have hwait := h.wait hclock
  have hsame (hs : ∀ c, op ≠ .suspend c) (hr : ∀ c, op ≠ .resume c) :
      Elapsed base o (op.apply mode s) (op.clockFrom last) (ps ++ [])
        (opened + if s.state = .Open then op.clockFrom last - last else 0) := by
    rw [List.append_nil]
    exact hwait.of_samePauses (op.samePauses hs hr s)
  cases op with
  | suspend c =>
    refine ⟨[], ?_⟩
    rw [List.append_nil]
    exact hwait.suspend
  | resume c => exact hwait.resume ho hrev
  | step env c => exact ⟨[], hsame (by simp) (by simp)⟩
  | advance c => exact ⟨[], hsame (by simp) (by simp)⟩
  | cancel => exact ⟨[], hsame (by simp) (by simp)⟩
  | expire => exact ⟨[], hsame (by simp) (by simp)⟩

/-- **Every run with non-decreasing clocks keeps the account**, and the time it spends open is
what the account says. -/
theorem Elapsed.run (h : Elapsed base o s last ps opened) (ho : 0 ≤ o)
    (hrev : 2 ≤ s.semanticsRev) (ops : List Op)
    (hclocks : (last :: clocks ops).Pairwise (· ≤ ·)) :
    ∃ ps', Elapsed base o (run mode s ops) (lastClock last ops) (ps ++ ps')
      (opened + openTime mode s last ops) := by
  induction ops generalizing s last ps opened with
  | nil => exact ⟨[], by simpa [openTime, lastClock] using h⟩
  | cons op ops ih =>
    obtain ⟨hle, hrest⟩ := pairwise_clocks_cons hclocks
    obtain ⟨ps₁, h₁⟩ := h.apply mode ho hrev op hle
    have hbind : (op.apply mode s).bindings = s.bindings := (op.apply_moves s).bindings_eq
    have hrev₁ : 2 ≤ (op.apply mode s).semanticsRev :=
      hrev.trans_eq (congrArg Session.Bindings.semanticsRev hbind.symm)
    obtain ⟨ps₂, h₂⟩ := ih h₁ hrev₁ hrest
    refine ⟨ps₁ ++ ps₂, ?_⟩
    rw [← List.append_assoc, openTime, ← add_assoc]
    exact h₂

/-- The account of a run from a session that is not suspended. -/
lemma exists_elapsed (mode : Mode) (hns : s.state ≠ .Suspended) (ho : 0 ≤ o)
    (hrev : 2 ≤ s.semanticsRev) (ops : List Op) (hclocks : (o :: clocks ops).Pairwise (· ≤ ·)) :
    ∃ ps, Elapsed s o (MacpRuntime.run mode s ops) (lastClock o ops) ps
      (openTime mode s o ops) := by
  have hrun : ∃ ps, Elapsed s o (MacpRuntime.run mode s ops) (lastClock o ops) ([] ++ ps)
      (0 + openTime mode s o ops) := (Elapsed.start hns o).run ho hrev ops hclocks
  simpa only [List.nil_append, zero_add] using hrun

end Account

/-- A pause never takes banked time back. -/
lemma Session.le_recordPause (s : Session) (nowMs : Int64) :
    s.accumulatedSuspendedMs.toInt ≤ (s.recordPause nowMs).accumulatedSuspendedMs.toInt := by
  have hbanked : 0 ≤ (s.banked nowMs).toInt := by
    rw [Session.banked, Int64.toInt_max, Int64.toInt_zero]
    exact le_max_right _ _
  have hlt := s.accumulatedSuspendedMs.toInt_lt
  simp only [Session.recordPause]
  rw [Int64.toInt_saturatingAdd_of_nonneg _ hbanked]
  omega

/-- Banked time only grows. -/
lemma Move.accumulated_le {op : Op} {s s' : Session} (hm : Move mode op s s') :
    s.accumulatedSuspendedMs.toInt ≤ s'.accumulatedSuspendedMs.toInt := by
  cases hm with
  | @synthetic _ _ syn _ _ _ =>
    rw [commitSynthetic, Session.applyModeResponse_accumulatedSuspendedMs]
  | commit _ _ _ _ =>
    rw [MacpRuntime.commit, Session.applyModeResponse_accumulatedSuspendedMs]
    exact le_rfl
  | suspend _ => exact le_rfl
  | @resume _ nowMs hsusp =>
    have hle := s.le_recordPause nowMs
    rw [Session.resume, if_neg (not_not.mpr hsusp)]
    dsimp only
    split_ifs <;> exact hle
  | cancel _ => exact le_rfl
  | expire _ => exact le_rfl

lemma run_accumulated_le (s : Session) (ops : List Op) :
    s.accumulatedSuspendedMs.toInt ≤ (run mode s ops).accumulatedSuspendedMs.toInt :=
  run_invariant (P := fun t => s.accumulatedSuspendedMs.toInt ≤ t.accumulatedSuspendedMs.toInt)
    (fun _ _ _ _ hm h => h.trans hm.accumulated_le) le_rfl

end MacpRuntime
