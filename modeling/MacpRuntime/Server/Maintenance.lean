import Mathlib.Logic.Function.Basic
import Mathlib.Logic.Relation
import MacpRuntime.Server.Retention

/-!
The maintenance loop beside the requests (`evict_stale_sessions`, `gc_disk_sessions` and the
reservation in `process_session_start`, `src/runtime.rs`): one session id, interleaved at every lock
acquisition and await.

* `Slot`: the id in the process.  The registry names a session object; an object taken out of it
  lives on in the requests and passes that cloned its handle;
* `ServerOp.apply_steps`: a call of the server on an object is a run of steps under its mutex;
* `Act.Orderly`: no start reserves the id between the decision to remove it and the last removal;
* `maintenance_spares_live`: **in an orderly run nothing of a live session is removed**;
* `eviction_removes_live_log`: a start slips in between the two removals of an eviction.
-/

namespace MacpRuntime

open Function (update)

/-! ### One session id in the process -/

/-- Who holds the mutex of a session object: a start at one of its awaits, or a request. -/
inductive Holder where
  | reserved (entry : LogEntry)
  | appended (entry : LogEntry)
  | cached
  | poisoned
  | request

/-- Where the maintenance loop stands for the id.  The cutoff was computed when the pass began. -/
inductive Pass where
  | idle
  | evictCandidate (cutoff : Int64) (object : ℕ)
  | evictDoomed
  | evictUnregistered
  | gcListed (cutoff : Int64)
  | gcShared (cutoff : Int64) (object : ℕ)
  | gcAbsent (cutoff : Int64)
  | gcDoomed
  | gcDeleted
  | gcUnregistered
  deriving DecidableEq

/-- Whether the pass has decided over the id: it goes on to remove it, or it found no session in
the registry and goes on to the stored snapshot. -/
def Pass.decided : Pass → Bool
  | .evictDoomed | .evictUnregistered | .gcAbsent _ | .gcDoomed | .gcDeleted
  | .gcUnregistered => true
  | _ => false

/-- One session id: its session objects, the one the registry names, and what is stored. -/
structure Slot where
  objects : ℕ → Option Session
  fresh : ℕ
  registry : Option ℕ
  holders : ℕ → Option Holder
  io : Io
  snapshot : Option Session
  pass : Pass

/-- Before the first start of the id. -/
def Slot.initial (io : Io) : Slot := ⟨fun _ => none, 0, none, fun _ => none, io, none, .idle⟩

/-- The registry names an open or suspended session. -/
def Slot.Live (σ : Slot) : Prop :=
  ∃ g s, σ.registry = some g ∧ σ.objects g = some s ∧ s.state.isTerminal = false

/-! ### Steps -/

/-- What a pass removes. -/
inductive Removed where
  | registryEntry
  | inMemoryLog
  | durableData
  deriving DecidableEq

/-- What a step is, as far as the order of starts and removals goes. -/
inductive Act where
  | reserve
  | doom (object : ℕ)
  | remove (what : Removed)
  | other
  deriving DecidableEq

/-- A start the runtime accepts, with the entry it appends. -/
inductive Starts (rt : Runtime) (sessionId : String) : LogEntry → Session → Prop
  | mk {env : Envelope} {acceptedAt : Int64} {mode : Mode} {v : ValidatedStart} {s : Session}
      (hid : env.sessionId = sessionId)
      (hvalid : validateSessionIdForAcceptance env.sessionId = .ok ())
      (hmode : rt.registries.modes.instantiate env.mode = .ok mode)
      (hstart : validateSessionStart rt.prost env acceptedAt (startOptions rt env.mode) = .ok v)
      (haccept : acceptStart rt env mode v = .ok s) :
      Starts rt sessionId (startEntry env acceptedAt v s) s

section

variable (rt : Runtime) (sessionId : String)

/-- The steps between two lock acquisitions or awaits.  Any object may be met by a request, also
one that left the registry.  Under the object's mutex a request writes to the log and its copy
and changes the session, which it does to live sessions only (`ServerOp.apply_of_terminal`). -/
inductive Slot.Step : Act → Slot → Slot → Prop
  -- a start: the reservation, then the awaits under the object's mutex
  | reserve {σ : Slot} {entry : LogEntry} {s : Session} (hstart : Starts rt sessionId entry s)
      (hfree : σ.registry = none) :
      Slot.Step .reserve σ
        { σ with
          objects := update σ.objects σ.fresh (some s)
          fresh := σ.fresh + 1
          registry := some σ.fresh
          holders := update σ.holders σ.fresh (some (.reserved entry)) }
  | startAppended {σ : Slot} {g : ℕ} {entry : LogEntry}
      (hheld : σ.holders g = some (.reserved entry)) :
      Slot.Step .other σ
        { σ with
          io := { σ.io with log := σ.io.log ++ [entry] }
          holders := update σ.holders g (some (.appended entry)) }
  | startCached {σ : Slot} {g : ℕ} {entry : LogEntry}
      (hheld : σ.holders g = some (.appended entry)) :
      Slot.Step .other σ
        { σ with
          io := { σ.io with cache := some (σ.io.cache.getD [] ++ [entry]) }
          holders := update σ.holders g (some .cached) }
  | startSaved {σ : Slot} {g : ℕ} (hheld : σ.holders g = some .cached) (saved : Bool) :
      Slot.Step .other σ
        { σ with
          snapshot := if saved then σ.objects g else σ.snapshot
          holders := update σ.holders g none }
  | startFailed {σ : Slot} {g : ℕ} {entry : LogEntry} {s : Session}
      (hheld : σ.holders g = some (.reserved entry)) (hobject : σ.objects g = some s) :
      Slot.Step .other σ
        { σ with
          objects := update σ.objects g (some { s with state := .Expired })
          holders := update σ.holders g (some .poisoned) }
  | rolledBack {σ : Slot} {g : ℕ} (hheld : σ.holders g = some .poisoned) :
      Slot.Step .other σ { σ with registry := none, holders := update σ.holders g none }
  -- a request, or the cleanup and the sweep of the maintenance loop
  | acquired {σ : Slot} {g : ℕ} (hfree : σ.holders g = none) (hobject : σ.objects g ≠ none) :
      Slot.Step .other σ { σ with holders := update σ.holders g (some .request) }
  | stored {σ : Slot} {g : ℕ} (hheld : σ.holders g = some .request) (io : Io) :
      Slot.Step .other σ { σ with io := io }
  | changed {σ : Slot} {g : ℕ} {s : Session} (hheld : σ.holders g = some .request)
      (hobject : σ.objects g = some s) (hlive : s.state.isTerminal = false) (s' : Session) :
      Slot.Step .other σ { σ with objects := update σ.objects g (some s') }
  | saved {σ : Slot} {g : ℕ} (hheld : σ.holders g = some .request) :
      Slot.Step .other σ { σ with snapshot := σ.objects g }
  | released {σ : Slot} {g : ℕ} (hheld : σ.holders g = some .request) :
      Slot.Step .other σ { σ with holders := update σ.holders g none }
  -- the eviction: the handle is cloned, checked under its mutex, and the id removed
  | evictCollected {σ : Slot} {g : ℕ} (hidle : σ.pass = .idle) (hnamed : σ.registry = some g)
      (cutoff : Int64) :
      Slot.Step .other σ { σ with pass := .evictCandidate cutoff g }
  | evictSpared {σ : Slot} {g : ℕ} {cutoff : Int64} {s : Session}
      (hpass : σ.pass = .evictCandidate cutoff g) (hfree : σ.holders g = none)
      (hobject : σ.objects g = some s) (hstale : s.stale cutoff = false) :
      Slot.Step .other σ { σ with pass := .idle }
  | evictFound {σ : Slot} {g : ℕ} {cutoff : Int64} {s : Session}
      (hpass : σ.pass = .evictCandidate cutoff g) (hfree : σ.holders g = none)
      (hobject : σ.objects g = some s) (hstale : s.stale cutoff = true) :
      Slot.Step (.doom g) σ { σ with pass := .evictDoomed }
  | evictUnregistered {σ : Slot} (hpass : σ.pass = .evictDoomed) :
      Slot.Step (.remove .registryEntry) σ { σ with registry := none, pass := .evictUnregistered }
  | evictForgot {σ : Slot} (hpass : σ.pass = .evictUnregistered) :
      Slot.Step (.remove .inMemoryLog) σ { σ with io := { σ.io with cache := none }, pass := .idle }
  -- the garbage collection: the registry is asked first, then the stored snapshot
  | gcListed {σ : Slot} (hidle : σ.pass = .idle) (cutoff : Int64) :
      Slot.Step .other σ { σ with pass := .gcListed cutoff }
  | gcPresent {σ : Slot} {g : ℕ} {cutoff : Int64} (hpass : σ.pass = .gcListed cutoff)
      (hnamed : σ.registry = some g) :
      Slot.Step .other σ { σ with pass := .gcShared cutoff g }
  | gcAbsent {σ : Slot} {cutoff : Int64} (hpass : σ.pass = .gcListed cutoff)
      (hnamed : σ.registry = none) :
      Slot.Step .other σ { σ with pass := .gcAbsent cutoff }
  | gcSparedShared {σ : Slot} {g : ℕ} {cutoff : Int64} {s : Session}
      (hpass : σ.pass = .gcShared cutoff g) (hfree : σ.holders g = none)
      (hobject : σ.objects g = some s) (hstale : s.stale cutoff = false) :
      Slot.Step .other σ { σ with pass := .idle }
  | gcSparedAbsent {σ : Slot} {cutoff : Int64} (hpass : σ.pass = .gcAbsent cutoff) :
      Slot.Step .other σ { σ with pass := .idle }
  | gcFoundShared {σ : Slot} {g : ℕ} {cutoff : Int64} {s : Session}
      (hpass : σ.pass = .gcShared cutoff g) (hfree : σ.holders g = none)
      (hobject : σ.objects g = some s) (hstale : s.stale cutoff = true) :
      Slot.Step (.doom g) σ { σ with pass := .gcDoomed }
  | gcFoundAbsent {σ : Slot} {cutoff : Int64} {s : Session} (hpass : σ.pass = .gcAbsent cutoff)
      (hsnapshot : σ.snapshot = some s) (hstale : s.stale cutoff = true) :
      Slot.Step .other σ { σ with pass := .gcDoomed }
  | gcFailed {σ : Slot} (hpass : σ.pass = .gcDoomed) :
      Slot.Step .other σ { σ with pass := .idle }
  | gcDeleted {σ : Slot} (hpass : σ.pass = .gcDoomed) :
      Slot.Step (.remove .durableData) σ
        { σ with io := { σ.io with log := [] }, snapshot := none, pass := .gcDeleted }
  | gcUnregistered {σ : Slot} (hpass : σ.pass = .gcDeleted) :
      Slot.Step (.remove .registryEntry) σ { σ with registry := none, pass := .gcUnregistered }
  | gcForgot {σ : Slot} (hpass : σ.pass = .gcUnregistered) :
      Slot.Step (.remove .inMemoryLog) σ { σ with io := { σ.io with cache := none }, pass := .idle }

/-- Any number of steps. -/
abbrev Slot.Steps : Slot → Slot → Prop :=
  Relation.ReflTransGen fun σ τ => ∃ act, Slot.Step rt sessionId act σ τ

end

/-! ### Calls of the server are steps -/

section Calls

variable {rt : Runtime} {sessionId : String} {c : Cell} {s : Session}

lemma maybeExpireSession_of_terminal (sessionId : String) (h : c.session.state.isTerminal = true) :
    (maybeExpireSession sessionId c).1.session = c.session := by
  rw [maybeExpireSession]
  dsimp only
  rw [if_neg (by rw [c.session.deadlinePassed_of_terminal h]; exact Bool.false_ne_true)]

section

variable (h : c.session.state.isTerminal = true)

include h

lemma processMessage_of_terminal (env : Envelope) :
    (processMessage rt env c).1.session = c.session := by
  rw [processMessage]
  dsimp only
  split
  · rfl
  · rfl
  · have hexp := maybeExpireSession_of_terminal env.sessionId (c := ⟨c.session, c.io.nowMs.2⟩) h
    split
    · rename_i heq
      rw [heq] at hexp
      exact hexp
    · rename_i heq
      rw [heq] at hexp
      exact hexp
  · rename_i hpre
    rw [(checkPreconditions_eq_proceed hpre).2.2.2] at h
    cases h

lemma cancelSession_of_terminal (reason by' : String) :
    (cancelSession rt sessionId reason by' c).1.session = c.session := by
  have hexp := maybeExpireSession_of_terminal sessionId h
  rw [cancelSession]
  generalize maybeExpireSession sessionId c = r at hexp ⊢
  obtain ⟨c', _ | _⟩ := r
  · exact hexp
  · dsimp only at hexp ⊢
    rw [if_pos (by rw [hexp]; exact h)]
    exact hexp

lemma suspendSession_of_terminal (reason by' : String) :
    (suspendSession rt sessionId reason by' c).1.session = c.session := by
  have hexp := maybeExpireSession_of_terminal sessionId h
  have hne : c.session.state ≠ .Open := fun hopen => by rw [hopen] at h; cases h
  rw [suspendSession]
  generalize maybeExpireSession sessionId c = r at hexp ⊢
  obtain ⟨c', _ | _⟩ := r
  · exact hexp
  · dsimp only at hexp ⊢
    rw [if_pos (by rw [hexp]; exact hne)]
    exact hexp

end

lemma processSessionStart_of_some {io : Io} (env : Envelope) (maxOpenSessions : Option ℕ)
    (openElsewhere : ℕ) :
    (processSessionStart rt env maxOpenSessions openElsewhere ⟨some s, io⟩).1.session = some s := by
  rw [processSessionStart]
  split
  · rfl
  · split
    · rfl
    · split
      · rfl
      · dsimp only
        split
        · rfl
        · split_ifs <;> rfl

/-- A call leaves a session where it found one. -/
lemma ServerOp.apply_isSome (op : ServerOp) (s : Session) (io : Io) :
    ∃ s', (op.apply rt sessionId ⟨some s, io⟩).session = some s' := by
  cases op with
  | process env maxOpenSessions openElsewhere =>
    rw [ServerOp.apply]
    split_ifs
    · exact ⟨s, rfl⟩
    · exact ⟨s, processSessionStart_of_some env maxOpenSessions openElsewhere⟩
    · exact ⟨s, rfl⟩
    · exact ⟨_, rfl⟩
  | _ => exact ⟨_, rfl⟩

/-- **No call changes a terminal session.** -/
lemma ServerOp.apply_of_terminal (op : ServerOp) (h : s.state.isTerminal = true) (io : Io) :
    (op.apply rt sessionId ⟨some s, io⟩).session = some s := by
  have hopen : s.state ≠ .Open := fun heq => by rw [heq] at h; cases h
  have hsusp : s.state ≠ .Suspended := fun heq => by rw [heq] at h; cases h
  cases op with
  | process env maxOpenSessions openElsewhere =>
    rw [ServerOp.apply]
    split_ifs
    · rfl
    · exact processSessionStart_of_some env maxOpenSessions openElsewhere
    · rfl
    · exact congrArg some (processMessage_of_terminal (c := ⟨s, io⟩) h env)
  | getSessionChecked =>
    exact congrArg some (maybeExpireSession_of_terminal sessionId (c := ⟨s, io⟩) h)
  | cancelSession reason by' =>
    exact congrArg some (cancelSession_of_terminal (c := ⟨s, io⟩) h reason by')
  | suspendSession reason by' =>
    exact congrArg some (suspendSession_of_terminal (c := ⟨s, io⟩) h reason by')
  | resumeSession reason by' =>
    rw [ServerOp.apply, World.onCell]
    dsimp only
    rw [MacpRuntime.resumeSession, if_pos hsusp]
  | cleanupExpiredSessions =>
    rw [ServerOp.apply, World.onCell]
    dsimp only
    rw [cleanupExpiredSession]
    dsimp only
    rw [if_pos (.inl hopen)]
  | sweepDueSyntheticAccepts =>
    rw [ServerOp.apply, World.onCell]
    dsimp only
    rw [sweepDueSyntheticAccept]
    dsimp only
    rw [if_pos hopen]

/-- **A call on an object is a run of steps**: its mutex is acquired, the call leaves the session
and the storage the kernel computes, and the mutex is released. -/
lemma ServerOp.apply_steps (rt : Runtime) (sessionId : String) (op : ServerOp) {σ : Slot} {g : ℕ}
    (hfree : σ.holders g = none) (hobject : σ.objects g = some s) :
    ∃ s', (op.apply rt sessionId ⟨some s, σ.io⟩).session = some s'
      ∧ Slot.Steps rt sessionId σ
          { σ with
            objects := update σ.objects g (some s')
            io := (op.apply rt sessionId ⟨some s, σ.io⟩).io } := by
  obtain ⟨s', hs'⟩ : ∃ s', (op.apply rt sessionId ⟨some s, σ.io⟩).session = some s' :=
    op.apply_isSome s σ.io
  refine ⟨s', hs', ?_⟩
  set io' := (op.apply rt sessionId ⟨some s, σ.io⟩).io
  have hrelease : update (update σ.holders g (some .request)) g none
      = σ.holders := by
    rw [Function.update_idem, ← hfree, Function.update_eq_self]
  have hacquired : Slot.Steps rt sessionId σ
      { σ with holders := update σ.holders g (some .request) } :=
    .single ⟨_, .acquired hfree (by rw [hobject]; exact Option.some_ne_none s)⟩
  have hstored : Slot.Steps rt sessionId σ
      { σ with holders := update σ.holders g (some .request), io := io' } :=
    hacquired.tail ⟨_, .stored (Function.update_self g _ _) io'⟩
  have hchanged : Slot.Steps rt sessionId σ
      { σ with
        objects := update σ.objects g (some s')
        holders := update σ.holders g (some .request)
        io := io' } := by
    by_cases hterm : s.state.isTerminal = true
    · rw [op.apply_of_terminal hterm] at hs'
      rw [← Option.some.inj hs', ← hobject, Function.update_eq_self]
      exact hstored
    · have hlive := Bool.eq_false_iff.mpr hterm
      refine hstored.tail ⟨.other, ?_⟩
      exact Slot.Step.changed
        (σ := { σ with holders := update σ.holders g (some .request), io := io' })
        (Function.update_self g _ _) hobject hlive s'
  have hreleased := hchanged.tail ⟨_, .released (Function.update_self g _ _)⟩
  dsimp only at hreleased
  rw [hrelease] at hreleased
  exact hreleased

end Calls

/-! ### Orderly runs -/

/-- A start reserves the id only while no pass has decided over it, and a pass dooms the id for
the object the registry names. -/
def Act.Orderly (σ : Slot) : Act → Prop
  | .reserve => σ.pass.decided = false
  | .doom g => σ.registry = none ∨ σ.registry = some g
  | _ => True

section Orderly

variable {rt : Runtime} {sessionId : String} {g : ℕ} {s : Session} {σ : Slot}

/-- A slot without a live session does not gain one when an object becomes terminal. -/
lemma Slot.not_live_update (h : ¬ σ.Live) (hterm : s.state.isTerminal = true) :
    ¬ ({ σ with objects := update σ.objects g (some s) } : Slot).Live := by
  rintro ⟨g', s', hnamed, hobject, hlive⟩
  dsimp only at hnamed hobject
  by_cases hg : g' = g
  · rw [hg, Function.update_self] at hobject
    rw [← Option.some.inj hobject, hterm] at hlive
    cases hlive
  · rw [Function.update_of_ne hg] at hobject
    exact h ⟨g', s', hnamed, hobject, hlive⟩

/-- A request on an object changes a live session, and then the registry names another one. -/
lemma Slot.not_live_changed (h : ¬ σ.Live) (hobject : σ.objects g = some s)
    (hlive : s.state.isTerminal = false) (s' : Session) :
    ¬ ({ σ with objects := update σ.objects g (some s') } : Slot).Live := by
  rintro ⟨g', t, hnamed, hobject', hlive'⟩
  dsimp only at hnamed hobject'
  by_cases hg : g' = g
  · exact h ⟨g, s, hg ▸ hnamed, hobject, hlive⟩
  · rw [Function.update_of_ne hg] at hobject'
    exact h ⟨g', t, hnamed, hobject', hlive'⟩

lemma Slot.not_live_of_registry (h : σ.registry = none) : ¬ σ.Live := by
  rintro ⟨g, s, hnamed, -, -⟩
  rw [h] at hnamed
  cases hnamed

/-- The object a pass found stale is not live, and the registry names no other. -/
lemma Slot.not_live_of_stale {cutoff : Int64} (hnamed : σ.registry = none ∨ σ.registry = some g)
    (hobject : σ.objects g = some s) (hstale : s.stale cutoff = true) : ¬ σ.Live := by
  rintro ⟨g', s', hnamed', hobject', hlive⟩
  obtain hnone | hsome := hnamed
  · rw [hnone] at hnamed'
    cases hnamed'
  · rw [hsome] at hnamed'
    obtain rfl := Option.some.inj hnamed'
    rw [hobject] at hobject'
    obtain rfl := Option.some.inj hobject'
    rw [Session.stale, hlive] at hstale
    cases hstale

/-- A pass that has decided over the id leaves no live session to remove. -/
def Slot.Decided (σ : Slot) : Prop := σ.pass.decided = true → ¬ σ.Live

/-- **An orderly step keeps decided ids free of live sessions.** -/
lemma Slot.Step.decided {act : Act} {τ : Slot} (hstep : Slot.Step rt sessionId act σ τ)
    (horderly : act.Orderly σ) (h : σ.Decided) : τ.Decided := by
  cases hstep with
  | reserve hstart hfree =>
    intro hdecided
    exact absurd (horderly.symm.trans hdecided) Bool.false_ne_true
  | startFailed _ _ => exact fun hdecided => Slot.not_live_update (h hdecided) rfl
  | rolledBack _ => exact fun _ => Slot.not_live_of_registry rfl
  | changed _ hobject hlive s' =>
    exact fun hdecided => Slot.not_live_changed (h hdecided) hobject hlive s'
  | evictFound _ _ hobject hstale => exact fun _ => Slot.not_live_of_stale horderly hobject hstale
  | gcFoundShared _ _ hobject hstale =>
    exact fun _ => Slot.not_live_of_stale horderly hobject hstale
  | gcAbsent _ hnamed => exact fun _ => Slot.not_live_of_registry hnamed
  | gcFoundAbsent hpass _ _ => exact fun _ => h (by rw [hpass]; rfl)
  | gcDeleted hpass => exact fun _ => h (by rw [hpass]; rfl)
  | evictUnregistered _ => exact fun _ => Slot.not_live_of_registry rfl
  | gcUnregistered _ => exact fun _ => Slot.not_live_of_registry rfl
  -- the passes that have not decided
  | evictCollected _ _ _ => exact fun hdecided => absurd hdecided Bool.false_ne_true
  | evictSpared _ _ _ _ => exact fun hdecided => absurd hdecided Bool.false_ne_true
  | evictForgot _ => exact fun hdecided => absurd hdecided Bool.false_ne_true
  | gcListed _ _ => exact fun hdecided => absurd hdecided Bool.false_ne_true
  | gcPresent _ _ => exact fun hdecided => absurd hdecided Bool.false_ne_true
  | gcSparedShared _ _ _ _ => exact fun hdecided => absurd hdecided Bool.false_ne_true
  | gcSparedAbsent _ => exact fun hdecided => absurd hdecided Bool.false_ne_true
  | gcFailed _ => exact fun hdecided => absurd hdecided Bool.false_ne_true
  | gcForgot _ => exact fun hdecided => absurd hdecided Bool.false_ne_true
  -- the steps that touch neither the registry nor an object nor the pass
  | startAppended _ => exact h
  | startCached _ => exact h
  | startSaved _ _ => exact h
  | acquired _ _ => exact h
  | stored _ _ => exact h
  | saved _ => exact h
  | released _ => exact h

/-- Only a pass that has decided removes anything. -/
lemma Slot.Step.decided_of_remove {what : Removed} {τ : Slot}
    (hstep : Slot.Step rt sessionId (.remove what) σ τ) : σ.pass.decided = true := by
  cases hstep with
  | evictUnregistered hpass => rw [hpass]; rfl
  | evictForgot hpass => rw [hpass]; rfl
  | gcDeleted hpass => rw [hpass]; rfl
  | gcUnregistered hpass => rw [hpass]; rfl
  | gcForgot hpass => rw [hpass]; rfl

/-- Any number of orderly steps. -/
abbrev Slot.OrderlySteps (rt : Runtime) (sessionId : String) : Slot → Slot → Prop :=
  Relation.ReflTransGen fun σ τ => ∃ act, act.Orderly σ ∧ Slot.Step rt sessionId act σ τ

lemma Slot.OrderlySteps.decided {τ : Slot} (hrun : Slot.OrderlySteps rt sessionId σ τ)
    (h : σ.Decided) : τ.Decided := by
  induction hrun with
  | refl => exact h
  | tail _ hstep ih =>
    obtain ⟨act, horderly, hstep⟩ := hstep
    exact hstep.decided horderly ih

/-- **Maintenance spares live sessions.**  In an orderly run from an idle pass, nothing of an id is
removed while the registry names an open or suspended session for it. -/
theorem maintenance_spares_live {σ₀ σ τ : Slot} {what : Removed} (hidle : σ₀.pass = .idle)
    (hrun : Slot.OrderlySteps rt sessionId σ₀ σ)
    (hremove : Slot.Step rt sessionId (.remove what) σ τ) : ¬ σ.Live := by
  have hdecided : σ₀.Decided := fun h => by
    rw [hidle] at h
    cases h
  exact hrun.decided hdecided hremove.decided_of_remove

end Orderly

/-! ### A start between the removals -/

/-- The slot after a start that succeeded. -/
def Slot.started (σ : Slot) (entry : LogEntry) (s : Session) : Slot :=
  { σ with
    objects := update σ.objects σ.fresh (some s)
    fresh := σ.fresh + 1
    registry := some σ.fresh
    holders := update σ.holders σ.fresh none
    io := { σ.io with
      log := σ.io.log ++ [entry]
      cache := some (σ.io.cache.getD [] ++ [entry]) }
    snapshot := some s }

section Runs

variable {rt : Runtime} {sessionId : String} {σ : Slot}

lemma Slot.started_steps {entry : LogEntry} {s : Session} (hstart : Starts rt sessionId entry s)
    (hfree : σ.registry = none) : Slot.Steps rt sessionId σ (σ.started entry s) := by
  have hreserved : Slot.Steps rt sessionId σ _ := .single ⟨_, .reserve hstart hfree⟩
  have happended := hreserved.tail ⟨_, .startAppended (Function.update_self σ.fresh _ _)⟩
  have hcached := happended.tail ⟨_, .startCached (Function.update_self σ.fresh _ _)⟩
  have hsaved := hcached.tail ⟨_, .startSaved (Function.update_self σ.fresh _ _) true⟩
  dsimp only at hsaved
  rw [Function.update_idem, Function.update_idem, Function.update_idem, Function.update_self,
    if_pos rfl] at hsaved
  exact hsaved

/-- An eviction up to the removal of the id from the registry is a run of orderly steps. -/
lemma Slot.evicted_steps (rt : Runtime) (sessionId : String) {g : ℕ} {s : Session} {cutoff : Int64}
    (hidle : σ.pass = .idle) (hnamed : σ.registry = some g) (hfree : σ.holders g = none)
    (hobject : σ.objects g = some s) (hstale : s.stale cutoff = true) :
    Slot.OrderlySteps rt sessionId σ { σ with registry := none, pass := .evictUnregistered } := by
  have hcollected : Slot.OrderlySteps rt sessionId σ { σ with pass := .evictCandidate cutoff g } :=
    .single ⟨.other, trivial, .evictCollected hidle hnamed cutoff⟩
  have hfound : Slot.OrderlySteps rt sessionId σ { σ with pass := .evictDoomed } :=
    hcollected.tail ⟨.doom g, Or.inr hnamed, .evictFound rfl hfree hobject hstale⟩
  exact hfound.tail ⟨.remove .registryEntry, trivial, .evictUnregistered rfl⟩

lemma Slot.OrderlySteps.steps {τ : Slot} (h : Slot.OrderlySteps rt sessionId σ τ) :
    Slot.Steps rt sessionId σ τ := by
  induction h with
  | refl => exact .refl
  | tail _ hstep ih =>
    obtain ⟨act, -, hstep⟩ := hstep
    exact ih.tail ⟨act, hstep⟩

end Runs

lemma starts_sample :
    (∃ entry, Starts sampleRuntime sampleId entry
        (Handoff.sampleSession 5))
      ∧ ∃ entry, Starts sampleRuntime sampleId entry
        (Handoff.sampleSession 7) := by
  have hmode : sampleRuntime.registries.modes.instantiate (Handoff.sampleStart []).mode
      = .ok (Handoff.mode Handoff.deps) := rfl
  have hfirst : ∃ v, validateSessionStart protobuf (Handoff.sampleStart []) 5
        (startOptions sampleRuntime (Handoff.sampleStart []).mode) = .ok v
      ∧ acceptStart sampleRuntime (Handoff.sampleStart []) (Handoff.mode Handoff.deps) v
        = .ok (Handoff.sampleSession 5) := ⟨_, rfl, rfl⟩
  have hsecond : ∃ v, validateSessionStart protobuf (Handoff.sampleStart []) 7
        (startOptions sampleRuntime (Handoff.sampleStart []).mode) = .ok v
      ∧ acceptStart sampleRuntime (Handoff.sampleStart []) (Handoff.mode Handoff.deps) v
        = .ok (Handoff.sampleSession 7) := ⟨_, rfl, rfl⟩
  obtain ⟨v, hv, ha⟩ := hfirst
  obtain ⟨v', hv', ha'⟩ := hsecond
  exact ⟨⟨_, .mk rfl rfl hmode hv ha⟩, ⟨_, .mk rfl rfl hmode hv' ha'⟩⟩

/-- A storage that never fails, read at the ticking clock. -/
def sampleIo : Io := ⟨[], none, tickingClock, fun _ => 0, fun _ => true⟩

lemma cancelled_steps :
    ∃ σ s, Slot.Steps sampleRuntime sampleId (.initial sampleIo) σ
      ∧ σ.pass = .idle ∧ σ.registry = some 0 ∧ σ.holders 0 = none
      ∧ σ.objects 0 = some s ∧ s.stale 6 = true := by
  obtain ⟨entry, hentry⟩ := starts_sample.1
  have hstarted := Slot.started_steps (σ := .initial sampleIo) hentry rfl
  obtain ⟨s, hs, hcancelled⟩ :=
    (ServerOp.cancelSession "" "a").apply_steps sampleRuntime sampleId (g := 0)
      (σ := (Slot.initial sampleIo).started entry (Handoff.sampleSession 5))
      rfl rfl
  refine ⟨_, s, hstarted.trans hcancelled, rfl, rfl, rfl, rfl, ?_⟩
  have hstale : (((ServerOp.cancelSession "" "a").apply sampleRuntime sampleId
      ⟨some (Handoff.sampleSession 5), (Slot.started (.initial sampleIo) entry
        (Handoff.sampleSession 5)).io⟩).session.any (·.stale 6)) = true := rfl
  rw [hs] at hstale
  exact hstale

/-- The sample session is cancelled and evicted: its registry entry goes while it is not live. -/
theorem maintenance_spares_live_sample :
    ∃ σ τ, Slot.Step sampleRuntime sampleId (.remove .inMemoryLog) σ τ ∧ ¬ σ.Live := by
  obtain ⟨σ₀, s, -, hidle, hnamed, hfree, hobject, hstale⟩ := cancelled_steps
  have hevicted := Slot.evicted_steps sampleRuntime sampleId hidle hnamed hfree
    hobject hstale
  have hremove : Slot.Step sampleRuntime sampleId (.remove .inMemoryLog) _ _ :=
    .evictForgot (σ := { σ₀ with registry := none, pass := .evictUnregistered }) rfl
  exact ⟨_, _, hremove, maintenance_spares_live hidle hevicted hremove⟩

/-- **An eviction removes the log of a live session**: after the id left the registry, and before
its log leaves memory, the id is started again. -/
theorem eviction_removes_live_log :
    ∃ σ τ, Slot.Steps sampleRuntime sampleId (.initial sampleIo) σ
      ∧ Slot.Step sampleRuntime sampleId (.remove .inMemoryLog) σ τ
      ∧ σ.Live ∧ σ.io.cache.isSome = true ∧ τ.Live ∧ τ.io.cache = none := by
  obtain ⟨σ₀, s, hcancelled, hidle, hnamed, hfree, hobject, hstale⟩ := cancelled_steps
  obtain ⟨entry, hentry⟩ := starts_sample.2
  have hevicted := (Slot.evicted_steps sampleRuntime sampleId hidle hnamed
    hfree hobject hstale).steps
  have hstarted := Slot.started_steps
    (σ := { σ₀ with registry := none, pass := .evictUnregistered }) hentry rfl
  have hlive : ∀ σ : Slot, σ.registry = some σ₀.fresh → σ.objects
      = update σ₀.objects σ₀.fresh (some (Handoff.sampleSession 7)) →
      σ.Live := fun σ hregistry hobjects =>
    ⟨σ₀.fresh, _, hregistry, by rw [hobjects, Function.update_self], rfl⟩
  exact ⟨_, _, (hcancelled.trans hevicted).trans hstarted, .evictForgot rfl, hlive _ rfl rfl, rfl,
    hlive _ rfl rfl, rfl⟩

end MacpRuntime
