import TextCursor.Proofs.Template.Calls

/-!
Contract: the flags of readers while applications are nested in any way.

Owns: the moments that sessions come to; the invariant that a flag is set while an application of
the reader is under way, and only then; and what follows at each call. A reader under way refuses,
and nothing is touched. Any other one comes to its end, whatever its parsers apply and catch, with
its flag cleared and all readers that wait for it as they were.

Does not own: what an application yields.

The invariant says that the readers under way are exactly those whose flags are set, and that none
is under way twice. The second part makes it right to clear a flag: no caller needs it any more.
-/

namespace TextCursor.Template

/-! ## Sessions -/

/-- The moments of all sessions with a pool. Readers are applied one after another from outside, and
each application goes on step by step. -/
inductive Pool.Visits (start : Pool) : Moment → Prop
  | first {id : Nat} (inPool : id < start.readers.length) (input : Input) :
      Visits start ⟨start, .called id input, []⟩
  | again {pool : Pool} {outcome : Except Error (List Value)} {id : Nat}
      (ended : Visits start ⟨pool, .ended outcome, []⟩) (inPool : id < start.readers.length)
      (input : Input) : Visits start ⟨pool, .called id input, []⟩
  | step {moment next : Moment} (visited : Visits start moment)
      (steps : moment.step? = some next) : Visits start next

/-- Only readers of the pool are about to be applied, by what is being done and what is left. -/
def Phase.Covered (start : Pool) : Phase → Prop
  | .called id _ => id < start.readers.length
  | .fill work => start.Covers work.reader work.slots
  | .parse work program =>
      start.Covers work.reader work.slots ∧ program.AppliesOnly (· < start.readers.length)
  | .load _ _ | .ended _ => True

structure Caller.Covered (start : Pool) (caller : Caller) : Prop where
  slots : start.Covers caller.call.reader caller.call.slots
  resume : ∀ outcome, (caller.resume outcome).AppliesOnly (· < start.readers.length)

namespace Moment

/-- The flags are those of the readers under way, each of which is under way once. -/
structure Orderly (start : Pool) (moment : Moment) : Prop where
  fits : start.Fits moment.pool
  flags : ∀ id, (moment.pool.reader id).running = true ↔ id ∈ moment.active
  nodup : moment.active.Nodup
  phase : moment.phase.Covered start
  waiting : ∀ caller ∈ moment.waiting, caller.Covered start

/-- A call that is refused leaves the pool as it is, and the parser that made it goes on with the
error. -/
structure Refused (pool : Pool) (id : Nat) (input : Input) (callers : List Caller) : Prop where
  ends : step? ⟨pool, .called id input, callers⟩ =
    some ⟨pool, .ended (.error .alreadyRunning), callers⟩
  resumes : ∀ caller earlier, callers = caller :: earlier →
    step? ⟨pool, .ended (.error .alreadyRunning), callers⟩ =
      some ⟨pool, .parse caller.call (caller.resume (.error .alreadyRunning)), earlier⟩

/-- A call that is accepted sets the flag and ends as `Run.apply` says. Then the flag is cleared,
and the readers under way are as they were. -/
structure Completes (pool : Pool) (id : Nat) (input : Input) (callers : List Caller) : Prop where
  begins : step? ⟨pool, .called id input, callers⟩ =
    some ⟨pool.setRunning id true, .load id input, callers⟩
  ends : Leads callers ⟨pool.setRunning id true, .load id input, callers⟩
    ⟨((Run.apply id input).on pool).2, .ended ((Run.apply id input).on pool).1, callers⟩
  cleared : (((Run.apply id input).on pool).2.reader id).running = false
  keeps : pool.Keeps (fun _ => False) ((Run.apply id input).on pool).2

end Moment

namespace Pool

theorem running_setRunning (pool : Pool) (id other : Nat) (running : Bool) :
    ((pool.setRunning id running).reader other).running =
      if other = id ∧ id < pool.readers.length then running
      else (pool.reader other).running := by
  rw [setRunning, reader_update]
  split
  · rfl
  · rfl

theorem lt_length_of_running {pool : Pool} {id : Nat} (running : (pool.reader id).running = true) :
    id < pool.readers.length := by
  by_contra outside
  rw [reader_of_length_le (Nat.le_of_not_lt outside)] at running
  contradiction

end Pool

/-! ## What a step preserves -/

namespace Moment.Orderly

variable {start pool : Pool} {phase : Phase} {waiting : List Caller} {id : Nat}

theorem accept {input : Input} (orderly : Orderly start ⟨pool, .called id input, waiting⟩)
    (idle : (pool.reader id).running = false) :
    Orderly start ⟨pool.setRunning id true, .load id input, waiting⟩ where
  fits := orderly.fits.setRunning id true
  flags other := by
    have inPool : id < pool.readers.length := orderly.fits.length ▸ orderly.phase
    rw [Pool.running_setRunning]
    by_cases same : other = id
    · simp [same, inPool, active, Phase.active]
    · simpa [same, active, Phase.active] using orderly.flags other
  nodup := by
    refine List.nodup_cons.mpr ⟨?_, orderly.nodup⟩
    intro working
    have running := (orderly.flags id).mpr working
    rw [idle] at running
    contradiction
  phase := trivial
  waiting := orderly.waiting

/-- The end of an application clears the one flag that is to be cleared. -/
theorem close (orderly : Orderly start ⟨pool, phase, waiting⟩) (works : phase.active = [id])
    (outcome : Except Error (List Value)) :
    Orderly start (Moment.close id outcome waiting pool) where
  fits := orderly.fits.setRunning id false
  flags other := by
    have nodup := orderly.nodup
    have flags := orderly.flags other
    have inPool : id < pool.readers.length := by
      apply Pool.lt_length_of_running
      exact (orderly.flags id).mpr (by simp [active, works])
    simp only [active, works, List.singleton_append, List.nodup_cons] at nodup
    simp only [active, works, List.singleton_append, List.mem_cons] at flags
    simp only [Moment.close, Pool.running_setRunning, active, Phase.active, List.nil_append]
    by_cases same : other = id
    · simp [same, inPool, nodup.1]
    · simpa [same] using flags
  nodup := by
    have nodup := orderly.nodup
    simp only [active, works, List.singleton_append, List.nodup_cons] at nodup
    exact nodup.2
  phase := trivial
  waiting := orderly.waiting

/-- Work touches no flag. -/
theorem work {mine : Nat → Prop} {after : Pool} {next : Phase}
    (orderly : Orderly start ⟨pool, phase, waiting⟩) (kept : pool.Keeps mine after)
    (works : next.active = phase.active) (covered : next.Covered start) :
    Orderly start ⟨after, next, waiting⟩ where
  fits := orderly.fits.of_keeps kept
  flags other := by
    have flags := orderly.flags other
    rw [active] at flags ⊢
    rw [works, kept.running other]
    exact flags
  nodup := by
    have nodup := orderly.nodup
    rw [active] at nodup ⊢
    rw [works]
    exact nodup
  phase := covered
  waiting := orderly.waiting

/-- A reader at work stays at work unless an error ends the application. -/
theorem proceed {α : Type} (orderly : Orderly start ⟨pool, phase, waiting⟩)
    (works : phase.active = [id]) {body : Run α} (keeps : body.Keeps (· = id))
    {next : α → Phase} (nextWorks : ∀ value, (next value).active = [id])
    (covered : ∀ value, (next value).Covered start) :
    Orderly start (Moment.proceed id waiting (fun value after => ⟨after, next value, waiting⟩)
      (body.on pool)) := by
  have kept := keeps pool
  cases ran : body.on pool with
  | mk outcome after =>
      rw [ran] at kept
      cases outcome with
      | ok value => exact orderly.work kept ((nextWorks value).trans works.symm) (covered value)
      | error error => exact (orderly.work kept rfl orderly.phase).close works (.error error)

/-- A parser that applies a reader waits for it. -/
theorem call {call : Call} {reader : Nat} {input : Cursor → Input}
    {next : Except Error (List Value) → Program}
    (orderly : Orderly start ⟨pool, .parse call (.apply reader input next), waiting⟩)
    (given : Input) : Orderly start ⟨pool, .called reader given, ⟨call, next⟩ :: waiting⟩ := by
  obtain ⟨slots, inPool, applies⟩ := orderly.phase
  exact ⟨orderly.fits, orderly.flags, orderly.nodup, inPool,
    List.forall_mem_cons.mpr ⟨⟨slots, applies⟩, orderly.waiting⟩⟩

/-- The parser that waits goes on with the outcome. -/
theorem resume {caller : Caller} {outcome : Except Error (List Value)}
    (orderly : Orderly start ⟨pool, .ended outcome, caller :: waiting⟩) :
    Orderly start ⟨pool, .parse caller.call (caller.resume outcome), waiting⟩ := by
  obtain ⟨covered, others⟩ := List.forall_mem_cons.mp orderly.waiting
  have goesOn := covered.resume outcome
  exact ⟨orderly.fits, orderly.flags, orderly.nodup, ⟨covered.slots, goesOn⟩, others⟩

theorem step (closed : start.Closed) {moment next : Moment} (orderly : moment.Orderly start)
    (steps : moment.step? = some next) : next.Orderly start := by
  obtain ⟨pool, phase, waiting⟩ := moment
  cases phase with
  | called id input =>
      cases running : (pool.reader id).running with
      | true =>
          rw [step?_of_running running] at steps
          obtain rfl := Option.some.inj steps
          have untouched : pool.Keeps (fun _ => False) pool := .refl pool
          exact orderly.work untouched rfl trivial
      | false =>
          rw [step?_of_idle running] at steps
          obtain rfl := Option.some.inj steps
          exact orderly.accept running
  | load id input =>
      obtain rfl := Option.some.inj steps
      have covers := closed id
      rw [← orderly.fits.template id] at covers
      exact orderly.proceed rfl (Run.keeps_load id input) (fun _ => rfl) fun _ => covers
  | fill call =>
      obtain ⟨id, values, index, slots⟩ := call
      cases slots with
      | nil =>
          obtain rfl := Option.some.inj steps
          exact orderly.close rfl _
      | cons slot later =>
          obtain rfl := Option.some.inj steps
          obtain ⟨coversSlot, coversLater⟩ := List.forall_mem_cons.mp orderly.phase
          have keeps : (reach id slot index).Keeps (· = id) :=
            Run.keeps_bind (Run.keeps_seek id _) fun _ => Run.keeps_countUse id index
          exact orderly.proceed rfl keeps (fun _ => rfl)
            fun earlier => ⟨coversLater, coversSlot earlier⟩
  | parse call program =>
      obtain ⟨covers, applies⟩ := orderly.phase
      cases program with
      | finish outcome =>
          obtain rfl := Option.some.inj steps
          exact orderly.proceed rfl (Run.keeps_liftExcept outcome) (fun _ => rfl) fun _ => covers
      | edit step next =>
          obtain rfl := Option.some.inj steps
          exact orderly.proceed rfl (Run.keeps_onBuffer call.reader step) (fun _ => rfl)
            fun outcome => ⟨covers, applies outcome⟩
      | apply reader input next =>
          obtain rfl := Option.some.inj steps
          exact orderly.call _
  | ended outcome =>
      cases waiting with
      | nil => contradiction
      | cons caller earlier =>
          obtain rfl := Option.some.inj steps
          exact orderly.resume

end Moment.Orderly

/-! ## What a session preserves -/

namespace Pool.Visits

variable {start : Pool} {moment : Moment}

theorem orderly (closed : start.Closed) (resting : ∀ id, (start.reader id).running = false)
    (visited : start.Visits moment) : moment.Orderly start := by
  induction visited with
  | first inPool input =>
      refine ⟨.refl start, ?_, List.nodup_nil, inPool, by simp⟩
      intro id
      simp [Moment.active, Phase.active, resting id]
  | again ended inPool input inductionHypothesis =>
      exact ⟨inductionHypothesis.fits, inductionHypothesis.flags, inductionHypothesis.nodup, inPool,
        inductionHypothesis.waiting⟩
  | step visited steps inductionHypothesis => exact inductionHypothesis.step closed steps

end Pool.Visits

theorem Moment.refused_of_running {pool : Pool} {id : Nat}
    (running : (pool.reader id).running = true) (input : Input) (callers : List Caller) :
    Refused pool id input callers where
  ends := step?_of_running running input callers
  resumes := by
    rintro caller earlier rfl
    rfl

theorem Moment.completes_of_idle {start pool : Pool} (closed : start.Closed)
    (fits : start.Fits pool) {id : Nat} (inPool : id < start.readers.length)
    (idle : (pool.reader id).running = false) (input : Input) (callers : List Caller) :
    Completes pool id input callers where
  begins := step?_of_idle idle input callers
  ends := leads_apply closed callers fits inPool idle rfl
  cleared := ((Run.keeps_apply id input pool).running id).trans idle
  keeps := Run.keeps_apply id input pool

/-- At each moment of a session with readers that rest in the beginning and apply one another in any
way, the flags that are set are those of the readers with an accepted application that has not
ended. A call of such a reader is refused and changes nothing. A call of any other reader is
accepted, and however it ends, its flag is cleared then. -/
theorem Pool.Visits.flags_follow_calls {start : Pool} (closed : start.Closed)
    (resting : ∀ id, (start.reader id).running = false) {moment : Moment}
    (visited : start.Visits moment) :
    (∀ id, (moment.pool.reader id).running = true ↔ id ∈ moment.active) ∧
      ∀ pool id input callers, moment = ⟨pool, .called id input, callers⟩ →
        if id ∈ moment.active then Moment.Refused pool id input callers
        else Moment.Completes pool id input callers := by
  have orderly := visited.orderly closed resting
  refine ⟨orderly.flags, ?_⟩
  rintro pool id input callers rfl
  split
  next working => exact Moment.refused_of_running ((orderly.flags id).mpr working) input callers
  next resting =>
      have idle : (pool.reader id).running = false := by
        rw [← Bool.not_eq_true]
        exact mt (orderly.flags id).mp resting
      exact Moment.completes_of_idle closed orderly.fits orderly.phase idle input callers

/-! ## Two readers that apply each other -/

/-- The first reader applies the second one and lets no error pass, and the second applies the first
one. -/
def rivals : Pool where
  readers := [
    .new ⟨[⟨['a'], ⟨"first".toList, fun _ _ => .apply 1 .cursor fun outcome =>
      .finish (.ok (.bool outcome.isOk))⟩⟩], []⟩,
    .new ⟨[⟨[], ⟨"second".toList, fun _ _ => .ofReader 0⟩⟩], []⟩]

theorem rivals_closed : rivals.Closed := by
  intro id slot member earlier
  match id with
  | 0 =>
      obtain rfl := List.mem_singleton.mp member
      exact ⟨by decide, fun _ => trivial⟩
  | 1 =>
      obtain rfl := List.mem_singleton.mp member
      exact ⟨by decide, fun _ => trivial⟩
  | id + 2 => exact absurd member List.not_mem_nil

theorem rivals_resting (id : Nat) : (rivals.reader id).running = false := by
  match id with
  | 0 => rfl
  | 1 => rfl
  | id + 2 => rfl

/-- The second reader's parser applies the first reader, which waits for it. The first one goes on
behind the error. -/
theorem flags_follow_calls_of_rivals :
    rivals.Closed ∧ (∀ id, (rivals.reader id).running = false) ∧
      (∃ pool input callers, rivals.Visits ⟨pool, .called 0 input, callers⟩ ∧
        (pool.reader 0).running = true ∧ (pool.reader 1).running = true ∧
        Moment.Refused pool 0 input callers) ∧
      ((Run.apply 0 (.text ['a', 'b'])).on rivals).1 = .ok [.bool false] := by
  have called : rivals.Visits ⟨rivals, .called 0 (.text ['a', 'b']), []⟩ := .first (by decide) _
  have waiting : rivals.Visits _ := .step (.step (.step (.step called rfl) rfl) rfl) rfl
  have again : rivals.Visits _ := .step (.step (.step (.step waiting rfl) rfl) rfl) rfl
  have guarded := again.flags_follow_calls rivals_closed rivals_resting
  have first := (guarded.1 0).mpr (by decide)
  have second := (guarded.1 1).mpr (by decide)
  have refused := guarded.2 _ _ _ _ rfl
  rw [if_pos (by decide)] at refused
  exact ⟨rivals_closed, rivals_resting, ⟨_, _, _, again, first, second, refused⟩, rfl⟩

end TextCursor.Template
