import AsyncFrame.CancelRace
import AsyncFrame.Eventfds
import AsyncFrame.ReactorRefinement

/-!
# Cancelling from other threads

`request_cancel` sets the flag and writes to the eventfd in two steps.  Here
any number of threads are inside it, and each of these steps falls between two
actions of the scheduler's thread, which is not interrupted from where an
operation is started or resumed to where it is suspended next; a flag that is
set inside `await_suspend` is what `CancelRace` is about.  For the program
such a call happens at its compare-exchange: the run is one of the reactor, in
which cancelling is one step.
-/

namespace AsyncFrame

open AsyncFrame.Lib

/-! ## The shared state of a token -/

namespace System

variable {queues : TimerQueue} {s : System queues} {token : Fd}

/-- The shared state of a token is another one. -/
def withToken (s : System queues) (token : Fd) (cancelled : Bool)
    (counter : Nat) : System queues :=
  { s with
    rt :=
      { s.rt with
        files :=
          Function.update s.rt.files token (.eventFd cancelled counter) } }

private theorem setCancelled_eq {cancelled : Bool} {counter : Nat}
    (file : s.rt.files token = .eventFd cancelled counter) :
    { s with rt := s.rt.setCancelled token } =
      s.withToken token true counter := by
  simp only [Runtime.setCancelled, file, withToken]

private theorem signalCancelled_eq {cancelled : Bool} {counter : Nat}
    (file : s.rt.files token = .eventFd cancelled counter) :
    { s with rt := s.rt.signalCancelled token } =
      s.withToken token cancelled (counter + 1) := by
  simp only [Runtime.signalCancelled, file, withToken]

/-- Another thread's step is none of the scheduler's, but a move like any
other. -/
theorem Good.withToken (good : Good s) {cancelled : Bool} {counter : Nat}
    (eventFd : (s.rt.files token).isEventFd = true)
    (stays : s.rt.tokenFlag token = true → cancelled = true) :
    Good (s.withToken token cancelled counter) := by
  have move : Move (.requestCancel token) s
      (s.withToken token cancelled counter) := by
    refine calm_of_files good _ rfl rfl rfl ?_ ?_ ?_
    · intro frame op waits fd touched
      by_cases same : fd = token
      · subst same
        rw [Function.update_self]
        exact Or.inr ⟨rfl, eventFd⟩
      · exact Or.inl (Function.update_of_ne same _ _)
    · refine Function.update_of_ne ?_ _ _
      rintro rfl
      rw [good.sound.inOrder.timerFile] at eventFd
      cases eventFd
    · intro other _ flag
      by_cases same : other = token
      · subst same
        simp [Runtime.tokenFlag, stays flag]
      · rw [tokenFlag_update _ _ same]
        exact flag
  exact ⟨move.sound good.sound, good.linked, good.fetched⟩

private theorem reactor_withToken (s : System queues) (token : Fd)
    (cancelled : Bool) (counter : Nat) :
    (s.withToken token cancelled counter).reactor =
      { s.reactor with
        requested :=
          Function.update s.reactor.requested token cancelled } := by
  refine Reactor.ext rfl rfl ?_ rfl rfl rfl rfl rfl
  exact tokenFlag_updated s.rt token _ (by simp [Runtime.tokenFlag])

end System

/-! ## The threads -/

/-- The program, and the calls of `request_cancel` that have not returned, by
their threads: the token, and what is next. -/
structure Threads (queues : TimerQueue) where
  program : System queues
  calls : Finmap fun _ : Nat => Fd × Canceller

namespace Threads

variable {queues : TimerQueue}

/-- The scheduler's thread takes a whole action, a thread calls
`request_cancel`, or one takes a step inside it. -/
inductive Action where
  | program (action : AsyncFrame.Action)
  | requestCancel (thread : Nat) (token : Fd)
  | advance (thread : Nat)
  deriving DecidableEq

def initial (queues : TimerQueue) (timerFd : Fd) (uptime : Nat)
    (buffers : BufferRef → Buffer) : Threads queues where
  program := System.initial queues timerFd uptime buffers
  calls := ∅

/-- Some thread calls `request_cancel` on this token, and holds a copy of it
meanwhile. -/
def inUse (t : Threads queues) (token : Fd) : Bool :=
  decide (∃ thread ∈ t.calls.keys,
    (t.calls.lookup thread).any (fun call => call.1 = token) = true)

/-- What the scheduler's thread may do as far as the other threads are
concerned: the eventfd of a token is closed with its last copy, and every call
of `request_cancel` is one of `calls`. -/
def permits (t : Threads queues) : AsyncFrame.Action → Bool
  | .requestCancel _ => false
  | .closeFd fd => !t.inUse fd
  | _ => true

/-- One step of a thread that is inside `request_cancel`, or one action of the
scheduler's thread, during which no other thread takes a step. -/
def step (t : Threads queues) : Action → Option (Threads queues)
  | .program action =>
      if t.permits action then
        (t.program.step action).map fun program =>
          { t with program := program }
      else none
  | .requestCancel thread token =>
      if t.program.rt.fault = none ∧ t.calls.lookup thread = none ∧
          (t.program.rt.files token).isEventFd = true then
        some
          { t with
            calls := t.calls.insert thread (token, .compareExchange) }
      else none
  | .advance thread =>
      match t.program.rt.fault, t.calls.lookup thread with
      | none, some (token, canceller) =>
          (t.program.rt.requestCancelStep token canceller).map fun after =>
            { program := { t.program with rt := after.1 }
              calls :=
                if after.2 = .done then t.calls.erase thread
                else t.calls.insert thread (token, after.2) }
      | _, _ => none

/-- What the scheduler's thread does meets the condition. -/
def Meeting (condition : System queues → AsyncFrame.Action → Prop)
    (t : Threads queues) : Action → Prop
  | .program action => condition t.program action
  | _ => True

instance {condition : System queues → AsyncFrame.Action → Prop}
    [DecidableRel condition] : DecidableRel (Meeting condition) :=
  fun t action =>
    match action with
    | .program act => inferInstanceAs (Decidable (condition t.program act))
    | .requestCancel _ _ => inferInstanceAs (Decidable True)
    | .advance _ => inferInstanceAs (Decidable True)

/-- The threads get to `t`, and what the scheduler's thread does on the way
meets the condition. -/
def Reaches (condition : System queues → AsyncFrame.Action → Prop)
    (timerFd : Fd) (uptime : Nat) (buffers : BufferRef → Buffer)
    (actions : List Action) (t : Threads queues) : Prop :=
  Meets step (Meeting condition) (initial queues timerFd uptime buffers)
      actions ∧
    runFrom step (initial queues timerFd uptime buffers) actions = some t

/-- What an action is in the reactor.  A call of `request_cancel` happens at
its compare-exchange, whether that succeeds or finds the flag set. -/
def shows (t : Threads queues) : Action → Option AsyncFrame.Action
  | .program action => some action
  | .requestCancel _ _ => none
  | .advance thread =>
      match t.calls.lookup thread with
      | some (token, .compareExchange) => some (.requestCancel token)
      | _ => none

variable {t next : Threads queues} {thread : Nat} {token : Fd}
variable {condition : System queues → AsyncFrame.Action → Prop}
variable {timerFd : Fd} {uptime : Nat} {buffers : BufferRef → Buffer}
variable {actions : List Action}

/-! ## One step -/

private theorem inUse_iff :
    t.inUse token = true ↔
      ∃ thread canceller, t.calls.lookup thread = some (token, canceller) := by
  simp only [inUse, decide_eq_true_eq, Option.any_eq_true]
  constructor
  · rintro ⟨thread, _, ⟨held, canceller⟩, found, rfl⟩
    exact ⟨thread, canceller, found⟩
  · rintro ⟨thread, canceller, found⟩
    refine ⟨thread, ?_, (token, canceller), found, rfl⟩
    exact Finmap.mem_keys.mpr (Finmap.mem_of_lookup_eq_some found)

/-- What a step inside `request_cancel` does: the flag is found or set, or the
eventfd is written. -/
theorem step_advance (taken : t.step (.advance thread) = some next) :
    ∃ token,
      (t.calls.lookup thread = some (token, .compareExchange) ∧
        t.program.rt.tokenFlag token = true ∧
        next = { t with calls := t.calls.erase thread }) ∨
      (t.calls.lookup thread = some (token, .compareExchange) ∧
        t.program.rt.tokenFlag token = false ∧
        next =
          { program :=
              { t.program with rt := t.program.rt.setCancelled token }
            calls := t.calls.insert thread (token, .write) }) ∨
      (t.calls.lookup thread = some (token, .write) ∧
        next =
          { program :=
              { t.program with rt := t.program.rt.signalCancelled token }
            calls := t.calls.erase thread }) := by
  simp only [step] at taken
  split at taken
  · rename_i token canceller _ found
    refine ⟨token, ?_⟩
    obtain ⟨⟨rt, after⟩, moved, rfl⟩ := Option.map_eq_some_iff.mp taken
    cases canceller with
    | compareExchange =>
        simp only [Runtime.requestCancelStep] at moved
        split at moved
        · rename_i flag
          cases moved
          exact Or.inl ⟨found, flag, by simp⟩
        · rename_i unset
          cases moved
          exact Or.inr (Or.inl
            ⟨found, Bool.eq_false_iff.mpr unset, by simp⟩)
    | write =>
        cases moved
        exact Or.inr (Or.inr ⟨found, by simp⟩)
    | done => cases moved
  · cases taken

theorem step_program {action : AsyncFrame.Action}
    (taken : t.step (.program action) = some next) :
    t.permits action = true ∧ t.program.step action = some next.program ∧
      next.calls = t.calls := by
  simp only [step] at taken
  split at taken
  · rename_i permitted
    obtain ⟨program, moved, rfl⟩ := Option.map_eq_some_iff.mp taken
    exact ⟨permitted, moved, rfl⟩
  · cases taken

private theorem step_requestCancel
    (taken : t.step (.requestCancel thread token) = some next) :
    t.calls.lookup thread = none ∧
      (t.program.rt.files token).isEventFd = true ∧
      next =
        { t with
          calls := t.calls.insert thread (token, .compareExchange) } := by
  simp only [step] at taken
  split at taken
  · rename_i allowed
    cases taken
    exact ⟨allowed.2.1, allowed.2.2, rfl⟩
  · cases taken

private theorem lookup_of_erase {calls : Finmap fun _ : Nat => Fd × Canceller}
    {other : Nat} {call : Fd × Canceller}
    (found : (calls.erase thread).lookup other = some call) :
    other ≠ thread ∧ calls.lookup other = some call := by
  have different : other ≠ thread := by
    rintro rfl
    simp at found
  rw [Finmap.lookup_erase_ne different] at found
  exact ⟨different, found⟩

private theorem lookup_of_insert {calls : Finmap fun _ : Nat => Fd × Canceller}
    {other : Nat} {inserted call : Fd × Canceller}
    (found : (calls.insert thread inserted).lookup other = some call) :
    other = thread ∧ call = inserted ∨
      other ≠ thread ∧ calls.lookup other = some call := by
  by_cases same : other = thread
  · subst same
    rw [Finmap.lookup_insert] at found
    exact Or.inl ⟨rfl, (Option.some.inj found).symm⟩
  · rw [Finmap.lookup_insert_of_ne _ same] at found
    exact Or.inr ⟨same, found⟩

/-! ## What holds between the steps -/

/-- The flags, the eventfds and the calls agree: each token is written once,
by the call that set its flag, and as long as something is registered for a
cancelled token its eventfd can be read or is going to be written. -/
structure Running (t : Threads queues) : Prop where
  good : System.Good t.program
  opened : ∀ thread token canceller,
    t.calls.lookup thread = some (token, canceller) →
      (t.program.rt.files token).isEventFd = true
  owes : ∀ thread token, t.calls.lookup thread = some (token, .write) →
    t.program.rt.files token = .eventFd true 0
  alone : ∀ thread other token,
    t.calls.lookup thread = some (token, .write) →
      t.calls.lookup other = some (token, .write) → thread = other
  unsignalled : System.Unsignalled t.program.rt
  once : ∀ token counter,
    t.program.rt.files token = .eventFd true counter → counter ≤ 1
  arrives : ∀ token pointer, t.program.rt.tokenFlag token = true →
    t.program.rt.scheduler.registry token .read = some pointer →
      (∃ thread, t.calls.lookup thread = some (token, .write)) ∨
        t.program.rt.files token = .eventFd true 1

theorem running_initial (queues : TimerQueue) (timerFd : Fd) (uptime : Nat)
    (buffers : BufferRef → Buffer) :
    Running (initial queues timerFd uptime buffers) := by
  have noCall : ∀ thread, (initial queues timerFd uptime
      buffers).calls.lookup thread = none := fun _ => rfl
  have noToken : ∀ token cancelled counter, (initial queues timerFd uptime
      buffers).program.rt.files token ≠ .eventFd cancelled counter := by
    intro token cancelled counter
    by_cases same : token = timerFd
    · simp [initial, System.initial, same]
    · simp [initial, System.initial, Function.update_of_ne same]
  constructor
  · exact System.good_initial queues timerFd uptime buffers
  · intro thread token canceller found
    simp [noCall] at found
  · intro thread token found
    simp [noCall] at found
  · intro thread other token found
    simp [noCall] at found
  · intro token counter file
    exact absurd file (noToken token false counter)
  · intro token counter file
    exact absurd file (noToken token true counter)
  · intro token pointer _ found
    exact absurd found (by simp [initial, System.initial, Scheduler.registry,
      Scheduler.initial])

/-- What a step of the scheduler's thread does to one descriptor: nothing, a
cancelled token is read and unregistered, or the descriptor is another file
than before. -/
theorem refiles_cases {s after : System queues} {action : AsyncFrame.Action}
    (refiles : System.Refiles s after action) (fd : Fd) :
    after.rt.files fd = s.rt.files fd ∨
      ((∃ counter, s.rt.files fd = .eventFd true counter) ∧
        after.rt.files fd = .eventFd true 0 ∧
        after.rt.scheduler.registry fd .read = none) ∨
      ((s.rt.files fd = .closed ∨ action = .closeFd fd) ∧
        ∀ cancelled counter, after.rt.files fd = .eventFd cancelled counter →
          cancelled = false ∧ counter = 0) := by
  cases refiles with
  | keeps files => exact Or.inl (congrFun files fd)
  | @reads _ token counter file files unregistered =>
      by_cases same : fd = token
      · subst same
        refine Or.inr (Or.inl ⟨⟨counter, file⟩, ?_, unregistered⟩)
        rw [files, Function.update_self]
      · left
        rw [files, Function.update_of_ne same]
  | @opens opened file closed fresh files =>
      by_cases same : fd = opened
      · subst same
        refine Or.inr (Or.inr ⟨Or.inl closed, fun cancelled counter here => ?_⟩)
        rw [files, Function.update_self] at here
        rcases fresh with rfl | rfl
        · cases here
        · cases here
          exact ⟨rfl, rfl⟩
      · left
        rw [files, Function.update_of_ne same]
  | @closes closed files =>
      by_cases same : fd = closed
      · subst same
        refine Or.inr (Or.inr ⟨Or.inr rfl, fun cancelled counter here => ?_⟩)
        rw [files, Function.update_self] at here
        cases here
      · left
        rw [files, Function.update_of_ne same]

private theorem Running.program (running : Running t)
    {action : AsyncFrame.Action} (keeps : System.KeepsPending t.program action)
    (taken : t.step (.program action) = some next) : Running next := by
  obtain ⟨permitted, moved, same⟩ := step_program taken
  have atomic : ∀ token, action ≠ .requestCancel token := by
    rintro token rfl
    cases permitted
  obtain ⟨move, good⟩ := System.step_move running.good keeps moved
  have refiles :=
    refiles_cases (running.good.refiles keeps atomic moved)
  -- The token of a call is neither opened nor closed.
  have called : ∀ {thread token canceller},
      t.calls.lookup thread = some (token, canceller) →
        ¬(t.program.rt.files token = .closed ∨ action = .closeFd token) := by
    rintro thread token canceller found (closed | rfl)
    · have eventFd := running.opened thread token canceller found
      rw [closed] at eventFd
      cases eventFd
    · have used := inUse_iff.mpr ⟨thread, canceller, found⟩
      simp [permits, used] at permitted
  constructor
  · exact good
  · intro thread token canceller found
    rw [same] at found
    have eventFd := running.opened thread token canceller found
    rcases refiles token with kept | ⟨_, read, _⟩ | ⟨other, _⟩
    · rwa [kept]
    · rw [read]
      rfl
    · exact absurd other (called found)
  · intro thread token found
    rw [same] at found
    have owed := running.owes thread token found
    rcases refiles token with kept | ⟨_, read, _⟩ | ⟨other, _⟩
    · rwa [kept]
    · exact read
    · exact absurd other (called found)
  · rw [same]
    exact running.alone
  · intro token counter file
    rcases refiles token with kept | ⟨_, read, _⟩ | ⟨_, fresh⟩
    · exact running.unsignalled token counter (kept.symm.trans file)
    · rw [read] at file
      cases file
    · exact (fresh false counter file).2
  · intro token counter file
    rcases refiles token with kept | ⟨_, read, _⟩ | ⟨_, fresh⟩
    · exact running.once token counter (kept.symm.trans file)
    · rw [read] at file
      cases file
      exact Nat.zero_le 1
    · cases (fresh true counter file).1
  · intro token pointer flag registered
    rw [same]
    rcases refiles token with kept | ⟨_, _, unregistered⟩ | ⟨_, fresh⟩
    · rw [kept]
      have before : t.program.rt.tokenFlag token = true := by
        rw [← flag]
        simp only [Runtime.tokenFlag, kept]
      have eventFd : (t.program.rt.files token).isEventFd = true := by
        cases file : t.program.rt.files token with
        | eventFd cancelled counter => rfl
        | _ => simp [Runtime.tokenFlag, file] at before
      exact running.arrives token pointer before
        (running.good.registered_before move eventFd before registered)
    · rw [unregistered] at registered
      cases registered
    · cases file : next.program.rt.files token with
      | eventFd cancelled counter =>
          obtain ⟨rfl, _⟩ := fresh cancelled counter file
          simp [Runtime.tokenFlag, file] at flag
      | _ => simp [Runtime.tokenFlag, file] at flag

/-- A call that is over, or has just begun, owes nothing. -/
theorem Running.recalled (running : Running t)
    {calls : Finmap fun _ : Nat => Fd × Canceller}
    (opened : ∀ thread token canceller,
      calls.lookup thread = some (token, canceller) →
        (t.program.rt.files token).isEventFd = true)
    (owing : ∀ thread token, calls.lookup thread = some (token, .write) ↔
      t.calls.lookup thread = some (token, .write)) :
    Running { t with calls := calls } where
  good := running.good
  opened := opened
  owes thread token found :=
    running.owes thread token ((owing thread token).mp found)
  alone thread other token found again :=
    running.alone thread other token ((owing thread token).mp found)
      ((owing other token).mp again)
  unsignalled := running.unsignalled
  once := running.once
  arrives token pointer flag registered :=
    (running.arrives token pointer flag registered).imp_left
      (Exists.imp fun thread owed => (owing thread token).mpr owed)

private theorem Running.requestCancel (running : Running t)
    (taken : t.step (.requestCancel thread token) = some next) :
    Running next := by
  obtain ⟨free, eventFd, rfl⟩ := step_requestCancel taken
  refine running.recalled ?_ ?_
  · intro other held canceller found
    rcases lookup_of_insert found with ⟨_, same⟩ | ⟨_, called⟩
    · cases same
      exact eventFd
    · exact running.opened other held canceller called
  · intro other held
    by_cases same : other = thread
    · subst same
      rw [Finmap.lookup_insert, free]
      simp
    · rw [Finmap.lookup_insert_of_ne _ same]

/-- The token of a call is set or written. -/
theorem Running.withToken (running : Running t) {counter : Nat}
    (eventFd : (t.program.rt.files token).isEventFd = true)
    (bounded : counter ≤ 1)
    {calls : Finmap fun _ : Nat => Fd × Canceller}
    (kept : ∀ thread held canceller,
      calls.lookup thread = some (held, canceller) →
        ∃ before, t.calls.lookup thread = some (held, before))
    (others : ∀ thread held, held ≠ token →
      (calls.lookup thread = some (held, .write) ↔
        t.calls.lookup thread = some (held, .write)))
    (unwritten : ∀ thread, calls.lookup thread = some (token, .write) →
      counter = 0)
    (alone : ∀ thread other, calls.lookup thread = some (token, .write) →
      calls.lookup other = some (token, .write) → thread = other)
    (arrives : (∃ thread, calls.lookup thread = some (token, .write)) ∨
      counter = 1) :
    Running ⟨t.program.withToken token true counter, calls⟩ := by
  have here : (t.program.withToken token true counter).rt.files token =
      .eventFd true counter := Function.update_self _ _ _
  have there : ∀ held, held ≠ token →
      (t.program.withToken token true counter).rt.files held =
        t.program.rt.files held :=
    fun held other => Function.update_of_ne other _ _
  constructor
  · exact running.good.withToken eventFd (fun _ => rfl)
  · intro thread held canceller found
    obtain ⟨before, called⟩ := kept thread held canceller found
    by_cases same : held = token
    · rw [same, here]
      rfl
    · rw [there held same]
      exact running.opened thread held before called
  · intro thread held found
    by_cases same : held = token
    · subst same
      rw [here, unwritten thread found]
    · rw [there held same]
      exact running.owes thread held ((others thread held same).mp found)
  · intro thread other held found again
    by_cases same : held = token
    · subst same
      exact alone thread other found again
    · exact running.alone thread other held
        ((others thread held same).mp found)
        ((others other held same).mp again)
  · exact running.unsignalled.update fun _ file => by cases file
  · intro held count file
    by_cases same : held = token
    · rw [same, here] at file
      cases file
      exact bounded
    · rw [there held same] at file
      exact running.once held count file
  · intro held pointer flag registered
    by_cases same : held = token
    · subst same
      rw [here]
      exact arrives.imp_right fun written => by rw [written]
    · rw [there held same]
      have before : t.program.rt.tokenFlag held = true := by
        rw [← flag]
        simp only [Runtime.tokenFlag, there held same]
      exact (running.arrives held pointer before registered).imp_left
        (Exists.imp fun thread owed => (others thread held same).mpr owed)

private theorem Running.advance (running : Running t)
    (taken : t.step (.advance thread) = some next) : Running next := by
  obtain ⟨token, ⟨found, flag, rfl⟩ | ⟨found, unset, rfl⟩ | ⟨found, rfl⟩⟩ :=
    step_advance taken
  · refine running.recalled ?_ ?_
    · intro other held canceller called
      exact running.opened other held canceller (lookup_of_erase called).2
    · intro other held
      by_cases same : other = thread
      · subst same
        simp [found]
      · rw [Finmap.lookup_erase_ne same]
  · -- The flag was not set, so nothing has been written or is owed.
    have eventFd := running.opened thread token _ found
    obtain ⟨cancelled, counter, file⟩ := File.isEventFd_iff.mp eventFd
    have free : cancelled = false := by
      simpa [Runtime.tokenFlag, file] using unset
    subst free
    have empty := running.unsignalled token counter file
    subst empty
    have nobody : ∀ other, t.calls.lookup other ≠ some (token, .write) := by
      intro other owed
      rw [running.owes other token owed] at file
      cases file
    rw [System.setCancelled_eq file]
    have inserted : (t.calls.insert thread (token, .write)).lookup thread =
        some (token, .write) := Finmap.lookup_insert _
    have only : ∀ other, (t.calls.insert thread (token,
        Canceller.write)).lookup other = some (token, .write) →
          other = thread := by
      intro other owed
      rcases lookup_of_insert owed with ⟨same, _⟩ | ⟨_, before⟩
      · exact same
      · exact absurd before (nobody other)
    refine running.withToken eventFd (Nat.zero_le 1) ?_ ?_ (fun _ _ => rfl)
      ?_ (Or.inl ⟨thread, inserted⟩)
    · intro other held canceller called
      rcases lookup_of_insert called with ⟨rfl, same⟩ | ⟨_, before⟩
      · cases same
        exact ⟨_, found⟩
      · exact ⟨_, before⟩
    · intro other held different
      by_cases same : other = thread
      · subst same
        simp [inserted, found, different.symm]
      · rw [Finmap.lookup_insert_of_ne _ same]
    · intro first second owed again
      rw [only first owed, only second again]
  · have file := running.owes thread token found
    have eventFd := running.opened thread token _ found
    have nobody : ∀ other, (t.calls.erase thread).lookup other ≠
        some (token, .write) := by
      intro other owed
      obtain ⟨different, before⟩ := lookup_of_erase owed
      exact different (running.alone other thread token before found)
    rw [System.signalCancelled_eq file]
    refine running.withToken eventFd (le_refl 1) ?_ ?_
      (fun other owed => absurd owed (nobody other))
      (fun other _ owed => absurd owed (nobody other)) (Or.inr rfl)
    · intro other held canceller called
      exact ⟨_, (lookup_of_erase called).2⟩
    · intro other held different
      by_cases same : other = thread
      · subst same
        simp [found, different.symm]
      · rw [Finmap.lookup_erase_ne same]

theorem Running.step (running : Running t) {action : Action}
    (keeps : Meeting System.KeepsPending t action)
    (taken : t.step action = some next) : Running next := by
  cases action with
  | program action => exact running.program keeps taken
  | requestCancel thread token => exact running.requestCancel taken
  | advance thread => exact running.advance taken

/-- What the other threads do leaves the table, the frames and the record
alone, and a token that is cancelled. -/
theorem step_others {action : Action}
    (other : ∀ act, action ≠ .program act)
    (taken : t.step action = some next) :
    next.program.rt.scheduler = t.program.rt.scheduler ∧
      next.program.frames = t.program.frames ∧
      next.program.trace = t.program.trace ∧
      ∀ token, t.program.rt.tokenFlag token = true →
        next.program.rt.tokenFlag token = true := by
  cases action with
  | program act => exact absurd rfl (other act)
  | requestCancel thread token =>
      obtain ⟨_, _, rfl⟩ := step_requestCancel taken
      exact ⟨rfl, rfl, rfl, fun _ flag => flag⟩
  | advance thread =>
      obtain ⟨token, ⟨_, _, rfl⟩ | ⟨_, _, rfl⟩ | ⟨_, rfl⟩⟩ :=
        step_advance taken
      · exact ⟨rfl, rfl, rfl, fun _ flag => flag⟩
      · cases file : t.program.rt.files token with
        | eventFd cancelled counter =>
            rw [System.setCancelled_eq file]
            refine ⟨rfl, rfl, rfl, fun held flag => ?_⟩
            by_cases same : held = token
            · simp [System.withToken, Runtime.tokenFlag, same]
            · exact (System.tokenFlag_update _ _ same).trans flag
        | _ => simp [Runtime.setCancelled, file]
      · cases file : t.program.rt.files token with
        | eventFd cancelled counter =>
            rw [System.signalCancelled_eq file]
            refine ⟨rfl, rfl, rfl, fun held flag => ?_⟩
            by_cases same : held = token
            · subst same
              simp only [Runtime.tokenFlag, file] at flag
              simp [System.withToken, Runtime.tokenFlag, flag]
            · exact (System.tokenFlag_update _ _ same).trans flag
        | _ => simp [Runtime.signalCancelled, file]

/-- The slots of the suspended operations stay filled. -/
theorem filed_step {member : OpMember} {action : Action}
    (running : Running t) (filed : System.Filed member t.program)
    (keeps : Meeting System.KeepsPending t action)
    (alone : Meeting
      (fun s act => s.unshared member act = true) t action)
    (taken : t.step action = some next) :
    System.Filed member next.program := by
  cases action with
  | program action =>
      obtain ⟨_, moved, _⟩ := step_program taken
      obtain ⟨move, _⟩ := System.step_move running.good keeps moved
      exact filed.move running.good.sound move alone
  | requestCancel thread token =>
      obtain ⟨table, frames, _⟩ := step_others (by simp) taken
      simpa only [System.Filed, System.pending, table, frames] using filed
  | advance thread =>
      obtain ⟨table, frames, _⟩ := step_others (by simp) taken
      simpa only [System.Filed, System.pending, table, frames] using filed

/-! ## Cancelling as one step -/

/-- With no two operations on one slot. -/
structure Arranged (t : Threads queues) : Prop where
  running : Running t
  program : System.Arranged t.program

private theorem Arranged.step (arranged : Arranged t) {action : Action}
    (unshared : Meeting System.Unshared t action)
    (taken : t.step action = some next) : Arranged next := by
  have meets : ∀ {weaker : System queues → AsyncFrame.Action → Prop},
      (∀ s act, System.Unshared s act → weaker s act) →
        Meeting weaker t action := by
    intro weaker implies
    cases action with
    | program act => exact implies _ act unshared
    | _ => trivial
  have keeps := meets fun _ _ both => both.1
  have running := arranged.running.step keeps taken
  refine ⟨running, running.good, ?_, ?_⟩
  · exact filed_step arranged.running arranged.program.sockets keeps
      (meets fun _ _ both => both.2.1) taken
  · exact filed_step arranged.running arranged.program.tokens keeps
      (meets fun _ _ both => both.2.2) taken

/-- What a step shows is a step of the reactor. -/
theorem Arranged.matched (arranged : Arranged t) {action : Action}
    {shown : AsyncFrame.Action}
    (unshared : Meeting System.Unshared t action)
    (taken : t.step action = some next) (shows : t.shows action = some shown) :
    t.program.reactor.Step shown next.program.reactor := by
  cases action with
  | program act =>
      cases shows
      obtain ⟨_, moved, _⟩ := step_program taken
      exact arranged.program.step_reactor unshared.1 moved
  | requestCancel thread token => cases shows
  | advance thread =>
      obtain ⟨token, ⟨found, flag, rfl⟩ | ⟨found, unset, rfl⟩ |
        ⟨found, rfl⟩⟩ := step_advance taken
      · simp only [Threads.shows, found, Option.some.injEq] at shows
        subst shows
        -- The flag is set once more.
        have same : t.program.reactor.calm (.requestCancel token) =
            t.program.reactor := by
          refine Reactor.ext rfl rfl ?_ rfl rfl rfl rfl rfl
          exact Function.update_eq_self_iff.mpr flag.symm
        have step : t.program.reactor.Step (.requestCancel token)
            (t.program.reactor.calm (.requestCancel token)) := .calm trivial
        rwa [same] at step
      · simp only [Threads.shows, found, Option.some.injEq] at shows
        subst shows
        obtain ⟨cancelled, counter, file⟩ := File.isEventFd_iff.mp
          (arranged.running.opened thread token _ found)
        rw [System.setCancelled_eq file, System.reactor_withToken]
        exact .calm trivial
      · simp [Threads.shows, found] at shows

/-- The rest of `request_cancel` is none. -/
theorem Arranged.silent (arranged : Arranged t) {action : Action}
    (taken : t.step action = some next) (shows : t.shows action = none) :
    next.program.reactor = t.program.reactor := by
  cases action with
  | program act => cases shows
  | requestCancel thread token =>
      obtain ⟨_, _, rfl⟩ := step_requestCancel taken
      rfl
  | advance thread =>
      obtain ⟨token, ⟨found, flag, rfl⟩ | ⟨found, unset, rfl⟩ |
        ⟨found, rfl⟩⟩ := step_advance taken
      · rfl
      · simp [Threads.shows, found] at shows
      · have file := arranged.running.owes thread token found
        rw [System.signalCancelled_eq file, System.reactor_withToken]
        refine Reactor.ext rfl rfl ?_ rfl rfl rfl rfl rfl
        refine Function.update_eq_self_iff.mpr ?_
        simp [System.reactor, Runtime.tokenFlag, file]

/-- However many threads are inside `request_cancel`, and in whatever order
their steps and the actions of the scheduler's thread follow each other, the
run is one of the reactor, in which each of these calls is one step at its
compare-exchange. -/
theorem interleaving_refines
    (reached : Reaches System.Unshared timerFd uptime buffers actions t) :
    Path Reactor.Step (Reactor.initial timerFd uptime buffers)
      (observed step shows (initial queues timerFd uptime buffers) actions)
      t.program.reactor := by
  rw [← System.reactor_initial queues]
  refine stuttering_of_run
    Arranged (fun t => t.program.reactor) Reactor.Step
    (fun arranged unshared taken => arranged.step unshared taken)
    (fun arranged unshared taken shows =>
      arranged.matched unshared taken shows)
    (fun arranged _ taken shows => arranged.silent taken shows)
    ⟨running_initial queues timerFd uptime buffers,
      System.arranged_initial queues timerFd uptime buffers⟩
    reached.1 reached.2

/-- A run that can be computed, with a test of the state it gets to. -/
theorem exists_reaches (test : Threads queues → Bool)
    (meets : Meets step (Meeting condition)
      (initial queues timerFd uptime buffers) actions)
    (passes : (runFrom step (initial queues timerFd uptime buffers)
      actions).any test = true) :
    ∃ t, Reaches condition timerFd uptime buffers actions t ∧
      test t = true := by
  obtain ⟨t, run, passed⟩ := (Option.any_eq_true _ _).mp passes
  exact ⟨t, ⟨meets, run⟩, passed⟩

/-- Two threads cancel the token of a read.  The first one has set the flag
but not written to the eventfd when the socket becomes readable, and the
second one finds the flag set. -/
theorem interleaving_refines_sample :
    ∃ t : Threads TimerQueue.sorted,
      Reaches System.Unshared 3 100 (fun _ => ⟨[0, 0], 0⟩)
        [.program (.openFd 5 .socket),
          .program (.openFd 7 (.eventFd false 0)), .program (.spawn 1),
          .program (.await 10 (.asyncRead ⟨5, 0, some 7⟩) {}),
          .requestCancel 1 7, .requestCancel 2 7, .advance 1,
          .program .run, .program (.epollWait [⟨EPOLLIN, 5⟩]), .advance 2,
          .program (.dispatch {}), .advance 1] t ∧
      t.program.reactor.results =
        [(0, .transfer operationCancelledError 0)] ∧
      Path Reactor.Step (Reactor.initial 3 100 (fun _ => ⟨[0, 0], 0⟩))
        [.openFd 5 .socket, .openFd 7 (.eventFd false 0), .spawn 1,
          .await 10 (.asyncRead ⟨5, 0, some 7⟩) {}, .requestCancel 7, .run,
          .epollWait [⟨EPOLLIN, 5⟩], .requestCancel 7, .dispatch {}]
        t.program.reactor := by
  refine (exists_reaches (fun t => t.program.reactor.results =
    [(0, .transfer operationCancelledError 0)]) ?_ ?_).imp
      fun t ⟨reached, results⟩ => ⟨reached, of_decide_eq_true results, ?_⟩
  · decide +kernel
  · decide +kernel
  · have path := interleaving_refines reached
    have shown : observed step shows
        (initial TimerQueue.sorted 3 100 (fun _ => ⟨[0, 0], 0⟩))
        [.program (.openFd 5 .socket),
          .program (.openFd 7 (.eventFd false 0)), .program (.spawn 1),
          .program (.await 10 (.asyncRead ⟨5, 0, some 7⟩) {}),
          .requestCancel 1 7, .requestCancel 2 7, .advance 1,
          .program .run, .program (.epollWait [⟨EPOLLIN, 5⟩]), .advance 2,
          .program (.dispatch {}), .advance 1] =
        [.openFd 5 .socket, .openFd 7 (.eventFd false 0), .spawn 1,
          .await 10 (.asyncRead ⟨5, 0, some 7⟩) {}, .requestCancel 7, .run,
          .epollWait [⟨EPOLLIN, 5⟩], .requestCancel 7, .dispatch {}] := by
      decide +kernel
    rwa [shown] at path

end Threads

end AsyncFrame
