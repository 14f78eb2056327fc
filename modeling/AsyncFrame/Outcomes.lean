import AsyncFrame.CancelBroadcast
import AsyncFrame.TimerEvents
import AsyncFrame.Streams

/-!
# What a reported error stands for

An awaiter infers its verdict from the cancel flag and from the one timerfd
that all timers share.  Here every verdict is traced back to its cause: a
`timed_out` to the deadline of the operation itself, an `operation_canceled`
to a call of `request_cancel` on its own token.
-/

namespace AsyncFrame

open Lib

variable {queues : TimerQueue} {rt : Runtime queues}
variable {operation : Operation} {self : Addr} {io : Io} {total : Nat}
variable {result : OpResult}

/-! ## Errors of the system calls -/

/-- No system call fails with an error that the library reports by itself:
`operation_canceled`, and for a transfer `timed_out`. -/
def Io.plain (io : Io) : Bool :=
  io.recv ≠ .failed operationCancelledError && io.recv ≠ .failed timeoutError
    && io.send ≠ .failed operationCancelledError
    && io.send ≠ .failed timeoutError
    && io.accept ≠ .error operationCancelledError
    && io.connect ≠ operationCancelledError
    && io.soError ≠ operationCancelledError

theorem tryRead_ec {buffer : Buffer} {outcome : RecvOutcome}
    {ec : ErrorCode} (present : ec ≠ 0)
    (foreign : outcome ≠ .failed ec) :
    (tryRead buffer outcome).1.1 ≠ ec := by
  cases outcome with
  | received bytes =>
      simp only [tryRead]
      split <;> exact present.symm
  | failed errno =>
      simp only [tryRead]
      split
      · exact present.symm
      · rintro rfl
        exact foreign rfl

theorem tryWrite_ec {buffer : Buffer} {outcome : SendOutcome}
    {ec : ErrorCode} (present : ec ≠ 0)
    (foreign : outcome ≠ .failed ec) :
    (tryWrite buffer outcome).1.ec ≠ ec := by
  cases outcome with
  | sent count =>
      simp only [tryWrite]
      split
      · exact present.symm
      · split <;> exact present.symm
  | failed errno =>
      simp only [tryWrite]
      split
      · exact present.symm
      · rintro rfl
        exact foreign rfl

/-! ## One resumption -/

namespace Operation

/-- A read or a write with a timeout. -/
def timedTransfer : Operation → Bool
  | .asyncReadTimeout _ _ => true
  | .asyncWriteTimeout _ _ => true
  | _ => false

private theorem ec_of_receives {base : Base} {ec : ErrorCode} (present : ec ≠ 0)
    (foreign : io.recv ≠ .failed ec) (reads : operation.reads? = some base)
    (received : operation.receives self rt = true)
    (returned : (operation.resumeOnce self io total rt).returned =
      some result) : result.ec ≠ ec := by
  have ended := (resumeOnce_receives self io total reads received).2
  rw [returned] at ended
  obtain ⟨pair, body, rfl⟩ := Option.map_eq_some_iff.mp ended.symm
  have reported : (OpResult.ofPair pair).ec =
      (tryRead (rt.buffers base.buf) io.recv).1.1 := readBody_ec body
  rw [reported]
  exact tryRead_ec present foreign

private theorem ec_of_sends {base : Base} {ec : ErrorCode} (present : ec ≠ 0)
    (foreign : io.send ≠ .failed ec) (writes : operation.writes? = some base)
    (sent : operation.sends self rt = true)
    (returned : (operation.resumeOnce self io total rt).returned =
      some result) : result.ec ≠ ec := by
  have ended := (resumeOnce_sends self io total writes sent).2.2
  rw [returned] at ended
  obtain ⟨pair, body, rfl⟩ := Option.map_eq_some_iff.mp ended.symm
  have reported : (OpResult.ofPair pair).ec =
      (tryWrite (rt.buffers base.buf) io.send).1.ec :=
    congrArg Prod.fst ((writeBody_count total _).2 pair body)
  rw [reported]
  exact tryWrite_ec present foreign

/-- What a transfer reports and no system call gave is its refusal. -/
theorem refused_of_transfer {base : Base} {ec : ErrorCode} (present : ec ≠ 0)
    (recvForeign : io.recv ≠ .failed ec) (sendForeign : io.send ≠ .failed ec)
    (transfer : operation.reads? = some base ∨
      operation.writes? = some base)
    (returned : (operation.resumeOnce self io total rt).returned =
      some result)
    (error : result.ec = ec) :
    ec = operation.refusal rt ∧
      (rt.cancelRequested operation.token? = true ∨
        timedOut self rt = true) := by
  rcases transfer with reads | writes
  · cases received : operation.receives self rt with
    | true =>
        exact absurd error
          (ec_of_receives present recvForeign reads received returned)
    | false =>
        obtain ⟨_, ended⟩ := resumeOnce_misses self io total reads received
        rw [returned] at ended
        cases ended
        refine ⟨error.symm, ?_⟩
        rcases reads_cases reads with rfl | ⟨delay, rfl⟩
        · left
          simpa [receives, token?] using received
        · rw [receives, Bool.and_eq_false_iff, Bool.not_eq_false',
            Bool.not_eq_false'] at received
          exact received
  · cases sent : operation.sends self rt with
    | true =>
        exact absurd error
          (ec_of_sends present sendForeign writes sent returned)
    | false =>
        obtain ⟨_, ended⟩ := resumeOnce_skips self io total writes sent
        rw [returned] at ended
        cases ended
        refine ⟨error.symm, ?_⟩
        rcases writes_cases writes with rfl | ⟨delay, rfl⟩
        · left
          simpa [sends, token?] using sent
        · rw [sends, Bool.and_eq_false_iff, Bool.not_eq_false',
            Bool.not_eq_false'] at sent
          exact sent

/-- An operation reports `operation_canceled` only with its token
cancelled. -/
theorem cancelled_of_resumeOnce (plain : io.plain = true)
    (returned : (operation.resumeOnce self io total rt).returned =
      some result)
    (error : result.ec = operationCancelledError) :
    rt.cancelRequested operation.token? = true := by
  have present : operationCancelledError ≠ 0 := by decide
  simp only [Io.plain, Bool.and_eq_true, decide_eq_true_eq] at plain
  obtain ⟨⟨⟨⟨⟨⟨recvCancelled, _⟩, sendCancelled⟩, _⟩, accept⟩, _⟩, soError⟩ :=
    plain
  have transferred : ∀ base, operation.reads? = some base ∨
      operation.writes? = some base →
        rt.cancelRequested operation.token? = true := by
    intro base transfer
    have refused := (refused_of_transfer present recvCancelled sendCancelled
      transfer returned error).1
    by_contra quiet
    rw [refusal, if_neg quiet] at refused
    exact absurd refused (by decide)
  cases operation with
  | asyncRead base => exact transferred base (Or.inl rfl)
  | asyncReadTimeout base delay => exact transferred base (Or.inl rfl)
  | asyncWrite base => exact transferred base (Or.inr rfl)
  | asyncWriteTimeout base delay => exact transferred base (Or.inr rfl)
  | asyncReadSome conn buf =>
      cases returned
      exact absurd error (tryRead_ec present recvCancelled)
  | asyncAccept conn =>
      simp only [resumeOnce, InnerAcceptAwaiter.awaitResume] at returned
      cases accepted : io.accept with
      | ok fd =>
          rw [accepted] at returned
          cases returned
          exact absurd error present.symm
      | error errno =>
          rw [accepted] at returned
          cases returned
          exact absurd (accepted.trans (congrArg _ error)) accept
  | asyncConnect conn =>
      cases returned
      exact absurd error soError
  | waitFor delay =>
      cases returned
      exact absurd error present.symm

/-- A `connect` that is settled at once, or goes on waiting. -/
theorem ec_of_connect {conn : Fd} (plain : io.plain = true)
    (returned : ((Operation.asyncConnect conn).start self io rt).returned =
      some result) : result.ec ≠ operationCancelledError := by
  simp only [Io.plain, Bool.and_eq_true, decide_eq_true_eq] at plain
  obtain ⟨⟨_, connect⟩, _⟩ := plain
  simp only [start] at returned
  split at returned
  · cases returned
    decide
  · cases returned
    exact connect
  · rw [loop_succ] at returned
    cases returned

/-- A transfer reports `timed_out` only if it passes the test of the two
timeout awaiters. -/
theorem expired_of_resumeOnce (plain : io.plain = true)
    (timed : operation.timedTransfer = true)
    (returned : (operation.resumeOnce self io total rt).returned =
      some result)
    (error : result.ec = timeoutError) : timedOut self rt = true := by
  have present : timeoutError ≠ 0 := by decide
  simp only [Io.plain, Bool.and_eq_true, decide_eq_true_eq] at plain
  obtain ⟨⟨⟨⟨⟨⟨_, recvExpired⟩, _⟩, sendExpired⟩, _⟩, _⟩, _⟩ := plain
  have transfer : ∃ base, operation.reads? = some base ∨
      operation.writes? = some base := by
    cases operation with
    | asyncReadTimeout base delay => exact ⟨base, Or.inl rfl⟩
    | asyncWriteTimeout base delay => exact ⟨base, Or.inr rfl⟩
    | _ => cases timed
  obtain ⟨base, transfer⟩ := transfer
  obtain ⟨refused, cancelled | expired⟩ := refused_of_transfer present
    recvExpired sendExpired transfer returned error
  · rw [refusal, if_pos cancelled] at refused
    exact absurd refused (by decide)
  · exact expired

/-- Only the `await_resume` of a wake-up ends the operation: going round the
loop suspends it again. -/
theorem resumeOnce_of_wake
    (kept : FilesKept rt (operation.resumeOnce self io total rt).rt)
    (returned : (operation.wake self io total rt).returned = some result) :
    (operation.resumeOnce self io total rt).returned = some result := by
  unfold wake at returned
  cases ended : (operation.resumeOnce self io total rt).returned with
  | some other =>
      simp only [ended] at returned
      exact returned
  | none =>
      simp only [ended] at returned
      have quiet : rt.cancelRequested operation.token? = false := by
        cases cancelled : rt.cancelRequested operation.token? with
        | false => rfl
        | true =>
            obtain ⟨other, here, _⟩ :=
              returned_of_cancelled self io total cancelled
            rw [ended] at here
            cases here
      rw [loop_succ, kept.cancelRequested, quiet] at returned
      cases returned

end Operation

/-- What the system calls that an action makes would answer. -/
def Action.io? : Action → Option Io
  | .await _ _ io => some io
  | .awaitWithTimeout _ _ _ _ io => some io
  | .dispatch io => some io
  | .dispatchWrite io => some io
  | _ => none

namespace System

variable {s next final : System queues} {action : Action}
variable {timerFd : Fd} {uptime : Nat} {buffers : BufferRef → Buffer}
variable {actions : List Action} {number : Nat} {token : Fd}

/-! ## What a step reports -/

/-- The result came out of a wake-up of the operation with that number. -/
def WakeReturns (s : System queues) (action : Action) (number : Nat)
    (result : OpResult) : Prop :=
  ∃ pointer op io, s.completes action = some pointer ∧
    action.io? = some io ∧ s.pending pointer.frame = some op ∧
    op.number = number ∧
    (op.operation.wake pointer.frame io op.total s.rt).returned = some result

/-- The result came out of the start of an operation that got that number. -/
def StartReturns (s : System queues) (action : Action) (number : Nat)
    (result : OpResult) : Prop :=
  ∃ frame operation io, action.starts? = some operation ∧
    action.io? = some io ∧ s.nextNumber ≤ number ∧
    (operation.start frame io s.rt).returned = some result

theorem resumeOuter_trace (s : System queues) (frame : Addr) (op : OpFrame)
    (result : OpResult) :
    (s.resumeOuter frame op result).trace =
      [.resumed op.number result, .finished op.number result] ++
        s.trace := by
  simp only [resumeOuter]
  split <;> rfl

private theorem complete_records (s : System queues) (pointer : OpPtr)
    (io : Io) :
    ∃ entries, (s.complete pointer io).trace = entries ++ s.trace ∧
      ∀ number result, .finished number result ∈ entries →
        ∃ op, s.pending pointer.frame = some op ∧ op.number = number ∧
          (op.operation.wake pointer.frame io op.total s.rt).returned =
            some result := by
  unfold complete
  cases waits : s.pending pointer.frame with
  | none => exact ⟨[], rfl, fun _ _ member => by cases member⟩
  | some op =>
      dsimp only
      split
      · exact ⟨[], rfl, fun _ _ member => by cases member⟩
      · cases returned :
            (op.operation.wake pointer.frame io op.total s.rt).returned with
        | none => exact ⟨[], rfl, fun _ _ member => by cases member⟩
        | some ended =>
            refine ⟨_, resumeOuter_trace _ _ _ _, ?_⟩
            intro number result member
            simp only [List.mem_cons, reduceCtorEq, Obs.finished.injEq,
              List.not_mem_nil, or_false, false_or] at member
            obtain ⟨rfl, rfl⟩ := member
            exact ⟨op, rfl, rfl, returned⟩

private theorem await_records (s : System queues) (frame : Addr)
    (operation : Operation) (io : Io) :
    ∃ entries, (s.await frame operation io).trace = entries ++ s.trace ∧
      ∀ number result, .finished number result ∈ entries →
        s.nextNumber ≤ number ∧
          (operation.start frame io s.rt).returned = some result := by
  simp only [await]
  split
  · exact ⟨[_], rfl, fun _ _ member => by simp at member⟩
  · rename_i ended returned
    refine ⟨[_, _, _], rfl, fun number result member => ?_⟩
    simp only [List.mem_cons, reduceCtorEq, Obs.finished.injEq,
      List.not_mem_nil, or_false, false_or] at member
    obtain ⟨rfl, rfl⟩ := member
    exact ⟨le_refl _, returned⟩
  · exact ⟨[], rfl, fun _ _ member => by cases member⟩

private theorem awaitWithTimeout_records (s : System queues) (impl frame : Addr)
    (wrapped : Operation) (delay : Int) (io : Io) :
    ∃ entries, (s.awaitWithTimeout impl frame wrapped delay io).trace =
        entries ++ s.trace ∧
      ∀ number result, .finished number result ∈ entries →
        ∃ operation, wrapped.withTimeout delay = some operation ∧
          s.nextNumber ≤ number ∧
          (operation.start frame io s.rt).returned = some result := by
  simp only [awaitWithTimeout]
  split
  · rename_i operation caller below timeout stack
    split
    · exact ⟨[_, _], rfl, fun _ _ member => by simp at member⟩
    · rename_i ended returned
      refine ⟨[_, _, _, _], rfl, fun number result member => ?_⟩
      simp only [List.mem_cons, reduceCtorEq, Obs.finished.injEq,
        List.not_mem_nil, or_false, false_or] at member
      obtain ⟨rfl, rfl⟩ := member
      exact ⟨operation, timeout, Nat.le_succ _, returned⟩
  · exact ⟨[], rfl, fun _ _ member => by cases member⟩

/-- Every result that a step records came out of a wake-up or of a start. -/
theorem step_records (taken : s.step action = some next) :
    ∃ entries, next.trace = entries ++ s.trace ∧
      ∀ number result, .finished number result ∈ entries →
        WakeReturns s action number result ∨
          StartReturns s action number result := by
  obtain ⟨allowed, rfl⟩ := step_eq_some taken
  have unmarked : ∀ number result,
      Obs.finished number result ∉ s.marks action := by
    intro number result member
    cases marks_unnumbered member
  have silent : ∀ after : System queues, after.trace = s.trace →
      ∃ entries, after.trace = entries ++ s.trace ∧
        ∀ number result, .finished number result ∈ entries →
          WakeReturns s action number result ∨
            StartReturns s action number result :=
    fun after same => ⟨[], same, fun _ _ member => by cases member⟩
  cases action with
  | await frame operation io =>
      obtain ⟨entries, trace, told⟩ := s.await_records frame operation io
      refine ⟨entries, trace, fun number result member => Or.inr ?_⟩
      obtain ⟨numbered, returned⟩ := told number result member
      exact ⟨frame, operation, io, rfl, rfl, numbered, returned⟩
  | awaitWithTimeout impl frame wrapped delay io =>
      obtain ⟨entries, trace, told⟩ :=
        s.awaitWithTimeout_records impl frame wrapped delay io
      refine ⟨entries, trace, fun number result member => Or.inr ?_⟩
      obtain ⟨operation, timeout, numbered, returned⟩ :=
        told number result member
      exact ⟨frame, operation, io, timeout, rfl, numbered, returned⟩
  | dispatch io =>
      obtain ⟨_, event, evs, fetched, batch⟩ := enabled_dispatch allowed
      obtain ⟨control, _, performed⟩ := dispatch_cases io batch
      cases woken : s.completes (.dispatch io) with
      | none =>
          simp only [woken] at performed
          rw [performed]
          exact ⟨_, rfl, fun number result member =>
            absurd member (unmarked number result)⟩
      | some readOp =>
          simp only [woken] at performed
          obtain ⟨entries, trace, told⟩ :=
            (s.withMarks control (s.marks (.dispatch io))).complete_records
              readOp io
          rw [performed]
          refine ⟨entries ++ s.marks (.dispatch io), ?_, ?_⟩
          · rw [trace, List.append_assoc]
            rfl
          · intro number result member
            have inside := (List.mem_append.mp member).resolve_right
              (unmarked number result)
            obtain ⟨op, waits, numbered, returned⟩ :=
              told number result inside
            exact Or.inl ⟨readOp, op, io, woken, rfl, waits, numbered,
              returned⟩
  | dispatchWrite io =>
      obtain ⟨_, writeOp, evs, fetched, half⟩ := enabled_dispatchWrite allowed
      obtain ⟨entries, trace, told⟩ :=
        (s.withMarks (.batch evs fetched) []).complete_records writeOp io
      rw [dispatchWrite_eq io half]
      refine ⟨entries, trace, fun number result member => Or.inl ?_⟩
      obtain ⟨op, waits, numbered, returned⟩ := told number result member
      exact ⟨writeOp, op, io, by simp only [completes, half], rfl, waits,
        numbered, returned⟩
  | exit =>
      exact ⟨[.returned], rfl, fun _ _ member => by simp at member⟩
  | _ => exact silent _ rfl

/-! ## Who cancelled a token -/

/-- `request_cancel` was called on the token, and its eventfd's number was not
given to another one since. -/
def Requested (token : Fd) (actions : List Action) : Prop :=
  ∃ before after, actions = before ++ .requestCancel token :: after ∧
    ∀ file, .openFd token file ∉ after

private theorem Requested.cons (requested : Requested token actions)
    (action : Action) : Requested token (action :: actions) := by
  obtain ⟨before, after, rfl, stays⟩ := requested
  exact ⟨action :: before, after, rfl, stays⟩

/-- The flag of a token over a step that is not about the operations. -/
theorem flag_of_calm (allowed : s.enabled action = true)
    (nothing : action.starts? = none) (asleep : s.completes action = none)
    (flag : (s.perform action).rt.tokenFlag token = true) :
    action = .requestCancel token ∨
      s.rt.tokenFlag token = true ∧ ∀ file, action ≠ .openFd token file := by
  cases action with
  | requestCancel other =>
      by_cases same : other = token
      · left
        rw [same]
      · right
        obtain ⟨counter, called⟩ := requestCancel_files s.rt other allowed
        simp only [perform, called] at flag
        rw [tokenFlag_update _ _ (Ne.symm same)] at flag
        exact ⟨flag, fun file here => by cases here⟩
  | openFd fd file =>
      simp only [enabled, Bool.and_eq_true, Bool.or_eq_true,
        decide_eq_true_eq] at allowed
      have different : token ≠ fd := by
        rintro rfl
        rcases allowed.2 with rfl | rfl <;>
          simp [perform, Runtime.tokenFlag] at flag
      simp only [perform] at flag
      rw [tokenFlag_update _ _ different] at flag
      refine Or.inr ⟨flag, fun other here => ?_⟩
      cases here
      exact different rfl
  | closeFd fd =>
      have different : token ≠ fd := by
        rintro rfl
        simp [perform, Runtime.closeFd, Runtime.tokenFlag] at flag
      simp only [perform, Runtime.closeFd] at flag
      have kept : s.rt.tokenFlag token = true := by
        simpa [Runtime.tokenFlag, different] using flag
      exact Or.inr ⟨kept, fun file here => by cases here⟩
  | await frame operation io => cases nothing
  | awaitWithTimeout impl frame wrapped delay io =>
      obtain ⟨_, _, _, _, operation, timeout, _⟩ :=
        enabled_awaitWithTimeout allowed
      rw [Action.starts?, timeout] at nothing
      cases nothing
  | dispatch io =>
      obtain ⟨_, event, evs, fetched, batch⟩ := enabled_dispatch allowed
      obtain ⟨control, _, performed⟩ := dispatch_cases io batch
      simp only [asleep] at performed
      rw [performed] at flag
      exact Or.inr ⟨flag, fun file here => by cases here⟩
  | dispatchWrite io =>
      obtain ⟨_, writeOp, evs, fetched, half⟩ := enabled_dispatchWrite allowed
      simp only [completes, half] at asleep
      cases asleep
  | _ => exact Or.inr ⟨flag, fun file here => by cases here⟩

private theorem step_flag (good : Good s) (keeps : KeepsPending s action)
    (taken : s.step action = some next)
    (flag : next.rt.tokenFlag token = true) :
    action = .requestCancel token ∨
      s.rt.tokenFlag token = true ∧ ∀ file, action ≠ .openFd token file := by
  have same : ∀ {rt after : Runtime queues}, FilesKept rt after →
      after.tokenFlag token = true → rt.tokenFlag token = true :=
    fun kept after => (kept.cancelRequested (some token)).symm.trans after
  have awake : ∀ {pointer}, s.completes action = some pointer →
      ∀ file, action ≠ .openFd token file := by
    rintro pointer woken file rfl
    cases woken
  have starts : ∀ {operation}, action.starts? = some operation →
      ∀ file, action ≠ .openFd token file := by
    rintro operation starting file rfl
    cases starting
  cases (step_move good keeps taken).1 with
  | calm nothing asleep =>
      obtain ⟨allowed, rfl⟩ := step_eq_some taken
      exact flag_of_calm allowed nothing asleep flag
  | suspends _ _ _ starting _ _ _ _ _ leaves =>
      exact Or.inr ⟨same leaves.files flag, starts starting⟩
  | passes _ _ _ _ _ starting _ _ _ _ leaves =>
      rcases leaves with ⟨_, untouched⟩ | ⟨_, _, leaves⟩
      · rw [untouched] at flag
        exact Or.inr ⟨flag, starts starting⟩
      · exact Or.inr ⟨same leaves.files flag, starts starting⟩
  | ends _ _ _ woken _ _ leaves =>
      exact Or.inr ⟨same leaves.files flag, awake woken⟩
  | rounds _ _ _ _ woken _ _ _ _ _ _ left leaves =>
      exact Or.inr ⟨same left.files (same leaves.files flag), awake woken⟩

/-- The flag of a token at the end of a run. -/
theorem flag_of_run (good : Good s)
    (run : Leads KeepsPending s actions final)
    (flag : final.rt.tokenFlag token = true) :
    Requested token actions ∨
      s.rt.tokenFlag token = true ∧ ∀ file, .openFd token file ∉ actions := by
  obtain ⟨keeps, run⟩ := run
  induction actions generalizing s with
  | nil =>
      cases run
      exact Or.inr ⟨flag, fun file member => by cases member⟩
  | cons action rest inductionRest =>
      obtain ⟨next, taken, later⟩ := runFrom_cons_eq_some run
      have goodNext := (step_move good keeps.1 taken).2
      rcases inductionRest goodNext (meets_cons_tail keeps taken) later with
        requested | ⟨flagNext, stays⟩
      · exact Or.inl (requested.cons action)
      · rcases step_flag good keeps.1 taken flagNext with
          rfl | ⟨before, other⟩
        · exact Or.inl ⟨[], rest, rfl, stays⟩
        · refine Or.inr ⟨before, fun file member => ?_⟩
          rcases List.mem_cons.mp member with here | inside
          · exact other file here.symm
          · exact stays file inside

private theorem requested_of_reaches
    (reached : Reaches KeepsPending timerFd uptime buffers actions s)
    (flag : s.rt.tokenFlag token = true) : Requested token actions := by
  have started : (initial queues timerFd uptime buffers).rt.tokenFlag token =
      false := by
    by_cases same : token = timerFd <;>
      simp [initial, Runtime.tokenFlag, same]
  rcases flag_of_run (good_initial queues timerFd uptime buffers) reached
    flag with requested | ⟨before, _⟩
  · exact requested
  · rw [started] at before
    cases before

/-! ## Verdicts -/

/-- The side condition of the runs: nothing suspended is destroyed, and the
system calls do not fail with the library's own errors. -/
def PlainErrors (s : System queues) (action : Action) : Prop :=
  KeepsPending s action ∧ action.io?.all Io.plain = true

instance : DecidableRel (@PlainErrors queues) :=
  fun s action => inferInstanceAs (Decidable
    (KeepsPending s action ∧ action.io?.all Io.plain = true))

/-- A `wait_for` is completed only while its timer is the current one. -/
theorem Good.current_of_completes (good : Good s) {pointer : OpPtr}
    {op : OpFrame} (woken : s.completes action = some pointer)
    (waits : s.pending pointer.frame = some op) :
    ∀ delay, op.operation = .waitFor delay →
      s.rt.timer.cur.state.read = some ⟨pointer.frame, .timer⟩ := by
  intro delay waiting
  obtain ⟨io, event, evs, fetched, rfl, batch, _⟩ :=
    good.timerWakes_of_waitFor woken waits waiting
  simp only [completes, batch] at woken
  split at woken
  · obtain ⟨other, otherWaits, current⟩ :=
      good.sound.waits_of_registered woken
    rw [waits] at otherWaits
    cases otherWaits
    exact current delay waiting
  · cases woken

/-- What resuming a suspended operation leaves. -/
theorem Good.resumeOnce_leaves (good : Good s) {pointer : OpPtr}
    {op : OpFrame} (io : Io) (woken : s.completes action = some pointer)
    (waits : s.pending pointer.frame = some op) :
    Leaves pointer.frame none op.operation none s.rt
      (op.operation.resumeOnce pointer.frame io op.total s.rt).rt
      (deadlines s.pending) :=
  good.sound.resumeOnce_leaves io op.total waits
    (good.current_of_completes woken waits)

/-- A suspended operation that passes the test of the timeout awaiters has
reached its own deadline. -/
theorem Good.reached_of_timedOut (good : Good s) {frame : Addr}
    {op : OpFrame} (waits : s.pending frame = some op)
    (expired : timedOut frame s.rt = true) :
    ∃ deadline, op.deadline = some deadline ∧ deadline ≤ s.rt.clock := by
  have settled := good.sound.inOrder.settled
  obtain ⟨named, reached⟩ := (timedOut_iff settled frame).mp expired
  obtain ⟨current, other, same, otherWaits, set, _⟩ :=
    good.current (settled.wellFormed.nonempty_of_read named)
  rw [named] at same
  cases same
  rw [waits] at otherWaits
  cases otherWaits
  exact ⟨_, set, reached⟩

/-- A step that completes an operation starts none. -/
theorem starts_of_woken {pointer : OpPtr}
    (woken : s.completes action = some pointer) : action.starts? = none := by
  cases action <;> first | rfl | cases woken

theorem Opening.number_le {given after : Nat} {prelude : List Obs}
    (opening : Opening s given prelude after) : s.nextNumber ≤ given := by
  cases opening with
  | plain => exact le_refl _
  | wrapped operation delay => exact Nat.le_succ _

/-- Under the number of a suspended operation no other one was started. -/
theorem Ledger.operation_of_started (ledger : Ledger s) {frame : Addr}
    {op : OpFrame} (waits : s.pending frame = some op)
    (started : .started op.number operation ∈ s.trace) :
    operation = op.operation := by
  have told : .started op.number operation ∈ s.history op.number :=
    List.mem_filter.mpr ⟨started, decide_eq_true rfl⟩
  rw [ledger.waits frame op waits, List.mem_singleton] at told
  cases told
  rfl

/-- Nothing was recorded yet under a number that is not given. -/
theorem Ledger.number_lt_of_mem (ledger : Ledger s) {obs : Obs}
    (member : obs ∈ s.trace) (numbered : obs.number? = some number) :
    number < s.nextNumber := by
  by_contra above
  have told : obs ∈ s.history number :=
    List.mem_filter.mpr ⟨member, decide_eq_true numbered⟩
  rw [ledger.fresh number (by omega)] at told
  cases told

theorem ledger_of_run
    (reached : Reaches KeepsPending timerFd uptime buffers actions s) :
    Ledger s :=
  (invariant_of_run (fun state => Good state ∧ Ledger state)
    (fun ⟨good, ledger⟩ keeps taken =>
      have stepped := step_move good keeps taken
      ⟨stepped.2, ledger.move stepped.1⟩)
    ⟨good_initial queues timerFd uptime buffers,
      ledger_initial queues timerFd uptime buffers⟩
    reached.1 reached.2).2

/-- Where a reported result comes from: the `await_resume` of a suspended
operation, a start with the token cancelled, or a `connect` that is settled at
once. -/
inductive Reported (s : System queues) (action : Action) (number : Nat)
    (operation : Operation) (result : OpResult) : Prop
  | resumed (pointer : OpPtr) (op : OpFrame) (io : Io)
      (answers : action.io? = some io)
      (waits : s.pending pointer.frame = some op)
      (numbered : op.number = number)
      (started : op.operation = operation)
      (returned :
        (op.operation.resumeOnce pointer.frame io op.total s.rt).returned =
          some result)
  | cancelled
      (requested : s.rt.cancelRequested operation.token? = true)
      (error : result.ec = operationCancelledError)
  | connected (conn : Fd) (frame : Addr) (io : Io)
      (answers : action.io? = some io)
      (connects : operation = .asyncConnect conn)
      (returned : (operation.start frame io s.rt).returned = some result)

private theorem reported_of_finished (good : Good s) (ledger : Ledger s)
    (keeps : KeepsPending s action) (taken : s.step action = some next)
    {entries : List Obs} (recorded : next.trace = entries ++ s.trace)
    (started : .started number operation ∈ next.trace)
    (finished : .finished number result ∈ entries) :
    Reported s action number operation result := by
  obtain ⟨others, trace, told⟩ := step_records taken
  have same : others = entries :=
    List.append_cancel_right (trace.symm.trans recorded)
  subst same
  have source := told number result finished
  have unmarked : ∀ {obs : Obs} {given : Nat}, obs.number? = some given →
      obs ∉ s.marks action := by
    intro obs given numbered member
    rw [marks_unnumbered member] at numbered
    cases numbered
  have shape : ∀ list : List Obs, next.trace = list ++ s.trace →
      others = list :=
    fun _ here => List.append_cancel_right (recorded.symm.trans here)
  cases (step_move good keeps taken).1 with
  | calm _ _ _ _ _ _ _ _ _ _ _ marked =>
      rw [shape _ marked] at finished
      exact absurd finished (unmarked rfl)
  | suspends _ _ prelude _ opening _ _ _ _ _ _ opened =>
      rw [shape (_ :: prelude) opened] at finished
      simp only [List.mem_cons, reduceCtorEq, false_or] at finished
      obtain ⟨_, _, here⟩ := opening.prelude_spec finished
      cases here
  | rounds _ _ _ _ _ _ _ _ _ _ _ _ _ _ _ marked =>
      rw [shape _ marked] at finished
      exact absurd finished (unmarked rfl)
  | passes frame other given ended prelude starting opening _ _ _ leaves
      opened =>
      have fresh := opening.number_le
      rw [shape (_ :: _ :: _ :: prelude) opened] at finished
      simp only [List.mem_cons, reduceCtorEq, Obs.finished.injEq,
        false_or] at finished
      obtain ⟨rfl, rfl⟩ := finished.resolve_right fun inside => by
        obtain ⟨_, _, here⟩ := opening.prelude_spec inside
        cases here
      have same : operation = other := by
        rw [opened] at started
        simp only [List.mem_cons, List.mem_append, reduceCtorEq,
          Obs.started.injEq, true_and, false_or] at started
        rcases started with here | inside | older
        · exact here
        · obtain ⟨_, _, here⟩ := opening.prelude_spec inside
          cases here
        · exact absurd (ledger.number_lt_of_mem older rfl) (by omega)
      subst same
      rcases leaves with ⟨⟨conn, connects⟩, _⟩ | ⟨requested, error, _⟩
      · rcases source with
          ⟨_, _, _, woken, _⟩ | ⟨begun, again, io, starts, answers, _, returned⟩
        · rw [starts_of_woken woken] at starting
          cases starting
        · rw [starting] at starts
          cases starts
          exact .connected conn begun io answers connects returned
      · exact .cancelled requested error
  | ends pointer op ended woken waits _ _ _ _ _ resumed =>
      rw [shape (_ :: _ :: s.marks action) resumed] at finished
      simp only [List.mem_cons, reduceCtorEq, Obs.finished.injEq,
        false_or] at finished
      obtain ⟨rfl, rfl⟩ := finished.resolve_right (unmarked rfl)
      have same : operation = op.operation := by
        rw [resumed] at started
        simp only [List.mem_cons, List.mem_append, reduceCtorEq,
          false_or] at started
        exact ledger.operation_of_started waits
          (started.resolve_left (unmarked rfl))
      rcases source with
        ⟨again, other, io, wokenAgain, answers, otherWaits, _, returned⟩ |
          ⟨_, _, _, starts, _⟩
      · rw [woken] at wokenAgain
        cases wokenAgain
        rw [waits] at otherWaits
        cases otherWaits
        have leaves := good.resumeOnce_leaves io woken waits
        exact .resumed pointer op io answers waits rfl same.symm
          (Operation.resumeOnce_of_wake leaves.files returned)
      · rw [starts_of_woken woken] at starts
        cases starts

/-- In every run in which no system call fails with the library's own errors,
whatever its order of events: when a step reports a result, then a read or a
write with a timeout reports `timed_out` only if the deadline which it armed
for the chunk it was waiting for is reached, and any operation reports
`operation_canceled` only if `request_cancel` was called on its own token. -/
theorem noFalseOutcome
    (reached : Reaches PlainErrors timerFd uptime buffers actions s)
    (allowed : PlainErrors s action) (taken : s.step action = some next)
    {entries : List Obs} (recorded : next.trace = entries ++ s.trace)
    {operation : Operation} {result : OpResult}
    (started : .started number operation ∈ next.trace)
    (reported : .finished number result ∈ entries) :
    (operation.timedTransfer = true → result.ec = timeoutError →
      ∃ frame op deadline, s.pending frame = some op ∧ op.number = number ∧
        op.deadline = some deadline ∧ deadline ≤ s.rt.clock) ∧
    (result.ec = operationCancelledError →
      ∃ token, operation.token? = some token ∧ Requested token actions) := by
  have kept : Reaches KeepsPending timerFd uptime buffers actions s :=
    ⟨reached.1.mono fun _ _ here => here.1, reached.2⟩
  have good := reached.good fun _ _ here => here.1
  have requested : s.rt.cancelRequested operation.token? = true →
      ∃ token, operation.token? = some token ∧ Requested token actions := by
    intro cancelled
    cases named : operation.token? with
    | none =>
        rw [named] at cancelled
        cases cancelled
    | some token =>
        rw [named] at cancelled
        exact ⟨token, rfl, requested_of_reaches kept cancelled⟩
  have plain : ∀ io, action.io? = some io → io.plain = true := by
    intro io answers
    have tested := allowed.2
    rw [answers] at tested
    exact tested
  have source := reported_of_finished good (ledger_of_run kept) allowed.1
    taken recorded started reported
  constructor
  · intro timed error
    cases source with
    | resumed pointer op io answers waits numbered same returned =>
        have expired := Operation.expired_of_resumeOnce (plain io answers)
          (same ▸ timed) returned error
        obtain ⟨deadline, armed, passed⟩ :=
          good.reached_of_timedOut waits expired
        exact ⟨pointer.frame, op, deadline, waits, numbered, armed, passed⟩
    | cancelled _ other =>
        rw [other] at error
        cases error
    | connected conn _ _ _ connects =>
        rw [connects] at timed
        cases timed
  · intro error
    cases source with
    | resumed pointer op io answers waits numbered same returned =>
        apply requested
        rw [← same]
        exact Operation.cancelled_of_resumeOnce (plain io answers) returned
          error
    | cancelled cancelled _ => exact requested cancelled
    | connected conn frame io answers connects returned =>
        rw [connects] at returned
        exact absurd error
          (Operation.ec_of_connect (plain io answers) returned)

theorem noFalseOutcome_sample :
    ∃ s : System TimerQueue.sorted,
      Reaches PlainErrors 3 100 (fun _ => ⟨[0, 0], 0⟩)
        [.openFd 5 .socket, .openFd 7 (.eventFd false 0), .spawn 1,
          .await 10 (.asyncReadTimeout ⟨5, 0, some 7⟩ 50) {}, .run, .tick 50,
          .epollWait [⟨EPOLLIN, 3⟩]] s ∧
      ∃ next, s.step (.dispatch {}) = some next ∧
        next.trace = [.resumed 0 (.transfer timeoutError 0),
          .finished 0 (.transfer timeoutError 0),
          .timerEvent 0 (some 151) 151] ++ s.trace ∧
        ∃ frame op deadline, s.pending frame = some op ∧ op.number = 0 ∧
          op.deadline = some deadline ∧ deadline ≤ s.rt.clock := by
  refine (exists_reaches (fun s => (s.step (.dispatch {})).any fun next =>
    next.trace = [.resumed 0 (.transfer timeoutError 0),
      .finished 0 (.transfer timeoutError 0),
      .timerEvent 0 (some 151) 151] ++ s.trace ∧
    .started 0 (.asyncReadTimeout ⟨5, 0, some 7⟩ 50) ∈ next.trace)
    ?_ ?_).imp fun s ⟨reached, passed⟩ => ⟨reached, ?_⟩
  · decide +kernel
  · decide +kernel
  · obtain ⟨next, taken, here⟩ := (Option.any_eq_true _ _).mp passed
    obtain ⟨trace, started⟩ := of_decide_eq_true here
    have plain : PlainErrors s (.dispatch {}) := ⟨rfl, rfl⟩
    have told := noFalseOutcome reached plain taken trace started
      (List.mem_cons_of_mem _ List.mem_cons_self)
    exact ⟨next, taken, trace, told.1 rfl rfl⟩

end System

end AsyncFrame
