import AsyncFrame.Contracts

/-!
# Stretches of an operation's coroutine

From its start, or from a resumption, an operation's coroutine runs until it
is suspended again or returns.  A turn of its loop that does not suspend is a
cancelled one and returns, so that one turn is all a stretch needs.
-/

namespace AsyncFrame

variable {queues : TimerQueue} {rt : Runtime queues}
variable {deadlines : OpPtr → Option Int} {operation : Operation}

section Cancelled

variable {base : Base}

private theorem InnerRecvAwaiter.awaitResume_cancelled (io : Io)
    (cancelled : CancelSlot.isCancelEvent base.cancelToken rt = true) :
    (InnerRecvAwaiter.awaitResume base io rt).2.1 =
      operationCancelledError := by
  rw [InnerRecvAwaiter.awaitResume, if_pos cancelled]

private theorem InnerRecvTimeoutAwaiter.awaitResume_cancelled (self : Addr)
    (io : Io)
    (cancelled : CancelSlot.isCancelEvent base.cancelToken rt = true) :
    (InnerRecvTimeoutAwaiter.awaitResume self base io rt).2.1 =
      operationCancelledError := by
  rw [InnerRecvTimeoutAwaiter.awaitResume, if_pos cancelled]

private theorem InnerSendAwaiter.awaitResume_cancelled (io : Io)
    (cancelled : CancelSlot.isCancelEvent base.cancelToken rt = true) :
    (InnerSendAwaiter.awaitResume base io rt).2 =
      ⟨operationCancelledError, 0, .cancelled⟩ := by
  rw [InnerSendAwaiter.awaitResume, if_pos cancelled]

private theorem InnerSendTimeoutAwaiter.awaitResume_cancelled (self : Addr)
    (io : Io)
    (cancelled : CancelSlot.isCancelEvent base.cancelToken rt = true) :
    (InnerSendTimeoutAwaiter.awaitResume self base io rt).2 =
      ⟨operationCancelledError, 0, .cancelled⟩ := by
  rw [InnerSendTimeoutAwaiter.awaitResume, if_pos cancelled]

end Cancelled

namespace Operation

/-- Resumed with its token cancelled, an operation returns
`operation_canceled`. -/
theorem resumeOnce_of_cancelled (self : Addr) (io : Io) (total : Nat)
    (cancelled : rt.cancelRequested operation.token? = true) :
    (operation.resumeOnce self io total rt).returned.map OpResult.ec =
      some operationCancelledError := by
  have error : operationCancelledError ≠ 0 := by decide
  cases operation with
  | asyncRead base =>
      have ended := InnerRecvAwaiter.awaitResume_cancelled io cancelled
      simp only [resumeOnce]
      rw [readBody_of_error (ended ▸ error), ended]
      rfl
  | asyncReadTimeout base delay =>
      have ended :=
        InnerRecvTimeoutAwaiter.awaitResume_cancelled self io cancelled
      simp only [resumeOnce]
      rw [readBody_of_error (ended ▸ error), ended]
      rfl
  | asyncWrite base =>
      have ended := InnerSendAwaiter.awaitResume_cancelled io cancelled
      simp only [resumeOnce]
      rw [ended, writeBody_of_ended (by simp)]
      rfl
  | asyncWriteTimeout base delay =>
      have ended :=
        InnerSendTimeoutAwaiter.awaitResume_cancelled self io cancelled
      simp only [resumeOnce]
      rw [ended, writeBody_of_ended (by simp)]
      rfl
  | asyncReadSome conn buf => cases cancelled
  | asyncAccept conn => cases cancelled
  | asyncConnect conn => cases cancelled
  | waitFor delay => cases cancelled

theorem returned_of_cancelled (self : Addr) (io : Io) (total : Nat)
    (cancelled : rt.cancelRequested operation.token? = true) :
    ∃ result, (operation.resumeOnce self io total rt).returned =
        some result ∧ result.ec = operationCancelledError := by
  exact Option.map_eq_some_iff.mp
    (resumeOnce_of_cancelled self io total cancelled)

/-- Without its token cancelled, an operation's awaiter suspends. -/
theorem awaitSuspend_of_quiet (operation : Operation) (self : Addr)
    (quiet : rt.cancelRequested operation.token? = false) :
    (operation.awaitSuspend self rt).2 = true := by
  cases operation with
  | asyncRead base =>
      exact congrArg Prod.snd (if_neg (ne_true_of_eq_false quiet))
  | asyncReadTimeout base delay =>
      exact congrArg Prod.snd (if_neg (ne_true_of_eq_false quiet))
  | asyncWrite base =>
      exact congrArg Prod.snd (if_neg (ne_true_of_eq_false quiet))
  | asyncWriteTimeout base delay =>
      exact congrArg Prod.snd (if_neg (ne_true_of_eq_false quiet))
  | asyncReadSome conn buf => rfl
  | asyncAccept conn => rfl
  | asyncConnect conn => rfl
  | waitFor delay => rfl

/-- One turn ends the loop, however many it may take: either the coroutine is
suspended, or its token is cancelled and the turn returns. -/
theorem loop_succ (operation : Operation) (self : Addr)
    (turns total : Nat) (rt : Runtime queues) :
    loop self operation (turns + 1) total rt =
      if rt.cancelRequested operation.token? then
        operation.resumeOnce self {} total rt
      else
        ⟨(operation.awaitSuspend self rt).1, total, none⟩ := by
  cases cancelled : rt.cancelRequested operation.token? with
  | true =>
      obtain ⟨result, returned, _⟩ :=
        returned_of_cancelled self {} total cancelled
      simp only [loop, awaitSuspend_of_cancelled self cancelled, returned,
        if_true]
  | false =>
      have suspends := awaitSuspend_of_quiet operation self cancelled
      have shape : operation.awaitSuspend self rt =
          ((operation.awaitSuspend self rt).1, true) :=
        Prod.ext rfl suspends
      rw [loop, shape]
      rfl

theorem Fits.kept (fits : operation.Fits rt) {next : Runtime queues}
    (kept : FilesKept rt next) : operation.Fits next where
  socket fd direction socket := by
    rcases kept fd with same | ⟨_, _, before, _⟩
    · rw [same]
      exact fits.socket fd direction socket
    · rw [fits.socket fd direction socket] at before
      cases before
  token fd token := by
    obtain ⟨cancelled, counter, file⟩ := fits.token fd token
    rcases kept fd with same | ⟨_, _, _, after⟩
    · exact ⟨cancelled, counter, same.trans file⟩
    · exact ⟨_, _, after⟩

/-! ## What a stretch leaves -/

/-- The coroutine is suspended, and was not cancelled. -/
structure Suspends (operation : Operation) (frame : Addr)
    (rt : Runtime queues) (stretch : Stretch queues)
    (deadlines : OpPtr → Option Int) : Prop where
  pending : stretch.returned = none
  quiet : rt.cancelRequested operation.token? = false
  leaves : Leaves frame (some frame) operation
    (operation.deadlineAt stretch.rt.clock) rt stretch.rt deadlines

/-- The coroutine has returned. -/
structure Returns (operation : Operation) (frame : Addr)
    (rt : Runtime queues) (stretch : Stretch queues) (result : OpResult)
    (deadlines : OpPtr → Option Int) : Prop where
  returned : stretch.returned = some result
  leaves : Leaves frame none operation none rt stretch.rt deadlines
  cancelled : rt.cancelRequested operation.token? = true →
    result.ec = operationCancelledError

/-- The loop entered at its `co_await`. -/
theorem loop_spec (operation : Operation) (self : Addr) (turns total : Nat)
    (inOrder : InOrder rt deadlines) (fits : operation.Fits rt)
    (absent : deadlines ⟨self, .timer⟩ = none)
    (timed : ∀ deadline, operation.deadlineAt rt.clock = some deadline →
      deadline ≠ 0) :
    Suspends operation self rt
        (loop self operation (turns + 1) total rt) deadlines ∨
      rt.cancelRequested operation.token? = true ∧
        ∃ result, Returns operation self rt
          (loop self operation (turns + 1) total rt) result deadlines := by
  rw [loop_succ]
  cases cancelled : rt.cancelRequested operation.token? with
  | true =>
      right
      obtain ⟨result, returned, error⟩ :=
        returned_of_cancelled self {} total cancelled
      refine ⟨rfl, result, returned, ?_, fun _ => error⟩
      refine resumeOnce_spec operation self {} total inOrder fits
        (fun _ => absent) ?_
      rintro delay rfl
      cases cancelled
  | false =>
      left
      obtain ⟨next, suspended, leaves, stays⟩ :=
        awaitSuspend_spec operation self inOrder fits cancelled absent timed
      rw [suspended]
      refine ⟨rfl, cancelled, ?_⟩
      rw [← stays] at leaves
      exact leaves

/-- The coroutine from its start; a `connect` that is settled at once touches
nothing. -/
theorem start_spec (operation : Operation) (self : Addr) (io : Io)
    (inOrder : InOrder rt deadlines) (fits : operation.Fits rt)
    (absent : deadlines ⟨self, .timer⟩ = none)
    (timed : ∀ deadline, operation.deadlineAt rt.clock = some deadline →
      deadline ≠ 0) :
    Suspends operation self rt (operation.start self io rt) deadlines ∨
      (rt.cancelRequested operation.token? = true ∧
        ∃ result, Returns operation self rt
          (operation.start self io rt) result deadlines) ∨
      (∃ conn, operation = .asyncConnect conn) ∧
        (operation.start self io rt).rt = rt ∧
        (operation.start self io rt).returned.isSome := by
  have looped := loop_spec operation self 0 0 inOrder fits absent timed
  cases operation with
  | asyncConnect conn =>
      cases tried : tryConnect io.connect with
      | connected =>
          right; right
          exact ⟨⟨conn, rfl⟩, by simp [start, tried]⟩
      | error =>
          right; right
          exact ⟨⟨conn, rfl⟩, by simp [start, tried]⟩
      | inProgress =>
          have entered : start self io rt (.asyncConnect conn) =
              loop self (.asyncConnect conn) 1 0 rt := by
            simp [start, tried]
          rw [entered]
          exact looped.imp id Or.inl
  | _ => exact looped.imp id Or.inl

/-- The coroutine from a resumption: it returns, or goes round its loop once
more. -/
theorem wake_spec (operation : Operation) (self : Addr) (io : Io)
    (total : Nat) (inOrder : InOrder rt deadlines) (fits : operation.Fits rt)
    (untimed : operation.delay? = none → deadlines ⟨self, .timer⟩ = none)
    (current : ∀ delay, operation = .waitFor delay →
      rt.timer.cur.state.read = some ⟨self, .timer⟩)
    (timed : ∀ clock deadline, rt.clock ≤ clock →
      operation.deadlineAt clock = some deadline → deadline ≠ 0) :
    (∃ result, Returns operation self rt
      (operation.wake self io total rt) result deadlines) ∨
    ∃ middle, Leaves self none operation none rt middle deadlines ∧
      Suspends operation self middle (operation.wake self io total rt)
        (Function.update deadlines ⟨self, .timer⟩ none) ∧
      rt.cancelRequested operation.token? = false := by
  have leaves :=
    resumeOnce_spec operation self io total inOrder fits untimed current
  unfold wake
  cases returned : (operation.resumeOnce self io total rt).returned with
  | some result =>
      left
      refine ⟨result, ?_, ?_, ?_⟩
      · simp only [returned]
      · simp only [returned]
        exact leaves
      · intro cancelled
        obtain ⟨other, otherReturned, error⟩ :=
          returned_of_cancelled self io total cancelled
        rw [returned] at otherReturned
        cases otherReturned
        exact error
  | none =>
      right
      have quiet : rt.cancelRequested operation.token? = false := by
        cases cancelled : rt.cancelRequested operation.token? with
        | false => rfl
        | true =>
            obtain ⟨other, otherReturned, _⟩ :=
              returned_of_cancelled self io total cancelled
            rw [returned] at otherReturned
            cases otherReturned
      have again := loop_spec operation self 0
        (operation.resumeOnce self io total rt).total leaves.inOrder
        (fits.kept leaves.files) (Function.update_self _ _ _)
        (fun deadline => timed _ deadline leaves.clock)
      refine ⟨_, leaves, ?_, quiet⟩
      simp only [returned]
      rcases again with suspends | ⟨cancelled, _⟩
      · exact suspends
      · rw [leaves.files.cancelRequested, quiet] at cancelled
        cases cancelled

end Operation

end AsyncFrame
