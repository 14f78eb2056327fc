import AsyncFrame.Moves

/-!
# Slots with one waiter

An op struct is put into its slot of the table whatever was there, and the slot
is emptied whatever is there.  While no operation is started on a slot that
another suspended operation waits in, each suspended operation keeps its own.
-/

namespace AsyncFrame

variable {queues : TimerQueue} {rt next : Runtime queues}

namespace Operation

variable {operation other : Operation} {member : OpMember}
variable {fd : Fd} {direction : Direction}

/-- The slot of the table that a member of the operation's awaiter is put
into. -/
def slot? (operation : Operation) : OpMember → Option (Fd × Direction)
  | .socket => operation.socket?
  | .cancel => operation.token?.map fun token => (token, .read)
  | .timer => none

/-- Only `wait_for` waits on no socket. -/
theorem waitFor_of_no_socket (socket : operation.socket? = none) :
    ∃ delay, operation = .waitFor delay := by
  cases operation with
  | waitFor delay => exact ⟨delay, rfl⟩
  | _ => cases socket

theorem slot?_cancel :
    operation.slot? .cancel = some (fd, direction) ↔
      operation.token? = some fd ∧ direction = .read := by
  simp only [slot?, Option.map_eq_some_iff, Prod.mk.injEq]
  constructor
  · rintro ⟨token, named, rfl, rfl⟩
    exact ⟨named, rfl⟩
  · rintro ⟨named, rfl⟩
    exact ⟨fd, named, rfl, rfl⟩

theorem Fits.slot_plain (fits : operation.Fits rt)
    {deadlines : OpPtr → Option Int} (inOrder : InOrder rt deadlines)
    (slot : operation.slot? member = some (fd, direction)) :
    fd ≠ rt.timer.fd := by
  cases member with
  | socket => exact fits.socket_plain inOrder slot
  | cancel => exact fits.token_plain inOrder fd (slot?_cancel.mp slot).1
  | timer => cases slot

/-- An operation's own slot is filled or emptied. -/
theorem claim_slot (fits : operation.Fits rt)
    (slot : operation.slot? member = some (fd, direction))
    (holder : Option Addr) (registry : Registry) :
    operation.claim holder registry fd direction =
      holder.map fun self => ⟨self, member⟩ := by
  cases member with
  | socket => exact claim_socket fits slot holder registry
  | cancel =>
      obtain ⟨token, rfl⟩ := slot?_cancel.mp slot
      exact claim_token token holder registry
  | timer => cases slot

/-- The slot of another operation is left alone. -/
theorem claim_other (fits : operation.Fits rt) (otherFits : other.Fits rt)
    (slot : other.slot? member = some (fd, direction))
    (different : operation.slot? member ≠ some (fd, direction))
    (holder : Option Addr) (registry : Registry) :
    operation.claim holder registry fd direction = registry fd direction := by
  have apart : ∀ (first second : Operation) (way : Direction),
      first.Fits rt → second.Fits rt →
      first.socket? = some (fd, way) → second.token? ≠ some fd := by
    intro first second way firstFits secondFits socket token
    obtain ⟨cancelled, counter, file⟩ := secondFits.token fd token
    rw [firstFits.socket fd way socket] at file
    cases file
  cases member with
  | socket =>
      refine claim_elsewhere different ?_ holder registry
      exact fun named => apart other operation _ otherFits fits slot named.1
  | cancel =>
      have token := (slot?_cancel.mp slot).1
      refine claim_elsewhere ?_ ?_ holder registry
      · exact fun socket => apart operation other _ fits otherFits socket token
      · exact fun named => different (slot?_cancel.mpr named)
  | timer => cases slot

end Operation

namespace System

variable {s next : System queues} {action : Action} {member : OpMember}

/-- Every suspended operation has this member of its awaiter registered. -/
def Filed (member : OpMember) (s : System queues) : Prop :=
  ∀ frame op fd direction, s.pending frame = some op →
    op.operation.slot? member = some (fd, direction) →
      s.rt.scheduler.registry fd direction = some ⟨frame, member⟩

/-- No suspended operation waits in the slot that an operation is started
on. -/
def unshared (member : OpMember) (s : System queues)
    (action : Action) : Bool :=
  (action.starts?.bind fun operation => operation.slot? member).all
    fun key => !s.anyPending fun op => op.operation.slot? member = some key

private theorem unshared_spec {operation : Operation}
    (alone : s.unshared member action = true)
    (starting : action.starts? = some operation) {frame : Addr} {op : OpFrame}
    (waits : s.pending frame = some op) {key : Fd × Direction}
    (slot : op.operation.slot? member = some key) :
    operation.slot? member ≠ some key := by
  intro same
  unfold unshared at alone
  rw [starting, Option.bind_some, same, Option.all_some,
    Bool.not_eq_true'] at alone
  have apart := anyPending_eq_false alone waits
  rw [decide_eq_false_iff_not] at apart
  exact apart slot

/-- Two suspended operations wait in different slots. -/
theorem Filed.slot_ne (filed : Filed member s) {frame other : Addr}
    {op otherOp : OpFrame} (waits : s.pending frame = some op)
    (otherWaits : s.pending other = some otherOp) (different : other ≠ frame)
    {fd : Fd} {direction : Direction}
    (slot : otherOp.operation.slot? member = some (fd, direction)) :
    op.operation.slot? member ≠ some (fd, direction) := by
  intro same
  have first := filed frame op fd direction waits same
  rw [filed other otherOp fd direction otherWaits slot] at first
  cases first
  exact different rfl

/-- A stretch of one operation leaves the slot of another one alone. -/
theorem registry_of_other {rt next : Runtime queues} {frame : Addr}
    {holder : Option Addr} {operation other : Operation}
    {deadline : Option Int} {queue : OpPtr → Option Int}
    (leaves : Leaves frame holder operation deadline rt next queue)
    (fits : operation.Fits rt) (otherFits : other.Fits rt)
    {deadlines : OpPtr → Option Int} (inOrder : InOrder rt deadlines)
    {fd : Fd} {direction : Direction}
    (slot : other.slot? member = some (fd, direction))
    (different : operation.slot? member ≠ some (fd, direction)) :
    next.scheduler.registry fd direction =
      rt.scheduler.registry fd direction := by
  have plain := otherFits.slot_plain inOrder slot
  rw [Sound.registry_of_leaves leaves fun timer => plain timer.1]
  exact Operation.claim_other fits otherFits slot different holder _

/-- A stretch that suspends its operation fills the operation's slot. -/
theorem registry_of_own {rt next : Runtime queues} {frame : Addr}
    {operation : Operation} {deadline : Option Int}
    {queue : OpPtr → Option Int}
    (leaves : Leaves frame (some frame) operation deadline rt next queue)
    (fits : operation.Fits rt) {deadlines : OpPtr → Option Int}
    (inOrder : InOrder rt deadlines) {fd : Fd} {direction : Direction}
    (slot : operation.slot? member = some (fd, direction)) :
    next.scheduler.registry fd direction = some ⟨frame, member⟩ := by
  have plain := fits.slot_plain inOrder slot
  rw [Sound.registry_of_leaves leaves fun timer => plain timer.1]
  exact Operation.claim_slot fits slot (some frame) _

/-- A move that starts nothing on an occupied slot keeps every member
registered. -/
theorem Filed.move (filed : Filed member s) (sound : Sound s.rt s.pending)
    (move : Move action s next) (alone : s.unshared member action = true) :
    Filed member next := by
  intro frame op fd direction waits slot
  cases move with
  | calm _ _ pending table =>
      rw [pending] at waits
      rw [table]
      exact filed frame op fd direction waits slot
  | suspends started new _ starting _ _ fits _ pending leaves =>
      rw [pending] at waits
      by_cases same : frame = started
      · subst same
        rw [Function.update_self] at waits
        cases waits
        exact registry_of_own leaves fits sound.inOrder slot
      · rw [Function.update_of_ne same] at waits
        rw [registry_of_other leaves fits (sound.fits frame op waits)
          sound.inOrder slot (unshared_spec alone starting waits slot)]
        exact filed frame op fd direction waits slot
  | passes _ _ _ _ _ starting _ _ fits pending leaves =>
      rw [pending] at waits
      have before := filed frame op fd direction waits slot
      rcases leaves with ⟨_, same⟩ | ⟨_, _, leaves⟩
      · rw [same]
        exact before
      · rw [registry_of_other leaves fits (sound.fits frame op waits)
          sound.inOrder slot (unshared_spec alone starting waits slot)]
        exact before
  | ends pointer ended _ _ endedWaits pending leaves =>
      rw [pending] at waits
      by_cases same : frame = pointer.frame
      · subst same
        rw [Function.update_self] at waits
        cases waits
      · rw [Function.update_of_ne same] at waits
        rw [registry_of_other leaves (sound.fits _ ended endedWaits)
          (sound.fits frame op waits) sound.inOrder slot
          (filed.slot_ne endedWaits waits same slot)]
        exact filed frame op fd direction waits slot
  | rounds pointer old again middle _ oldWaits operation _ _ _ pending left
      leaves =>
      have fits := sound.fits _ old oldWaits
      have midFits : again.operation.Fits middle :=
        operation ▸ fits.kept left.files
      rw [pending] at waits
      by_cases same : frame = pointer.frame
      · subst same
        rw [Function.update_self] at waits
        cases waits
        exact registry_of_own leaves midFits left.inOrder slot
      · rw [Function.update_of_ne same] at waits
        have otherFits := sound.fits frame op waits
        have different := filed.slot_ne oldWaits waits same slot
        rw [registry_of_other leaves midFits (otherFits.kept left.files)
            left.inOrder slot (operation ▸ different),
          registry_of_other left fits otherFits sound.inOrder slot different]
        exact filed frame op fd direction waits slot

theorem filed_initial (queues : TimerQueue) (member : OpMember)
    (timerFd : Fd) (uptime : Nat) (buffers : BufferRef → Buffer) :
    Filed member (initial queues timerFd uptime buffers) := by
  intro frame op fd direction waits
  simp [pending, initial, pendingIn] at waits

end System

end AsyncFrame
