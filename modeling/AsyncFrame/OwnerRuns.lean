import AsyncFrame.SingleOwner

/-!
# Single ownership over whole runs

A step from a state with single ownership keeps it exactly if it is a careful
one, and so does a run.
-/

namespace AsyncFrame.Owners

open Lib

variable {s next : Owners} {this other lhs rhs : Nat}
variable {descriptor : Descriptor}

/-! ## Ways to lose it -/

/-- Two objects hold one open descriptor. -/
theorem not_single_of_shared (first : next.fd this = some descriptor)
    (second : next.fd other = some descriptor) (different : this ≠ other)
    (current : next.table descriptor.number = some descriptor.serial) :
    ¬SingleOwnership next :=
  fun law => different (law.single this other descriptor first second current)

/-- An object holds a descriptor that was closed without its doing. -/
theorem not_single_of_stale (field : next.fd this = some descriptor)
    (unmarked : next.spent this ≠ some descriptor)
    (member : descriptor ∈ next.closes) : ¬SingleOwnership next := by
  intro law
  apply (law.live this descriptor field _).1
  · exact member
  · simp [explicitlyClosed, field, unmarked]

private theorem not_single_of_twice (member : descriptor ∈ s.closes)
    (closes : next.closes = descriptor :: s.closes) :
    ¬SingleOwnership next := by
  intro law
  have distinct := law.once
  rw [closes] at distinct
  exact (List.nodup_cons.mp distinct).1 member

private theorem spent_of_explicit (explicit : s.explicitlyClosed this = true) :
    ∃ descriptor, s.fd this = some descriptor ∧
      s.spent this = some descriptor := by
  simp only [explicitlyClosed, Bool.and_eq_true, decide_eq_true_eq]
    at explicit
  obtain ⟨descriptor, field⟩ := Option.isSome_iff_exists.mp explicit.1
  exact ⟨descriptor, field, explicit.2.trans field⟩

/-- Objects other than an `fdo` and an `Epoll_Manager` never call
`fdo::close_fd`. -/
theorem unmarked_of_kind (well : WellNumbered s) {kind : OwnerKind}
    (lives : s.kind this = some kind) (notFdo : kind ≠ .fdo)
    (notEpoll : kind ≠ .epollManager) : s.spent this = none := by
  cases marked : s.spent this with
  | none => rfl
  | some descriptor =>
      obtain ⟨_, kinds⟩ := well.spent this descriptor marked
      rw [lives] at kinds
      rcases kinds with same | same
      · exact absurd (Option.some.inj same) notFdo
      · exact absurd (Option.some.inj same) notEpoll

/-! ## Keeping it -/

private theorem SingleOwnership.of_custody (wellNext : WellNumbered next)
    (defined : next.undefined = false)
    (exclusive : next.custody.Exclusive) : SingleOwnership next :=
  (singleOwnership_iff wellNext).mpr ⟨defined, exclusive⟩

private theorem SingleOwnership.exclusive (law : SingleOwnership s)
    (well : WellNumbered s) : s.custody.Exclusive :=
  ((singleOwnership_iff well).mp law).2

private theorem fdoCloseFd_of_some (field : s.fd this = some descriptor) :
    Fdo.closeFd s this =
      { s.close (some descriptor) with
        spent := Function.update s.spent this (some descriptor) } := by
  simp only [Fdo.closeFd, field]

/-- The number of the next object does not matter. -/
theorem singleOwnership_renumber (number : Nat) :
    SingleOwnership { s with nextObject := number } ↔ SingleOwnership s := by
  constructor
  · rintro ⟨defined, once, single, live⟩
    exact ⟨defined, once, single, live⟩
  · rintro ⟨defined, once, single, live⟩
    exact ⟨defined, once, single, live⟩

private theorem swapFields_self (s : Owners) (this : Nat) :
    s.swapFields this this = s := by
  simp only [swapFields, write, Function.update_eq_self]

section Decided

variable (well : WellNumbered s) (law : SingleOwnership s)
include well law

private theorem single_moveOn (kind : OwnerKind) (below : other < s.nextObject)
    (kept : s.explicitlyClosed other = false) :
    SingleOwnership ((s.create kind (s.fd other)).write other none) := by
  apply SingleOwnership.of_custody (well.moveOn kind below) law.defined
  rw [custody_moveOn well kind below kept]
  exact (law.exclusive well).exchange _ _

private theorem single_create_none (kind : OwnerKind) :
    SingleOwnership (s.create kind none) := by
  have wellNext : WellNumbered (s.create kind none) := by
    apply well.create
    rintro descriptor ⟨⟩
  apply SingleOwnership.of_custody wellNext law.defined
  rw [custody_create_none well]
  exact law.exclusive well

private theorem single_grantCreate (kind : OwnerKind) {number : Option Fd}
    (free : s.free number = true) :
    SingleOwnership
      ((s.grant number).1.create kind (s.grant number).2) := by
  cases number with
  | none => exact single_create_none well law kind
  | some number =>
      apply SingleOwnership.of_custody (well.grantCreate kind (some number))
        law.defined
      rw [custody_grantCreate well]
      apply (law.exclusive well).handOut
      exact of_decide_eq_true free

private theorem single_swapFields (left : s.explicitlyClosed lhs = false)
    (right : s.explicitlyClosed rhs = false) (leftBelow : lhs < s.nextObject)
    (rightBelow : rhs < s.nextObject) :
    SingleOwnership (s.swapFields lhs rhs) := by
  apply SingleOwnership.of_custody (well.swapFields leftBelow rightBelow)
    law.defined
  rw [custody_swapFields law well left right]
  exact (law.exclusive well).exchange _ _

/-- A copy of a descriptor that a `MakeSocket`, an `Acceptor` or a
`BuildServer` holds is a second owner. -/
theorem not_single_of_copy {kind : OwnerKind}
    (lives : s.kind other = some kind) (notFdo : kind ≠ .fdo)
    (notEpoll : kind ≠ .epollManager) (field : s.fd other = some descriptor)
    (table : next.table = s.table)
    (copied : next.fd this = some descriptor)
    (stays : next.fd other = some descriptor) (different : this ≠ other) :
    ¬SingleOwnership next := by
  apply not_single_of_shared copied stays different
  rw [table]
  exact (law.live other descriptor field
    (kept_of_kind well lives notFdo notEpoll)).2

/-- Exchanging what an explicitly closed `fdo` keeps with another object. -/
theorem not_single_of_swap (different : lhs ≠ rhs)
    (explicit : s.explicitlyClosed lhs = true ∨
      s.explicitlyClosed rhs = true) :
    ¬SingleOwnership (s.swapFields lhs rhs) := by
  have stale : ∀ {source target : Nat}, source ≠ target →
      s.explicitlyClosed source = true →
      (∀ descriptor, s.fd source = some descriptor →
        (s.swapFields lhs rhs).fd target = some descriptor) →
          ¬SingleOwnership (s.swapFields lhs rhs) := by
    intro source target apart explicit goes
    obtain ⟨descriptor, field, marked⟩ := spent_of_explicit explicit
    apply not_single_of_stale (goes descriptor field)
    · intro again
      apply apart
      exact well.marked law.once source target descriptor marked again
    · exact (well.spent source descriptor marked).1
  rcases explicit with left | right
  · apply stale different left
    intro descriptor field
    simp [swapFields, write, field]
  · apply stale different.symm right
    intro descriptor field
    simp [swapFields, write, field, different]

/-! ## Each kind of step -/

/-- The implicit copy constructors, and `ConnectingNow`. -/
theorem copyConstruct_iff {kind : OwnerKind} (copied : OwnerKind)
    (lives : s.kind other = some kind) (notFdo : kind ≠ .fdo)
    (notEpoll : kind ≠ .epollManager) :
    SingleOwnership (s.create copied (s.fd other)) ↔ s.fd other = none := by
  have below := well.alive lives
  have different : s.nextObject ≠ other := by omega
  cases field : s.fd other with
  | none => exact iff_of_true (single_create_none well law copied) rfl
  | some descriptor =>
      apply iff_of_false _ (by simp)
      have copy : (s.create copied (some descriptor)).fd s.nextObject =
          some descriptor := by
        simp [create]
      apply not_single_of_copy well law lives notFdo notEpoll field _ copy
      · simp [create, Function.update_of_ne different.symm, field]
      · exact different
      · rfl

private theorem moveConstruct_iff {kind : OwnerKind}
    (lives : s.kind other = some kind) (notAcceptor : kind ≠ .acceptor) :
    SingleOwnership (s.perform (.moveConstruct other)) ↔
      s.careful (.moveConstruct other) = true := by
  have below := well.alive lives
  have different : s.nextObject ≠ other := by omega
  have unmarked := (well.fresh s.nextObject (le_refl _)).2.2
  simp only [perform, careful, lives]
  cases kind with
  | fdo =>
      cases explicit : s.explicitlyClosed other with
      | false =>
          exact iff_of_true (single_moveOn well law .fdo below explicit) rfl
      | true =>
          apply iff_of_false _ (by simp)
          obtain ⟨descriptor, field, marked⟩ := spent_of_explicit explicit
          have taken : (Fdo.moveConstruct s other).fd s.nextObject =
              some descriptor := by
            simp [Fdo.moveConstruct, write, create, field, different]
          apply not_single_of_stale taken
          · simp [Fdo.moveConstruct, write, create, unmarked]
          · exact (well.spent other descriptor marked).1
  | epollManager =>
      simp only [EpollManager.moveConstruct]
      have kept : (s.create .epollManager (s.fd other)).fd other =
          s.fd other := by
        simp [create, Function.update_of_ne different.symm]
      cases field : s.fd other with
      | none =>
          rw [field] at kept
          apply iff_of_true _ (by simp)
          rw [Fdo.closeFd, kept]
          exact single_create_none well law .epollManager
      | some descriptor =>
          rw [field] at kept
          apply iff_of_false _ (by simp)
          have copy : (Fdo.closeFd (s.create .epollManager
              (some descriptor)) other).fd s.nextObject =
                some descriptor := by
            rw [fdoCloseFd_of_some kept]
            simp [close, create]
          apply not_single_of_stale copy
          · rw [fdoCloseFd_of_some kept]
            simp [create, different, unmarked]
          · rw [fdoCloseFd_of_some kept]
            exact List.mem_cons_self
  | connection =>
      have kept := kept_of_kind well lives (by simp) (by simp)
      exact iff_of_true (single_moveOn well law .connection below kept) rfl
  | makeSocket =>
      rw [decide_eq_true_eq]
      exact copyConstruct_iff well law .makeSocket lives (by simp) (by simp)
  | acceptor => exact absurd rfl notAcceptor
  | buildServer =>
      rw [decide_eq_true_eq]
      exact copyConstruct_iff well law .buildServer lives (by simp) (by simp)

/-- The implicit copy assignments. -/
theorem copyAssign_iff {kind : OwnerKind} (lives : s.kind other = some kind)
    (notFdo : kind ≠ .fdo) (notEpoll : kind ≠ .epollManager)
    (below : this < s.nextObject) (different : this ≠ other) :
    SingleOwnership (s.write this (s.fd other)) ↔ s.fd other = none := by
  cases field : s.fd other with
  | none =>
      apply iff_of_true _ rfl
      have wellNext : WellNumbered (s.write this none) := by
        apply well.write below
        rintro descriptor ⟨⟩
      apply SingleOwnership.of_custody wellNext law.defined
      rw [custody_forget]
      exact (law.exclusive well).forget this
  | some descriptor =>
      apply iff_of_false _ (by simp)
      have copy : (s.write this (some descriptor)).fd this =
          some descriptor := by
        simp [write]
      apply not_single_of_copy well law lives notFdo notEpoll field _ copy
      · simp [write, Function.update_of_ne different.symm, field]
      · exact different
      · rfl

private theorem single_connectionCloseFd (below : this < s.nextObject)
    (kept : s.explicitlyClosed this = false) :
    SingleOwnership (Connection.closeFd s this) := by
  have defined : (Connection.closeFd s this).undefined = false := by
    unfold Connection.closeFd
    split <;> exact law.defined
  apply SingleOwnership.of_custody (well.connectionCloseFd below) defined
  rw [connectionCloseFd_eq, custody_acceptorCloseFd kept]
  exact (law.exclusive well).release this

private theorem single_connectionAssign (different : this ≠ other)
    (lives : s.kind this = some .connection)
    (otherLives : s.kind other = some .connection) :
    SingleOwnership (Connection.moveAssign s this other) := by
  have below := well.alive lives
  have kept := kept_of_kind well lives (by simp) (by simp)
  have closedWell := well.connectionCloseFd below
  have closed := single_connectionCloseFd well law below kept
  have kinds : (Connection.closeFd s this).kind = s.kind := by
    unfold Connection.closeFd
    split <;> rfl
  have emptied : (Connection.closeFd s this).fd this = none := by
    unfold Connection.closeFd
    cases field : s.fd this with
    | none => exact field
    | some descriptor => simp [write]
  have shape : Connection.moveAssign s this other =
      (Connection.closeFd s this).swapFields this other := by
    rw [Connection.moveAssign, if_neg different, swapFields, emptied]
  rw [← kinds] at lives otherLives
  rw [shape]
  apply single_swapFields closedWell closed
  · exact kept_of_kind closedWell lives (by simp) (by simp)
  · exact kept_of_kind closedWell otherLives (by simp) (by simp)
  · exact closedWell.alive lives
  · exact closedWell.alive otherLives

private theorem swapFields_iff (different : lhs ≠ rhs)
    (left : lhs < s.nextObject) (right : rhs < s.nextObject) :
    SingleOwnership (s.swapFields lhs rhs) ↔
      (!s.explicitlyClosed lhs && !s.explicitlyClosed rhs) = true := by
  cases leftExplicit : s.explicitlyClosed lhs with
  | true =>
      apply iff_of_false _ (by simp)
      exact not_single_of_swap well law different (Or.inl leftExplicit)
  | false =>
      cases rightExplicit : s.explicitlyClosed rhs with
      | true =>
          apply iff_of_false _ (by simp)
          exact not_single_of_swap well law different (Or.inr rightExplicit)
      | false =>
          apply iff_of_true _ rfl
          exact single_swapFields well law leftExplicit rightExplicit left
            right

private theorem moveAssign_iff {kind : OwnerKind}
    (lives : s.kind this = some kind) (otherLives : s.kind other = some kind) :
    SingleOwnership (s.perform (.moveAssign this other)) ↔
      s.careful (.moveAssign this other) = true := by
  have below := well.alive lives
  have otherBelow := well.alive otherLives
  by_cases same : this = other
  · subst same
    have still : s.perform (.moveAssign this this) = s := by
      simp only [perform, lives]
      cases kind with
      | fdo => exact swapFields_self s this
      | epollManager => simp [EpollManager.moveAssign]
      | connection => simp [Connection.moveAssign]
      | makeSocket => simp [MakeSocket.copyAssign, write]
      | acceptor => simp [Acceptor.copyAssign, write]
      | buildServer => simp [BuildServer.copyAssign, write]
    rw [still]
    exact iff_of_true law (by simp [careful])
  · have copies : kind ≠ .fdo → kind ≠ .epollManager →
        (SingleOwnership (s.write this (s.fd other)) ↔
          s.fd other = none) := fun notFdo notEpoll =>
      copyAssign_iff well law otherLives notFdo notEpoll below same
    simp only [perform, careful, lives, same, decide_false, Bool.false_or]
    cases kind with
    | fdo =>
        simp only [Fdo.moveAssign]
        rw [swapFields_iff well law (Ne.symm same) otherBelow below,
          Bool.and_comm]
    | epollManager =>
        apply iff_of_false _ (by simp)
        intro lawNext
        have defined := lawNext.defined
        simp [EpollManager.moveAssign, same] at defined
    | connection =>
        apply iff_of_true _ rfl
        exact single_connectionAssign well law same lives otherLives
    | makeSocket =>
        rw [decide_eq_true_eq]
        exact copies (by simp) (by simp)
    | acceptor =>
        rw [decide_eq_true_eq]
        exact copies (by simp) (by simp)
    | buildServer =>
        rw [decide_eq_true_eq]
        exact copies (by simp) (by simp)

private theorem swap_iff {kind : OwnerKind} (lives : s.kind lhs = some kind)
    (otherLives : s.kind rhs = some kind) (notAcceptor : kind ≠ .acceptor) :
    SingleOwnership (s.perform (.swap lhs rhs)) ↔
      s.careful (.swap lhs rhs) = true := by
  have left := well.alive lives
  have right := well.alive otherLives
  have members : SingleOwnership (Fdo.swap s lhs rhs) ↔
      (decide (lhs = rhs) ||
        !s.explicitlyClosed lhs && !s.explicitlyClosed rhs) = true := by
    rw [fdoSwap_eq well left right, singleOwnership_renumber]
    by_cases same : lhs = rhs
    · subst same
      rw [swapFields_self]
      exact iff_of_true law (by simp)
    · rw [swapFields_iff well law same left right]
      simp [same]
  have exchanged : kind ≠ .fdo → kind ≠ .epollManager →
      SingleOwnership (s.swapFields lhs rhs) := fun notFdo notEpoll =>
    single_swapFields well law
      (kept_of_kind well lives notFdo notEpoll)
      (kept_of_kind well otherLives notFdo notEpoll) left right
  simp only [perform, careful, lives]
  cases kind with
  | fdo => exact members
  | epollManager => exact members
  | connection => exact iff_of_true (exchanged (by simp) (by simp)) rfl
  | makeSocket =>
      have law' := exchanged (by simp) (by simp)
      rw [decide_eq_true_eq, makeSocketSwap_eq well left right]
      cases field : s.fd lhs with
      | none =>
          apply iff_of_true _ rfl
          exact (singleOwnership_renumber _).mpr law'
      | some descriptor =>
          apply iff_of_false _ (by simp)
          have goes : (Owners.close
              { s.swapFields lhs rhs with nextObject := s.nextObject + 1 }
              (some descriptor)).fd rhs = some descriptor := by
            simp [close, swapFields, write, field]
          apply not_single_of_stale goes
          · have unmarked :=
              unmarked_of_kind well otherLives (by simp) (by simp)
            simp [close, swapFields, write, unmarked]
          · exact List.mem_cons_self
  | acceptor => exact absurd rfl notAcceptor
  | buildServer =>
      apply iff_of_true _ rfl
      rw [buildServerSwap_eq well left right, singleOwnership_renumber]
      exact exchanged (by simp) (by simp)

private theorem fdoCloseFd_iff
    (lives : s.kind this = some .fdo ∨ s.kind this = some .epollManager) :
    SingleOwnership (Fdo.closeFd s this) ↔
      s.explicitlyClosed this = false := by
  cases explicit : s.explicitlyClosed this with
  | false =>
      apply iff_of_true _ rfl
      have defined : (Fdo.closeFd s this).undefined = false := by
        unfold Fdo.closeFd
        cases s.fd this <;> exact law.defined
      apply SingleOwnership.of_custody (well.fdoCloseFd lives) defined
      rw [custody_fdoCloseFd explicit]
      exact (law.exclusive well).release this
  | true =>
      apply iff_of_false _ (by simp)
      obtain ⟨descriptor, field, marked⟩ := spent_of_explicit explicit
      rw [fdoCloseFd_of_some field]
      exact not_single_of_twice (well.spent this descriptor marked).1 rfl

private theorem single_erase (this : Nat) : SingleOwnership (s.erase this) := by
  apply SingleOwnership.of_custody (well.erase this) law.defined
  rw [custody_erase]
  exact (law.exclusive well).forget this

end Decided

/-- Erasing an object takes no second `close` back. -/
theorem fdoDestroy_iff (well : WellNumbered s) (law : SingleOwnership s)
    (lives : s.kind this = some .fdo ∨ s.kind this = some .epollManager) :
    SingleOwnership (Fdo.destroy s this) ↔
      s.explicitlyClosed this = false := by
  cases explicit : s.explicitlyClosed this with
  | false =>
      apply iff_of_true _ rfl
      apply single_erase (well.fdoCloseFd lives)
      exact (fdoCloseFd_iff well law lives).mpr explicit
  | true =>
      apply iff_of_false _ (by simp)
      obtain ⟨descriptor, field, marked⟩ := spent_of_explicit explicit
      rw [Fdo.destroy, fdoCloseFd_of_some field]
      exact not_single_of_twice (well.spent this descriptor marked).1 rfl

private theorem single_makeSocketDestroy (well : WellNumbered s)
    (law : SingleOwnership s) (kept : s.explicitlyClosed this = false) :
    SingleOwnership (MakeSocket.destroy s this) := by
  have defined : (MakeSocket.destroy s this).undefined = false := by
    unfold MakeSocket.destroy
    cases s.fd this <;> exact law.defined
  apply SingleOwnership.of_custody (well.makeSocketDestroy this) defined
  rw [custody_makeSocketDestroy kept]
  exact (law.exclusive well).release this

private theorem closeFd_iff (well : WellNumbered s) (law : SingleOwnership s)
    (lives : s.kind this = some .fdo ∨ s.kind this = some .connection ∨
      s.kind this = some .acceptor) :
    SingleOwnership (s.perform (.closeFd this)) ↔
      s.careful (.closeFd this) = true := by
  rcases lives with lives | lives | lives
  · simp only [perform, careful, lives, Bool.not_eq_true']
    exact fdoCloseFd_iff well law (Or.inl lives)
  · have kept := kept_of_kind well lives (by simp) (by simp)
    simp only [perform, careful, lives, kept]
    exact iff_of_true (single_connectionCloseFd well law (well.alive lives)
      kept) rfl
  · have kept := kept_of_kind well lives (by simp) (by simp)
    simp only [perform, careful, lives, kept]
    rw [← connectionCloseFd_eq]
    exact iff_of_true (single_connectionCloseFd well law (well.alive lives)
      kept) rfl

private theorem destroy_iff (well : WellNumbered s) (law : SingleOwnership s)
    {kind : OwnerKind} (lives : s.kind this = some kind) :
    SingleOwnership (s.perform (.destroy this)) ↔
      s.careful (.destroy this) = true := by
  have below := well.alive lives
  have kept : kind ≠ .fdo → kind ≠ .epollManager →
      s.explicitlyClosed this = false := kept_of_kind well lives
  have closed : s.explicitlyClosed this = false →
      SingleOwnership ((Connection.closeFd s this).erase this) :=
    fun kept => single_erase (well.connectionCloseFd below)
      (single_connectionCloseFd well law below kept) this
  simp only [perform, careful, lives, Bool.not_eq_true']
  cases kind with
  | fdo => exact fdoDestroy_iff well law (Or.inl lives)
  | epollManager => exact fdoDestroy_iff well law (Or.inr lives)
  | connection =>
      have kept := kept (by simp) (by simp)
      exact iff_of_true (closed kept) kept
  | makeSocket =>
      have kept := kept (by simp) (by simp)
      exact iff_of_true (single_makeSocketDestroy well law kept) kept
  | acceptor =>
      have kept := kept (by simp) (by simp)
      rw [Acceptor.destroy, ← connectionCloseFd_eq]
      exact iff_of_true (closed kept) kept
  | buildServer =>
      have kept := kept (by simp) (by simp)
      exact iff_of_true (single_erase well law this) kept

private theorem single_construct (well : WellNumbered s)
    (law : SingleOwnership s)
    (kind : OwnerKind) {number : Option Fd} (free : s.free number = true) :
    SingleOwnership (s.perform (.construct kind number)) := by
  have created := fun kind => single_grantCreate well law kind free
  cases kind with
  | epollManager =>
      cases number with
      | none => exact law
      | some number => exact created .epollManager
  | makeSocket =>
      cases number with
      | none => exact law
      | some number => exact created .makeSocket
  | fdo => exact created .fdo
  | connection => exact created .connection
  | acceptor => exact created .acceptor
  | buildServer => exact created .buildServer

private theorem single_acceptor (well : WellNumbered s)
    (law : SingleOwnership s)
    (lives : s.kind this = some .makeSocket) (listens : Bool) :
    SingleOwnership (s.perform (.acceptor this listens)) := by
  have kept := kept_of_kind well lives (by simp) (by simp)
  simp only [perform, Acceptor.construct]
  split
  · exact single_moveOn well law .acceptor (well.alive lives) kept
  · exact law

private theorem single_acceptNow (well : WellNumbered s)
    (law : SingleOwnership s)
    (acceptor : Nat) {number : Option Fd} (free : s.free number = true) :
    SingleOwnership (s.perform (.acceptNow acceptor number)) := by
  cases number with
  | none => exact law
  | some number => exact single_grantCreate well law .connection free

/-- The parameter of `BuildServer` closes what its argument keeps. -/
theorem buildServer_iff (well : WellNumbered s) (law : SingleOwnership s)
    (lives : s.kind this = some .makeSocket) {listens : Bool}
    (answers : listens = true → (s.fd this).isSome = true) :
    SingleOwnership (s.perform (.buildServer this listens)) ↔
      s.careful (.buildServer this listens) = true := by
  have below := well.alive lives
  have different : this ≠ s.nextObject := by omega
  have later : this ≠ s.nextObject + 1 := by omega
  have unmarked := unmarked_of_kind well lives (by simp) (by simp)
  simp only [perform, careful, BuildServer.constructFrom,
    MakeSocket.copyConstruct, decide_eq_true_eq]
  cases field : s.fd this with
  | none =>
      apply iff_of_true _ rfl
      have fails : listens = false := by
        apply Bool.eq_false_iff.mpr
        intro listening
        have known := answers listening
        rw [field] at known
        cases known
      have copied : WellNumbered (s.create .makeSocket none) := by
        apply well.create
        rintro descriptor ⟨⟩
      rw [fails]
      apply single_makeSocketDestroy copied
        (single_create_none well law .makeSocket)
      have made : (s.create .makeSocket none).kind s.nextObject =
          some .makeSocket := by
        simp [create]
      exact kept_of_kind copied made (by simp) (by simp)
  | some descriptor =>
      apply iff_of_false _ (by simp)
      have stays : (BuildServer.construct
          (s.create .makeSocket (some descriptor)) s.nextObject
            listens).fd this = some descriptor := by
        cases listens <;>
          simp [BuildServer.construct, MakeSocket.destroy, erase, close,
            create, different, later, field]
      apply not_single_of_stale stays
      · cases listens <;>
          simp [BuildServer.construct, MakeSocket.destroy, erase, close,
            create, different, unmarked]
      · cases listens <;>
          simp [BuildServer.construct, MakeSocket.destroy, erase, close,
            create]

/-- A `BuildServer` keeps the number that its parameter closes. -/
theorem buildServerFresh_iff (well : WellNumbered s)
    (law : SingleOwnership s) {number : Option Fd}
    (free : s.free number = true) (listens : Bool) :
    SingleOwnership (s.perform (.buildServerFresh number listens)) ↔
      s.careful (.buildServerFresh number listens) = true := by
  cases number with
  | none => exact iff_of_true law (by simp [careful])
  | some number =>
      simp only [perform, careful]
      cases listens with
      | false =>
          apply iff_of_true _ (by simp)
          have created := well.grantCreate .makeSocket (some number)
          have made : ((s.grant (some number)).1.create .makeSocket
              (s.grant (some number)).2).kind s.nextObject =
                some .makeSocket := by
            simp [create, grant]
          have kept := kept_of_kind created made (by simp) (by simp)
          exact single_makeSocketDestroy created
            (single_grantCreate well law .makeSocket free) kept
      | true =>
          apply iff_of_false _ (by simp)
          have fresh := (well.fresh (s.nextObject + 1) (by omega)).2.2
          have keeps : (BuildServer.constructFresh s (some number) true).fd
              (s.nextObject + 1) = some ⟨number, s.nextSerial⟩ := by
            simp [BuildServer.constructFresh, BuildServer.construct, grant,
              MakeSocket.destroy, erase, close, create]
          apply not_single_of_stale keeps
          · simp [BuildServer.constructFresh, BuildServer.construct, grant,
              MakeSocket.destroy, erase, close, create, fresh]
          · simp [BuildServer.constructFresh, BuildServer.construct, grant,
              MakeSocket.destroy, erase, close, create]

/-- A step from single ownership keeps it exactly if it is careful. -/
theorem step_iff_careful {action : Action} (well : WellNumbered s)
    (law : SingleOwnership s) (taken : s.step action = some next) :
    SingleOwnership next ↔ s.careful action = true := by
  unfold step at taken
  split at taken
  swap
  · cases taken
  · rename_i allowed
    cases taken
    cases action with
    | construct kind number =>
        obtain ⟨_, free⟩ := Bool.and_eq_true_iff.mp allowed
        exact iff_of_true (single_construct well law kind free) rfl
    | moveConstruct other =>
        obtain ⟨kind, lives, notAcceptor⟩ :=
          (Option.any_eq_true _ _).mp allowed
        exact moveConstruct_iff well law lives
          (of_decide_eq_true notAcceptor)
    | moveAssign this other =>
        obtain ⟨exists', same⟩ := Bool.and_eq_true_iff.mp allowed
        obtain ⟨kind, lives⟩ := Option.isSome_iff_exists.mp exists'
        exact moveAssign_iff well law lives
          ((of_decide_eq_true same).trans lives)
    | swap lhs rhs =>
        obtain ⟨exists', same⟩ := Bool.and_eq_true_iff.mp allowed
        obtain ⟨kind, lives, notAcceptor⟩ :=
          (Option.any_eq_true _ _).mp exists'
        exact swap_iff well law lives ((of_decide_eq_true same).trans lives)
          (of_decide_eq_true notAcceptor)
    | closeFd this =>
        simp only [enabled, Bool.or_eq_true, decide_eq_true_eq, or_assoc]
          at allowed
        exact closeFd_iff well law allowed
    | destroy this =>
        obtain ⟨kind, lives⟩ := Option.isSome_iff_exists.mp allowed
        exact destroy_iff well law lives
    | acceptor sock listens =>
        obtain ⟨lives, _⟩ := Bool.and_eq_true_iff.mp allowed
        exact iff_of_true
          (single_acceptor well law (of_decide_eq_true lives) listens) rfl
    | buildServer sock listens =>
        obtain ⟨lives, answers⟩ := Bool.and_eq_true_iff.mp allowed
        apply buildServer_iff well law (of_decide_eq_true lives)
        rintro rfl
        exact answers
    | buildServerFresh number listens =>
        exact buildServerFresh_iff well law allowed listens
    | acceptNow acceptor number =>
        obtain ⟨_, free⟩ := Bool.and_eq_true_iff.mp allowed
        exact iff_of_true (single_acceptNow well law acceptor free) rfl
    | connectingNow sock =>
        obtain ⟨lives, held⟩ := Bool.and_eq_true_iff.mp allowed
        obtain ⟨descriptor, field⟩ := Option.isSome_iff_exists.mp held
        have copied := copyConstruct_iff well law .connection
          (of_decide_eq_true lives) (by simp) (by simp)
        rw [field] at copied
        apply iff_of_false _ (by simp [careful])
        intro lawNext
        simp only [perform, connectingNow, field] at lawNext
        cases copied.mp lawNext

private theorem singleOwnership_initial : SingleOwnership initial := by
  constructor <;> simp [initial]

/-- In every run of constructions, moves, assignments, swaps, explicit
closings, hand-overs and destructions: all states have single ownership exactly
if every step is careful. -/
theorem singleOwnership_iff_careful {actions : List Action}
    (run : runFrom step initial actions = some s) :
    Throughout step SingleOwnership initial actions ↔
      Meets step (fun s action => s.careful action = true) initial
        actions := by
  apply throughout_iff_meets_of_run WellNumbered SingleOwnership _
    (fun well (_ : True) taken => well.step taken)
    (fun well _ taken law => step_iff_careful well law taken)
    WellNumbered.initial singleOwnership_initial _ run
  exact meets_of_forall_mem fun _ _ _ => trivial

/-- Hand-overs between the types that do them carefully; the number of the
accepted connection is given out again after it was closed. -/
theorem singleOwnership_iff_careful_sample :
    (runFrom step initial
        [.construct .makeSocket (some 3), .acceptor 0 true, .destroy 0,
          .acceptNow 1 (some 4), .moveConstruct 2, .moveAssign 2 3,
          .closeFd 2, .construct .fdo (some 4), .moveConstruct 4,
          .swap 5 4, .destroy 5, .destroy 4, .destroy 1]).isSome = true ∧
      Throughout step SingleOwnership initial
        [.construct .makeSocket (some 3), .acceptor 0 true, .destroy 0,
          .acceptNow 1 (some 4), .moveConstruct 2, .moveAssign 2 3,
          .closeFd 2, .construct .fdo (some 4), .moveConstruct 4,
          .swap 5 4, .destroy 5, .destroy 4, .destroy 1] := by
  have computed : (runFrom step initial
      [.construct .makeSocket (some 3), .acceptor 0 true, .destroy 0,
        .acceptNow 1 (some 4), .moveConstruct 2, .moveAssign 2 3,
        .closeFd 2, .construct .fdo (some 4), .moveConstruct 4,
        .swap 5 4, .destroy 5, .destroy 4, .destroy 1]).isSome = true := by
    decide +kernel
  obtain ⟨s, run⟩ := Option.isSome_iff_exists.mp computed
  refine ⟨computed, ?_⟩
  exact (singleOwnership_iff_careful run).mpr (by decide +kernel)

/-- `ConnectingNow` leaves the socket in its `MakeSocket`.  The connection is
closed and its number given to another one, which the destructor of the
`MakeSocket` then closes. -/
theorem singleOwnership_counterexample :
    ∃ s, runFrom step initial
        [.construct .makeSocket (some 5), .connectingNow 0, .destroy 1,
          .construct .connection (some 5), .destroy 0] = some s ∧
      s.closes = [⟨5, 0⟩, ⟨5, 0⟩] ∧ s.fd 2 = some ⟨5, 1⟩ ∧
      s.table 5 = none ∧ ¬SingleOwnership s := by
  have computed : (runFrom step initial
      [.construct .makeSocket (some 5), .connectingNow 0, .destroy 1,
        .construct .connection (some 5), .destroy 0]).any (fun s =>
          decide (s.closes = [⟨5, 0⟩, ⟨5, 0⟩]) &&
            decide (s.fd 2 = some ⟨5, 1⟩) && decide (s.table 5 = none)) =
        true := by
    decide +kernel
  obtain ⟨s, run, passed⟩ := (Option.any_eq_true _ _).mp computed
  simp only [Bool.and_eq_true, decide_eq_true_eq] at passed
  obtain ⟨⟨closes, field⟩, table⟩ := passed
  refine ⟨s, run, closes, field, table, ?_⟩
  intro law
  have distinct := law.once
  rw [closes] at distinct
  simp at distinct

end AsyncFrame.Owners
