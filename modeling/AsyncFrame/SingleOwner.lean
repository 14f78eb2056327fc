import AsyncFrame.OwnerNumbering

/-!
# Single ownership of descriptors

Which steps of a program with the owning types keep every descriptor with one
owner.  What the objects hold is an instance of a table's custody; an object
that has called `fdo::close_fd` on its descriptor holds nothing any more.
-/

namespace AsyncFrame.Owners

open Lib

variable {s next : Owners} {this other lhs rhs : Nat}

/-! ## The law -/

/-- `fdo::close_fd` was called on the object and left its descriptor there. -/
def explicitlyClosed (s : Owners) (this : Nat) : Bool :=
  (s.fd this).isSome && s.spent this = s.fd this

/-- No descriptor is passed to `close` twice, no two objects hold the same open
one, and what an object holds is open, unless the object itself was explicitly
closed: its number still stands for the descriptor that was given. -/
structure SingleOwnership (s : Owners) : Prop where
  defined : s.undefined = false
  once : s.closes.Nodup
  single : ∀ this other descriptor, s.fd this = some descriptor →
    s.fd other = some descriptor →
      s.table descriptor.number = some descriptor.serial → this = other
  live : ∀ this descriptor, s.fd this = some descriptor →
    s.explicitlyClosed this = false →
      descriptor ∉ s.closes ∧
        s.table descriptor.number = some descriptor.serial

/-- The condition: an `fdo` that was explicitly closed is not closed, moved
from, swapped or destroyed afterwards; an `Epoll_Manager` is neither moved from
nor assigned; a descriptor in a `MakeSocket`, an `Acceptor` or a `BuildServer`
is not copied, and one in a `MakeSocket` not swapped away; no `BuildServer` is
built, and `ConnectingNow` does not return. -/
def careful (s : Owners) : Action → Bool
  | .construct _ _ => true
  | .moveConstruct other =>
      match s.kind other with
      | some .fdo => !s.explicitlyClosed other
      | some .connection => true
      | _ => s.fd other = none
  | .moveAssign this other =>
      this = other ||
        match s.kind this with
        | some .fdo =>
            !s.explicitlyClosed this && !s.explicitlyClosed other
        | some .epollManager => false
        | some .connection => true
        | _ => s.fd other = none
  | .swap lhs rhs =>
      match s.kind lhs with
      | some .connection => true
      | some .makeSocket => s.fd lhs = none
      | some .buildServer => true
      | _ =>
          lhs = rhs ||
            !s.explicitlyClosed lhs && !s.explicitlyClosed rhs
  | .closeFd this => !s.explicitlyClosed this
  | .destroy this => !s.explicitlyClosed this
  | .acceptor _ _ => true
  | .buildServer sock _ => s.fd sock = none
  | .buildServerFresh number listens => number = none || !listens
  | .acceptNow _ _ => true
  | .connectingNow _ => false

/-! ## What the objects hold -/

/-- An object that was explicitly closed holds nothing. -/
def held (s : Owners) (this : Nat) : Option Descriptor :=
  if s.spent this = s.fd this then none else s.fd this

def custody (s : Owners) : Custody Nat Fd where
  table := s.table
  nextSerial := s.nextSerial
  holds := s.held
  returned := s.closes

private theorem held_of_kept (kept : s.explicitlyClosed this = false) :
    s.held this = s.fd this := by
  unfold held explicitlyClosed at *
  cases field : s.fd this with
  | none => split <;> rfl
  | some descriptor =>
      rw [field] at kept
      simp only [Option.isSome_some, Bool.true_and,
        decide_eq_false_iff_not] at kept
      rw [if_neg kept]

private theorem fd_of_held {descriptor : Descriptor}
    (holds : s.held this = some descriptor) :
    s.fd this = some descriptor ∧ s.explicitlyClosed this = false := by
  unfold held explicitlyClosed at *
  split at holds
  · cases holds
  · rename_i unspent
    exact ⟨holds, by simp [unspent]⟩

/-- Numbers in order, the law says that the custody is exclusive. -/
theorem singleOwnership_iff (well : WellNumbered s) :
    SingleOwnership s ↔ s.undefined = false ∧ s.custody.Exclusive := by
  constructor
  · intro law
    refine ⟨law.defined, law.once, ?_, ?_, well.closed, well.numbered⟩
    · intro this other descriptor first second
      obtain ⟨field, kept⟩ := fd_of_held first
      exact law.single this other descriptor field (fd_of_held second).1
        (law.live this descriptor field kept).2
    · intro this descriptor holds
      obtain ⟨field, kept⟩ := fd_of_held holds
      exact (law.live this descriptor field kept).2
  · rintro ⟨defined, exclusive⟩
    have kept : ∀ this descriptor, s.fd this = some descriptor →
        s.table descriptor.number = some descriptor.serial →
          s.held this = some descriptor := by
      intro this descriptor field current
      rw [held_of_kept, field]
      apply Bool.eq_false_iff.mpr
      intro explicit
      simp only [explicitlyClosed, Bool.and_eq_true, decide_eq_true_eq]
        at explicit
      obtain ⟨member, _⟩ :=
        well.spent this descriptor (explicit.2.trans field)
      exact (well.closed descriptor member).2 current
    refine ⟨defined, exclusive.once, ?_, ?_⟩
    · intro this other descriptor first second current
      exact exclusive.single this other descriptor
        (kept this descriptor first current)
        (kept other descriptor second current)
    · intro this descriptor field kept'
      have holds : s.custody.holds this = some descriptor :=
        (held_of_kept kept').trans field
      exact ⟨exclusive.not_returned holds,
        exclusive.current this descriptor holds⟩

/-! ## What the functions do to the custody -/

private theorem unspent (law : SingleOwnership s) (well : WellNumbered s)
    (kept : s.explicitlyClosed other = false) (this : Nat) :
    (if s.spent this = s.fd other then none else s.fd other) =
      s.fd other := by
  cases field : s.fd other with
  | none => split <;> rfl
  | some descriptor =>
      rw [if_neg]
      intro marked
      exact (law.live other descriptor field kept).1
        (well.spent this descriptor marked).1

/-- Only an `fdo`, or the one in an `Epoll_Manager`, can have been explicitly
closed. -/
theorem kept_of_kind (well : WellNumbered s) {kind : OwnerKind}
    (lives : s.kind this = some kind) (notFdo : kind ≠ .fdo)
    (notEpoll : kind ≠ .epollManager) :
    s.explicitlyClosed this = false := by
  apply Bool.eq_false_iff.mpr
  intro explicit
  simp only [explicitlyClosed, Bool.and_eq_true, decide_eq_true_eq]
    at explicit
  obtain ⟨descriptor, field⟩ := Option.isSome_iff_exists.mp explicit.1
  obtain ⟨_, kinds⟩ := well.spent this descriptor (explicit.2.trans field)
  rw [lives] at kinds
  rcases kinds with same | same
  · exact notFdo (Option.some.inj same)
  · exact notEpoll (Option.some.inj same)

private theorem held_write (fd : Option Descriptor) (third : Nat) :
    (s.write this fd).held third =
      if third = this then (if s.spent this = fd then none else fd)
      else s.held third := by
  by_cases same : third = this
  · subst same
    simp [held, write]
  · simp [held, write, same]

private theorem custody_create (well : WellNumbered s) (kind : OwnerKind)
    (fd : Option Descriptor) :
    (s.create kind fd).custody = s.custody.put s.nextObject fd := by
  obtain ⟨_, _, unmarked⟩ := well.fresh s.nextObject (le_refl _)
  have holds : (s.create kind fd).held =
      Function.update s.held s.nextObject fd := by
    funext third
    by_cases same : third = s.nextObject
    · subst same
      cases fd <;> simp [held, create, unmarked]
    · simp [held, create, same]
  simp only [custody, Custody.put, holds]
  rfl

theorem custody_forget (this : Nat) :
    (s.write this none).custody = s.custody.forget this := by
  have holds : (s.write this none).held =
      Function.update s.held this none := by
    funext third
    rw [held_write]
    by_cases same : third = this
    · simp [same]
    · simp [same]
  simp only [custody, Custody.forget, Custody.put, holds]
  rfl

theorem custody_erase (this : Nat) :
    (s.erase this).custody = s.custody.forget this := by
  have holds : (s.erase this).held = Function.update s.held this none := by
    funext third
    by_cases same : third = this
    · simp [held, erase, same]
    · simp [held, erase, same]
  simp only [custody, Custody.forget, Custody.put, holds]
  rfl

theorem custody_swapFields (law : SingleOwnership s) (well : WellNumbered s)
    (left : s.explicitlyClosed lhs = false)
    (right : s.explicitlyClosed rhs = false) :
    (s.swapFields lhs rhs).custody = s.custody.exchange lhs rhs := by
  have holds : (s.swapFields lhs rhs).held =
      fun third => s.held (Equiv.swap lhs rhs third) := by
    funext third
    have leftFree := unspent law well left rhs
    have rightFree := unspent law well right lhs
    rw [swapFields, held_write, held_write, Equiv.swap_apply_def]
    have spends : (s.write lhs (s.fd rhs)).spent rhs = s.spent rhs := rfl
    rw [spends, leftFree, rightFree, ← held_of_kept left,
      ← held_of_kept right]
    by_cases atRight : third = rhs
    · by_cases same : rhs = lhs
      · simp [atRight, same]
      · simp [atRight, same]
    · by_cases atLeft : third = lhs
      · subst atLeft
        simp [atRight]
      · simp [atRight, atLeft]
  simp only [custody, Custody.exchange, holds]
  rfl

/-- A new object takes the descriptor over. -/
theorem custody_moveOn (well : WellNumbered s) (kind : OwnerKind)
    (below : other < s.nextObject)
    (kept : s.explicitlyClosed other = false) :
    ((s.create kind (s.fd other)).write other none).custody =
      s.custody.exchange other s.nextObject := by
  have empty : s.held s.nextObject = none := by
    obtain ⟨_, field, unmarked⟩ := well.fresh s.nextObject (le_refl _)
    simp [held, field, unmarked]
  rw [custody_forget, custody_create well]
  have different : s.nextObject ≠ other := by omega
  have holds : (Function.update (Function.update s.held s.nextObject
      (s.fd other)) other none) =
        fun third => s.held (Equiv.swap other s.nextObject third) := by
    funext third
    rw [Equiv.swap_apply_def, ← held_of_kept kept]
    by_cases atOther : third = other
    · simp [atOther, empty]
    · by_cases atNew : third = s.nextObject
      · simp [atNew, different]
      · simp [atOther, atNew]
  simp only [custody, Custody.forget, Custody.put, Custody.exchange, holds]

/-- To close and to let go is to give back. -/
theorem custody_close (kept : s.explicitlyClosed this = false) :
    (s.close (s.fd this)).custody.forget this =
      s.custody.release this := by
  have field := held_of_kept kept
  simp only [Custody.release, custody, field]
  cases fd : s.fd this with
  | none =>
      have same : Function.update s.held this none = s.held := by
        rw [← fd, ← field]
        exact Function.update_eq_self this _
      simp only [Custody.forget, Custody.put, close, same]
  | some descriptor => rfl

theorem custody_grantCreate (well : WellNumbered s) (kind : OwnerKind)
    (number : Fd) :
    ((s.grant (some number)).1.create kind
      (s.grant (some number)).2).custody =
        s.custody.handOut s.nextObject number := by
  rw [custody_create (well.grant (some number)).1]
  rfl

theorem custody_create_none (well : WellNumbered s) (kind : OwnerKind) :
    (s.create kind none).custody = s.custody := by
  obtain ⟨_, field, unmarked⟩ := well.fresh s.nextObject (le_refl _)
  rw [custody_create well, Custody.put]
  have same : Function.update s.held s.nextObject none = s.held := by
    apply Function.update_eq_iff.mpr
    simp [held, field, unmarked]
  simp only [custody, same]

theorem custody_fdoCloseFd (kept : s.explicitlyClosed this = false) :
    (Fdo.closeFd s this).custody = s.custody.release this := by
  rw [← custody_close kept]
  unfold Fdo.closeFd
  cases field : s.fd this with
  | none =>
      have same : Function.update s.held this none = s.held := by
        rw [← field, ← held_of_kept kept]
        exact Function.update_eq_self this _
      simp only [custody, Custody.forget, Custody.put, close, same]
  | some descriptor =>
      have holds : Owners.held
          { s.close (some descriptor) with
            spent := Function.update s.spent this (some descriptor) } =
          Function.update s.held this none := by
        funext third
        by_cases same : third = this
        · subst same
          simp [held, close, field]
        · simp [held, close, same]
      simp only [custody, Custody.forget, Custody.put, holds]
      rfl

/-- `Connection::close_fd` and `Acceptor::close_fd` do the same. -/
theorem connectionCloseFd_eq (s : Owners) (this : Nat) :
    Connection.closeFd s this = Acceptor.closeFd s this := by
  unfold Connection.closeFd Acceptor.closeFd
  cases field : s.fd this with
  | none =>
      have same : Function.update s.fd this none = s.fd := by
        rw [← field]
        exact Function.update_eq_self this _
      simp only [close, write, same]
  | some descriptor => rfl

theorem custody_acceptorCloseFd (kept : s.explicitlyClosed this = false) :
    (Acceptor.closeFd s this).custody = s.custody.release this := by
  rw [← custody_close kept, Acceptor.closeFd, custody_forget]

theorem custody_makeSocketDestroy
    (kept : s.explicitlyClosed this = false) :
    (MakeSocket.destroy s this).custody = s.custody.release this := by
  rw [← custody_close kept, MakeSocket.destroy, custody_erase]

/-! ## Swaps through a temporary -/

/-- Nothing is known of the object that is created next. -/
theorem update_fresh (well : WellNumbered s) :
    s.fd s.nextObject = none ∧
      Function.update s.kind s.nextObject none = s.kind ∧
      Function.update s.spent s.nextObject none = s.spent := by
  obtain ⟨dead, empty, unmarked⟩ := well.fresh s.nextObject (le_refl _)
  refine ⟨empty, ?_, ?_⟩
  · rw [← dead]
    exact Function.update_eq_self _ _
  · rw [← unmarked]
    exact Function.update_eq_self _ _

/-- `std::swap` of two `fdo` exchanges their fields. -/
theorem fdoSwap_eq (well : WellNumbered s) (left : lhs < s.nextObject)
    (right : rhs < s.nextObject) :
    Fdo.swap s lhs rhs =
      { s.swapFields lhs rhs with nextObject := s.nextObject + 1 } := by
  have leftNew : lhs ≠ s.nextObject := by omega
  have rightNew : rhs ≠ s.nextObject := by omega
  obtain ⟨empty, kinds, marks⟩ := update_fresh well
  have drained : (Fdo.moveAssign (Fdo.moveAssign (Fdo.moveConstruct s lhs)
      lhs rhs) rhs s.nextObject).fd s.nextObject = none := by
    by_cases same : rhs = lhs
    · subst same
      simp [Fdo.moveAssign, Fdo.moveConstruct, swapFields, write, create,
        Function.update_of_ne rightNew.symm]
    · simp [Fdo.moveAssign, Fdo.moveConstruct, swapFields, write, create,
        Function.update_of_ne rightNew.symm, same]
  have fields : Function.update (Fdo.moveAssign (Fdo.moveAssign
      (Fdo.moveConstruct s lhs) lhs rhs) rhs s.nextObject).fd s.nextObject
        none = (s.swapFields lhs rhs).fd := by
    funext third
    simp only [Fdo.moveAssign, Fdo.moveConstruct, swapFields, write, create,
      Function.update_apply]
    grind
  simp only [Fdo.swap, stdSwap, Fdo.destroy, Fdo.closeFd, drained, erase,
    fields]
  simp only [Fdo.moveAssign, Fdo.moveConstruct, swapFields, write, create,
    Function.update_idem, kinds, marks]

/-- `std::swap` through a copy: the fields are exchanged, and the temporary is
destroyed with a copy of the left one. -/
theorem copySwap_erase (well : WellNumbered s) (kind : OwnerKind)
    (left : lhs < s.nextObject) (right : rhs < s.nextObject)
    {copied : Owners}
    (same : copied = ((s.create kind (s.fd lhs)).write lhs
      ((s.create kind (s.fd lhs)).fd rhs)).write rhs
        (((s.create kind (s.fd lhs)).write lhs
          ((s.create kind (s.fd lhs)).fd rhs)).fd s.nextObject)) :
    copied.fd s.nextObject = s.fd lhs ∧
      copied.erase s.nextObject =
        { s.swapFields lhs rhs with nextObject := s.nextObject + 1 } := by
  have leftNew : lhs ≠ s.nextObject := by omega
  have rightNew : rhs ≠ s.nextObject := by omega
  obtain ⟨empty, kinds, marks⟩ := update_fresh well
  subst same
  constructor
  · simp [write, create, Function.update_of_ne leftNew.symm,
      Function.update_of_ne rightNew.symm]
  · have fields : Function.update
        (((s.create kind (s.fd lhs)).write lhs
          ((s.create kind (s.fd lhs)).fd rhs)).write rhs
            (((s.create kind (s.fd lhs)).write lhs
              ((s.create kind (s.fd lhs)).fd rhs)).fd s.nextObject)).fd
        s.nextObject none = (s.swapFields lhs rhs).fd := by
      funext third
      simp only [swapFields, write, create, Function.update_apply]
      grind
    simp only [erase, fields]
    simp only [swapFields, write, create, Function.update_idem, kinds, marks]

theorem buildServerSwap_eq (well : WellNumbered s)
    (left : lhs < s.nextObject) (right : rhs < s.nextObject) :
    BuildServer.swap s lhs rhs =
      { s.swapFields lhs rhs with nextObject := s.nextObject + 1 } :=
  (copySwap_erase well .buildServer left right rfl).2

/-- The temporary closes the descriptor that goes to the right. -/
theorem makeSocketSwap_eq (well : WellNumbered s)
    (left : lhs < s.nextObject) (right : rhs < s.nextObject) :
    MakeSocket.swap s lhs rhs =
      Owners.close
        { s.swapFields lhs rhs with nextObject := s.nextObject + 1 }
        (s.fd lhs) := by
  obtain ⟨field, erased⟩ := copySwap_erase well .makeSocket left right rfl
  rw [← erased]
  simp only [MakeSocket.swap, stdSwap, MakeSocket.copyConstruct,
    MakeSocket.copyAssign, MakeSocket.destroy]
  rw [field]
  cases s.fd lhs <;> rfl

end AsyncFrame.Owners
