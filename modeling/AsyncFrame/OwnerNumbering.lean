import AsyncFrame.DescriptorOwners

/-!
# Numbers of descriptors and of objects

What every step of a program with the owning types keeps, whether or not it
leaves each descriptor with one owner.
-/

namespace AsyncFrame.Owners

variable {s : Owners} {this other lhs rhs : Nat}

/-- Serial numbers and object numbers are not used
twice, what was passed to `close` is not open, and two calls of
`fdo::close_fd` on one descriptor pass it twice. -/
structure WellNumbered (s : Owners) : Prop where
  closed : ∀ descriptor ∈ s.closes, descriptor.serial < s.nextSerial ∧
    s.table descriptor.number ≠ some descriptor.serial
  numbered : ∀ number serial, s.table number = some serial →
    serial < s.nextSerial
  given : ∀ this descriptor, s.fd this = some descriptor →
    descriptor.serial < s.nextSerial
  spent : ∀ this descriptor, s.spent this = some descriptor →
    descriptor ∈ s.closes ∧
      (s.kind this = some .fdo ∨ s.kind this = some .epollManager)
  marked : s.closes.Nodup → ∀ this other descriptor,
    s.spent this = some descriptor → s.spent other = some descriptor →
      this = other
  fresh : ∀ this, s.nextObject ≤ this →
    s.kind this = none ∧ s.fd this = none ∧ s.spent this = none

namespace WellNumbered

theorem alive (well : WellNumbered s) {kind : OwnerKind}
    (lives : s.kind this = some kind) : this < s.nextObject := by
  by_contra above
  rw [(well.fresh this (by omega)).1] at lives
  cases lives

theorem initial : WellNumbered Owners.initial := by
  constructor <;> simp [Owners.initial]

private theorem close (well : WellNumbered s) {fd : Option Descriptor}
    (given : ∀ descriptor, fd = some descriptor →
      descriptor.serial < s.nextSerial) : WellNumbered (s.close fd) := by
  cases fd with
  | none => exact well
  | some descriptor =>
      constructor
      · intro other member
        simp only [Owners.close, Function.update_apply]
        rcases List.mem_cons.mp member with rfl | before
        · exact ⟨given _ rfl, by simp⟩
        · obtain ⟨bound, apart⟩ := well.closed other before
          refine ⟨bound, ?_⟩
          split
          · simp
          · exact apart
      · intro number serial out
        simp only [Owners.close, Function.update_apply] at out
        split at out
        · cases out
        · exact well.numbered number serial out
      · exact well.given
      · intro this other marked
        obtain ⟨member, kind⟩ := well.spent this other marked
        exact ⟨List.mem_cons_of_mem _ member, kind⟩
      · intro distinct
        exact well.marked (List.nodup_cons.mp distinct).2
      · exact well.fresh

theorem grant (well : WellNumbered s) (number : Option Fd) :
    WellNumbered (s.grant number).1 ∧
      ∀ descriptor, (s.grant number).2 = some descriptor →
        descriptor.serial < (s.grant number).1.nextSerial := by
  cases number with
  | none => exact ⟨well, fun descriptor granted => by cases granted⟩
  | some number =>
      refine ⟨⟨?_, ?_, ?_, well.spent, well.marked, well.fresh⟩, ?_⟩
      · intro other member
        obtain ⟨bound, apart⟩ := well.closed other member
        refine ⟨Nat.lt_succ_of_lt bound, ?_⟩
        simp only [Owners.grant, Function.update_apply]
        split
        · intro same
          have equal := Option.some.inj same
          omega
        · exact apart
      · intro other serial out
        simp only [Owners.grant, Function.update_apply] at out ⊢
        split at out
        · cases out
          exact Nat.lt_succ_self _
        · exact Nat.lt_succ_of_lt (well.numbered other serial out)
      · intro this descriptor field
        exact Nat.lt_succ_of_lt (well.given this descriptor field)
      · rintro descriptor granted
        cases granted
        exact Nat.lt_succ_self _

theorem write (well : WellNumbered s) {fd : Option Descriptor}
    (below : this < s.nextObject)
    (given : ∀ descriptor, fd = some descriptor →
      descriptor.serial < s.nextSerial) : WellNumbered (s.write this fd) := by
  refine ⟨well.closed, well.numbered, ?_, well.spent, well.marked, ?_⟩
  · intro third descriptor field
    simp only [Owners.write, Function.update_apply] at field
    split at field
    · exact given descriptor field
    · exact well.given third descriptor field
  · intro third above
    obtain ⟨dead, empty, unmarked⟩ := well.fresh third above
    refine ⟨dead, ?_, unmarked⟩
    have different : third ≠ this := by
      rintro rfl
      exact absurd below (Nat.not_lt.mpr above)
    simpa [Owners.write, Function.update_of_ne different] using empty

theorem create (well : WellNumbered s) (kind : OwnerKind)
    {fd : Option Descriptor}
    (given : ∀ descriptor, fd = some descriptor →
      descriptor.serial < s.nextSerial) :
    WellNumbered (s.create kind fd) := by
  refine ⟨well.closed, well.numbered, ?_, ?_, well.marked, ?_⟩
  · intro third descriptor field
    simp only [Owners.create, Function.update_apply] at field
    split at field
    · exact given descriptor field
    · exact well.given third descriptor field
  · intro third descriptor marked
    have marked : s.spent third = some descriptor := marked
    obtain ⟨member, kinds⟩ := well.spent third descriptor marked
    refine ⟨member, ?_⟩
    have different : third ≠ s.nextObject := by
      rintro rfl
      rw [(well.fresh s.nextObject (le_refl _)).2.2] at marked
      cases marked
    simpa [Owners.create, Function.update_of_ne different] using kinds
  · intro third above
    have above : s.nextObject + 1 ≤ third := above
    have different : third ≠ s.nextObject := by omega
    simpa [Owners.create, Function.update_of_ne different] using
      well.fresh third (by omega)

theorem erase (well : WellNumbered s) (this : Nat) :
    WellNumbered (s.erase this) := by
  have kept : ∀ {third descriptor},
      (s.erase this).spent third = some descriptor →
        s.spent third = some descriptor := by
    intro third descriptor marked
    simp only [Owners.erase, Function.update_apply] at marked
    split at marked
    · cases marked
    · exact marked
  refine ⟨well.closed, well.numbered, ?_, ?_, ?_, ?_⟩
  · intro third descriptor field
    simp only [Owners.erase, Function.update_apply] at field
    split at field
    · cases field
    · exact well.given third descriptor field
  · intro third descriptor marked
    simp only [Owners.erase, Function.update_apply] at marked ⊢
    split at marked
    · cases marked
    · rename_i different
      rw [if_neg different]
      exact well.spent third descriptor marked
  · intro distinct third fourth descriptor first second
    exact well.marked distinct third fourth descriptor (kept first)
      (kept second)
  · intro third above
    obtain ⟨dead, empty, unmarked⟩ := well.fresh third above
    simp [Owners.erase, Function.update_apply, dead, empty, unmarked]

theorem swapFields (well : WellNumbered s) (left : lhs < s.nextObject)
    (right : rhs < s.nextObject) : WellNumbered (s.swapFields lhs rhs) := by
  apply WellNumbered.write
  · exact well.write left (well.given rhs)
  · exact right
  · exact well.given lhs

/-- The descriptor goes on to a new object. -/
theorem moveOn (well : WellNumbered s) (kind : OwnerKind)
    (below : other < s.nextObject) :
    WellNumbered ((s.create kind (s.fd other)).write other none) := by
  apply (well.create kind (well.given other)).write
  · exact Nat.lt_succ_of_lt below
  · rintro descriptor ⟨⟩

theorem grantCreate (well : WellNumbered s) (kind : OwnerKind)
    (number : Option Fd) :
    WellNumbered ((s.grant number).1.create kind (s.grant number).2) := by
  obtain ⟨granted, bound⟩ := well.grant number
  exact granted.create kind bound

theorem fdoCloseFd (well : WellNumbered s)
    (kinds : s.kind this = some .fdo ∨ s.kind this = some .epollManager) :
    WellNumbered (Fdo.closeFd s this) := by
  unfold Fdo.closeFd
  cases field : s.fd this with
  | none => exact well
  | some descriptor =>
      have closed : WellNumbered (s.close (some descriptor)) := by
        apply well.close
        rintro other ⟨⟩
        exact well.given this descriptor field
      have below : this < s.nextObject := by
        rcases kinds with lives | lives <;> exact well.alive lives
      have unmarked : (descriptor :: s.closes).Nodup → ∀ third,
          s.spent third ≠ some descriptor := by
        intro distinct third before
        exact (List.nodup_cons.mp distinct).1
          (well.spent third descriptor before).1
      refine ⟨closed.closed, closed.numbered, closed.given, ?_, ?_, ?_⟩
      · intro third other marked
        simp only [Function.update_apply] at marked
        split at marked
        · rename_i same
          cases marked
          rw [same]
          exact ⟨List.mem_cons_self, kinds⟩
        · exact closed.spent third other marked
      · intro distinct third fourth other first second
        simp only [Function.update_apply] at first second
        split at first <;> split at second
        · rename_i atThird atFourth
          rw [atThird, atFourth]
        · cases first
          exact absurd second (unmarked distinct fourth)
        · cases second
          exact absurd first (unmarked distinct third)
        · exact closed.marked distinct third fourth other first second
      · intro third above
        have different : third ≠ this := by
          rintro rfl
          exact absurd below (Nat.not_lt.mpr above)
        obtain ⟨dead, empty, unmarked⟩ := closed.fresh third above
        exact ⟨dead, empty,
          (Function.update_of_ne different _ _).trans unmarked⟩

private theorem fdoSwap (well : WellNumbered s) (left : lhs < s.nextObject)
    (right : rhs < s.nextObject) : WellNumbered (Fdo.swap s lhs rhs) := by
  have temporary := well.moveOn .fdo left
  have assigned := temporary.swapFields (Nat.lt_succ_of_lt right)
    (Nat.lt_succ_of_lt left)
  have swapped := assigned.swapFields (Nat.lt_succ_self _)
    (Nat.lt_succ_of_lt right)
  apply (swapped.fdoCloseFd (Or.inl _)).erase
  simp [Owners.swapFields, Owners.write, Owners.create]

/-- The close of an owner that forgets its descriptor. -/
theorem closeOwn (well : WellNumbered s) (below : this < s.nextObject) :
    WellNumbered ((s.close (s.fd this)).write this none) := by
  apply (well.close (well.given this)).write
  · cases s.fd this <;> exact below
  · rintro descriptor ⟨⟩

theorem connectionCloseFd (well : WellNumbered s)
    (below : this < s.nextObject) :
    WellNumbered (Connection.closeFd s this) := by
  unfold Connection.closeFd
  cases field : s.fd this with
  | none => exact well
  | some descriptor =>
      have closed := well.closeOwn below
      rw [field] at closed
      exact closed

/-- A copy of the field with implicit members, also within `std::swap`. -/
theorem copySwap (well : WellNumbered s) (kind : OwnerKind)
    (left : lhs < s.nextObject) (right : rhs < s.nextObject) :
    WellNumbered
      (((s.create kind (s.fd lhs)).write lhs
        ((s.create kind (s.fd lhs)).fd rhs)).write rhs
          (((s.create kind (s.fd lhs)).write lhs
            ((s.create kind (s.fd lhs)).fd rhs)).fd s.nextObject)) := by
  have temporary := well.create kind (well.given lhs)
  have assigned := temporary.write (Nat.lt_succ_of_lt left)
    (temporary.given rhs)
  exact assigned.write (Nat.lt_succ_of_lt right) (assigned.given _)

theorem makeSocketDestroy (well : WellNumbered s) (this : Nat) :
    WellNumbered (MakeSocket.destroy s this) :=
  (well.close (well.given this)).erase this

private theorem buildServer (well : WellNumbered s) (parameter : Nat)
    (listens : Bool) :
    WellNumbered (BuildServer.construct s parameter listens) := by
  unfold BuildServer.construct
  cases listens with
  | false => exact well.makeSocketDestroy parameter
  | true =>
      exact (well.create .buildServer
        (well.given parameter)).makeSocketDestroy parameter

private theorem construct (well : WellNumbered s) (kind : OwnerKind)
    (number : Option Fd) :
    WellNumbered (s.perform (.construct kind number)) := by
  have created := fun kind => well.grantCreate kind number
  cases kind with
  | epollManager =>
      simp only [Owners.perform, EpollManager.construct]
      cases number with
      | none => exact well
      | some number => exact created .epollManager
  | makeSocket =>
      simp only [Owners.perform, MakeSocket.construct]
      cases number with
      | none => exact well
      | some number => exact created .makeSocket
  | fdo => exact created .fdo
  | connection => exact created .connection
  | acceptor => exact created .acceptor
  | buildServer => exact created .buildServer

private theorem moveConstruct (well : WellNumbered s)
    (allowed : s.enabled (.moveConstruct other) = true) :
    WellNumbered (s.perform (.moveConstruct other)) := by
  obtain ⟨kind, lives, _⟩ := (Option.any_eq_true _ _).mp allowed
  have below := well.alive lives
  simp only [Owners.perform, lives]
  cases kind with
  | fdo => exact well.moveOn .fdo below
  | epollManager =>
      apply (well.create .epollManager (well.given other)).fdoCloseFd
      right
      have different : other ≠ s.nextObject := by omega
      simpa [Owners.create, Function.update_of_ne different] using lives
  | connection => exact well.moveOn .connection below
  | makeSocket => exact well.create .makeSocket (well.given other)
  | acceptor => exact well
  | buildServer => exact well.create .buildServer (well.given other)

private theorem moveAssign (well : WellNumbered s)
    (allowed : s.enabled (.moveAssign this other) = true) :
    WellNumbered (s.perform (.moveAssign this other)) := by
  simp only [Owners.enabled, Bool.and_eq_true, decide_eq_true_eq] at allowed
  obtain ⟨kind, lives⟩ := Option.isSome_iff_exists.mp allowed.1
  have left := well.alive lives
  have right := well.alive (allowed.2.trans lives)
  have copied := well.write left (well.given other)
  simp only [Owners.perform, lives]
  cases kind with
  | fdo => exact well.swapFields right left
  | epollManager =>
      simp only [EpollManager.moveAssign]
      split
      · exact well
      · have swapped := well.fdoSwap left right
        exact ⟨swapped.closed, swapped.numbered, swapped.given,
          swapped.spent, swapped.marked, swapped.fresh⟩
  | connection =>
      simp only [Connection.moveAssign]
      split
      · exact well
      · have closed := well.connectionCloseFd left
        have same : (Connection.closeFd s this).nextObject =
            s.nextObject := by
          unfold Connection.closeFd
          split <;> rfl
        rw [← same] at left right
        apply (closed.write left (closed.given other)).write right
        rintro descriptor ⟨⟩
  | makeSocket => exact copied
  | acceptor => exact copied
  | buildServer => exact copied

private theorem swap (well : WellNumbered s)
    (allowed : s.enabled (.swap lhs rhs) = true) :
    WellNumbered (s.perform (.swap lhs rhs)) := by
  simp only [Owners.enabled, Bool.and_eq_true, decide_eq_true_eq] at allowed
  obtain ⟨kind, lives, _⟩ := (Option.any_eq_true _ _).mp allowed.1
  have left := well.alive lives
  have right := well.alive (allowed.2.trans lives)
  simp only [Owners.perform, lives]
  cases kind with
  | fdo => exact well.fdoSwap left right
  | epollManager => exact well.fdoSwap left right
  | connection => exact well.swapFields left right
  | makeSocket =>
      exact (well.copySwap .makeSocket left right).makeSocketDestroy _
  | acceptor => exact well
  | buildServer => exact (well.copySwap .buildServer left right).erase _

private theorem closeFd (well : WellNumbered s)
    (allowed : s.enabled (.closeFd this) = true) :
    WellNumbered (s.perform (.closeFd this)) := by
  simp only [Owners.enabled, Bool.or_eq_true, decide_eq_true_eq] at allowed
  rcases allowed with (lives | lives) | lives
  · simp only [Owners.perform, lives]
    exact well.fdoCloseFd (Or.inl lives)
  · simp only [Owners.perform, lives]
    exact well.connectionCloseFd (well.alive lives)
  · simp only [Owners.perform, lives]
    exact well.closeOwn (well.alive lives)

private theorem destroy (well : WellNumbered s)
    (allowed : s.enabled (.destroy this) = true) :
    WellNumbered (s.perform (.destroy this)) := by
  obtain ⟨kind, lives⟩ := Option.isSome_iff_exists.mp allowed
  have below := well.alive lives
  simp only [Owners.perform, lives]
  cases kind with
  | fdo => exact (well.fdoCloseFd (Or.inl lives)).erase this
  | epollManager => exact (well.fdoCloseFd (Or.inr lives)).erase this
  | connection => exact (well.connectionCloseFd below).erase this
  | makeSocket => exact well.makeSocketDestroy this
  | acceptor => exact (well.closeOwn below).erase this
  | buildServer => exact well.erase this

private theorem perform (well : WellNumbered s) {action : Action}
    (allowed : s.enabled action = true) :
    WellNumbered (s.perform action) := by
  cases action with
  | construct kind number => exact well.construct kind number
  | moveConstruct other => exact well.moveConstruct allowed
  | moveAssign this other => exact well.moveAssign allowed
  | swap lhs rhs => exact well.swap allowed
  | closeFd this => exact well.closeFd allowed
  | destroy this => exact well.destroy allowed
  | acceptor sock listens =>
      simp only [Owners.enabled, Bool.and_eq_true, decide_eq_true_eq]
        at allowed
      simp only [Owners.perform, Acceptor.construct]
      split
      · exact well.moveOn .acceptor (well.alive allowed.1)
      · exact well
  | buildServer sock listens =>
      exact (well.create .makeSocket (well.given sock)).buildServer _ _
  | buildServerFresh number listens =>
      simp only [Owners.perform, BuildServer.constructFresh]
      cases number with
      | none => exact well
      | some number =>
          exact (well.grantCreate .makeSocket (some number)).buildServer _ _
  | acceptNow acceptor number =>
      simp only [Owners.perform, Acceptor.acceptNow]
      cases number with
      | none => exact well
      | some number => exact well.grantCreate .connection (some number)
  | connectingNow sock => exact well.create .connection (well.given sock)

theorem step (well : WellNumbered s) {action : Action} {next : Owners}
    (taken : s.step action = some next) : WellNumbered next := by
  unfold Owners.step at taken
  split at taken
  · rename_i allowed
    cases taken
    exact well.perform allowed
  · cases taken

end WellNumbered

end AsyncFrame.Owners
