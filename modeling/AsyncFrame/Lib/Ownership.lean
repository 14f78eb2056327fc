import Mathlib.Data.List.Nodup
import Mathlib.Logic.Equiv.Basic

/-!
# Who holds what a table has handed out

A table hands out numbers and takes them back; a number that was taken back may
be handed out again.  Each time it is handed out under a new serial number, and
number and serial together are a ticket.  Owners hold tickets, pass them on and
give them back.
-/

namespace AsyncFrame.Lib

universe u v

/-- A number as it was handed out once. -/
structure Ticket (Number : Type v) where
  number : Number
  serial : Nat
  deriving DecidableEq, Repr

/-- The table, the tickets held, and those that were given back, newest
first. -/
structure Custody (Owner : Type u) (Number : Type v) where
  table : Number → Option Nat
  nextSerial : Nat
  holds : Owner → Option (Ticket Number)
  returned : List (Ticket Number)

namespace Custody

variable {Owner : Type u} {Number : Type v}

/-- The table has the number out under this ticket. -/
def Current (custody : Custody Owner Number) (ticket : Ticket Number) :
    Prop :=
  custody.table ticket.number = some ticket.serial

/-- Every ticket held is current and held once, and every ticket is given back
at most once. -/
structure Exclusive (custody : Custody Owner Number) : Prop where
  once : custody.returned.Nodup
  single : ∀ owner other ticket, custody.holds owner = some ticket →
    custody.holds other = some ticket → owner = other
  current : ∀ owner ticket, custody.holds owner = some ticket →
    custody.Current ticket
  spent : ∀ ticket ∈ custody.returned,
    ticket.serial < custody.nextSerial ∧ ¬custody.Current ticket
  numbered : ∀ number serial, custody.table number = some serial →
    serial < custody.nextSerial

variable {custody : Custody Owner Number}

theorem Exclusive.not_returned (exclusive : Exclusive custody)
    {owner : Owner} {ticket : Ticket Number}
    (held : custody.holds owner = some ticket) :
    ticket ∉ custody.returned :=
  fun given => (exclusive.spent ticket given).2
    (exclusive.current owner ticket held)

variable [DecidableEq Owner]

/-- An owner's ticket is replaced, or dropped. -/
def put (custody : Custody Owner Number) (owner : Owner)
    (ticket : Option (Ticket Number)) : Custody Owner Number :=
  { custody with holds := Function.update custody.holds owner ticket }

/-- An owner drops its ticket without giving it back. -/
def forget (custody : Custody Owner Number) (owner : Owner) :
    Custody Owner Number :=
  custody.put owner none

/-- Two owners exchange what they hold. -/
def exchange (custody : Custody Owner Number) (owner other : Owner) :
    Custody Owner Number :=
  { custody with
    holds := fun third => custody.holds (Equiv.swap owner other third) }

theorem Exclusive.forget (exclusive : Exclusive custody) (owner : Owner) :
    Exclusive (custody.forget owner) := by
  have kept : ∀ {third ticket},
      (custody.forget owner).holds third = some ticket →
        custody.holds third = some ticket := by
    intro third ticket held
    by_cases same : third = owner
    · subst same
      simp [Custody.forget, put] at held
    · simpa [Custody.forget, put, Function.update_of_ne same] using held
  constructor
  · exact exclusive.once
  · intro third fourth ticket first second
    exact exclusive.single third fourth ticket (kept first) (kept second)
  · intro third ticket held
    exact exclusive.current third ticket (kept held)
  · exact exclusive.spent
  · exact exclusive.numbered

theorem Exclusive.exchange (exclusive : Exclusive custody)
    (owner other : Owner) : Exclusive (custody.exchange owner other) := by
  constructor
  · exact exclusive.once
  · intro third fourth ticket first second
    apply (Equiv.swap owner other).injective
    exact exclusive.single _ _ ticket first second
  · intro third ticket held
    exact exclusive.current _ ticket held
  · exact exclusive.spent
  · exact exclusive.numbered

variable [DecidableEq Number]

/-- The table hands out a number. -/
def handOut (custody : Custody Owner Number) (owner : Owner)
    (number : Number) : Custody Owner Number where
  table := Function.update custody.table number (some custody.nextSerial)
  nextSerial := custody.nextSerial + 1
  holds := Function.update custody.holds owner
    (some ⟨number, custody.nextSerial⟩)
  returned := custody.returned

/-- A ticket is given back; whatever the number is out under, it is out no
more. -/
def giveBack (custody : Custody Owner Number) (ticket : Ticket Number) :
    Custody Owner Number :=
  { custody with
    table := Function.update custody.table ticket.number none
    returned := ticket :: custody.returned }

/-- An owner gives back what it holds. -/
def release (custody : Custody Owner Number) (owner : Owner) :
    Custody Owner Number :=
  match custody.holds owner with
  | none => custody
  | some ticket => (custody.giveBack ticket).forget owner

theorem Exclusive.handOut (exclusive : Exclusive custody) (owner : Owner)
    {number : Number} (free : custody.table number = none) :
    Exclusive (custody.handOut owner number) := by
  have fresh : ∀ third, custody.holds third ≠
      some ⟨number, custody.nextSerial⟩ := by
    intro third held
    have current := exclusive.current third _ held
    rw [Current, free] at current
    cases current
  have kept : ∀ ticket, custody.Current ticket →
      (custody.handOut owner number).Current ticket := by
    intro ticket current
    have other : ticket.number ≠ number := by
      rintro rfl
      rw [Current, free] at current
      cases current
    simpa [Current, Custody.handOut, Function.update_of_ne other] using
      current
  constructor
  · exact exclusive.once
  · intro third fourth ticket first second
    simp only [Custody.handOut, Function.update_apply] at first second
    split at first <;> split at second
    · simp_all
    · cases first
      exact absurd second (fresh fourth)
    · cases second
      exact absurd first (fresh third)
    · exact exclusive.single third fourth ticket first second
  · intro third ticket held
    by_cases same : third = owner
    · subst same
      simp only [Custody.handOut, Function.update_self,
        Option.some.injEq] at held
      subst held
      simp [Current, Custody.handOut]
    · apply kept
      apply exclusive.current third
      simpa [Custody.handOut, Function.update_of_ne same] using held
  · intro ticket given
    obtain ⟨bound, stale⟩ := exclusive.spent ticket given
    refine ⟨Nat.lt_succ_of_lt bound, ?_⟩
    intro current
    by_cases same : ticket.number = number
    · simp only [Current, Custody.handOut, same, Function.update_self,
        Option.some.injEq] at current
      omega
    · apply stale
      simpa [Current, Custody.handOut, Function.update_of_ne same] using
        current
  · intro third serial out
    simp only [Custody.handOut, Function.update_apply] at out ⊢
    split at out
    · cases out
      exact Nat.lt_succ_self _
    · exact Nat.lt_succ_of_lt (exclusive.numbered third serial out)

theorem Exclusive.release (exclusive : Exclusive custody) (owner : Owner) :
    Exclusive (custody.release owner) := by
  unfold Custody.release
  cases held : custody.holds owner with
  | none => exact exclusive
  | some ticket =>
      have current := exclusive.current owner ticket held
      have kept : ∀ {third other},
          ((custody.giveBack ticket).forget owner).holds third =
            some other →
          third ≠ owner ∧ custody.holds third = some other := by
        intro third other here
        by_cases same : third = owner
        · subst same
          simp [Custody.forget, put] at here
        · refine ⟨same, ?_⟩
          simpa [Custody.forget, put, giveBack,
            Function.update_of_ne same] using here
      constructor
      · exact List.nodup_cons.mpr
          ⟨exclusive.not_returned held, exclusive.once⟩
      · intro third fourth other first second
        exact exclusive.single third fourth other (kept first).2
          (kept second).2
      · intro third other here
        obtain ⟨different, before⟩ := kept here
        have currentOther := exclusive.current third other before
        have apart : other.number ≠ ticket.number := by
          intro same
          apply different
          apply exclusive.single third owner other before
          rw [held]
          rw [Current, same, current] at currentOther
          obtain ⟨number, serial⟩ := ticket
          obtain ⟨otherNumber, otherSerial⟩ := other
          cases same
          cases currentOther
          rfl
        simpa [Current, Custody.forget, put, giveBack,
          Function.update_of_ne apart] using currentOther
      · intro other given
        rcases List.mem_cons.mp given with rfl | before
        · refine ⟨exclusive.numbered _ _ current, ?_⟩
          simp [Current, Custody.forget, put, giveBack]
        · obtain ⟨bound, stale⟩ := exclusive.spent other before
          refine ⟨bound, ?_⟩
          intro again
          apply stale
          simp only [Current, Custody.forget, put, giveBack,
            Function.update_apply] at again
          split at again
          · cases again
          · exact again
      · intro number serial out
        simp only [Custody.forget, put, giveBack,
          Function.update_apply] at out
        split at out
        · cases out
        · exact exclusive.numbered number serial out

end Custody

end AsyncFrame.Lib
