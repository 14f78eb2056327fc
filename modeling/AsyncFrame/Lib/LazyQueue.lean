import Mathlib.Data.Finmap
import Mathlib.Data.Finset.Insert
import Mathlib.Data.Finset.Erase
import Mathlib.Data.Multiset.Basic
import Mathlib.Data.Multiset.UnionInter
import Mathlib.Order.Defs.LinearOrder

/-!
# Eager and lazy removal from a queue of deadlines

The eager queue is a partial map from handles to deadlines: a cancelled handle
is gone at once.  The lazy queue keeps a cancelled entry where it is and
remembers the entry's stamp as a tombstone; a map from the active handles to
stamps says which entry a handle stands for.  The `Ledger` is the invariant
that ties the three together, and each operation of the lazy queue has one
lemma: what it does to the ledger and to the eager queue that the live entries
represent.
-/

namespace AsyncFrame.Lib

universe u v w

section FiniteMaps

variable {κ : Type u} {β : Type v} [DecidableEq κ]

theorem lookup_insert_eq_update (map : Finmap fun _ : κ => β)
    (key : κ) (value : β) :
    (fun other => (map.insert key value).lookup other) =
      Function.update (fun other => map.lookup other) key (some value) := by
  funext other
  by_cases same : other = key
  · subst same
    simp
  · simp [same, Finmap.lookup_insert_of_ne]

theorem lookup_erase_eq_update (map : Finmap fun _ : κ => β) (key : κ) :
    (fun other => (map.erase key).lookup other) =
      Function.update (fun other => map.lookup other) key none := by
  funext other
  by_cases same : other = key
  · subst same
    simp
  · simp [same, Finmap.lookup_erase_ne]

end FiniteMaps

section Eager

variable {κ : Type u} {τ : Type v} [DecidableEq κ] [LinearOrder τ]

/-- What a user of a queue of deadlines asks for. -/
inductive QueueLabel (κ : Type u) (τ : Type v) where
  | set (handle : κ) (deadline : τ)
  | cancel (handle : κ)
  | advance

/-- The queue that removes a cancelled handle at once.  `advance` takes out one
handle of least deadline and leaves open which. -/
inductive EagerStep : (κ → Option τ) → QueueLabel κ τ → (κ → Option τ) → Prop
  | set {queue : κ → Option τ} {handle : κ} (deadline : τ) :
      queue handle = none →
      EagerStep queue (.set handle deadline)
        (Function.update queue handle (some deadline))
  | cancel {queue : κ → Option τ} (handle : κ) :
      EagerStep queue (.cancel handle) (Function.update queue handle none)
  | advanceIdle {queue : κ → Option τ} :
      (∀ handle, queue handle = none) →
      EagerStep queue .advance queue
  | advance {queue : κ → Option τ} {handle : κ} {deadline : τ} :
      queue handle = some deadline →
      (∀ other later, queue other = some later → deadline ≤ later) →
      EagerStep queue .advance (Function.update queue handle none)

end Eager

/-- How an entry of a lazy queue is read. -/
structure EntryView (α : Type u) (κ : Type v) (τ : Type w) where
  handle : α → Option κ
  stamp : α → Nat
  deadline : α → τ

section Lazy

variable {α : Type u} {κ : Type v} {τ : Type w}
variable (view : EntryView α κ τ)

/-- The entries, the map of the active handles, the tombstones and the next
stamp agree with each other. -/
structure Ledger (entries : Multiset α) (active : κ → Option Nat)
    (buried : Finset Nat) (next : Nat) : Prop where
  stampsNodup : (entries.map view.stamp).Nodup
  stampsRange : ∀ entry ∈ entries,
    0 < view.stamp entry ∧ view.stamp entry < next
  buriedPresent : ∀ stamp ∈ buried, stamp ∈ entries.map view.stamp
  activeExact : ∀ handle stamp,
    active handle = some stamp ↔
      ∃ entry ∈ entries, view.stamp entry ∉ buried ∧
        view.handle entry = some handle ∧ view.stamp entry = stamp

/-- The live entries are exactly the handles of the eager queue. -/
def Represents (entries : Multiset α) (buried : Finset Nat)
    (queue : κ → Option τ) : Prop :=
  ∀ handle deadline,
    queue handle = some deadline ↔
      ∃ entry ∈ entries, view.stamp entry ∉ buried ∧
        view.handle entry = some handle ∧ view.deadline entry = deadline

variable {view}
variable {entries : Multiset α} {active : κ → Option Nat}
variable {buried : Finset Nat} {next : Nat} {queue : κ → Option τ}

namespace Ledger

theorem empty (view : EntryView α κ τ) (next : Nat) :
    Ledger view (0 : Multiset α) (fun _ : κ => none) ∅ next where
  stampsNodup := by simp
  stampsRange := by simp
  buriedPresent := by simp
  activeExact := by simp

/-- A stamp names one entry. -/
theorem entry_unique (ledger : Ledger view entries active buried next)
    {left right : α} (leftMember : left ∈ entries)
    (rightMember : right ∈ entries)
    (same : view.stamp left = view.stamp right) : left = right :=
  Multiset.inj_on_of_nodup_map ledger.stampsNodup
    left leftMember right rightMember same

/-- The first entry's stamp is not the stamp of another entry. -/
theorem stamp_notMem_tail {entry : α}
    (ledger : Ledger view (entry ::ₘ entries) active buried next)
    {other : α} (member : other ∈ entries) :
    view.stamp other ≠ view.stamp entry := by
  intro same
  have parts := ledger.stampsNodup
  rw [Multiset.map_cons, Multiset.nodup_cons] at parts
  exact parts.1 (Multiset.mem_map.mpr ⟨other, member, same⟩)

/-- No entry is live under a handle that is not active. -/
theorem not_live_of_inactive
    (ledger : Ledger view entries active buried next) {handle : κ}
    (inactive : active handle = none) {entry : α} (member : entry ∈ entries)
    (live : view.stamp entry ∉ buried) :
    view.handle entry ≠ some handle := by
  intro named
  have found :=
    (ledger.activeExact handle _).mpr ⟨entry, member, live, named, rfl⟩
  rw [inactive] at found
  cases found

theorem active_of_live
    (ledger : Ledger view entries active buried next) {handle : κ}
    {entry : α} (member : entry ∈ entries)
    (live : view.stamp entry ∉ buried)
    (named : view.handle entry = some handle) :
    active handle = some (view.stamp entry) :=
  (ledger.activeExact handle _).mpr ⟨entry, member, live, named, rfl⟩

theorem nextStamp_notBuried
    (ledger : Ledger view entries active buried next) : next ∉ buried := by
  intro member
  obtain ⟨entry, inEntries, same⟩ :=
    Multiset.mem_map.mp (ledger.buriedPresent next member)
  have bound := (ledger.stampsRange entry inEntries).2
  omega

/-- The tombstones are the stamps of the buried entries. -/
theorem map_buried (ledger : Ledger view entries active buried next) :
    (entries.filter fun entry => view.stamp entry ∈ buried).map view.stamp =
      buried.val := by
  have nodup : ((entries.filter fun entry =>
      view.stamp entry ∈ buried).map view.stamp).Nodup :=
    Multiset.nodup_of_le
      (Multiset.map_le_map (Multiset.filter_le _ _)) ledger.stampsNodup
  refine (Multiset.Nodup.ext nodup buried.nodup).mpr fun stamp => ?_
  simp only [Multiset.mem_map, Multiset.mem_filter, Finset.mem_val]
  constructor
  · rintro ⟨entry, ⟨_, dead⟩, rfl⟩
    exact dead
  · intro dead
    obtain ⟨entry, member, rfl⟩ :=
      Multiset.mem_map.mp (ledger.buriedPresent stamp dead)
    exact ⟨entry, ⟨member, dead⟩, rfl⟩

/-- When every entry has a handle, no two live entries have the same one. -/
theorem handles_nodup (ledger : Ledger view entries active buried next)
    (named : ∀ entry ∈ entries, ∃ handle, view.handle entry = some handle) :
    ((entries.filter fun entry => view.stamp entry ∉ buried).map
      view.handle).Nodup := by
  refine Multiset.Nodup.map_on ?_ (Multiset.Nodup.filter _
    (Multiset.Nodup.of_map _ ledger.stampsNodup))
  intro left leftLive right rightLive same
  obtain ⟨leftMember, leftLive⟩ := Multiset.mem_filter.mp leftLive
  obtain ⟨rightMember, rightLive⟩ := Multiset.mem_filter.mp rightLive
  obtain ⟨handle, leftNamed⟩ := named left leftMember
  have leftActive := ledger.active_of_live leftMember leftLive leftNamed
  have rightActive := ledger.active_of_live rightMember rightLive
    (same.symm.trans leftNamed)
  rw [leftActive] at rightActive
  exact ledger.entry_unique leftMember rightMember
    (Option.some.inj rightActive)

/-- Take out an entry that was buried: its tombstone goes with it. -/
theorem dropBuried {entry : α}
    (ledger : Ledger view (entry ::ₘ entries) active buried next)
    (dead : view.stamp entry ∈ buried) :
    Ledger view entries active (buried.erase (view.stamp entry)) next where
  stampsNodup := by
    have parts := ledger.stampsNodup
    rw [Multiset.map_cons, Multiset.nodup_cons] at parts
    exact parts.2
  stampsRange := fun other member =>
    ledger.stampsRange other (Multiset.mem_cons_of_mem member)
  buriedPresent := by
    intro stamp member
    have parts := Finset.mem_erase.mp member
    have present := ledger.buriedPresent stamp parts.2
    rw [Multiset.map_cons] at present
    exact (Multiset.mem_cons.mp present).resolve_left parts.1
  activeExact := by
    intro handle stamp
    rw [ledger.activeExact]
    constructor
    · rintro ⟨found, member, live, rest⟩
      rcases Multiset.mem_cons.mp member with rfl | inEntries
      · exact absurd dead live
      · exact ⟨found, inEntries,
          fun still => live (Finset.mem_of_mem_erase still), rest⟩
    · rintro ⟨found, member, live, rest⟩
      refine ⟨found, Multiset.mem_cons_of_mem member, ?_, rest⟩
      intro still
      exact live (Finset.mem_erase.mpr
        ⟨ledger.stamp_notMem_tail member, still⟩)

variable [DecidableEq κ]

/-- Schedule an entry under a handle that is not active. -/
theorem schedule (ledger : Ledger view entries active buried next)
    (entry : α) {handle : κ} (named : view.handle entry = some handle)
    (stamped : view.stamp entry = next) (positive : 0 < next)
    (inactive : active handle = none) :
    Ledger view (entry ::ₘ entries)
      (Function.update active handle (some next)) buried (next + 1) where
  stampsNodup := by
    rw [Multiset.map_cons, Multiset.nodup_cons, stamped]
    refine ⟨?_, ledger.stampsNodup⟩
    intro taken
    obtain ⟨other, member, same⟩ := Multiset.mem_map.mp taken
    have bound := (ledger.stampsRange other member).2
    omega
  stampsRange := by
    intro other member
    rcases Multiset.mem_cons.mp member with rfl | inEntries
    · omega
    · have bound := ledger.stampsRange other inEntries
      omega
  buriedPresent := by
    intro stamp member
    rw [Multiset.map_cons]
    exact Multiset.mem_cons_of_mem (ledger.buriedPresent stamp member)
  activeExact := by
    intro other stamp
    by_cases same : other = handle
    · subst same
      rw [Function.update_self]
      constructor
      · rintro ⟨⟩
        exact ⟨entry, Multiset.mem_cons_self entry entries,
          stamped ▸ ledger.nextStamp_notBuried, named, stamped⟩
      · rintro ⟨found, member, live, foundNamed, rfl⟩
        rcases Multiset.mem_cons.mp member with rfl | inEntries
        · rw [stamped]
        · exact absurd foundNamed
            (ledger.not_live_of_inactive inactive inEntries live)
    · rw [Function.update_of_ne same, ledger.activeExact]
      constructor
      · rintro ⟨found, member, rest⟩
        exact ⟨found, Multiset.mem_cons_of_mem member, rest⟩
      · rintro ⟨found, member, live, foundNamed, stampEq⟩
        rcases Multiset.mem_cons.mp member with rfl | inEntries
        · rw [named] at foundNamed
          exact absurd (Option.some.inj foundNamed).symm same
        · exact ⟨found, inEntries, live, foundNamed, stampEq⟩

/-- Bury the entry that an active handle stands for. -/
theorem bury (ledger : Ledger view entries active buried next)
    {handle : κ} {stamp : Nat} (named : active handle = some stamp) :
    Ledger view entries (Function.update active handle none)
      (insert stamp buried) next where
  stampsNodup := ledger.stampsNodup
  stampsRange := ledger.stampsRange
  buriedPresent := by
    intro other member
    rcases Finset.mem_insert.mp member with rfl | older
    · obtain ⟨entry, inEntries, _, _, same⟩ :=
        (ledger.activeExact handle other).mp named
      exact Multiset.mem_map.mpr ⟨entry, inEntries, same⟩
    · exact ledger.buriedPresent other older
  activeExact := by
    obtain ⟨victim, victimMember, victimLive, victimNamed, victimStamp⟩ :=
      (ledger.activeExact handle stamp).mp named
    intro other found
    by_cases same : other = handle
    · subst same
      rw [Function.update_self]
      constructor
      · rintro ⟨⟩
      · rintro ⟨entry, member, live, entryNamed, rfl⟩
        rw [Finset.mem_insert, not_or] at live
        have again := ledger.active_of_live member live.2 entryNamed
        rw [named] at again
        exact absurd (Option.some.inj again).symm live.1
    · rw [Function.update_of_ne same, ledger.activeExact]
      constructor
      · rintro ⟨entry, member, live, entryNamed, rfl⟩
        refine ⟨entry, member, ?_, entryNamed, rfl⟩
        rw [Finset.mem_insert, not_or]
        refine ⟨fun taken => ?_, live⟩
        have sameEntry := ledger.entry_unique member victimMember
          (taken.trans victimStamp.symm)
        rw [sameEntry, victimNamed] at entryNamed
        exact same (Option.some.inj entryNamed).symm
      · rintro ⟨entry, member, live, rest⟩
        rw [Finset.mem_insert, not_or] at live
        exact ⟨entry, member, live.2, rest⟩

/-- Take out a live entry: its handle is no longer active. -/
theorem dropLive {entry : α} {handle : κ}
    (ledger : Ledger view (entry ::ₘ entries) active buried next)
    (live : view.stamp entry ∉ buried)
    (named : view.handle entry = some handle) :
    Ledger view entries (Function.update active handle none)
      buried next where
  stampsNodup := by
    have parts := ledger.stampsNodup
    rw [Multiset.map_cons, Multiset.nodup_cons] at parts
    exact parts.2
  stampsRange := fun other member =>
    ledger.stampsRange other (Multiset.mem_cons_of_mem member)
  buriedPresent := by
    intro stamp member
    have present := ledger.buriedPresent stamp member
    rw [Multiset.map_cons] at present
    refine (Multiset.mem_cons.mp present).resolve_left ?_
    rintro rfl
    exact live member
  activeExact := by
    have head := ledger.active_of_live (Multiset.mem_cons_self entry entries)
      live named
    intro other stamp
    by_cases same : other = handle
    · subst same
      rw [Function.update_self]
      constructor
      · rintro ⟨⟩
      · rintro ⟨found, member, foundLive, foundNamed, rfl⟩
        have again := ledger.active_of_live
          (Multiset.mem_cons_of_mem member) foundLive foundNamed
        rw [head] at again
        exact absurd (Option.some.inj again).symm
          (ledger.stamp_notMem_tail member)
    · rw [Function.update_of_ne same, ledger.activeExact]
      constructor
      · rintro ⟨found, member, foundLive, foundNamed, stampEq⟩
        rcases Multiset.mem_cons.mp member with rfl | inEntries
        · rw [named] at foundNamed
          exact absurd (Option.some.inj foundNamed).symm same
        · exact ⟨found, inEntries, foundLive, foundNamed, stampEq⟩
      · rintro ⟨found, member, rest⟩
        exact ⟨found, Multiset.mem_cons_of_mem member, rest⟩

end Ledger

namespace Represents

theorem empty (view : EntryView α κ τ) :
    Represents view (0 : Multiset α) ∅ (fun _ : κ => (none : Option τ)) := by
  intro handle deadline
  simp

/-- The live entries are the handles of the eager queue, each with its
deadline. -/
theorem map_live (represents : Represents view entries buried queue)
    (ledger : Ledger view entries active buried next)
    (named : ∀ entry ∈ entries, ∃ handle, view.handle entry = some handle)
    (handles : Finset κ)
    (exact : ∀ handle, handle ∈ handles ↔ (queue handle).isSome = true) :
    ((entries.filter fun entry => view.stamp entry ∉ buried).map
        fun entry => (view.handle entry, some (view.deadline entry))) =
      handles.val.map fun handle => (some handle, queue handle) := by
  have left : ((entries.filter fun entry => view.stamp entry ∉ buried).map
      fun entry => (view.handle entry, some (view.deadline entry))).Nodup := by
    refine Multiset.Nodup.of_map Prod.fst ?_
    rw [Multiset.map_map]
    exact ledger.handles_nodup named
  have right : (handles.val.map
      fun handle => (some handle, queue handle)).Nodup :=
    handles.nodup.map fun _ _ same => Option.some.inj (Prod.ext_iff.mp same).1
  refine (Multiset.Nodup.ext left right).mpr fun pair => ?_
  simp only [Multiset.mem_map, Multiset.mem_filter, Finset.mem_val]
  constructor
  · rintro ⟨entry, ⟨member, live⟩, rfl⟩
    obtain ⟨handle, here⟩ := named entry member
    have queued := (represents handle (view.deadline entry)).mpr
      ⟨entry, member, live, here, rfl⟩
    refine ⟨handle, (exact handle).mpr (by rw [queued]; rfl), ?_⟩
    rw [queued, here]
  · rintro ⟨handle, member, rfl⟩
    obtain ⟨deadline, queued⟩ :=
      Option.isSome_iff_exists.mp ((exact handle).mp member)
    obtain ⟨entry, member, live, here, rfl⟩ :=
      (represents handle deadline).mp queued
    refine ⟨entry, ⟨member, live⟩, ?_⟩
    rw [here, queued]

/-- No entry is kept for nothing: each is that of a handle, or of a
tombstone. -/
theorem card_entries (represents : Represents view entries buried queue)
    (ledger : Ledger view entries active buried next)
    (named : ∀ entry ∈ entries, ∃ handle, view.handle entry = some handle)
    (handles : Finset κ)
    (exact : ∀ handle, handle ∈ handles ↔ (queue handle).isSome = true) :
    entries.card = handles.card + buried.card := by
  have live := congrArg Multiset.card
    (represents.map_live ledger named handles exact)
  have dead := congrArg Multiset.card ledger.map_buried
  rw [Multiset.card_map, Multiset.card_map] at live
  rw [Multiset.card_map] at dead
  rw [← Finset.card_val handles, ← live, ← Finset.card_val buried, ← dead,
    Nat.add_comm, ← Multiset.card_add, Multiset.filter_add_not]

/-- A ledger and an eager queue agree on which handles are in use. -/
theorem inactive_iff (represents : Represents view entries buried queue)
    (ledger : Ledger view entries active buried next) (handle : κ) :
    active handle = none ↔ queue handle = none := by
  constructor
  · intro inactive
    cases found : queue handle with
    | none => rfl
    | some deadline =>
        obtain ⟨entry, member, live, named, _⟩ :=
          (represents handle deadline).mp found
        exact absurd named
          (ledger.not_live_of_inactive inactive member live)
  · intro absent
    cases found : active handle with
    | none => rfl
    | some stamp =>
        obtain ⟨entry, member, live, named, _⟩ :=
          (ledger.activeExact handle stamp).mp found
        have present :=
          (represents handle (view.deadline entry)).mpr
            ⟨entry, member, live, named, rfl⟩
        rw [absent] at present
        cases present

theorem dropBuried {entry : α}
    (represents : Represents view (entry ::ₘ entries) buried queue)
    (ledger : Ledger view (entry ::ₘ entries) active buried next)
    (dead : view.stamp entry ∈ buried) :
    Represents view entries (buried.erase (view.stamp entry)) queue := by
  intro handle deadline
  rw [represents]
  constructor
  · rintro ⟨found, member, live, rest⟩
    rcases Multiset.mem_cons.mp member with rfl | inEntries
    · exact absurd dead live
    · exact ⟨found, inEntries,
        fun still => live (Finset.mem_of_mem_erase still), rest⟩
  · rintro ⟨found, member, live, rest⟩
    refine ⟨found, Multiset.mem_cons_of_mem member, ?_, rest⟩
    intro still
    exact live (Finset.mem_erase.mpr
      ⟨ledger.stamp_notMem_tail member, still⟩)

variable [DecidableEq κ]

theorem schedule (represents : Represents view entries buried queue)
    (ledger : Ledger view entries active buried next)
    (entry : α) {handle : κ} (named : view.handle entry = some handle)
    (stamped : view.stamp entry = next) (inactive : active handle = none) :
    Represents view (entry ::ₘ entries) buried
      (Function.update queue handle (some (view.deadline entry))) := by
  intro other deadline
  by_cases same : other = handle
  · subst same
    rw [Function.update_self]
    constructor
    · rintro ⟨⟩
      exact ⟨entry, Multiset.mem_cons_self entry entries,
        stamped ▸ ledger.nextStamp_notBuried, named, rfl⟩
    · rintro ⟨found, member, live, foundNamed, rfl⟩
      rcases Multiset.mem_cons.mp member with rfl | inEntries
      · rfl
      · exact absurd foundNamed
          (ledger.not_live_of_inactive inactive inEntries live)
  · rw [Function.update_of_ne same, represents]
    constructor
    · rintro ⟨found, member, rest⟩
      exact ⟨found, Multiset.mem_cons_of_mem member, rest⟩
    · rintro ⟨found, member, live, foundNamed, deadlineEq⟩
      rcases Multiset.mem_cons.mp member with rfl | inEntries
      · rw [named] at foundNamed
        exact absurd (Option.some.inj foundNamed).symm same
      · exact ⟨found, inEntries, live, foundNamed, deadlineEq⟩

theorem bury (represents : Represents view entries buried queue)
    (ledger : Ledger view entries active buried next)
    {handle : κ} {stamp : Nat} (named : active handle = some stamp) :
    Represents view entries (insert stamp buried)
      (Function.update queue handle none) := by
  have after := ledger.bury named
  obtain ⟨victim, victimMember, _, victimNamed, victimStamp⟩ :=
    (ledger.activeExact handle stamp).mp named
  intro other deadline
  by_cases same : other = handle
  · subst same
    rw [Function.update_self]
    constructor
    · rintro ⟨⟩
    · rintro ⟨entry, member, live, entryNamed, _⟩
      exact absurd entryNamed
        (after.not_live_of_inactive (Function.update_self ..) member live)
  · rw [Function.update_of_ne same, represents]
    constructor
    · rintro ⟨entry, member, live, entryNamed, rfl⟩
      refine ⟨entry, member, ?_, entryNamed, rfl⟩
      rw [Finset.mem_insert, not_or]
      refine ⟨fun taken => ?_, live⟩
      have sameEntry := ledger.entry_unique member victimMember
        (taken.trans victimStamp.symm)
      rw [sameEntry, victimNamed] at entryNamed
      exact same (Option.some.inj entryNamed).symm
    · rintro ⟨entry, member, live, rest⟩
      rw [Finset.mem_insert, not_or] at live
      exact ⟨entry, member, live.2, rest⟩

theorem dropLive {entry : α} {handle : κ}
    (represents : Represents view (entry ::ₘ entries) buried queue)
    (ledger : Ledger view (entry ::ₘ entries) active buried next)
    (live : view.stamp entry ∉ buried)
    (named : view.handle entry = some handle) :
    Represents view entries buried (Function.update queue handle none) := by
  have after := ledger.dropLive live named
  intro other deadline
  by_cases same : other = handle
  · subst same
    rw [Function.update_self]
    constructor
    · rintro ⟨⟩
    · rintro ⟨found, member, foundLive, foundNamed, _⟩
      exact absurd foundNamed
        (after.not_live_of_inactive (Function.update_self ..)
          member foundLive)
  · rw [Function.update_of_ne same, represents]
    constructor
    · rintro ⟨found, member, foundLive, foundNamed, deadlineEq⟩
      rcases Multiset.mem_cons.mp member with rfl | inEntries
      · rw [named] at foundNamed
        exact absurd (Option.some.inj foundNamed).symm same
      · exact ⟨found, inEntries, foundLive, foundNamed, deadlineEq⟩
    · rintro ⟨found, member, rest⟩
      exact ⟨found, Multiset.mem_cons_of_mem member, rest⟩

end Represents

end Lazy

end AsyncFrame.Lib
