import Mathlib.Data.List.Nodup
import Mathlib.Order.Lattice
import Mathlib.Algebra.Order.Group.Unbundled.Int

/-!
# Time zones

A zone whose offset changes at finitely many instants, as `zoneinfo` looks it up: the wall time of an
instant, and the instant of a wall time.
-/

set_option autoImplicit false

namespace CogniDQ.Python

structure OffsetChange where
  before : Int
  instant : Int
  after : Int
deriving DecidableEq

/-- The wall time from which on a look-up goes by the new offset. The wall times that a change skips
are before it without the fold, and those that it repeats are. -/
def OffsetChange.wallFrom (change : OffsetChange) (fold : Bool) : Int :=
  change.instant + if fold then min change.before change.after else max change.before change.after

def changesFrom : Int → List (Int × Int) → List OffsetChange
  | _, [] => []
  | before, (instant, after) :: later => ⟨before, instant, after⟩ :: changesFrom after later

def ticksPerDay : Int := 86400000000

/-- A zone: the offset at first, and the instants from which on there is another one. An offset is
less than a day. -/
structure ZoneInfo where
  offsetAtFirst : Int
  transitions : List (Int × Int)
  ascending : transitions.Pairwise fun earlier later => earlier.1 < later.1
  short_first : -ticksPerDay < offsetAtFirst ∧ offsetAtFirst < ticksPerDay
  short : ∀ transition ∈ transitions, -ticksPerDay < transition.2 ∧ transition.2 < ticksPerDay

theorem instant_of_mem_changesFrom {before : Int} {transitions : List (Int × Int)}
    {change : OffsetChange} (member : change ∈ changesFrom before transitions) :
    (change.instant, change.after) ∈ transitions := by
  induction transitions generalizing before with
  | nil => cases member
  | cons transition later ih =>
    obtain ⟨instant, after⟩ := transition
    rcases List.mem_cons.mp member with rfl | member
    · exact List.mem_cons_self
    · exact List.mem_cons_of_mem _ (ih member)

theorem changesFrom_ascending {before : Int} {transitions : List (Int × Int)}
    (ascending : transitions.Pairwise fun earlier later => earlier.1 < later.1) :
    (changesFrom before transitions).Pairwise fun earlier later =>
      earlier.instant < later.instant := by
  induction transitions generalizing before with
  | nil => exact List.Pairwise.nil
  | cons transition later ih =>
    obtain ⟨instant, after⟩ := transition
    obtain ⟨first, rest⟩ := List.pairwise_cons.mp ascending
    refine List.pairwise_cons.mpr ⟨fun change member => ?_, ih rest⟩
    exact first _ (instant_of_mem_changesFrom member)

def offsetAfter (offsetAtFirst : Int) (change : Option OffsetChange) : Int :=
  change.elim offsetAtFirst OffsetChange.after

theorem offsetAfter_cons (offsetAtFirst : Int) (change : OffsetChange)
    (later : List OffsetChange) :
    offsetAfter offsetAtFirst (change :: later).getLast? =
      offsetAfter change.after later.getLast? := by
  rw [List.getLast?_cons]
  cases later.getLast? with
  | none => rfl
  | some last => rfl

theorem offsetAfter_earlier {offsetAtFirst : Int} {transitions : List (Int × Int)}
    (ascending : transitions.Pairwise fun earlier later => earlier.1 < later.1)
    {change : OffsetChange} (member : change ∈ changesFrom offsetAtFirst transitions) :
    offsetAfter offsetAtFirst ((changesFrom offsetAtFirst transitions).filter fun earlier =>
      decide (earlier.instant < change.instant)).getLast? = change.before := by
  induction transitions generalizing offsetAtFirst with
  | nil => cases member
  | cons transition later ih =>
    obtain ⟨instant, after⟩ := transition
    obtain ⟨first, rest⟩ := List.pairwise_cons.mp ascending
    rcases List.mem_cons.mp member with rfl | member
    · have none_earlier : (changesFrom offsetAtFirst ((instant, after) :: later)).filter
          (fun earlier => decide (earlier.instant < instant)) = [] := by
        refine List.filter_eq_nil_iff.mpr fun other otherMember passed => ?_
        have passed := of_decide_eq_true passed
        rcases List.mem_cons.mp otherMember with rfl | otherMember
        · exact absurd passed (lt_irrefl _)
        · exact absurd (first _ (instant_of_mem_changesFrom otherMember)) (not_lt.mpr passed.le)
      rw [none_earlier]
      rfl
    · have passed : instant < change.instant := first _ (instant_of_mem_changesFrom member)
      have kept : decide ((OffsetChange.mk offsetAtFirst instant after).instant < change.instant) = true :=
        decide_eq_true passed
      rw [changesFrom, List.filter_cons, if_pos kept, offsetAfter_cons]
      exact ih rest member

namespace ZoneInfo

variable (zone : ZoneInfo)

def changes : List OffsetChange :=
  changesFrom zone.offsetAtFirst zone.transitions

def lastChange (passed : OffsetChange → Bool) : Option OffsetChange :=
  (zone.changes.filter passed).getLast?

def lastUntil (instant : Int) : Option OffsetChange :=
  zone.lastChange fun change => decide (change.instant ≤ instant)

def offset (instant : Int) : Int :=
  offsetAfter zone.offsetAtFirst (zone.lastUntil instant)

def wall (instant : Int) : Int :=
  instant + zone.offset instant

/-- `fold`: the wall time has been before. -/
def fold (instant : Int) : Bool :=
  (zone.lastUntil instant).any fun change =>
    decide (instant - change.instant < change.before - change.after)

/-- The instant of a wall time. It is looked up among the wall times of the changes by
`bisect_right`. -/
def toUtc (wall : Int) (fold : Bool) : Int :=
  wall - offsetAfter zone.offsetAtFirst
    (zone.lastChange fun change => decide (change.wallFrom fold ≤ wall))

theorem changes_ascending :
    zone.changes.Pairwise fun earlier later => earlier.instant < later.instant :=
  changesFrom_ascending zone.ascending

variable {zone}

theorem lastChange_congr {passed others : OffsetChange → Bool}
    (same : ∀ change ∈ zone.changes, passed change = others change) :
    zone.lastChange passed = zone.lastChange others := by
  unfold lastChange
  rw [List.filter_congr same]

theorem mem_of_lastChange {passed : OffsetChange → Bool} {last : OffsetChange}
    (found : zone.lastChange passed = some last) :
    last ∈ zone.changes ∧ passed last = true :=
  List.mem_filter.mp (List.mem_of_getLast? found)

variable (zone) in
theorem le_lastChange (passed : OffsetChange → Bool) {change : OffsetChange}
    (member : change ∈ zone.changes) (passes : passed change = true) :
    ∃ last, zone.lastChange passed = some last ∧ change.instant ≤ last.instant := by
  have kept : change ∈ zone.changes.filter passed := List.mem_filter.mpr ⟨member, passes⟩
  obtain ⟨front, last, shape⟩ : ∃ front last, zone.changes.filter passed = front ++ [last] :=
    ⟨_, _, (List.dropLast_append_getLast (List.ne_nil_of_mem kept)).symm⟩
  refine ⟨last, ?_, ?_⟩
  · unfold lastChange
    rw [shape, List.getLast?_concat]
  · have ascending : (front ++ [last]).Pairwise fun earlier later =>
        earlier.instant < later.instant := by
      rw [← shape]
      exact zone.changes_ascending.filter _
    rw [shape] at kept
    rcases List.mem_append.mp kept with inFront | isLast
    · exact ((List.pairwise_append.mp ascending).2.2 _ inFront _ List.mem_cons_self).le
    · exact (congrArg OffsetChange.instant (List.mem_singleton.mp isLast)).le

theorem eq_of_instant {left right : OffsetChange} (leftMember : left ∈ zone.changes)
    (rightMember : right ∈ zone.changes) (same : left.instant = right.instant) : left = right := by
  have apart : (zone.changes.map OffsetChange.instant).Nodup :=
    List.pairwise_map.mpr (zone.changes_ascending.imp fun earlier => earlier.ne)
  exact List.inj_on_of_nodup_map apart leftMember rightMember same

theorem lastUntil_change {change : OffsetChange} (member : change ∈ zone.changes) :
    zone.lastUntil change.instant = some change := by
  have passed : decide (change.instant ≤ change.instant) = true := decide_eq_true (le_refl _)
  obtain ⟨last, found, later⟩ := zone.le_lastChange
    (fun other => decide (other.instant ≤ change.instant)) member passed
  obtain ⟨lastMember, passes⟩ := mem_of_lastChange found
  have same : last.instant = change.instant := le_antisymm (of_decide_eq_true passes) later
  rw [lastUntil, found, eq_of_instant lastMember member same]

theorem offset_change {change : OffsetChange} (member : change ∈ zone.changes) :
    zone.offset change.instant = change.after := by
  rw [offset, lastUntil_change member]
  rfl

theorem offset_before_change {change : OffsetChange} (member : change ∈ zone.changes) :
    zone.offset (change.instant - 1) = change.before := by
  have earlier : zone.lastUntil (change.instant - 1) =
      zone.lastChange fun other => decide (other.instant < change.instant) :=
    lastChange_congr fun other _ => decide_eq_decide.mpr Int.le_sub_one_iff
  rw [offset, earlier]
  exact offsetAfter_earlier zone.ascending member

theorem offset_of_no_change {instant : Int}
    (unchanged : ∀ change ∈ zone.changes, change.instant ≠ instant) :
    zone.offset (instant - 1) = zone.offset instant := by
  have same : zone.lastUntil (instant - 1) = zone.lastUntil instant :=
    lastChange_congr fun change member => decide_eq_decide.mpr
      ⟨fun earlier => earlier.trans (Int.sub_le_self _ Int.one_nonneg), fun until_ =>
        Int.le_sub_one_of_lt (lt_of_le_of_ne until_ (unchanged change member))⟩
  rw [offset, same]
  rfl

theorem wall_of_no_change {instant : Int}
    (unchanged : ∀ change ∈ zone.changes, change.instant ≠ instant) :
    zone.wall instant = zone.wall (instant - 1) + 1 := by
  unfold wall
  rw [offset_of_no_change unchanged]
  omega

/-- The wall times of a change are the one that it ends and the one that it begins. -/
theorem wallFrom_eq {change : OffsetChange} (member : change ∈ zone.changes) (fold : Bool) :
    change.wallFrom fold =
      if fold then min (zone.wall (change.instant - 1) + 1) (zone.wall change.instant)
      else max (zone.wall (change.instant - 1) + 1) (zone.wall change.instant) := by
  unfold OffsetChange.wallFrom wall
  rw [offset_change member, offset_before_change member]
  cases fold with
  | true => simp only [if_true]; omega
  | false => simp only [Bool.false_eq_true, if_false]; omega

theorem offsetAfter_short {passed : OffsetChange → Bool} :
    -ticksPerDay < offsetAfter zone.offsetAtFirst (zone.lastChange passed) ∧
      offsetAfter zone.offsetAtFirst (zone.lastChange passed) < ticksPerDay := by
  cases found : zone.lastChange passed with
  | none => exact zone.short_first
  | some last => exact zone.short _ (instant_of_mem_changesFrom (mem_of_lastChange found).1)

theorem offset_short (instant : Int) :
    -ticksPerDay < zone.offset instant ∧ zone.offset instant < ticksPerDay :=
  offsetAfter_short

/-- Where the changes that a wall time comes after are those until an instant, it is looked up by
the offset of the instant. -/
theorem toUtc_of_split {wall instant : Int} {fold : Bool}
    (split : ∀ change ∈ zone.changes, change.wallFrom fold ≤ wall ↔ change.instant ≤ instant) :
    zone.toUtc wall fold = wall - zone.offset instant := by
  have same : zone.lastChange (fun change => decide (change.wallFrom fold ≤ wall)) =
      zone.lastUntil instant :=
    lastChange_congr fun change member => decide_eq_decide.mpr (split change member)
  rw [toUtc, same]
  rfl

/-- The change by which a wall time is looked up, when one of them comes before it. -/
theorem toUtc_of_reached {change : OffsetChange} {wall : Int} {fold : Bool}
    (member : change ∈ zone.changes) (reached : change.wallFrom fold ≤ wall) :
    ∃ last ∈ zone.changes, change.instant ≤ last.instant ∧ last.wallFrom fold ≤ wall ∧
      zone.toUtc wall fold = wall - zone.offset last.instant := by
  obtain ⟨last, found, later⟩ := zone.le_lastChange
    (fun change => decide (change.wallFrom fold ≤ wall)) member (decide_eq_true reached)
  obtain ⟨lastMember, passes⟩ := mem_of_lastChange found
  refine ⟨last, lastMember, later, of_decide_eq_true passes, ?_⟩
  rw [toUtc, found, offset_change lastMember]
  rfl

theorem fold_of_back {change : OffsetChange} (member : change ∈ zone.changes)
    (back : zone.wall change.instant ≤ zone.wall (change.instant - 1)) :
    zone.fold change.instant = true := by
  unfold wall at back
  rw [offset_change member, offset_before_change member] at back
  rw [fold, lastUntil_change member]
  refine decide_eq_true ?_
  omega

end ZoneInfo

end CogniDQ.Python
