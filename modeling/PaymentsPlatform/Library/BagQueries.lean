import Mathlib.Algebra.BigOperators.Group.Finset.Basic
import Mathlib.Algebra.BigOperators.Group.Multiset.Basic
import Mathlib.Algebra.Order.BigOperators.Group.Multiset
import Mathlib.Algebra.Order.Group.Nat
import Mathlib.Data.Finset.Max
import Mathlib.Data.Multiset.Bind
import Mathlib.Data.Multiset.Dedup
import Mathlib.Data.Multiset.Fold
import Mathlib.Order.Lattice

/-!
# Queries over bags

A table is a bag of rows, a missing value is `none`, and a condition is true,
false or unknown.  A left join loses no row of its left side, and repeats none
exactly when each of them has at most one partner; a window that keeps the
first row of every partition may keep any of the rows that tie for it, so what
it keeps is a value that carries the proof of being such a choice.
-/

universe u v w

/-! ## Three truth values -/

/-- `true`, `false` or unknown. -/
abbrev Truth := Option Bool

namespace Truth

/-- `where`, `on`, `when` and `filter` go on only if the condition is true. -/
def holds (truth : Truth) : Bool := truth == some true

def and : Truth → Truth → Truth
  | some false, _ => some false
  | some true, other => other
  | none, some false => some false
  | none, _ => none

def or : Truth → Truth → Truth
  | some true, _ => some true
  | some false, other => other
  | none, some true => some true
  | none, _ => none

@[simp]
theorem holds_some (value : Bool) : holds (some value) = value := by
  cases value <;> rfl

@[simp]
theorem holds_and (first second : Truth) :
    (first.and second).holds = (first.holds && second.holds) := by
  rcases first with _ | _ | _ <;> rcases second with _ | _ | _ <;> rfl

@[simp]
theorem holds_or (first second : Truth) :
    (first.or second).holds = (first.holds || second.holds) := by
  rcases first with _ | _ | _ <;> rcases second with _ | _ | _ <;> rfl

def not (truth : Truth) : Truth := truth.map Bool.not

/-- The disjunction of several conditions. -/
def any (truths : List Truth) : Truth := truths.foldr or (some false)

theorem or_eq_false {first second : Truth} :
    first.or second = some false ↔ first = some false ∧ second = some false := by
  rcases first with _ | _ | _ <;> rcases second with _ | _ | _ <;> simp [or]

theorem any_eq_false {truths : List Truth} :
    any truths = some false ↔ ∀ truth ∈ truths, truth = some false := by
  induction truths with
  | nil => simp [any]
  | cons first rest ih =>
      rw [any, List.foldr_cons, or_eq_false, ← any, ih, List.forall_mem_cons]

/-- The conjunction of several conditions. -/
def all (truths : List Truth) : Truth := truths.foldr and (some true)

theorem and_eq_false {first second : Truth} :
    first.and second = some false ↔ first = some false ∨ second = some false := by
  rcases first with _ | _ | _ <;> rcases second with _ | _ | _ <;> simp [and]

theorem holds_all {truths : List Truth} :
    (all truths).holds = true ↔ ∀ truth ∈ truths, truth.holds = true := by
  induction truths with
  | nil => simp [all]
  | cons first rest ih =>
      rw [all, List.foldr_cons, holds_and, Bool.and_eq_true, ← all, ih,
        List.forall_mem_cons]

theorem all_eq_false {truths : List Truth} :
    all truths = some false ↔ ∃ truth ∈ truths, truth = some false := by
  induction truths with
  | nil => simp [all]
  | cons first rest ih =>
      rw [all, List.foldr_cons, and_eq_false, ← all, ih, List.exists_mem_cons_iff]

theorem holds_iff {truth : Truth} : truth.holds = true ↔ truth = some true := by
  rcases truth with _ | _ | _ <;> simp [holds]

theorem isSome_iff {truth : Truth} :
    truth.isSome = true ↔ truth.holds = true ∨ truth = some false := by
  rcases truth with _ | _ | _ <;> simp [holds]

theorem holds_not {truth : Truth} : truth.not.holds = true ↔ truth = some false := by
  rcases truth with _ | _ | _ <;> simp [not, holds]

end Truth

/-- A comparison is unknown as soon as one side is missing. -/
def compared {α : Type u} {β : Type v} (test : α → β → Bool) (left : Option α) (right : Option β) :
    Truth :=
  left.bind fun leftValue => right.map (test leftValue)

/-- `left = right`. -/
def equals {α : Type u} [DecidableEq α] (left right : Option α) : Truth :=
  compared (fun leftValue rightValue => decide (leftValue = rightValue)) left right

/-- `left <> right`. -/
def differs {α : Type u} [DecidableEq α] (left right : Option α) : Truth :=
  compared (fun leftValue rightValue => decide (leftValue ≠ rightValue)) left right

/-- `left > right`. -/
def exceeds {α : Type u} [LT α] [DecidableLT α] (left right : Option α) : Truth :=
  compared (fun leftValue rightValue => decide (rightValue < leftValue)) left right

/-- `left <= right`. -/
def atMost {α : Type u} [LE α] [DecidableLE α] (left right : Option α) : Truth :=
  compared (fun leftValue rightValue => decide (leftValue ≤ rightValue)) left right

/-- `value in (…)`, of a list without missing values. -/
def among {α : Type u} [DecidableEq α] (value : Option α) (choices : List α) : Truth :=
  value.map fun known => decide (known ∈ choices)

/-- The first value that is not missing. -/
def coalesce {α : Type u} (values : List (Option α)) : Option α := values.findSome? id

theorem holds_equals {α : Type u} [DecidableEq α] {left right : Option α} :
    (equals left right).holds ↔ ∃ value, left = some value ∧ right = some value := by
  cases left <;> cases right <;> simp [equals, compared, Truth.holds, eq_comm]

theorem holds_atMost {α : Type u} [LE α] [DecidableLE α] {left right : Option α} :
    (atMost left right).holds ↔
      ∃ lower upper, left = some lower ∧ right = some upper ∧ lower ≤ upper := by
  cases left <;> cases right <;> simp [atMost, compared, Truth.holds]

theorem atMost_eq_false {α : Type u} [LinearOrder α] {left right : Option α} :
    atMost left right = some false ↔
      ∃ lower upper, left = some upper ∧ right = some lower ∧ lower < upper := by
  cases left <;> cases right <;> simp [atMost, compared]

@[simp]
theorem holds_equals_none {α : Type u} [DecidableEq α] (left : Option α) :
    (equals left none).holds = false := by
  cases left <;> rfl

@[simp]
theorem holds_none_equals {α : Type u} [DecidableEq α] (right : Option α) :
    (equals none right).holds = false := rfl

namespace Bag

/-! ## Keys -/

section Keys

variable {α : Type u} {β : Type v} {κ : Type w}

theorem filterMap_congr {value value' : α → Option β} {rows : Multiset α}
    (same : ∀ row ∈ rows, value row = value' row) : rows.filterMap value = rows.filterMap value' := by
  induction rows using Quotient.inductionOn with
  | h rows => exact congrArg _ (List.filterMap_congr same)

/-- No two rows have the same key; rows without one are not compared. -/
def IsKey (key : α → Option κ) (rows : Multiset α) : Prop := (rows.filterMap key).Nodup

instance [DecidableEq κ] (key : α → Option κ) (rows : Multiset α) : Decidable (IsKey key rows) :=
  inferInstanceAs (Decidable (Multiset.Nodup _))

theorem isKey_of_nodup_map {ι : Type w} (name : α → ι) {key : α → Option κ} {rows : Multiset α}
    (embed : κ → ι) (agrees : ∀ row ∈ rows, ∀ value, key row = some value → name row = embed value)
    (unique : (rows.map name).Nodup) : IsKey key rows := by
  have narrowed : (rows.filterMap key).map embed ≤ rows.map name := by
    clear unique
    induction rows using Multiset.induction_on with
    | empty => simp
    | cons row rows ih =>
        have rest := ih fun other member =>
          agrees other (Multiset.mem_cons_of_mem member)
        rw [Multiset.map_cons]
        cases keyOfRow : key row with
        | none =>
            rw [Multiset.filterMap_cons_none row rows keyOfRow]
            exact rest.trans (Multiset.le_cons_self _ _)
        | some value =>
            rw [Multiset.filterMap_cons_some key row rows keyOfRow, Multiset.map_cons,
              agrees row (Multiset.mem_cons_self row rows) value keyOfRow]
            exact Multiset.cons_le_cons _ rest
  exact (Multiset.nodup_of_le narrowed unique).of_map embed

theorem IsKey.of_le {key : α → Option κ} {rows part : Multiset α} (unique : IsKey key rows)
    (le : part ≤ rows) : IsKey key part :=
  Multiset.nodup_of_le (Multiset.filterMap_le_filterMap key le) unique

theorem isKey_map {key : β → Option κ} {project : α → β} {rows : Multiset α} :
    IsKey key (rows.map project) ↔ IsKey (key ∘ project) rows := by
  rw [IsKey, IsKey, Multiset.filterMap_map]

theorem IsKey.card_le_one {key : α → Option κ} {rows : Multiset α} (unique : IsKey key rows)
    {value : κ} (keyed : ∀ row ∈ rows, key row = some value) : rows.card ≤ 1 := by
  have replicated : rows.filterMap key = Multiset.replicate rows.card value := by
    rw [Multiset.eq_replicate]
    constructor
    · induction rows using Multiset.induction_on with
      | empty => rfl
      | cons row rows ih =>
          have head := keyed row (Multiset.mem_cons_self row rows)
          rw [Multiset.filterMap_cons_some key row rows head, Multiset.card_cons, Multiset.card_cons,
            ih (unique.of_le (Multiset.le_cons_self rows row))
              fun other member => keyed other (Multiset.mem_cons_of_mem member)]
    · intro found member
      obtain ⟨row, inRows, keyOfRow⟩ := (Multiset.mem_filterMap key rows).mp member
      exact Option.some.inj (keyOfRow.symm.trans (keyed row inRows))
  rw [IsKey, replicated, ← Multiset.coe_replicate, Multiset.coe_nodup, List.nodup_replicate]
    at unique
  exact unique

theorem card_le_one_iff_of_nodup {rows : Multiset α} (distinct : rows.Nodup) :
    rows.card ≤ 1 ↔ ∀ first ∈ rows, ∀ second ∈ rows, first = second := by
  constructor
  · intro few first inRows second alsoInRows
    rcases Nat.le_one_iff_eq_zero_or_eq_one.mp few with none | one
    · exact absurd inRows (Multiset.card_eq_zero.mp none ▸ Multiset.notMem_zero first)
    · obtain ⟨only, rfl⟩ := Multiset.card_eq_one.mp one
      exact (Multiset.mem_singleton.mp inRows).trans (Multiset.mem_singleton.mp alsoInRows).symm
  · intro single
    rcases rows.empty_or_exists_mem with rfl | ⟨first, inRows⟩
    · simp
    · have le : rows ≤ {first} := (Multiset.le_iff_subset distinct).mpr fun second alsoInRows =>
        Multiset.mem_singleton.mpr (single second alsoInRows first inRows)
      exact Multiset.card_le_card le

theorem IsKey.eq_of_key {key : α → Option κ} {rows : Multiset α} (unique : IsKey key rows) {value : κ}
    {first second : α} (inRows : first ∈ rows) (alsoInRows : second ∈ rows)
    (named : key first = some value) (alsoNamed : key second = some value) : first = second := by
  by_contra different
  have pair : {first, second} ≤ rows := (Multiset.le_iff_subset (by simpa using different)).mpr
    fun row member => by
      rcases Multiset.mem_cons.mp member with
        rfl | last
      · exact inRows
      · exact Multiset.mem_singleton.mp last ▸ alsoInRows
  have alike (row : α) (member : row ∈ ({first, second} : Multiset α)) : key row = some value := by
    rcases Multiset.mem_cons.mp member with
      rfl | last
    · exact named
    · exact Multiset.mem_singleton.mp last ▸ alsoNamed
  have few := (unique.of_le pair).card_le_one alike
  simp at few

theorem card_filter_eq_one {ι : Type w} [DecidableEq ι] {name : α → ι} {rows : Multiset α}
    (unique : (rows.map name).Nodup) {value : ι} :
    (rows.filter fun row => name row = value).card = 1 ↔ value ∈ rows.map name := by
  have counted := Multiset.count_map name rows value
  constructor
  · intro one
    obtain ⟨row, same⟩ := Multiset.card_eq_one.mp one
    have member : row ∈ rows.filter fun row => name row = value := same ▸ Multiset.mem_singleton_self row
    obtain ⟨inRows, named⟩ := Multiset.mem_filter.mp member
    exact named ▸ Multiset.mem_map_of_mem name inRows
  · intro present
    rw [← Multiset.count_eq_one_of_mem unique present, counted]
    simp only [eq_comm]

theorem map_filter_isSome {γ : Type w} (column : α → Option κ) (project : Option κ → γ)
    (rows : Multiset α) :
    (rows.filter fun row => (column row).isSome).map (fun row => project (column row)) =
      (rows.filterMap column).map fun value => project (some value) := by
  induction rows using Multiset.induction_on with
  | empty => rfl
  | cons row rows ih =>
      cases found : column row with
      | none =>
          rw [Multiset.filter_cons_of_neg _ (by simp [found]),
            Multiset.filterMap_cons_none row rows found, ih]
      | some value =>
          rw [Multiset.filter_cons_of_pos _ (by simp [found]),
            Multiset.filterMap_cons_some column row rows found, Multiset.map_cons,
            Multiset.map_cons, ih, found]

theorem nodup_bind_iff [DecidableEq β] {rows : Multiset α} {values : α → Multiset β}
    (each : ∀ row ∈ rows, (values row).Nodup) :
    (rows.bind values).Nodup ↔
      ∀ value, (rows.filter fun row => value ∈ values row).card ≤ 1 := by
  rw [Multiset.nodup_iff_count_le_one]
  refine forall_congr' fun value => ?_
  have counted : (rows.bind values).count value =
      (rows.filter fun row => value ∈ values row).card := by
    rw [Multiset.count_bind]
    induction rows using Multiset.induction_on with
    | empty => rfl
    | cons row rows ih =>
        rw [Multiset.map_cons, Multiset.sum_cons,
          ih fun other member => each other (Multiset.mem_cons_of_mem member),
          Multiset.count_eq_of_nodup (each row (Multiset.mem_cons_self row rows))]
        by_cases member : value ∈ values row
        · rw [Multiset.filter_cons_of_pos (p := fun row => value ∈ values row) _ member,
            Multiset.card_cons, if_pos member, add_comm]
        · rw [Multiset.filter_cons_of_neg (p := fun row => value ∈ values row) _ member,
            if_neg member, zero_add]
  rw [counted]

theorem map_filter_eq_bind (take : α → Bool) (give : α → β) (rows : Multiset α) :
    (rows.filter fun row => take row).map give =
      rows.bind fun row => if take row then {give row} else 0 := by
  induction rows using Multiset.induction_on with
  | empty => rfl
  | cons row rows ih =>
      rw [Multiset.cons_bind, ← ih]
      by_cases taken : take row
      · rw [Multiset.filter_cons_of_pos (p := fun row => take row = true) _ taken, if_pos taken,
          Multiset.map_cons, Multiset.singleton_add]
      · rw [Multiset.filter_cons_of_neg (p := fun row => take row = true) _ taken, if_neg taken,
          zero_add]

theorem sum_map_filter_eq_bind {ι : Type w} (take : ι → α → Bool) (give : ι → α → β)
    (queries : List ι) (rows : Multiset α) :
    (queries.map fun query => (rows.filter fun row => take query row).map (give query)).sum =
      rows.bind fun row =>
        Multiset.ofList ((queries.filter fun query => take query row).map fun query =>
          give query row) := by
  induction queries with
  | nil => simp
  | cons query queries ih =>
      rw [List.map_cons, List.sum_cons, ih, map_filter_eq_bind, ← Multiset.bind_add]
      refine Multiset.bind_congr fun row _ => ?_
      cases taken : take query row <;> simp [taken]

theorem exists_part {size : Nat} {rows : Multiset α} (fits : size ≤ rows.card) :
    ∃ part : List α, (part : Multiset α) ≤ rows ∧ part.length = size := by
  induction rows using Quotient.inductionOn with
  | h rows =>
      exact ⟨rows.take size, (List.take_sublist size rows).subperm, by simpa using fits⟩

end Keys

/-! ## Joins -/

section Joins

variable {α : Type u} {β : Type v} {κ : Type w}

/-- The rows of the right side for which the condition is true. -/
def partners (right : Multiset β) (on : β → Truth) : Multiset β :=
  right.filter fun partner => (on partner).holds

/-- A row without partners is joined with a missing one. -/
def padded (matching : Multiset β) : Multiset (Option β) :=
  if matching.card = 0 then {none} else matching.map some

def leftJoin (left : Multiset α) (right : Multiset β) (on : α → β → Truth) :
    Multiset (α × Option β) :=
  left.bind fun row => (padded (partners right (on row))).map fun partner => (row, partner)

def innerJoin (left : Multiset α) (right : Multiset β) (on : α → β → Truth) : Multiset (α × β) :=
  left.bind fun row => (partners right (on row)).map fun partner => (row, partner)

theorem mem_partners {right : Multiset β} {on : β → Truth} {partner : β} :
    partner ∈ partners right on ↔ partner ∈ right ∧ (on partner).holds :=
  Multiset.mem_filter

theorem mem_innerJoin {left : Multiset α} {right : Multiset β} {on : α → β → Truth} {row : α}
    {partner : β} :
    (row, partner) ∈ innerJoin left right on ↔
      row ∈ left ∧ partner ∈ right ∧ (on row partner).holds := by
  simp only [innerJoin, Multiset.mem_bind, Multiset.mem_map, Prod.mk.injEq, mem_partners]
  constructor
  · rintro ⟨first, inLeft, second, found, rfl, rfl⟩
    exact ⟨inLeft, found⟩
  · rintro ⟨inLeft, found⟩
    exact ⟨row, inLeft, partner, found, rfl, rfl⟩

theorem card_padded (matching : Multiset β) : (padded matching).card = max 1 matching.card := by
  unfold padded
  split
  next none => simp [none]
  next some =>
    rw [Multiset.card_map]
    omega

theorem map_padded {γ : Type w} (project : β → γ) (matching : Multiset β) :
    (padded matching).map (Option.map project) = padded (matching.map project) := by
  unfold padded
  rw [Multiset.card_map]
  split
  next => rfl
  next => rw [Multiset.map_map, Multiset.map_map]; rfl

theorem map_fst_leftJoin (left : Multiset α) (right : Multiset β) (on : α → β → Truth) :
    (leftJoin left right on).map Prod.fst =
      left.bind fun row => Multiset.replicate (max 1 (partners right (on row)).card) row := by
  unfold leftJoin
  rw [Multiset.map_bind]
  refine Multiset.bind_congr fun row _ => ?_
  rw [Multiset.map_map, ← card_padded]
  exact Multiset.map_const' _ _

theorem mem_leftJoin {left : Multiset α} {right : Multiset β} {on : α → β → Truth} {row : α}
    {partner : Option β} :
    (row, partner) ∈ leftJoin left right on ↔
      row ∈ left ∧ partner ∈ padded (partners right (on row)) := by
  simp only [leftJoin, Multiset.mem_bind, Multiset.mem_map, Prod.mk.injEq]
  constructor
  · rintro ⟨first, inLeft, second, inPadded, rfl, rfl⟩
    exact ⟨inLeft, inPadded⟩
  · rintro ⟨inLeft, inPadded⟩
    exact ⟨row, inLeft, partner, inPadded, rfl, rfl⟩

theorem mem_padded_of_mem {matching : Multiset β} {row : β} (member : row ∈ matching) :
    some row ∈ padded matching := by
  have some : matching.card ≠ 0 := fun none =>
    Multiset.notMem_zero row (Multiset.card_eq_zero.mp none ▸ member)
  rw [padded, if_neg some]
  exact Multiset.mem_map_of_mem Option.some member

theorem mem_padded {matching : Multiset β} {partner : Option β} (member : partner ∈ padded matching) :
    (partner = none ∧ matching = 0) ∨ ∃ row ∈ matching, partner = some row := by
  unfold padded at member
  split at member
  next none => exact .inl ⟨Multiset.mem_singleton.mp member, Multiset.card_eq_zero.mp none⟩
  next =>
    obtain ⟨row, inMatching, rfl⟩ := Multiset.mem_map.mp member
    exact .inr ⟨row, inMatching, rfl⟩

/-- What a left join may put beside a row. -/
def IsPartner (right : Multiset β) (on : β → Truth) : Option β → Prop
  | none => ∀ row ∈ right, ¬ (on row).holds
  | some row => row ∈ right ∧ (on row).holds

theorem mem_padded_partners {right : Multiset β} {on : β → Truth} {partner : Option β} :
    partner ∈ padded (partners right on) ↔ IsPartner right on partner := by
  constructor
  · intro member
    rcases mem_padded member with ⟨rfl, alone⟩ | ⟨row, isPartner, rfl⟩
    · intro row inRight holds
      exact Multiset.notMem_zero row (alone ▸ mem_partners.mpr ⟨inRight, holds⟩)
    · exact mem_partners.mp isPartner
  · intro isPartner
    cases partner with
    | none =>
        have alone : partners right on = 0 := Multiset.filter_eq_nil.mpr isPartner
        exact alone ▸ Multiset.mem_singleton_self none
    | some row => exact mem_padded_of_mem (mem_partners.mpr isPartner)

theorem IsPartner.isSome_iff {right : Multiset β} {on : β → Truth} {partner : Option β}
    (isPartner : IsPartner right on partner) : partner.isSome ↔ ∃ row ∈ right, (on row).holds := by
  cases partner with
  | none =>
      constructor
      · intro found
        cases found
      · rintro ⟨row, inRight, holds⟩
        exact absurd holds (isPartner row inRight)
  | some row => exact iff_of_true rfl ⟨row, isPartner⟩

theorem IsPartner.eq_none {right : Multiset β} {on : β → Truth} {partner : Option β}
    (isPartner : IsPartner right on partner) (alone : ∀ row ∈ right, ¬ (on row).holds) :
    partner = none := by
  cases partner with
  | none => rfl
  | some row => exact absurd isPartner.2 (alone row isPartner.1)

theorem exists_isPartner (right : Multiset β) (on : β → Truth) :
    ∃ partner, IsPartner right on partner := by
  by_cases found : ∃ row ∈ right, (on row).holds
  · obtain ⟨row, isPartner⟩ := found
    exact ⟨some row, isPartner⟩
  · exact ⟨none, fun row inRight holds => found ⟨row, inRight, holds⟩⟩

theorem partner_of_mem_leftJoin {left : Multiset α} {right : Multiset β} {on : α → β → Truth}
    {row : α} {partner : β} (member : (row, some partner) ∈ leftJoin left right on) :
    partner ∈ right ∧ (on row partner).holds := by
  rcases mem_padded (mem_leftJoin.mp member).2 with ⟨missing, -⟩ | ⟨found, inPartners, same⟩
  · exact absurd missing (by simp)
  · exact Option.some.inj same ▸ mem_partners.mp inPartners

theorem bind_eq_some_of_mem_leftJoin {ι : Type*} [DecidableEq ι] {left : Multiset α}
    {right : Multiset β} {foreign : α → Option ι} {key : β → Option ι} {row : α} {partner : Option β}
    (member : (row, partner) ∈ leftJoin left right fun row partner =>
      equals (foreign row) (key partner)) {value : ι} :
    partner.bind key = some value ↔
      foreign row = some value ∧ ∃ other ∈ right, key other = some value := by
  rcases mem_padded (mem_leftJoin.mp member).2 with ⟨rfl, alone⟩ | ⟨found, inPartners, rfl⟩
  · constructor
    · intro missing
      cases missing
    · intro ⟨known, other, inRight, named⟩
      have isPartner : other ∈ partners right fun partner => equals (foreign row) (key partner) :=
        mem_partners.mpr ⟨inRight, holds_equals.mpr ⟨value, known, named⟩⟩
      exact absurd isPartner (alone ▸ Multiset.notMem_zero other)
  · obtain ⟨inRight, holds⟩ := mem_partners.mp inPartners
    obtain ⟨common, known, named⟩ := holds_equals.mp holds
    rw [Option.bind_some, named, known]
    constructor
    · intro same
      exact ⟨same, found, inRight, named.trans same⟩
    · exact And.left

theorem exists_mem_leftJoin {left : Multiset α} {row : α} (member : row ∈ left) (right : Multiset β)
    (on : α → β → Truth) : ∃ partner, (row, partner) ∈ leftJoin left right on := by
  have nonempty : padded (partners right (on row)) ≠ 0 := by
    rw [← Multiset.card_pos, card_padded]
    omega
  obtain ⟨partner, inPadded⟩ := Multiset.exists_mem_of_ne_zero nonempty
  exact ⟨partner, mem_leftJoin.mpr ⟨member, inPadded⟩⟩

theorem some_mem_leftJoin {left : Multiset α} {right : Multiset β} {on : α → β → Truth} {row : α}
    {partner : β} (inLeft : row ∈ left) (inRight : partner ∈ right) (holds : (on row partner).holds) :
    (row, some partner) ∈ leftJoin left right on := by
  exact mem_leftJoin.mpr ⟨inLeft, mem_padded_of_mem (mem_partners.mpr ⟨inRight, holds⟩)⟩

theorem filter_leftJoin (test : α → Prop) [DecidablePred test] (left : Multiset α)
    (right : Multiset β) (on : α → β → Truth) :
    (leftJoin left right on).filter (fun joined => test joined.1) =
      leftJoin (left.filter test) right on := by
  induction left using Multiset.induction_on with
  | empty => rfl
  | cons row left ih =>
      have alike : ∀ joined ∈ (padded (partners right (on row))).map fun partner => (row, partner),
          joined.1 = row := by
        intro joined member
        obtain ⟨partner, -, rfl⟩ := Multiset.mem_map.mp member
        rfl
      rw [leftJoin, Multiset.cons_bind, Multiset.filter_add]
      by_cases passes : test row
      · rw [Multiset.filter_cons_of_pos _ passes, leftJoin, Multiset.cons_bind,
          Multiset.filter_eq_self.mpr fun joined member => alike joined member ▸ passes]
        exact congrArg (_ + ·) ih
      · rw [Multiset.filter_cons_of_neg _ passes,
          Multiset.filter_eq_nil.mpr fun joined member => alike joined member ▸ passes,
          zero_add]
        exact ih

theorem map_fst_leftJoin_of_le_one {left : Multiset α} {right : Multiset β} {on : α → β → Truth}
    (single : ∀ row ∈ left, (partners right (on row)).card ≤ 1) :
    (leftJoin left right on).map Prod.fst = left := by
  rw [map_fst_leftJoin, Multiset.bind_congr fun row member => by
    rw [max_eq_left (single row member), Multiset.replicate_one]]
  exact (Multiset.bind_singleton left id).trans (Multiset.map_id left)

theorem map_leftJoin {γ : Type w} {project : α → γ} {left : Multiset α} {right : Multiset β}
    {on : α → β → Truth} (single : ∀ row ∈ left, (partners right (on row)).card ≤ 1) :
    (leftJoin left right on).map (project ∘ Prod.fst) = left.map project := by
  rw [← Multiset.map_map, map_fst_leftJoin_of_le_one single]

theorem card_leftJoin (left : Multiset α) (right : Multiset β) (on : α → β → Truth) :
    (leftJoin left right on).card =
      (left.map fun row => max 1 (partners right (on row)).card).sum := by
  rw [← Multiset.card_map Prod.fst, map_fst_leftJoin, Multiset.card_bind]
  exact congrArg Multiset.sum (Multiset.map_congr rfl fun row _ => Multiset.card_replicate _ row)

theorem card_lt_card_leftJoin {left : Multiset α} {right : Multiset β} {on : α → β → Truth}
    {row : α} (member : row ∈ left) (many : 1 < (partners right (on row)).card) :
    left.card < (leftJoin left right on).card := by
  rw [card_leftJoin]
  calc
    left.card = (left.map fun _ => 1).sum := by simp
    _ < (left.map fun row => max 1 (partners right (on row)).card).sum := by
      refine Multiset.sum_lt_sum (fun _ _ => le_max_left _ _) ⟨row, member, ?_⟩
      omega

theorem card_leftJoin_eq_iff {left : Multiset α} {right : Multiset β} {on : α → β → Truth} :
    (leftJoin left right on).card = left.card ↔
      ∀ row ∈ left, (partners right (on row)).card ≤ 1 := by
  constructor
  · intro same row member
    by_contra many
    exact absurd (card_lt_card_leftJoin member (Nat.lt_of_not_le many)) same.symm.not_lt
  · intro single
    rw [← Multiset.card_map Prod.fst, map_fst_leftJoin_of_le_one single]

theorem card_le_card_leftJoin (left : Multiset α) (right : Multiset β) (on : α → β → Truth) :
    left.card ≤ (leftJoin left right on).card := by
  rw [card_leftJoin]
  calc
    left.card = (left.map fun _ => 1).sum := by simp
    _ ≤ (left.map fun row => max 1 (partners right (on row)).card).sum :=
      Multiset.sum_map_le_sum_map _ _ fun _ _ => le_max_left _ _

theorem map_fst_innerJoin_le {left : Multiset α} {right : Multiset β} {on : α → β → Truth}
    (single : ∀ row ∈ left, (partners right (on row)).card ≤ 1) :
    (innerJoin left right on).map Prod.fst ≤ left := by
  induction left using Multiset.induction_on with
  | empty => simp [innerJoin]
  | cons row left ih =>
      have few := single row (Multiset.mem_cons_self row left)
      have rest := ih fun other member => single other (Multiset.mem_cons_of_mem member)
      rw [innerJoin, Multiset.cons_bind, Multiset.map_add, Multiset.map_map,
        ← Multiset.singleton_add]
      refine add_le_add ?_ rest
      calc
        (partners right (on row)).map (Prod.fst ∘ fun partner => (row, partner)) =
            Multiset.replicate (partners right (on row)).card row := Multiset.map_const' _ _
        _ ≤ Multiset.replicate 1 row := (Multiset.replicate_le_replicate row).mpr few

theorem card_partners_le_one {key : β → Option κ} {right : Multiset β} (unique : IsKey key right)
    {on : β → Truth} (keyed : ∀ first second, (on first).holds → (on second).holds →
      ∃ value, key first = some value ∧ key second = some value) :
    (partners right on).card ≤ 1 := by
  rcases (partners right on).empty_or_exists_mem with none | ⟨first, member⟩
  · simp [none]
  · have holds := (mem_partners.mp member).2
    obtain ⟨value, named, -⟩ := keyed first first holds holds
    have alike (second : β) (found : second ∈ partners right on) : key second = some value := by
      obtain ⟨other, same, also⟩ := keyed first second holds (mem_partners.mp found).2
      exact also.trans (same.symm.trans named)
    exact (unique.of_le (Multiset.filter_le _ right)).card_le_one alike

theorem card_partners_equals_le_one [DecidableEq κ] {key : β → Option κ} {right : Multiset β}
    (unique : IsKey key right) (value : Option κ) :
    (partners right fun partner => equals value (key partner)).card ≤ 1 := by
  refine card_partners_le_one unique fun first second matched alsoMatched => ?_
  obtain ⟨found, rfl, ofFirst⟩ := holds_equals.mp matched
  obtain ⟨also, same, ofSecond⟩ := holds_equals.mp alsoMatched
  exact ⟨found, ofFirst, ofSecond.trans same.symm⟩

theorem isKey_leftJoin {key : α → Option κ} {left : Multiset α} {right : Multiset β}
    {on : α → β → Truth} (unique : IsKey key left)
    (single : ∀ row ∈ left, (partners right (on row)).card ≤ 1) :
    IsKey (key ∘ Prod.fst) (leftJoin left right on) := by
  rw [← isKey_map, map_fst_leftJoin_of_le_one single]
  exact unique

theorem isKey_innerJoin {key : α → Option κ} {left : Multiset α} {right : Multiset β}
    {on : α → β → Truth} (unique : IsKey key left)
    (single : ∀ row ∈ left, (partners right (on row)).card ≤ 1) :
    IsKey (key ∘ Prod.fst) (innerJoin left right on) := by
  rw [← isKey_map]
  exact unique.of_le (map_fst_innerJoin_le single)

end Joins

/-! ## Groups -/

section Groups

variable {α : Type u} {γ : Type v} {κ : Type w} [DecidableEq κ]

/-- `group by`: one row for each value of the key, summarising the rows that have it. -/
def groupBy (key : α → κ) (summary : κ → Multiset α → γ) (rows : Multiset α) : Multiset γ :=
  (rows.map key).dedup.map fun value => summary value (rows.filter fun row => key row = value)

variable {key : α → κ} {summary : κ → Multiset α → γ} {column : γ → κ}

theorem nodup_map_groupBy (named : ∀ value group, column (summary value group) = value)
    (rows : Multiset α) : ((groupBy key summary rows).map column).Nodup := by
  have names : (groupBy key summary rows).map column = (rows.map key).dedup := by
    rw [groupBy, Multiset.map_map]
    exact (Multiset.map_congr rfl fun value _ => named value _).trans (Multiset.map_id _)
  rw [names]
  exact Multiset.nodup_dedup _

theorem mem_groupBy {rows : Multiset α} {group : γ} :
    group ∈ groupBy key summary rows ↔
      ∃ row ∈ rows, group = summary (key row) (rows.filter fun other => key other = key row) := by
  simp only [groupBy, Multiset.mem_map, Multiset.mem_dedup, exists_exists_and_eq_and]
  exact exists_congr fun row => and_congr_right fun _ => eq_comm

theorem card_groupBy (rows : Multiset α) :
    (groupBy key summary rows).card = (rows.map key).dedup.card := by
  rw [groupBy, Multiset.card_map]

theorem filter_groupBy (named : ∀ value group, column (summary value group) = value)
    (rows : Multiset α) (test : κ → Prop) [DecidablePred test] :
    ((groupBy key summary rows).filter fun group => test (column group)) =
      ((rows.map key).dedup.filter test).map fun value =>
        summary value (rows.filter fun row => key row = value) := by
  rw [groupBy, Multiset.filter_map]
  exact congrArg _ (Multiset.filter_congr fun value _ => by simp only [Function.comp_apply, named])

theorem sum_filter_groupBy (named : ∀ value group, column (summary value group) = value)
    {count : γ → Nat} (counted : ∀ value group, count (summary value group) = group.card)
    (rows : Multiset α) (test : κ → Prop) [DecidablePred test] :
    (((groupBy key summary rows).filter fun group => test (column group)).map count).sum =
      (rows.filter fun row => test (key row)).card := by
  have names : (rows.map key).dedup.filter test = ((rows.map key).filter test).dedup :=
    (Multiset.Nodup.ext ((Multiset.nodup_dedup _).filter _) (Multiset.nodup_dedup _)).mpr
      fun value => by simp only [Multiset.mem_filter, Multiset.mem_dedup]
  rw [filter_groupBy named, Multiset.map_map, names]
  calc
    (((rows.map key).filter test).dedup.map
        (count ∘ fun value => summary value (rows.filter fun row => key row = value))).sum =
        (((rows.map key).filter test).dedup.map
          fun value => ((rows.map key).filter test).count value).sum := by
      refine congrArg Multiset.sum (Multiset.map_congr rfl fun value member => ?_)
      have passes := (Multiset.mem_filter.mp (Multiset.mem_dedup.mp member)).2
      rw [Function.comp_apply, counted, Multiset.count_filter_of_pos passes, Multiset.count_map]
      simp only [eq_comm]
    _ = ((rows.map key).filter test).card := Multiset.toFinset_sum_count_eq _
    _ = (rows.filter fun row => test (key row)).card := by
      rw [Multiset.filter_map, Multiset.card_map]
      rfl

end Groups

section JoinedGroups

variable {α : Type u} {β : Type u} {γ : Type v} {κ : Type w} [DecidableEq κ]
  {key : α → Option κ} {summary : Option κ → Multiset α → γ} {column : γ → Option κ}

/-- The summary of the rows with a key, if there are any. -/
def groupOf (key : α → Option κ) (summary : Option κ → Multiset α → γ) (rows : Multiset α)
    (value : Option κ) : Option γ :=
  if value.isSome ∧ value ∈ rows.map key then
    some (summary value (rows.filter fun row => key row = value))
  else none

theorem partners_groupBy (named : ∀ value group, column (summary value group) = value)
    (rows : Multiset α) (value : Option κ) :
    padded (partners (groupBy key summary rows) fun group => equals value (column group)) =
      {groupOf key summary rows value} := by
  have matching : (partners (groupBy key summary rows) fun group => equals value (column group)) =
      ((rows.map key).dedup.filter fun found => (equals value found).holds).map fun found =>
        summary found (rows.filter fun row => key row = found) := by
    rw [partners, groupBy, Multiset.filter_map]
    exact congrArg _ (Multiset.filter_congr fun found _ => by simp only [Function.comp_apply, named])
  rw [matching]
  cases value with
  | none => simp [padded, groupOf]
  | some value =>
      have same : ((rows.map key).dedup.filter fun found => (equals (some value) found).holds) =
          Multiset.replicate ((rows.map key).dedup.count (some value)) (some value) := by
        rw [← Multiset.filter_eq']
        exact Multiset.filter_congr fun found _ => by simp [holds_equals]
      rw [same, Multiset.count_dedup]
      by_cases present : some value ∈ rows.map key
      · simp [present, padded, groupOf]
      · simp [present, padded, groupOf]

theorem groupOf_some (key : α → Option κ) (summary : Option κ → Multiset α → γ) (rows : Multiset α)
    (value : κ) : groupOf key summary rows (some value) =
      if (rows.filter fun row => key row = some value).card = 0 then none
      else some (summary (some value) (rows.filter fun row => key row = some value)) := by
  have present : some value ∈ rows.map key ↔
      ¬ (rows.filter fun row => key row = some value).card = 0 := by
    rw [Multiset.card_eq_zero, Multiset.filter_eq_nil, Multiset.mem_map]
    simp only [not_forall, not_not, exists_prop]
  unfold groupOf
  simp only [Option.isSome_some, true_and, present, ite_not]

theorem groupOf_congr {rows rows' : Multiset α} {value : κ}
    (same : (rows.filter fun row => key row = some value) =
      rows'.filter fun row => key row = some value) :
    groupOf key summary rows (some value) = groupOf key summary rows' (some value) := by
  rw [groupOf_some, groupOf_some, same]

theorem getD_groupOf (count : γ → Nat) (measure : Multiset α → Nat)
    (counted : ∀ value group, count (summary value group) = measure group) (empty : measure 0 = 0)
    (rows : Multiset α) (value : κ) :
    ((groupOf key summary rows (some value)).map count).getD 0 =
      measure (rows.filter fun row => key row = some value) := by
  rw [groupOf_some]
  split
  next none =>
    rw [Multiset.card_eq_zero.mp none, empty]
    rfl
  next => exact counted _ _

theorem leftJoin_groupBy (named : ∀ value group, column (summary value group) = value)
    (left : Multiset β) (foreign : β → Option κ) (rows : Multiset α) :
    (leftJoin left (groupBy key summary rows) fun row group =>
      equals (foreign row) (column group)) =
      left.map fun row => (row, groupOf key summary rows (foreign row)) := by
  unfold leftJoin
  rw [← Multiset.bind_singleton]
  refine Multiset.bind_congr fun row _ => ?_
  rw [partners_groupBy named, Multiset.map_singleton]

end JoinedGroups

/-! ## Windows -/

/-- `order by value desc nulls last`. -/
def nullsLast {α : Type u} (value : Option α) : WithBot α := value

section Windows

variable {α : Type u} {κ : Type v} {ρ : Type w}

/-- `row_number() over (partition by name order by rank desc) = 1`, whichever of the rows that
tie for the first place are kept. -/
structure IsFirsts [LE ρ] (name : α → κ) (rank : α → ρ) (rows kept : Multiset α) : Prop where
  mem : ∀ row ∈ kept, row ∈ rows
  unique : (kept.map name).Nodup
  covers : ∀ row ∈ rows, ∃ first ∈ kept, name first = name row
  first : ∀ first ∈ kept, ∀ row ∈ rows, name row = name first → rank row ≤ rank first

/-- The rows that a window query may keep. -/
structure Firsts [LE ρ] (name : α → κ) (rank : α → ρ) (rows : Multiset α) where
  kept : Multiset α
  isFirsts : IsFirsts name rank rows kept

variable {name : α → κ} {rank : α → ρ}

section Preorder

variable [Preorder ρ] {rows rows' kept kept' : Multiset α}

theorem IsFirsts.of_mem_iff (same : ∀ row, row ∈ rows ↔ row ∈ rows')
    (isFirsts : IsFirsts name rank rows kept) : IsFirsts name rank rows' kept where
  mem row member := (same row).mp (isFirsts.mem row member)
  unique := isFirsts.unique
  covers row member := isFirsts.covers row ((same row).mpr member)
  first first inKept row member := isFirsts.first first inKept row ((same row).mpr member)

theorem IsFirsts.of_nodup (unique : (rows.map name).Nodup) : IsFirsts name rank rows rows where
  mem _ member := member
  unique := unique
  covers row member := ⟨row, member, rfl⟩
  first first member row inRows same := by
    rw [Multiset.inj_on_of_nodup_map unique row inRows first member same]

theorem IsFirsts.eq_of_name_eq (isFirsts : IsFirsts name rank rows kept) {first second : α}
    (inKept : first ∈ kept) (alsoKept : second ∈ kept) (same : name first = name second) :
    first = second :=
  Multiset.inj_on_of_nodup_map isFirsts.unique first inKept second alsoKept same

theorem IsFirsts.mem_names (isFirsts : IsFirsts name rank rows kept) {value : κ} :
    value ∈ kept.map name ↔ value ∈ rows.map name := by
  simp only [Multiset.mem_map]
  constructor
  · rintro ⟨row, inKept, rfl⟩
    exact ⟨row, isFirsts.mem row inKept, rfl⟩
  · rintro ⟨row, member, rfl⟩
    exact isFirsts.covers row member

theorem IsFirsts.mem_of_greatest {first : α} (isFirsts : IsFirsts name rank (first ::ₘ rows) kept)
    (greatest : ∀ row ∈ rows, name row = name first → rank row < rank first) : first ∈ kept := by
  have inRows := Multiset.mem_cons_self first rows
  obtain ⟨row, inKept, same⟩ := isFirsts.covers first inRows
  rcases Multiset.mem_cons.mp (isFirsts.mem row inKept) with rfl | older
  · exact inKept
  · exact absurd (isFirsts.first row inKept first inRows same.symm)
      (greatest row older same).not_ge

/-- Without a row that was kept, the window may keep the row that was before the others. -/
theorem IsFirsts.swap {first latest : α} {rest : Multiset α}
    (isFirsts : IsFirsts name rank (latest ::ₘ rows) (latest ::ₘ rest)) (member : first ∈ rows)
    (same : name first = name latest)
    (greatest : ∀ row ∈ rows, name row = name first → rank row ≤ rank first) :
    IsFirsts name rank rows (first ::ₘ rest) where
  mem row inKept := by
    rcases Multiset.mem_cons.mp inKept with rfl | inRest
    · exact member
    · rcases Multiset.mem_cons.mp (isFirsts.mem row (Multiset.mem_cons_of_mem inRest)) with
        rfl | inRows
      · have distinct := isFirsts.unique
        rw [Multiset.map_cons, Multiset.nodup_cons] at distinct
        exact absurd (Multiset.mem_map_of_mem name inRest) distinct.1
      · exact inRows
  unique := by
    rw [Multiset.map_cons, same, ← Multiset.map_cons]
    exact isFirsts.unique
  covers row inRows := by
    obtain ⟨kept, inKept, named⟩ := isFirsts.covers row (Multiset.mem_cons_of_mem inRows)
    rcases Multiset.mem_cons.mp inKept with rfl | inRest
    · exact ⟨first, Multiset.mem_cons_self first rest, same.trans named⟩
    · exact ⟨kept, Multiset.mem_cons_of_mem inRest, named⟩
  first kept inKept row inRows named := by
    rcases Multiset.mem_cons.mp inKept with rfl | inRest
    · exact greatest row inRows named
    · exact isFirsts.first kept (Multiset.mem_cons_of_mem inRest) row
        (Multiset.mem_cons_of_mem inRows) named

theorem IsFirsts.map_name_eq (isFirsts : IsFirsts name rank rows kept)
    (isFirsts' : IsFirsts name rank rows' kept')
    (names : ∀ value, value ∈ rows.map name ↔ value ∈ rows'.map name) :
    kept.map name = kept'.map name :=
  (Multiset.Nodup.ext isFirsts.unique isFirsts'.unique).mpr fun found =>
    isFirsts.mem_names.trans ((names found).trans isFirsts'.mem_names.symm)

/-- Two windows over the same partitions give the same values, when a value does not depend on
which row of a partition is kept. -/
theorem IsFirsts.filterMap_eq {β : Type*} (isFirsts : IsFirsts name rank rows kept)
    (isFirsts' : IsFirsts name rank rows' kept')
    (names : ∀ value, value ∈ rows.map name ↔ value ∈ rows'.map name) {value : α → Option β}
    (agree : ∀ row ∈ kept, ∀ row' ∈ kept', name row = name row' → value row = value row') :
    kept.filterMap value = kept'.filterMap value := by
  classical
  have sameNames := isFirsts.map_name_eq isFirsts' names
  -- the value of a partition, whichever row of `kept` it has
  let ofName (found : κ) : Option β :=
    if present : ∃ row ∈ kept, name row = found then value present.choose else none
  have ofKept (row : α) (member : row ∈ kept) : ofName (name row) = value row := by
    have present : ∃ other ∈ kept, name other = name row := ⟨row, member, rfl⟩
    simp only [ofName, dif_pos present]
    rw [isFirsts.eq_of_name_eq present.choose_spec.1 member present.choose_spec.2]
  have ofKept' (row' : α) (member : row' ∈ kept') : ofName (name row') = value row' := by
    have named := sameNames.symm ▸ Multiset.mem_map_of_mem name member
    obtain ⟨row, inKept, same⟩ := Multiset.mem_map.mp named
    rw [← same, ofKept row inKept]
    exact agree row inKept row' member same
  calc
    kept.filterMap value = kept.filterMap (ofName ∘ name) :=
      filterMap_congr fun row member => (ofKept row member).symm
    _ = (kept.map name).filterMap ofName := (Multiset.filterMap_map _ _ _).symm
    _ = (kept'.map name).filterMap ofName := by rw [sameNames]
    _ = kept'.filterMap (ofName ∘ name) := Multiset.filterMap_map _ _ _
    _ = kept'.filterMap value := filterMap_congr fun row member => ofKept' row member

end Preorder

/-- Every window query has an answer. -/
theorem exists_isFirsts [LinearOrder ρ] (name : α → κ) (rank : α → ρ) (rows : Multiset α) :
    ∃ kept, IsFirsts name rank rows kept := by
  classical
  have some_first (value : κ) (present : value ∈ (rows.map name).dedup) :
      ∃ first ∈ rows, name first = value ∧
        ∀ row ∈ rows, name row = value → rank row ≤ rank first := by
    obtain ⟨row, member, named⟩ := Multiset.mem_map.mp (Multiset.mem_dedup.mp present)
    obtain ⟨first, inPartition, greatest⟩ :=
      (rows.filter fun row => name row = value).toFinset.exists_max_image rank
        ⟨row, Multiset.mem_toFinset.mpr (Multiset.mem_filter.mpr ⟨member, named⟩)⟩
    simp only [Multiset.mem_toFinset, Multiset.mem_filter] at inPartition greatest
    exact ⟨first, inPartition.1, inPartition.2, fun row member same => greatest row ⟨member, same⟩⟩
  choose first inRows named greatest using some_first
  refine ⟨(rows.map name).dedup.attach.map fun value => first value.1 value.2, ?_, ?_, ?_, ?_⟩
  · intro row member
    obtain ⟨value, -, rfl⟩ := Multiset.mem_map.mp member
    exact inRows _ _
  · have names : ((rows.map name).dedup.attach.map fun value => first value.1 value.2).map name =
        (rows.map name).dedup := by
      rw [Multiset.map_map]
      exact (Multiset.map_congr rfl fun value _ => named _ _).trans (Multiset.attach_map_val _)
    rw [names]
    exact Multiset.nodup_dedup _
  · intro row member
    have present := Multiset.mem_dedup.mpr (Multiset.mem_map_of_mem name member)
    exact ⟨first _ present, Multiset.mem_map.mpr ⟨⟨_, present⟩, Multiset.mem_attach _ _, rfl⟩,
      named _ present⟩
  · intro kept member row inBag same
    obtain ⟨value, -, rfl⟩ := Multiset.mem_map.mp member
    exact greatest _ _ row inBag (same.trans (named _ _))

instance [LinearOrder ρ] {rows : Multiset α} : Nonempty (Firsts name rank rows) := by
  obtain ⟨kept, isFirsts⟩ := exists_isFirsts name rank rows
  exact ⟨⟨kept, isFirsts⟩⟩

/-! ### Ties -/

/-- No row of the same partition is ranked before the row. -/
structure IsForemost [LE ρ] (name : α → κ) (rank : α → ρ) (rows : Multiset α) (row : α) : Prop where
  mem : row ∈ rows
  first : ∀ other ∈ rows, name other = name row → rank other ≤ rank row

theorem IsFirsts.isForemost [LE ρ] {rows kept : Multiset α} (isFirsts : IsFirsts name rank rows kept)
    {first : α} (inKept : first ∈ kept) : IsForemost name rank rows first :=
  ⟨isFirsts.mem first inKept, isFirsts.first first inKept⟩

theorem IsForemost.of_le [Preorder ρ] {rows : Multiset α} {row other : α}
    (foremost : IsForemost name rank rows row) (member : other ∈ rows) (same : name other = name row)
    (ranked : rank row ≤ rank other) : IsForemost name rank rows other where
  mem := member
  first another alsoMember named :=
    (foremost.first another alsoMember (named.trans same)).trans ranked

/-- A window may keep any of the foremost rows. -/
theorem IsForemost.exists_isFirsts [LinearOrder ρ] {rows : Multiset α} {row : α}
    (foremost : IsForemost name rank rows row) :
    ∃ kept, IsFirsts name rank rows kept ∧ row ∈ kept := by
  classical
  obtain ⟨kept, isFirsts⟩ := Bag.exists_isFirsts name rank rows
  refine ⟨row ::ₘ kept.filter fun other => name other ≠ name row, ⟨?_, ?_, ?_, ?_⟩,
    Multiset.mem_cons_self _ _⟩
  · intro other member
    rcases Multiset.mem_cons.mp member with rfl | inKept
    · exact foremost.mem
    · exact isFirsts.mem other (Multiset.mem_of_mem_filter inKept)
  · rw [Multiset.map_cons, Multiset.nodup_cons]
    refine ⟨fun member => ?_,
      Multiset.nodup_of_le (Multiset.map_le_map (Multiset.filter_le _ _)) isFirsts.unique⟩
    obtain ⟨other, inKept, same⟩ := Multiset.mem_map.mp member
    exact (Multiset.mem_filter.mp inKept).2 same
  · intro other member
    by_cases same : name other = name row
    · exact ⟨row, Multiset.mem_cons_self _ _, same.symm⟩
    · obtain ⟨first, inKept, named⟩ := isFirsts.covers other member
      exact ⟨first, Multiset.mem_cons_of_mem (Multiset.mem_filter.mpr ⟨inKept, named.symm ▸ same⟩),
        named⟩
  · intro first member other inRows named
    rcases Multiset.mem_cons.mp member with rfl | inKept
    · exact foremost.first other inRows named
    · exact isFirsts.first first (Multiset.mem_of_mem_filter inKept) other inRows named

theorem map_kept_eq_iff [LinearOrder ρ] {β : Type*} {rows : Multiset α} {project : α → β}
    {column : β → κ} (named : ∀ row ∈ rows, name row = column (project row)) :
    (∀ kept kept', IsFirsts name rank rows kept → IsFirsts name rank rows kept' →
      kept.map project = kept'.map project) ↔
      ∀ row row', IsForemost name rank rows row → IsForemost name rank rows row' →
        name row = name row' → project row = project row' := by
  constructor
  · intro alike row row' foremost foremost' same
    obtain ⟨kept, isFirsts, inKept⟩ := foremost.exists_isFirsts
    obtain ⟨kept', isFirsts', inKept'⟩ := foremost'.exists_isFirsts
    have shown := alike kept kept' isFirsts isFirsts' ▸ Multiset.mem_map_of_mem project inKept
    obtain ⟨other, alsoKept, looks⟩ := Multiset.mem_map.mp shown
    have isOther : other = row' := by
      refine isFirsts'.eq_of_name_eq alsoKept inKept' ?_
      rw [named other (isFirsts'.mem other alsoKept), looks, ← named row foremost.mem, same]
    exact looks.symm.trans (congrArg project isOther)
  · intro alike kept kept' isFirsts isFirsts'
    have same : kept.filterMap (some ∘ project) = kept'.filterMap (some ∘ project) :=
      isFirsts.filterMap_eq isFirsts' (fun _ => Iff.rfl) fun row inKept row' inKept' named =>
        congrArg some
          (alike row row' (isFirsts.isForemost inKept) (isFirsts'.isForemost inKept') named)
    rwa [Multiset.filterMap_eq_map] at same

theorem kept_eq_iff [LinearOrder ρ] {rows : Multiset α} :
    (∀ kept kept', IsFirsts name rank rows kept → IsFirsts name rank rows kept' → kept = kept') ↔
      ∀ row row', IsForemost name rank rows row → IsForemost name rank rows row' →
        name row = name row' → row = row' := by
  have shown := @map_kept_eq_iff _ _ _ name rank _ _ rows id name fun _ _ => rfl
  simpa only [id_eq, Multiset.map_id'] using shown

end Windows

/-! ## Aggregates -/

section Aggregates

variable {α : Type u}

/-- `count(*) filter (where condition)`. -/
def countWhere (condition : α → Truth) (rows : Multiset α) : Nat :=
  (rows.filter fun row => (condition row).holds).card

/-- The values that `filter (where condition)` lets into an aggregate. -/
def valuesWhere {β : Type v} (condition : α → Truth) (value : α → β) (rows : Multiset α) :
    Multiset β :=
  (rows.filter fun row => (condition row).holds).map value

/-- `max`, of the values that are not missing. -/
def maxOf [LinearOrder α] (values : Multiset (Option α)) : Option α :=
  values.fold (Option.merge max) none

theorem maxOf_eq_none [LinearOrder α] {values : Multiset (Option α)} :
    maxOf values = none ↔ ∀ value ∈ values, value = none := by
  induction values using Multiset.induction_on with
  | empty => simp [maxOf]
  | cons value values ih =>
      rw [Multiset.forall_mem_cons, ← ih, maxOf, Multiset.fold_cons_left, ← maxOf]
      cases value <;> cases maxOf values <;> simp

theorem maxOf_eq_some [LinearOrder α] {values : Multiset (Option α)} {greatest : α} :
    maxOf values = some greatest ↔
      some greatest ∈ values ∧ ∀ value, some value ∈ values → value ≤ greatest := by
  induction values using Multiset.induction_on generalizing greatest with
  | empty => simp [maxOf]
  | cons head values ih =>
      rw [maxOf, Multiset.fold_cons_left, ← maxOf]
      simp only [Multiset.mem_cons]
      cases head with
      | none => simp [ih]
      | some first =>
          cases rest : maxOf values with
          | none =>
              have missing := maxOf_eq_none.mp rest
              have absent (value : α) : some value ∉ values := fun member =>
                nomatch missing _ member
              simp only [Option.merge_none_right, Option.some.injEq, absent, or_false]
              constructor
              · rintro rfl
                exact ⟨rfl, fun value same => same.le⟩
              · exact fun both => both.1.symm
          | some second =>
              obtain ⟨member, upper⟩ := ih.mp rest
              simp only [Option.merge_some_some, Option.some.injEq]
              constructor
              · rintro rfl
                refine ⟨?_, ?_⟩
                · rcases max_choice first second with isFirst | isSecond
                  · exact .inl isFirst
                  · exact .inr (isSecond.symm ▸ member)
                · rintro value (rfl | inRest)
                  · exact le_max_left _ _
                  · exact (upper value inRest).trans (le_max_right _ _)
              · rintro ⟨isGreatest, above⟩
                refine le_antisymm (max_le (above first (.inl rfl)) (above second (.inr member))) ?_
                rcases isGreatest with rfl | inRest
                · exact le_max_left _ _
                · exact (upper greatest inRest).trans (le_max_right _ _)

/-- `min`, of the values that are not missing. -/
def minOf [LinearOrder α] (values : Multiset (Option α)) : Option α :=
  values.fold (Option.merge min) none

/-- `sum`, of the values that are not missing. -/
def sumOf [AddCommMonoid α] (values : Multiset (Option α)) : Option α :=
  values.fold (Option.merge (· + ·)) none

/-- `bool_or`, of the values that are not missing. -/
def boolOr (values : Multiset Truth) : Truth := values.fold (Option.merge (· || ·)) none

theorem holds_boolOr {values : Multiset Truth} :
    (boolOr values).holds ↔ some true ∈ values := by
  induction values using Multiset.induction_on with
  | empty => simp [boolOr, Truth.holds]
  | cons value values ih =>
      rw [boolOr, Multiset.fold_cons_left, Multiset.mem_cons, ← ih, boolOr]
      generalize values.fold (Option.merge (· || ·)) none = rest
      rcases value with _ | _ | _ <;> rcases rest with _ | _ | _ <;> decide

end Aggregates

end Bag
