import Mathlib.Data.List.Induction
import Mathlib.Data.List.Nodup

/-!
# Dictionaries

A dictionary lists its items in the order in which their keys were first set;
setting a key again keeps its place.  The keys are distinct by construction.
-/

universe u v

structure Dict (Key : Type u) (Value : Type v) where
  items : List (Key × Value)
  distinct : (items.map Prod.fst).Nodup

namespace Dict

variable {Key : Type u} {Value : Type v}

@[ext]
theorem ext {first second : Dict Key Value} (same : first.items = second.items) :
    first = second := by
  cases first
  cases second
  cases same
  rfl

def empty : Dict Key Value := ⟨[], List.nodup_nil⟩

@[simp]
theorem items_empty : (empty : Dict Key Value).items = [] := rfl

def keys (dict : Dict Key Value) : List Key := dict.items.map Prod.fst

def values (dict : Dict Key Value) : List Value := dict.items.map Prod.snd

variable [DecidableEq Key]

section Items

/-- The value of the first item with the key. -/
def find (key : Key) : List (Key × Value) → Option Value
  | [] => none
  | (known, value) :: rest => if known = key then some value else find key rest

/-- The items with the value of the key replaced, or with the key at the end. -/
def put (key : Key) (value : Value) : List (Key × Value) → List (Key × Value)
  | [] => [(key, value)]
  | (known, old) :: rest =>
      if known = key then (known, value) :: rest else (known, old) :: put key value rest

variable {items : List (Key × Value)} {key : Key} {value : Value}

theorem mem_of_find (found : find key items = some value) : (key, value) ∈ items := by
  induction items with
  | nil => simp [find] at found
  | cons item rest ih =>
      obtain ⟨known, old⟩ := item
      unfold find at found
      split at found
      next same =>
        cases found
        rw [same]
        exact List.mem_cons_self
      next => exact List.mem_cons_of_mem _ (ih found)

theorem find_of_mem (distinct : (items.map Prod.fst).Nodup) (listed : (key, value) ∈ items) :
    find key items = some value := by
  induction items with
  | nil => simp at listed
  | cons item rest ih =>
      obtain ⟨known, old⟩ := item
      obtain ⟨fresh, restDistinct⟩ := List.nodup_cons.mp distinct
      rcases List.mem_cons.mp listed with
        same | inRest
      · cases same
        simp [find]
      · have other : known ≠ key := by
          rintro rfl
          exact fresh (List.mem_map.mpr ⟨_, inRest, rfl⟩)
        rw [find, if_neg other]
        exact ih restDistinct inRest

theorem find_eq_none : find key items = none ↔ key ∉ items.map Prod.fst := by
  induction items with
  | nil => simp [find]
  | cons item rest ih =>
      obtain ⟨known, old⟩ := item
      by_cases same : known = key
      · simp [find, same]
      · simp [find, same, Ne.symm same, ih]

theorem find_put (wanted : Key) :
    find wanted (put key value items) = if key = wanted then some value else find wanted items := by
  induction items with
  | nil => simp [put, find]
  | cons item rest ih =>
      obtain ⟨known, old⟩ := item
      unfold put
      by_cases present : known = key
      · subst present
        by_cases same : known = wanted <;> simp [find, same]
      · rw [if_neg present, find, find, ih]
        by_cases same : known = wanted
        · subst same
          simp [Ne.symm present]
        · simp [same]

theorem keys_put : (put key value items).map Prod.fst =
    if key ∈ items.map Prod.fst then items.map Prod.fst else items.map Prod.fst ++ [key] := by
  induction items with
  | nil => simp [put]
  | cons item rest ih =>
      obtain ⟨known, old⟩ := item
      unfold put
      by_cases present : known = key
      · simp [present]
      · rw [if_neg present, List.map_cons, ih]
        by_cases later : key ∈ rest.map Prod.fst <;> simp [later, Ne.symm present]

theorem put_of_fresh (fresh : key ∉ items.map Prod.fst) :
    put key value items = items ++ [(key, value)] := by
  induction items with
  | nil => rfl
  | cons item rest ih =>
      obtain ⟨known, old⟩ := item
      rw [List.map_cons, List.mem_cons, not_or] at fresh
      rw [put, if_neg (Ne.symm fresh.1), ih fresh.2, List.cons_append]

theorem nodup_put (distinct : (items.map Prod.fst).Nodup) :
    ((put key value items).map Prod.fst).Nodup := by
  rw [keys_put]
  split
  next => exact distinct
  next fresh =>
    rw [List.nodup_append]
    refine ⟨distinct, List.nodup_singleton _, ?_⟩
    rintro known listed _ single rfl
    exact fresh (List.mem_singleton.mp single ▸ listed)

end Items

/-- `dict.get(key)`. -/
def get? (dict : Dict Key Value) (key : Key) : Option Value := find key dict.items

/-- `dict[key] = value`. -/
def set (dict : Dict Key Value) (key : Key) (value : Value) : Dict Key Value where
  items := put key value dict.items
  distinct := nodup_put dict.distinct

/-- The items that meet a condition. -/
def filter (dict : Dict Key Value) (condition : Key → Value → Bool) : Dict Key Value where
  items := dict.items.filter fun item => condition item.1 item.2
  distinct := dict.distinct.sublist (List.filter_sublist.map Prod.fst)

/-- `{key: value for key, value in items}`. -/
def ofList (items : List (Key × Value)) : Dict Key Value :=
  items.foldl (fun dict item => dict.set item.1 item.2) empty

variable {dict : Dict Key Value} {key : Key} {value : Value}

theorem mem_items : (key, value) ∈ dict.items ↔ dict.get? key = some value :=
  ⟨find_of_mem dict.distinct, mem_of_find⟩

theorem get?_eq_none : dict.get? key = none ↔ key ∉ dict.keys := find_eq_none

@[simp]
theorem get?_empty (key : Key) : (empty : Dict Key Value).get? key = none := rfl

theorem get?_set (wanted : Key) : (dict.set key value).get? wanted =
    if key = wanted then some value else dict.get? wanted := find_put wanted

@[simp]
theorem get?_set_self : (dict.set key value).get? key = some value := by simp [get?_set]

theorem get?_set_of_ne {wanted : Key} (distinct : key ≠ wanted) :
    (dict.set key value).get? wanted = dict.get? wanted := by simp [get?_set, distinct]

theorem items_set_of_fresh (fresh : dict.get? key = none) :
    (dict.set key value).items = dict.items ++ [(key, value)] :=
  put_of_fresh (find_eq_none.mp fresh)

theorem get?_filter (condition : Key → Value → Bool) (wanted : Key) :
    (dict.filter condition).get? wanted = (dict.get? wanted).filter (condition wanted) := by
  apply Option.ext
  intro value
  rw [← mem_items, filter, List.mem_filter, mem_items, Option.filter_eq_some_iff]

section Filter

variable {condition : Key → Value → Bool}

theorem filter_set_of_kept (kept : condition key value = true)
    (before : ∀ old, dict.get? key = some old → condition key old = true) :
    (dict.set key value).filter condition = (dict.filter condition).set key value := by
  apply Dict.ext
  obtain ⟨items, distinct⟩ := dict
  simp only [filter, set, get?] at before ⊢
  clear distinct
  induction items with
  | nil => simp [put, kept]
  | cons item rest ih =>
      obtain ⟨known, old⟩ := item
      simp only [put, find] at before ⊢
      by_cases same : known = key
      · subst same
        have wasKept := before old (by simp)
        simp [kept, wasKept, put]
      · rw [if_neg same] at before
        rw [if_neg same, List.filter_cons, List.filter_cons, ih before]
        split
        · rw [put, if_neg same]
        · rfl

theorem filter_set_of_dropped (dropped : condition key value = false)
    (before : ∀ old, dict.get? key = some old → condition key old = false) :
    (dict.set key value).filter condition = dict.filter condition := by
  apply Dict.ext
  obtain ⟨items, distinct⟩ := dict
  simp only [filter, set, get?] at before ⊢
  clear distinct
  induction items with
  | nil => simp [put, dropped]
  | cons item rest ih =>
      obtain ⟨known, old⟩ := item
      simp only [put, find] at before ⊢
      by_cases same : known = key
      · subst same
        have wasDropped := before old (by simp)
        simp [dropped, wasDropped]
      · rw [if_neg same] at before
        rw [if_neg same, List.filter_cons, List.filter_cons, ih before]

omit [DecidableEq Key] in
theorem filter_comm (other : Key → Value → Bool) :
    (dict.filter condition).filter other = (dict.filter other).filter condition := by
  apply Dict.ext
  exact List.filter_comm _ _ _

omit [DecidableEq Key] in
theorem values_filter (keep : Value → Bool) :
    (dict.filter fun _ value => keep value).values = dict.values.filter keep := by
  rw [values, values, List.filter_map]
  rfl

theorem items_perm_of_get? {other : Dict Key Value}
    (same : ∀ key value, dict.get? key = some value ↔ other.get? key = some value) :
    dict.items.Perm other.items := by
  apply (List.perm_ext_iff_of_nodup dict.distinct.of_map other.distinct.of_map).mpr
  rintro ⟨key, value⟩
  rw [mem_items, mem_items]
  exact same key value

end Filter

section Map

variable {Other : Type v}

/-- Every value changed, at its place. -/
def map (dict : Dict Key Value) (change : Key → Value → Other) : Dict Key Other where
  items := dict.items.map fun item => (item.1, change item.1 item.2)
  distinct := by
    rw [List.map_map]
    exact dict.distinct

omit [DecidableEq Key] in
theorem mem_items_map {change : Key → Value → Other} {other : Other} :
    (key, other) ∈ (dict.map change).items ↔
      ∃ value, (key, value) ∈ dict.items ∧ change key value = other := by
  simp [map]

theorem get?_map (change : Key → Value → Other) (wanted : Key) :
    (dict.map change).get? wanted = (dict.get? wanted).map (change wanted) := by
  apply Option.ext
  intro other
  rw [← mem_items, mem_items_map, Option.map_eq_some_iff]
  simp only [mem_items]

theorem map_set (change : Key → Value → Other) :
    (dict.set key value).map change = (dict.map change).set key (change key value) := by
  apply Dict.ext
  obtain ⟨items, distinct⟩ := dict
  simp only [map, set]
  clear distinct
  induction items with
  | nil => rfl
  | cons item rest ih =>
      obtain ⟨known, old⟩ := item
      simp only [put, List.map_cons]
      by_cases same : known = key
      · simp [same]
      · simpa [same] using ih

end Map

section OfList

variable {items : List (Key × Value)}

theorem get?_foldl_set (dict : Dict Key Value) (wanted : Key) :
    (items.foldl (fun dict item => dict.set item.1 item.2) dict).get? wanted =
      (find wanted items.reverse).or (dict.get? wanted) := by
  induction items using List.reverseRecOn generalizing dict with
  | nil => simp [find]
  | append_singleton earlier item ih =>
      rw [List.foldl_append, List.foldl_cons, List.foldl_nil, get?_set, ih,
        List.reverse_append, List.reverse_singleton, List.singleton_append]
      by_cases same : item.1 = wanted <;> simp [find, same]

theorem get?_ofList (wanted : Key) : (ofList items).get? wanted = find wanted items.reverse := by
  rw [ofList, get?_foldl_set, get?_empty, Option.or_none]

theorem mem_of_get?_ofList (found : (ofList items).get? key = some value) :
    (key, value) ∈ items := by
  rw [get?_ofList] at found
  exact List.mem_reverse.mp (mem_of_find found)

theorem items_ofList_of_nodup (distinct : (items.map Prod.fst).Nodup) :
    (ofList items).items = items := by
  induction items using List.reverseRecOn with
  | nil => rfl
  | append_singleton earlier item ih =>
      rw [List.map_append, List.nodup_append] at distinct
      obtain ⟨distinct, -, apart⟩ := distinct
      have fresh : (ofList earlier).get? item.1 = none := by
        rw [get?_ofList, find_eq_none, List.map_reverse, List.mem_reverse]
        intro listed
        exact apart item.1 listed item.1 List.mem_cons_self rfl
      have last : ofList (earlier ++ [item]) = (ofList earlier).set item.1 item.2 := by
        rw [ofList, List.foldl_append]
        rfl
      rw [last, items_set_of_fresh fresh, ih distinct]

theorem isSome_get?_ofList : ((ofList items).get? key).isSome ↔ key ∈ items.map Prod.fst := by
  rw [get?_ofList, ← Option.ne_none_iff_isSome, ne_eq, find_eq_none, not_not, List.map_reverse,
    List.mem_reverse]

theorem get?_ofList_of_nodup (distinct : (items.map Prod.fst).Nodup) :
    (ofList items).get? key = some value ↔ (key, value) ∈ items := by
  constructor
  · exact mem_of_get?_ofList
  · intro listed
    rw [get?_ofList]
    apply find_of_mem
    · rwa [List.map_reverse, List.nodup_reverse]
    · exact List.mem_reverse.mpr listed

end OfList

end Dict
