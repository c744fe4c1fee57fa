import PaymentsPlatform.Library.Dict
import PaymentsPlatform.Library.Json

/-!
# Documents

XML elements, found by their names, and JSON values, found by a path of member names.  A path that
meets an array or a text finds nothing.
-/

/-! ## XML -/

namespace Xml

/-- An element with its namespace and local name; a missing text is empty. -/
inductive Element where
  | node (uri localName : String) (attributes : List (String × String)) (text : String)
      (children : List Element)

namespace Element

def uri : Element → String
  | node uri _ _ _ _ => uri

def localName : Element → String
  | node _ localName _ _ _ => localName

def attributes : Element → List (String × String)
  | node _ _ attributes _ _ => attributes

def text : Element → String
  | node _ _ _ text _ => text

def children : Element → List Element
  | node _ _ _ _ children => children

mutual

/-- The element and those inside it, in document order. -/
def iter : Element → List Element
  | node uri localName attributes text children =>
      node uri localName attributes text children :: iterAll children

def iterAll : List Element → List Element
  | [] => []
  | element :: rest => element.iter ++ iterAll rest

end

/-- The elements inside an element. -/
def descendants (element : Element) : List Element := iterAll element.children

/-- The children with a local name. -/
def named (element : Element) (name : String) : List Element :=
  element.children.filter fun child => child.localName = name

/-- The child with a local name, if it is the only one. -/
def only (element : Element) (name : String) : Option Element :=
  match element.named name with
  | [child] => some child
  | _ => none

theorem named_of_only {element child : Element} {name : String}
    (found : element.only name = some child) : element.named name = [child] := by
  unfold only at found
  split at found
  next single =>
    cases found
    exact single
  next => cases found

@[elab_as_elim]
theorem childrenInduction {motive : Element → Prop}
    (node : ∀ element, (∀ child ∈ element.children, motive child) → motive element)
    (element : Element) : motive element := by
  apply Element.rec (motive_1 := motive) (motive_2 := fun children => ∀ child ∈ children, motive child)
  · intro uri localName attributes text children ih
    exact node _ ih
  · simp
  · intro child rest ofChild ofRest
    simpa using ⟨ofChild, ofRest⟩

theorem mem_iterAll {element : Element} {elements : List Element} :
    element ∈ iterAll elements ↔ ∃ root ∈ elements, element ∈ root.iter := by
  induction elements with
  | nil => simp [iterAll]
  | cons root rest ih => simp [iterAll, ih]

theorem mem_iter {inside element : Element} :
    inside ∈ element.iter ↔ inside = element ∨ inside ∈ element.descendants := by
  cases element with
  | node uri localName attributes text children => simp [iter, descendants, Element.children]

end Element

end Xml

/-! ## JSON -/

namespace Json

def member (name : String) : Json → Option Json
  | object members => Dict.find name members
  | _ => none

/-- The value at the end of a path of members. -/
def follow : List String → Json → Option Json
  | [], value => some value
  | name :: path, value => (value.member name).bind (follow path)

theorem follow_of_member {name : String} {path : List String} {value inner : Json}
    (found : value.member name = some inner) :
    follow (name :: path) value = follow path inner := by
  rw [follow, found, Option.bind_some]

/-! ### Equality -/

theorem lookup_eq_find {Value : Type} (key : String) (members : List (String × Value)) :
    members.lookup key = Dict.find key members := by
  induction members with
  | nil => rfl
  | cons member rest ih =>
      obtain ⟨known, value⟩ := member
      rw [List.lookup_cons, Dict.find, ih]
      by_cases same : known = key
      · simp [same]
      · rw [if_neg same, beq_false_of_ne (Ne.symm same)]

theorem eqElements_iff {elements others : List Json} :
    eqElements elements others = true ↔
      List.Forall₂ (fun element other => element.eq other = true) elements others := by
  induction elements generalizing others with
  | nil => cases others <;> simp [eqElements]
  | cons element rest ih =>
      cases others <;> simp [eqElements, ih]

theorem eqMembers_iff {members others : List (String × Json)} :
    eqMembers members others = true ↔ ∀ member ∈ members,
      ∃ other, Dict.find member.1 others = some other ∧ member.2.eq other = true := by
  induction members with
  | nil => simp [eqMembers]
  | cons member rest ih =>
      obtain ⟨key, value⟩ := member
      rw [eqMembers, Bool.and_eq_true, ih, List.forall_mem_cons, lookup_eq_find]
      cases Dict.find key others <;> simp

/-- Objects are equal when they have equal members for every name. -/
theorem eq_object_iff {members others : List (String × Json)}
    (distinct : (members.map Prod.fst).Nodup) (distinctOthers : (others.map Prod.fst).Nodup) :
    eq (object members) (object others) = true ↔ ∀ name,
      Option.Rel (fun value other => value.eq other = true)
        (Dict.find name members) (Dict.find name others) := by
  rw [eq, Bool.and_eq_true, decide_eq_true_eq, eqMembers_iff]
  constructor
  · rintro ⟨length, all⟩ name
    have subset : members.map Prod.fst ⊆ others.map Prod.fst := by
      intro key listed
      obtain ⟨member, inMembers, rfl⟩ := List.mem_map.mp listed
      obtain ⟨other, found, -⟩ := all member inMembers
      exact List.mem_map.mpr ⟨_, Dict.mem_of_find found, rfl⟩
    have keys : (members.map Prod.fst).Perm (others.map Prod.fst) :=
      (List.subperm_of_subset distinct subset).perm_of_length_le (by simp [length])
    cases found : Dict.find name members with
    | some value =>
        obtain ⟨other, foundOther, same⟩ := all _ (Dict.mem_of_find found)
        rw [foundOther]
        exact .some same
    | none =>
        rw [Dict.find_eq_none.mpr fun listed =>
          Dict.find_eq_none.mp found (keys.mem_iff.mpr listed)]
        exact .none
  · intro all
    have keys : (members.map Prod.fst).Perm (others.map Prod.fst) := by
      apply (List.perm_ext_iff_of_nodup distinct distinctOthers).mpr
      intro name
      rw [← not_iff_not, ← Dict.find_eq_none, ← Dict.find_eq_none]
      have related := all name
      revert related
      cases Dict.find name members <;> cases Dict.find name others <;> simp
    refine ⟨by simpa using keys.length_eq, ?_⟩
    intro member listed
    have related := all member.1
    rw [Dict.find_of_mem distinct listed] at related
    cases found : Dict.find member.1 others with
    | none => rw [found] at related; cases related
    | some other =>
        rw [found] at related
        cases related with
        | some same => exact ⟨other, rfl, same⟩

end Json
