import PaymentsPlatform.Ingestion.SourceRecord
import PaymentsPlatform.Library.Documents

/-!
# XML as JSON

`xml_to_dict` of `kafka_producer.py`.  The value of a member depends on how many children have its
name: none, the value of the only one, or the list of all.
-/

namespace PaymentsPlatform.Ingestion

open Xml (Element)

/-- `value[name] = ...` for one more child of this name. -/
def addChild (value : List (String × Json)) (name : String) (child : Json) :
    List (String × Json) :=
  match Dict.find name value with
  | some (.array listed) => Dict.put name (.array (listed ++ [child])) value
  | some known => Dict.put name (.array [known, child]) value
  | none => Dict.put name child value

def attributeMembers (attributes : List (String × String)) : List (String × Json) :=
  if attributes = [] then []
  else [("_attributes", .object (attributes.map fun item => (item.1, .string item.2)))]

/-- The value with the text of its element. -/
def withText (value : List (String × Json)) (text : String) : Json :=
  if text = "" then .object value
  else if value = [] then .string text
  else .object (Dict.put "_text" (.string text) value)

mutual

/-- `xml_to_dict`. -/
def xmlToDict : Element → Json
  | .node _ _ attributes text children =>
      withText (addChildren (attributeMembers attributes) children) (strip isSpace text)

/-- The loop over the children. -/
def addChildren (value : List (String × Json)) : List Element → List (String × Json)
  | [] => value
  | child :: rest => addChildren (addChild value child.localName (xmlToDict child)) rest

end

/-! ## Members -/

/-- What several children of one name are projected to. -/
def collected : List Json → Option Json
  | [] => none
  | [value] => some value
  | values => some (.array values)

def Listed (value : Json) : Prop := ∃ elements, value = .array elements

theorem not_listed_xmlToDict (element : Element) : ¬ Listed (xmlToDict element) := by
  rintro ⟨elements, same⟩
  cases element with
  | node uri localName attributes text children =>
      rw [xmlToDict, withText] at same
      split at same
      next => cases same
      next =>
        split at same
        next => cases same
        next => cases same

theorem find_addChild {value : List (String × Json)} {name : String} {values : List Json}
    (plain : ∀ known ∈ values, ¬ Listed known) (found : Dict.find name value = collected values)
    (added : String) (child : Json) :
    Dict.find name (addChild value added child) =
      collected (if added = name then values ++ [child] else values) := by
  by_cases same : added = name
  · subst same
    rw [if_pos rfl, addChild, found]
    match values, plain with
    | [], _ => simp [collected, Dict.find_put]
    | [known], plain =>
        have single := plain known List.mem_cons_self
        cases known with
        | array elements => exact absurd ⟨elements, rfl⟩ single
        | _ => simp [collected, Dict.find_put]
    | first :: second :: rest, _ => simp [collected, Dict.find_put]
  · rw [if_neg same, ← found, addChild]
    split <;> rw [Dict.find_put, if_neg same]

theorem find_addChildren {name : String} (children : List Element)
    {value : List (String × Json)} {values : List Json} (plain : ∀ known ∈ values, ¬ Listed known)
    (found : Dict.find name value = collected values) :
    Dict.find name (addChildren value children) =
      collected (values ++ (children.filter fun child => child.localName = name).map xmlToDict) := by
  induction children generalizing value values with
  | nil => rw [addChildren, List.filter_nil, List.map_nil, List.append_nil, found]
  | cons child rest ih =>
      have added := find_addChild plain found child.localName (xmlToDict child)
      rw [addChildren]
      by_cases same : child.localName = name
      · rw [if_pos same] at added
        rw [List.filter_cons_of_pos (by simpa using same), List.map_cons,
          List.append_cons, ih _ added]
        intro known listed
        rcases List.mem_append.mp listed with
          before | last
        · exact plain known before
        · rw [List.mem_singleton.mp last]
          exact not_listed_xmlToDict child
      · rw [if_neg same] at added
        rw [List.filter_cons_of_neg (by simpa using same), ih plain added]

/-- A name that is used for children only. -/
def ChildName (name : String) : Prop := name ≠ "_attributes" ∧ name ≠ "_text"

theorem member_xmlToDict (element : Element) {name : String} (isChild : ChildName name) :
    (xmlToDict element).member name = collected ((element.named name).map xmlToDict) := by
  cases element with
  | node uri localName attributes text children =>
      have none : Dict.find name (attributeMembers attributes) = collected [] := by
        unfold attributeMembers
        split
        next => rfl
        next => simp [Dict.find, collected, Ne.symm isChild.1]
      have found := find_addChildren children (by simp) none
      rw [List.nil_append] at found
      rw [xmlToDict, withText, Element.named, Element.children, ← found]
      split
      next => rfl
      next =>
        split
        next empty =>
          rw [empty]
          rfl
        next => rw [Json.member, Dict.find_put, if_neg (Ne.symm isChild.2)]

theorem member_of_only {element child : Element} {name : String} (isChild : ChildName name)
    (found : element.only name = some child) :
    (xmlToDict element).member name = some (xmlToDict child) := by
  rw [member_xmlToDict element isChild, Element.named_of_only found]
  rfl

theorem xmlToDict_leaf {element : Element} (noAttributes : element.attributes = [])
    (noChildren : element.children = []) :
    xmlToDict element = if strip isSpace element.text = "" then .object []
      else .string (strip isSpace element.text) := by
  cases element with
  | node uri localName attributes text children =>
      cases noAttributes
      cases noChildren
      rfl

end PaymentsPlatform.Ingestion
