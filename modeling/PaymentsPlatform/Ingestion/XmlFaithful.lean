import PaymentsPlatform.Ingestion.XmlProjection

/-!
# What the projection keeps

Two elements are projected to equal values exactly when they have the same attributes, the same
trimmed text and, under every local name, the same children in the same order.  The name of the
element itself is in the value of its parent.
-/

namespace PaymentsPlatform.Ingestion

open Xml (Element)

/-- An element without its name.  Children are found by their local name. -/
inductive Content where
  | node (attributes : String → Option String) (text : String) (children : String → List Content)

mutual

def content : Element → Content
  | .node _ _ attributes text children =>
      .node (fun name => Dict.find name attributes) (strip isSpace text) (grouped children)

/-- The children of each local name, in their order. -/
def grouped : List Element → String → List Content
  | [], _ => []
  | child :: rest, name =>
      if child.localName = name then content child :: grouped rest name else grouped rest name

end

/-- An XML document without namespaces. -/
structure Outline where
  name : String
  content : Content

def outline (root : Element) : Outline := ⟨root.localName, content root⟩

/-- `{root.tag.rsplit('}', 1)[-1]: xml_to_dict(root)}` of the parsers. -/
def rootToDict (root : Element) : Json := .object [(root.localName, xmlToDict root)]

/-- No element has a name that the projection uses itself, and none repeats an attribute. -/
def Plain (element : Element) : Prop :=
  ∀ inside ∈ element.iter,
    ChildName inside.localName ∧ (inside.attributes.map Prod.fst).Nodup

namespace Plain

variable {element child : Element}

theorem nodup_attributes (plain : Plain element) : (element.attributes.map Prod.fst).Nodup :=
  (plain element (Element.mem_iter.mpr (.inl rfl))).2

theorem childName (plain : Plain element) : ChildName element.localName :=
  (plain element (Element.mem_iter.mpr (.inl rfl))).1

theorem of_mem_children (plain : Plain element) (isChild : child ∈ element.children) :
    Plain child := by
  intro inside within
  exact plain inside
    (Element.mem_iter.mpr (.inr (Element.mem_iterAll.mpr ⟨child, isChild, within⟩)))

end Plain

theorem grouped_eq_map (children : List Element) (name : String) :
    grouped children name =
      (children.filter fun child => child.localName = name).map content := by
  induction children with
  | nil => rfl
  | cons child rest ih =>
      rw [grouped, ih]
      by_cases same : child.localName = name <;> simp [same]

theorem content_eq_iff {first second : Element} : content first = content second ↔
    (∀ name, Dict.find name first.attributes = Dict.find name second.attributes) ∧
      strip isSpace first.text = strip isSpace second.text ∧
      ∀ name, (first.named name).map content = (second.named name).map content := by
  cases first with
  | node uri localName attributes text children =>
      cases second with
      | node otherUri otherName otherAttributes otherText otherChildren =>
          simp only [content, Content.node.injEq, funext_iff, grouped_eq_map]
          exact Iff.rfl

/-! ## Members of the value -/

/-- The members before the text is added. -/
def filled (element : Element) : List (String × Json) :=
  addChildren (attributeMembers element.attributes) element.children

theorem xmlToDict_eq (element : Element) :
    xmlToDict element = withText (filled element) (strip isSpace element.text) := by
  cases element with
  | node uri localName attributes text children => rfl

theorem nodup_addChild {value : List (String × Json)} (distinct : (value.map Prod.fst).Nodup)
    (name : String) (child : Json) : ((addChild value name child).map Prod.fst).Nodup := by
  unfold addChild
  split <;> exact Dict.nodup_put distinct

theorem nodup_addChildren (children : List Element) {value : List (String × Json)}
    (distinct : (value.map Prod.fst).Nodup) :
    ((addChildren value children).map Prod.fst).Nodup := by
  induction children generalizing value with
  | nil => exact distinct
  | cons child rest ih =>
      rw [addChildren]
      exact ih (nodup_addChild distinct _ _)

theorem nodup_filled (element : Element) : ((filled element).map Prod.fst).Nodup := by
  apply nodup_addChildren
  unfold attributeMembers
  split <;> simp

/-- The attributes as the member `_attributes` lists them. -/
def attributeValues (attributes : List (String × String)) (name : String) : List Json :=
  if name = "_attributes" ∧ attributes ≠ [] then
    [.object (attributes.map fun item => (item.1, .string item.2))]
  else []

theorem find_attributeMembers (attributes : List (String × String)) (name : String) :
    Dict.find name (attributeMembers attributes) =
      collected (attributeValues attributes name) := by
  unfold attributeMembers attributeValues
  by_cases none : attributes = []
  · simp [none, Dict.find, collected]
  · by_cases same : name = "_attributes"
    · simp [none, same, Dict.find, collected]
    · simp [none, same, Ne.symm same, Dict.find, collected]

theorem not_listed_attributeValues {attributes : List (String × String)} {name : String} :
    ∀ value ∈ attributeValues attributes name, ¬ Listed value := by
  intro value listed
  unfold attributeValues at listed
  split at listed
  next =>
    rw [List.mem_singleton.mp listed]
    rintro ⟨elements, same⟩
    cases same
  next => simp at listed

theorem find_filled (element : Element) (name : String) : Dict.find name (filled element) =
    collected (attributeValues element.attributes name ++ (element.named name).map xmlToDict) :=
  find_addChildren element.children not_listed_attributeValues
    (find_attributeMembers element.attributes name)

theorem named_eq_nil {element : Element} (plain : Plain element) {name : String}
    (reserved : ¬ ChildName name) : element.named name = [] := by
  rw [Element.named, List.filter_eq_nil_iff]
  intro child isChild
  have childName := (plain.of_mem_children isChild).childName
  simp only [decide_eq_true_eq]
  rintro rfl
  exact reserved childName

theorem find_text_filled {element : Element} (plain : Plain element) :
    Dict.find "_text" (filled element) = none := by
  rw [find_filled, named_eq_nil plain (by simp [ChildName]), attributeValues, if_neg (by simp)]
  rfl

/-! ## Equality of values -/

/-- Two values that are equal for Python, or two that are missing. -/
abbrev Alike : Option Json → Option Json → Prop :=
  Option.Rel fun value other => value.eq other = true

theorem eq_array_of_not_listed {value : Json} (single : ¬ Listed value) (elements : List Json) :
    value.eq (.array elements) = false ∧ (Json.array elements).eq value = false := by
  cases value with
  | array listed => exact absurd ⟨listed, rfl⟩ single
  | _ => simp [Json.eq, Json.number?]

theorem alike_collected {values others : List Json} (plain : ∀ value ∈ values, ¬ Listed value)
    (plainOthers : ∀ value ∈ others, ¬ Listed value) :
    Alike (collected values) (collected others) ↔
      List.Forall₂ (fun value other => value.eq other = true) values others := by
  match values, others with
  | [], [] => simp [collected]
  | [], [other] => simp [collected]
  | [], other :: next :: more => simp [collected]
  | [value], [] => simp [collected]
  | [value], [other] => simp [collected]
  | [value], other :: next :: more =>
      simp [collected, eq_array_of_not_listed (plain value (by simp))]
  | value :: second :: rest, [] => simp [collected]
  | value :: second :: rest, [other] =>
      simp [collected, eq_array_of_not_listed (plainOthers other (by simp))]
  | value :: second :: rest, other :: next :: more =>
      simp [collected, Json.eq, Json.eqElements_iff]

theorem find_map_string (attributes : List (String × String)) (name : String) :
    Dict.find name (attributes.map fun item => (item.1, Json.string item.2)) =
      (Dict.find name attributes).map .string := by
  induction attributes with
  | nil => rfl
  | cons item rest ih =>
      obtain ⟨known, value⟩ := item
      rw [List.map_cons, Dict.find, Dict.find, ih]
      split <;> rfl

theorem eq_attributes_iff {attributes others : List (String × String)}
    (distinct : (attributes.map Prod.fst).Nodup) (distinctOthers : (others.map Prod.fst).Nodup) :
    (Json.object (attributes.map fun item => (item.1, .string item.2))).eq
        (.object (others.map fun item => (item.1, .string item.2))) = true ↔
      ∀ name, Dict.find name attributes = Dict.find name others := by
  rw [Json.eq_object_iff (by simpa [Function.comp_def] using distinct)
    (by simpa [Function.comp_def] using distinctOthers)]
  apply forall_congr'
  intro name
  rw [find_map_string, find_map_string]
  cases Dict.find name attributes <;> cases Dict.find name others <;> simp

theorem alike_attributes {attributes others : List (String × String)}
    (distinct : (attributes.map Prod.fst).Nodup) (distinctOthers : (others.map Prod.fst).Nodup) :
    List.Forall₂ (fun value other => Json.eq value other = true)
        (attributeValues attributes "_attributes") (attributeValues others "_attributes") ↔
      ∀ name, Dict.find name attributes = Dict.find name others := by
  have missing : ∀ {item : String × String} {rest : List (String × String)},
      ¬ ∀ name, Dict.find name [] = Dict.find name (item :: rest) := by
    intro item rest same
    simpa [Dict.find] using same item.1
  unfold attributeValues
  cases attributes with
  | nil =>
      cases others with
      | nil => simp
      | cons item rest => simpa using missing
  | cons item rest =>
      cases others with
      | nil =>
          simp only [ne_eq, reduceCtorEq, not_false_eq_true, and_self, if_true, not_true_eq_false,
            and_false, if_false, List.forall₂_nil_right_iff, false_iff]
          intro same
          exact missing fun name => (same name).symm
      | cons other more => simpa using eq_attributes_iff distinct distinctOthers

theorem nodup_put_text {value : List (String × Json)} (distinct : (value.map Prod.fst).Nodup)
    (text : String) : ((Dict.put "_text" (.string text) value).map Prod.fst).Nodup :=
  Dict.nodup_put distinct

/-- The text is all there is, or a member that no child has. -/
theorem eq_withText_iff {value other : List (String × Json)}
    (distinct : (value.map Prod.fst).Nodup) (distinctOther : (other.map Prod.fst).Nodup)
    (noText : Dict.find "_text" value = none) (noOtherText : Dict.find "_text" other = none)
    (text otherText : String) :
    (withText value text).eq (withText other otherText) = true ↔
      text = otherText ∧ (Json.object value).eq (.object other) = true := by
  by_cases blank : text = "" <;> by_cases otherBlank : otherText = ""
  · simp [withText, blank, otherBlank]
  · -- an object without text against a text or an object with one
    have different : text ≠ otherText := fun same => otherBlank (same ▸ blank)
    rw [withText, if_pos blank, withText, if_neg otherBlank]
    split
    next => simp [Json.eq, different]
    next =>
      simp only [different, false_and, iff_false]
      intro same
      have atText := (Json.eq_object_iff distinct (nodup_put_text distinctOther _)).mp same "_text"
      simp [Dict.find_put, noText] at atText
  · have different : text ≠ otherText := fun same => blank (same ▸ otherBlank)
    rw [withText, if_neg blank, withText, if_pos otherBlank]
    split
    next => simp [Json.eq, different]
    next =>
      simp only [different, false_and, iff_false]
      intro same
      have atText := (Json.eq_object_iff (nodup_put_text distinct _) distinctOther).mp same "_text"
      simp [Dict.find_put, noOtherText] at atText
  · rw [withText, if_neg blank, withText, if_neg otherBlank]
    cases value with
    | nil =>
        cases other with
        | nil => simp [Json.eq, Json.eqMembers]
        | cons member rest => simp [Json.eq]
    | cons member rest =>
        cases other with
        | nil => simp [Json.eq]
        | cons otherMember more =>
            rw [if_neg (by simp), if_neg (by simp),
              Json.eq_object_iff (nodup_put_text distinct _) (nodup_put_text distinctOther _),
              Json.eq_object_iff distinct distinctOther]
            constructor
            · intro all
              have atText := all "_text"
              rw [Dict.find_put, Dict.find_put, if_pos rfl, if_pos rfl, Option.rel_some_some,
                Json.eq_string, decide_eq_true_eq] at atText
              refine ⟨atText, ?_⟩
              intro name
              by_cases isText : "_text" = name
              · rw [← isText, noText, noOtherText]
                exact .none
              · have related := all name
                rwa [Dict.find_put, Dict.find_put, if_neg isText, if_neg isText] at related
            · rintro ⟨rfl, all⟩ name
              rw [Dict.find_put, Dict.find_put]
              split
              next => simp
              next => exact all name

theorem eq_filled_iff {first second : Element} (plain : Plain first) (plainSecond : Plain second) :
    (Json.object (filled first)).eq (.object (filled second)) = true ↔
      (∀ name, Dict.find name first.attributes = Dict.find name second.attributes) ∧
        ∀ name, List.Forall₂ (fun child other => (xmlToDict child).eq (xmlToDict other) = true)
          (first.named name) (second.named name) := by
  have alike : ∀ name, Alike (Dict.find name (filled first)) (Dict.find name (filled second)) ↔
      List.Forall₂ (fun value other => Json.eq value other = true)
        (attributeValues first.attributes name ++ (first.named name).map xmlToDict)
        (attributeValues second.attributes name ++ (second.named name).map xmlToDict) := by
    intro name
    rw [find_filled, find_filled]
    apply alike_collected
    all_goals
      intro value listed
      rcases List.mem_append.mp listed with
        isAttributes | isChild
      · exact not_listed_attributeValues value isAttributes
      · obtain ⟨child, -, rfl⟩ := List.mem_map.mp isChild
        exact not_listed_xmlToDict child
  have atAttributes := alike_attributes plain.nodup_attributes plainSecond.nodup_attributes
  rw [Json.eq_object_iff (nodup_filled first) (nodup_filled second)]
  simp only [alike]
  constructor
  · intro all
    constructor
    · apply atAttributes.mp
      have related := all "_attributes"
      rwa [named_eq_nil plain (by simp [ChildName]), named_eq_nil plainSecond (by simp [ChildName]),
        List.map_nil, List.append_nil, List.append_nil] at related
    · intro name
      by_cases reserved : ChildName name
      · have related := all name
        rw [attributeValues, if_neg (by simp [reserved.1]), attributeValues,
          if_neg (by simp [reserved.1]), List.nil_append, List.nil_append,
          List.forall₂_map_left_iff, List.forall₂_map_right_iff] at related
        exact related
      · rw [named_eq_nil plain reserved, named_eq_nil plainSecond reserved]
        exact .nil
  · rintro ⟨sameAttributes, all⟩ name
    have children : List.Forall₂ (fun value other => Json.eq value other = true)
        ((first.named name).map xmlToDict) ((second.named name).map xmlToDict) := by
      rw [List.forall₂_map_left_iff, List.forall₂_map_right_iff]
      exact all name
    apply List.rel_append _ children
    by_cases isAttributes : name = "_attributes"
    · rw [isAttributes]
      exact atAttributes.mpr sameAttributes
    · simp [attributeValues, isAttributes]

theorem forall₂_iff_map_eq {Item : Type} {Image : Type} {related : Item → Item → Prop}
    {image : Item → Image} {items others : List Item}
    (same : ∀ item ∈ items, ∀ other ∈ others, related item other ↔ image item = image other) :
    List.Forall₂ related items others ↔ items.map image = others.map image := by
  induction items generalizing others with
  | nil => cases others <;> simp
  | cons item rest ih =>
      cases others with
      | nil => simp
      | cons other more =>
          rw [List.forall₂_cons, List.map_cons, List.map_cons, List.cons.injEq,
            same item (by simp) other (by simp), ih fun item listed other among =>
              same item (List.mem_cons_of_mem _ listed) other (List.mem_cons_of_mem _ among)]

theorem eq_xmlToDict_iff {first second : Element} (plain : Plain first)
    (plainSecond : Plain second) :
    (xmlToDict first).eq (xmlToDict second) = true ↔ content first = content second := by
  induction first using Element.childrenInduction generalizing second with
  | node first ih =>
      have ofChildren : ∀ name,
          List.Forall₂ (fun child other => (xmlToDict child).eq (xmlToDict other) = true)
              (first.named name) (second.named name) ↔
            (first.named name).map content = (second.named name).map content := by
        intro name
        apply forall₂_iff_map_eq
        intro child listed other among
        have isChild := List.mem_of_mem_filter listed
        have isOther := List.mem_of_mem_filter among
        exact ih child isChild (plain.of_mem_children isChild)
          (plainSecond.of_mem_children isOther)
      rw [xmlToDict_eq, xmlToDict_eq, eq_withText_iff (nodup_filled first) (nodup_filled second)
        (find_text_filled plain) (find_text_filled plainSecond), eq_filled_iff plain plainSecond,
        content_eq_iff]
      simp only [ofChildren]
      tauto

theorem eq_rootToDict_iff {first second : Element} (plain : Plain first)
    (plainSecond : Plain second) :
    (rootToDict first).eq (rootToDict second) = true ↔ outline first = outline second := by
  rw [rootToDict, rootToDict, Json.eq_object_iff (by simp) (by simp), outline, outline,
    Outline.mk.injEq, ← eq_xmlToDict_iff plain plainSecond]
  constructor
  · intro all
    have atName := all first.localName
    by_cases same : second.localName = first.localName
    · simpa [Dict.find, same] using atName
    · simp [Dict.find, same] at atName
  · rintro ⟨sameName, same⟩ name
    by_cases isRoot : second.localName = name <;> simp [Dict.find, sameName, isRoot, same]

/-! ## Two roots -/

def emptyElement (name : String) : Element := .node "" name [] "" []

/-- The value of an element does not have its name. -/
theorem xmlToDict_forgets_root : Plain (emptyElement "Document") ∧ Plain (emptyElement "Receipt") ∧
    ¬ ((xmlToDict (emptyElement "Document")).eq (xmlToDict (emptyElement "Receipt")) = true ↔
      outline (emptyElement "Document") = outline (emptyElement "Receipt")) := by
  refine ⟨by simp [Plain, emptyElement, Element.iter, Element.iterAll, ChildName,
      Element.localName, Element.attributes],
    by simp [Plain, emptyElement, Element.iter, Element.iterAll, ChildName,
      Element.localName, Element.attributes], ?_⟩
  intro same
  have alike : (xmlToDict (emptyElement "Document")).eq (xmlToDict (emptyElement "Receipt")) =
      true := by decide
  have names := congrArg Outline.name (same.mp alike)
  exact absurd names (by decide)

/-- Nothing of a document is lost when its root is projected under the root's name. -/
theorem xml_faithful {first second : Element} (plain : Plain first) (plainSecond : Plain second) :
    ((xmlToDict first).eq (xmlToDict second) = true ↔ content first = content second) ∧
      ((rootToDict first).eq (rootToDict second) = true ↔ outline first = outline second) :=
  ⟨eq_xmlToDict_iff plain plainSecond, eq_rootToDict_iff plain plainSecond⟩

/-- A group header with one attribute and two children of one name. -/
def groupHeader (uri : String) : Element :=
  .node uri "GrpHdr" [("Id", "1")] " " [.node uri "Nb" [] "1" [],
    .node uri "Nb" [] " 2 " [emptyElement "Ccy"]]

theorem plain_groupHeader (uri : String) : Plain (groupHeader uri) := by
  simp [Plain, groupHeader, emptyElement, Element.iter, Element.iterAll, ChildName,
    Element.localName, Element.attributes]

theorem xml_faithful_groupHeader :
    ((xmlToDict (groupHeader "")).eq (xmlToDict (groupHeader "urn:iso")) = true ↔
        content (groupHeader "") = content (groupHeader "urn:iso")) ∧
      ((rootToDict (groupHeader "")).eq (rootToDict (groupHeader "urn:iso")) = true ↔
        outline (groupHeader "") = outline (groupHeader "urn:iso")) :=
  xml_faithful (plain_groupHeader "") (plain_groupHeader "urn:iso")

end PaymentsPlatform.Ingestion
