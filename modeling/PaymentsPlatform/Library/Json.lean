import Mathlib.Data.List.Sort

/-!
# JSON values as Python holds them

What `json.loads` answers: a `float` is a binary number or one of the special
values, and an object lists its members under distinct keys.  The operators
that programs apply to such values are truth (`bool`), equality (`==`, for
which booleans are numbers and members have no order), `dict.get`, and the
text that `json.dumps` writes with sorted keys and no blanks.
-/

/-- A `float`: `mantissa * 2 ^ exponent`, or a special value. -/
inductive Binary where
  | finite (mantissa exponent : Int)
  | infinite (negative : Bool)
  | nan
  deriving DecidableEq, Repr

inductive Json where
  | null
  | bool (value : Bool)
  | int (value : Int)
  | float (value : Binary)
  | string (text : String)
  | array (elements : List Json)
  | object (members : List (String × Json))
  deriving Repr

namespace Json

/-- `bool(value)`. -/
def truthy : Json → Bool
  | null => false
  | bool value => value
  | int value => value ≠ 0
  | float (.finite mantissa _) => mantissa ≠ 0
  | float _ => true
  | string text => !text.isEmpty
  | array elements => !elements.isEmpty
  | object members => !members.isEmpty

def isNull : Json → Bool
  | null => true
  | _ => false

/-- `value or other`. -/
def orElse (value other : Json) : Json := if value.truthy then value else other

/-- `value.get(key)` of a member list. -/
def get (members : List (String × Json)) (key : String) : Json := (members.lookup key).getD null

/-- The number that takes part in a comparison; booleans do. -/
def number? : Json → Option Binary
  | bool value => some (.finite (if value then 1 else 0) 0)
  | int value => some (.finite value 0)
  | float value => some value
  | _ => none

end Json

/-- Both sides are scaled to the smaller of the two exponents. -/
def Binary.eq : Binary → Binary → Bool
  | finite mantissa exponent, finite otherMantissa otherExponent =>
      mantissa * Int.ofNat (Nat.pow 2 (exponent - otherExponent).toNat) =
        otherMantissa * Int.ofNat (Nat.pow 2 (otherExponent - exponent).toNat)
  | infinite negative, infinite otherNegative => negative = otherNegative
  | _, _ => false

namespace Json

mutual

/-- `value == other`. -/
def eq : Json → Json → Bool
  | null, null => true
  | string text, string other => text = other
  | array elements, array others => eqElements elements others
  | object members, object others =>
      members.length = others.length && eqMembers members others
  | bool value, other =>
      (other.number?.map (Binary.eq (.finite (if value then 1 else 0) 0))).getD false
  | int value, other => (other.number?.map (Binary.eq (.finite value 0))).getD false
  | float value, other => (other.number?.map (Binary.eq value)).getD false
  | _, _ => false

def eqElements : List Json → List Json → Bool
  | [], [] => true
  | element :: rest, other :: others => eq element other && eqElements rest others
  | _, _ => false

def eqMembers : List (String × Json) → List (String × Json) → Bool
  | [], _ => true
  | (key, value) :: rest, others =>
      (match others.lookup key with
        | some other => eq value other
        | none => false) && eqMembers rest others

end

@[simp]
theorem eq_string (text other : String) :
    eq (.string text) (.string other) = decide (text = other) := by
  simp [eq]

/-! ## The canonical text -/

def backslash : Char := Char.ofNat 0x5C

/-- An escape of four hexadecimal digits. -/
def unicodeEscape (code : Nat) : List Char :=
  backslash :: 'u' ::
    [code / 4096 % 16, code / 256 % 16, code / 16 % 16, code % 16].map Nat.digitChar

/-- A character inside a string; what is not printable ASCII is written by its code. -/
def escaped (c : Char) : List Char :=
  match c.toNat with
  | 0x22 => [backslash, c]
  | 0x5C => [backslash, c]
  | 0x08 => [backslash, 'b']
  | 0x09 => [backslash, 't']
  | 0x0A => [backslash, 'n']
  | 0x0C => [backslash, 'f']
  | 0x0D => [backslash, 'r']
  | code =>
      if 0x20 ≤ code ∧ code ≤ 0x7E then [c]
      else if code < 0x10000 then unicodeEscape code
      else unicodeEscape (0xD800 + (code - 0x10000) / 0x400) ++
        unicodeEscape (0xDC00 + (code - 0x10000) % 0x400)

def quoted (text : String) : List Char :=
  Char.ofNat 0x22 :: (text.toList.flatMap escaped ++ [Char.ofNat 0x22])

/-- The members in the order of their keys. -/
def sortedMembers (members : List (String × List Char)) : List (String × List Char) :=
  members.insertionSort fun first second => first.1 ≤ second.1

/-- The rendered members of an object. -/
def braced (members : List (String × List Char)) : List Char :=
  Char.ofNat 0x7B :: ([','].intercalate
    (members.map fun member => quoted member.1 ++ ':' :: member.2) ++ [Char.ofNat 0x7D])

section Dumps

variable (floatRepr : Binary → String)

mutual

/-- `json.dumps(value, sort_keys=True, separators=(",", ":"))`. -/
def dumps : Json → List Char
  | null => ['n', 'u', 'l', 'l']
  | bool true => ['t', 'r', 'u', 'e']
  | bool false => ['f', 'a', 'l', 's', 'e']
  | int value => (toString value).toList
  | float value => (floatRepr value).toList
  | string text => quoted text
  | array elements => '[' :: ([','].intercalate (dumpsElements elements) ++ [']'])
  | object members => braced (sortedMembers (dumpsMembers members))

def dumpsElements : List Json → List (List Char)
  | [] => []
  | element :: rest => dumps element :: dumpsElements rest

def dumpsMembers : List (String × Json) → List (String × List Char)
  | [] => []
  | (key, value) :: rest => (key, dumps value) :: dumpsMembers rest

end

end Dumps

theorem escaped_of_printable {c : Char} (low : 0x20 ≤ c.toNat) (high : c.toNat ≤ 0x7E)
    (notQuote : c.toNat ≠ 0x22) (notBackslash : c.toNat ≠ 0x5C) : escaped c = [c] := by
  unfold escaped
  split <;> first | omega | simp_all

theorem quoted_of_plain {text : String}
    (plain : ∀ c ∈ text.toList, 0x20 ≤ c.toNat ∧ c.toNat ≤ 0x7E ∧ c.toNat ≠ 0x22 ∧
      c.toNat ≠ 0x5C) :
    quoted text = Char.ofNat 0x22 :: (text.toList ++ [Char.ofNat 0x22]) := by
  have unescaped : text.toList.flatMap escaped = text.toList := by
    generalize text.toList = chars at plain
    induction chars with
    | nil => rfl
    | cons c rest ih =>
        obtain ⟨low, high, notQuote, notBackslash⟩ := plain c (by simp)
        rw [List.flatMap_cons, escaped_of_printable low high notQuote notBackslash,
          ih fun later mem => plain later (by simp [mem])]
        rfl
  rw [quoted, unescaped]

/-! ### Its characters -/

def Ascii (chars : List Char) : Prop := ∀ c ∈ chars, c.toNat < 128

instance (chars : List Char) : Decidable (Ascii chars) := List.decidableBAll _ chars

theorem Ascii.append {chars others : List Char} (first : Ascii chars) (second : Ascii others) :
    Ascii (chars ++ others) := by
  intro c listed
  rcases List.mem_append.mp listed with before | after
  · exact first c before
  · exact second c after

theorem Ascii.intercalate {separator : List Char} {parts : List (List Char)}
    (between : Ascii separator) (each : ∀ part ∈ parts, Ascii part) :
    Ascii (separator.intercalate parts) := by
  intro c listed
  induction parts with
  | nil => cases listed
  | cons part rest ih =>
      cases rest with
      | nil =>
          rw [List.intercalate_singleton] at listed
          exact each part List.mem_cons_self c listed
      | cons second later =>
          rw [List.intercalate_cons_cons, List.append_assoc, List.mem_append, List.mem_append]
            at listed
          rcases listed with here | comma | onward
          · exact each part List.mem_cons_self c here
          · exact between c comma
          · exact ih
              (fun other among => each other (List.mem_cons_of_mem _ among)) onward

theorem ascii_unicodeEscape (code : Nat) : Ascii (unicodeEscape code) := by
  have digits : ∀ digit < 16, (Nat.digitChar digit).toNat < 128 := by decide
  intro c listed
  simp only [unicodeEscape, List.map_cons, List.map_nil, List.mem_cons, List.not_mem_nil,
    or_false] at listed
  rcases listed with rfl | rfl | rfl | rfl | rfl | rfl
  · decide
  · decide
  all_goals exact digits _ (Nat.mod_lt _ (by decide))

theorem ascii_escaped (c : Char) : Ascii (escaped c) := by
  have after (low : c.toNat < 128) : Ascii [backslash, c] := by
    intro other listed
    rcases List.mem_pair.mp listed with rfl | rfl
    · decide
    · exact low
  unfold escaped
  split
  next same => exact after (by omega)
  next same => exact after (by omega)
  next => decide
  next => decide
  next => decide
  next => decide
  next => decide
  next =>
    split
    next printable =>
      intro other listed
      obtain rfl := List.mem_singleton.mp listed
      omega
    next =>
      split
      next => exact ascii_unicodeEscape _
      next => exact (ascii_unicodeEscape _).append (ascii_unicodeEscape _)

theorem ascii_quoted (text : String) : Ascii (quoted text) := by
  intro c listed
  rw [quoted, List.mem_cons, List.mem_append, List.mem_flatMap, List.mem_singleton] at listed
  rcases listed with rfl | ⟨source, -, written⟩ | rfl
  · decide
  · exact ascii_escaped source c written
  · decide

theorem ascii_int (value : Int) : Ascii (toString value).toList := by
  have digits (number : Nat) : Ascii (Nat.toDigits 10 number) := by
    intro c listed
    have digit := Nat.isDigit_of_mem_toDigits (by decide) (by decide) listed
    simp only [Char.isDigit, Bool.and_eq_true, decide_eq_true_eq] at digit
    have high : c.toNat ≤ 57 := digit.2
    omega
  cases value with
  | ofNat number =>
      change Ascii (String.ofList (Nat.toDigits 10 number)).toList
      rw [String.toList_ofList]
      exact digits number
  | negSucc number =>
      change Ascii ("-" ++ String.ofList (Nat.toDigits 10 (number + 1))).toList
      rw [String.toList_append]
      apply Ascii.append (by decide)
      rw [String.toList_ofList]
      exact digits (number + 1)

section Dumps

variable {floatRepr : Binary → String}

mutual

/-- `json.dumps` escapes whatever is not ASCII. -/
theorem ascii_dumps (plain : ∀ value, Ascii (floatRepr value).toList) :
    ∀ value : Json, Ascii (value.dumps floatRepr)
  | null => by
      rw [dumps]
      decide
  | bool true => by
      rw [dumps]
      decide
  | bool false => by
      rw [dumps]
      decide
  | int value => by
      rw [dumps]
      exact ascii_int value
  | float value => by
      rw [dumps]
      exact plain value
  | string text => by
      rw [dumps]
      exact ascii_quoted text
  | array elements => by
      rw [dumps]
      apply @Ascii.append ['['] _ (by decide)
      exact (Ascii.intercalate (by decide) (ascii_dumpsElements plain elements)).append (by decide)
  | object members => by
      rw [dumps, braced]
      apply @Ascii.append [Char.ofNat 0x7B] _ (by decide)
      apply Ascii.append _ (by decide)
      apply Ascii.intercalate (by decide)
      intro part listed
      obtain ⟨member, sorted, rfl⟩ := List.mem_map.mp listed
      apply (ascii_quoted member.1).append
      apply @Ascii.append [':'] _ (by decide)
      exact ascii_dumpsMembers plain members member ((List.mem_insertionSort _).mp sorted)

theorem ascii_dumpsElements (plain : ∀ value, Ascii (floatRepr value).toList) :
    ∀ elements : List Json, ∀ part ∈ dumpsElements floatRepr elements, Ascii part
  | [], part, listed => by cases listed
  | element :: rest, part, listed => by
      rw [dumpsElements, List.mem_cons] at listed
      rcases listed with rfl | later
      · exact ascii_dumps plain element
      · exact ascii_dumpsElements plain rest part later

theorem ascii_dumpsMembers (plain : ∀ value, Ascii (floatRepr value).toList) :
    ∀ members : List (String × Json), ∀ member ∈ dumpsMembers floatRepr members, Ascii member.2
  | [], member, listed => by cases listed
  | (key, value) :: rest, member, listed => by
      rw [dumpsMembers, List.mem_cons] at listed
      rcases listed with rfl | later
      · exact ascii_dumps plain value
      · exact ascii_dumpsMembers plain rest member later

end

end Dumps

end Json
