import Mathlib.Data.List.Infix
import Mathlib.Data.List.TakeWhile

/-!
# Patterns

Regular expressions as a backtracking matcher reads them.  Repetition is of the characters of a
class, and takes as many as it can; of two alternatives the first is tried first.  `ends` lists the
ways to match at a position in this order of preference, `Matches` says what a pattern matches.

Which characters make words is a parameter.  A neighbour is the character before or after, if any.
-/

namespace PaymentsPlatform.Library.Patterns

inductive Pattern where
  | nothing
  | one (accepts : Char → Bool)
  /-- As many characters of the class as possible, but at least so many. -/
  | many (accepts : Char → Bool) (least : Nat)
  /-- Between a character of a word and one that is none. -/
  | boundary
  | both (first second : Pattern)
  | either (first second : Pattern)

namespace Pattern

/-- A pattern or nothing. -/
def optional (pattern : Pattern) : Pattern := either pattern nothing

def exactly (accepts : Char → Bool) : Nat → Pattern
  | 0 => nothing
  | count + 1 => both (one accepts) (exactly accepts count)

/-- The characters one after the other, compared by what they fold to. -/
def letters (fold : Char → Char) : List Char → Pattern
  | [] => nothing
  | letter :: rest => both (one fun c => fold c = letter) (letters fold rest)

def literal (text : String) : Pattern := letters id text.toList

end Pattern

/-- How `re.IGNORECASE` compares a character with a small Latin letter. -/
def caseless (c : Char) : Char :=
  if c.toNat = 0x212A then 'k'
  else if c.toNat = 0x130 ∨ c.toNat = 0x131 then 'i'
  else if c.toNat = 0x17F then 's'
  else c.toLower

open Pattern

/-- The character before what follows the taken ones. -/
def lastOf (before : Option Char) (taken : List Char) : Option Char := taken.getLast?.or before

section Semantics

variable (isWord : Char → Bool)

def inWord (neighbour : Option Char) : Bool := neighbour.any isWord

/-- What can be taken from the text, and what remains. -/
def ends : Pattern → Option Char → List Char → List (List Char × List Char)
  | nothing, _, text => [([], text)]
  | one _, _, [] => []
  | one accepts, _, c :: rest => if accepts c then [([c], rest)] else []
  | many accepts least, _, text =>
      ((List.range ((text.takeWhile accepts).length + 1)).reverse.filter (least ≤ ·)).map
        fun count => (text.take count, text.drop count)
  | boundary, before, text =>
      if inWord isWord before = inWord isWord text.head? then [] else [([], text)]
  | both first second, before, text =>
      (ends first before text).flatMap fun taken =>
        (ends second (lastOf before taken.1) taken.2).map fun more => (taken.1 ++ more.1, more.2)
  | either first second, before, text => ends first before text ++ ends second before text

/-- The pattern matches the text between these neighbours. -/
def Matches : Pattern → Option Char → List Char → Option Char → Prop
  | nothing, _, text, _ => text = []
  | one accepts, _, text, _ => ∃ c, text = [c] ∧ accepts c = true
  | many accepts least, _, text, _ => least ≤ text.length ∧ ∀ c ∈ text, accepts c = true
  | boundary, before, text, after => text = [] ∧ inWord isWord before ≠ inWord isWord after
  | both first second, before, text, after => ∃ start rest, text = start ++ rest ∧
      Matches first before start (rest.head?.or after) ∧
      Matches second (lastOf before start) rest after
  | either first second, before, text, after =>
      Matches first before text after ∨ Matches second before text after

end Semantics

variable {isWord : Char → Bool} {pattern : Pattern} {before after : Option Char}
  {text taken rest : List Char}

theorem mem_ends_many {accepts : Char → Bool} {least : Nat} :
    (taken, rest) ∈ ends isWord (many accepts least) before text ↔
      text = taken ++ rest ∧ least ≤ taken.length ∧ ∀ c ∈ taken, accepts c = true := by
  simp only [ends, List.mem_map, List.mem_filter, List.mem_reverse, List.mem_range,
    decide_eq_true_eq, Prod.mk.injEq, Nat.lt_add_one_iff]
  constructor
  · rintro ⟨count, ⟨short, enough⟩, rfl, rfl⟩
    have inRun : text.take count <+: text.takeWhile accepts :=
      List.prefix_of_prefix_length_le (List.take_prefix count text)
        (List.takeWhile_prefix accepts) (by simp; omega)
    have length : (text.takeWhile accepts).length ≤ text.length :=
      (List.takeWhile_prefix accepts).length_le
    refine ⟨(List.take_append_drop count text).symm, ?_, ?_⟩
    · rw [List.length_take]
      omega
    · intro c listed
      exact List.mem_takeWhile_imp (inRun.subset listed)
  · rintro ⟨rfl, enough, all⟩
    refine ⟨taken.length, ⟨?_, enough⟩, List.take_left, List.drop_left⟩
    rw [List.takeWhile_append_of_pos all, List.length_append]
    omega

theorem mem_ends : (taken, rest) ∈ ends isWord pattern before text ↔
    text = taken ++ rest ∧ Matches isWord pattern before taken rest.head? := by
  induction pattern generalizing before text taken rest with
  | nothing =>
      simp only [ends, List.mem_singleton, Prod.mk.injEq, Matches]
      constructor
      · rintro ⟨rfl, rfl⟩
        exact ⟨rfl, rfl⟩
      · rintro ⟨rfl, rfl⟩
        exact ⟨rfl, rfl⟩
  | one accepts =>
      cases text with
      | nil =>
          simp only [ends, Matches, List.not_mem_nil, false_iff, List.nil_eq, List.append_eq_nil_iff]
          rintro ⟨⟨rfl, -⟩, c, same, -⟩
          cases same
      | cons c others =>
          simp only [ends, Matches]
          split
          next accepted =>
            simp only [List.mem_singleton, Prod.mk.injEq]
            constructor
            · rintro ⟨rfl, rfl⟩
              exact ⟨rfl, c, rfl, accepted⟩
            · rintro ⟨same, d, rfl, -⟩
              simp only [List.singleton_append, List.cons.injEq] at same
              exact ⟨by rw [same.1], same.2.symm⟩
          next refused =>
            simp only [List.not_mem_nil, false_iff]
            rintro ⟨same, d, rfl, accepted⟩
            simp only [List.singleton_append, List.cons.injEq] at same
            exact refused (same.1 ▸ accepted)
  | many accepts least => exact mem_ends_many
  | boundary =>
      simp only [ends, Matches]
      split
      next same =>
        simp only [List.not_mem_nil, false_iff]
        rintro ⟨rfl, rfl, different⟩
        exact different same
      next different =>
        simp only [List.mem_singleton, Prod.mk.injEq]
        constructor
        · rintro ⟨rfl, rfl⟩
          exact ⟨rfl, rfl, different⟩
        · rintro ⟨rfl, rfl, -⟩
          exact ⟨rfl, rfl⟩
  | both first second firstHypothesis secondHypothesis =>
      simp only [ends, Matches, List.mem_flatMap, List.mem_map, Prod.exists, Prod.mk.injEq]
      constructor
      · rintro ⟨start, middle, inFirst, more, last, inSecond, rfl, rfl⟩
        obtain ⟨rfl, firstMatches⟩ := firstHypothesis.mp inFirst
        obtain ⟨rfl, secondMatches⟩ := secondHypothesis.mp inSecond
        refine ⟨(List.append_assoc _ _ _).symm, start, more, rfl, ?_, secondMatches⟩
        rwa [List.head?_append] at firstMatches
      · rintro ⟨rfl, start, more, rfl, firstMatches, secondMatches⟩
        refine ⟨start, more ++ rest, firstHypothesis.mpr ⟨List.append_assoc _ _ _, ?_⟩, more, rest,
          secondHypothesis.mpr ⟨rfl, secondMatches⟩, rfl, rfl⟩
        rwa [List.head?_append]
  | either first second firstHypothesis secondHypothesis =>
      simp only [ends, Matches, List.mem_append, firstHypothesis, secondHypothesis]
      tauto

/-- The longest run comes first. -/
theorem head?_ends_many {accepts : Char → Bool} {least : Nat} :
    (ends isWord (many accepts least) before text).head? =
      if least ≤ (text.takeWhile accepts).length then
        some (text.takeWhile accepts, text.dropWhile accepts)
      else none := by
  have run : (text.takeWhile accepts).length ≤ text.length :=
    (List.takeWhile_prefix accepts).length_le
  rw [ends, List.range_succ, List.reverse_append, List.reverse_singleton, List.singleton_append]
  split
  next enough =>
    rw [List.filter_cons_of_pos (by simpa using enough), List.map_cons, List.head?_cons,
      ← List.prefix_iff_eq_take.mp (List.takeWhile_prefix accepts)]
    have remaining : text.drop (text.takeWhile accepts).length = text.dropWhile accepts := by
      apply List.append_cancel_left
      rw [List.takeWhile_append_dropWhile, List.prefix_iff_eq_take.mp
        (List.takeWhile_prefix accepts), List.length_take_of_le run, List.take_append_drop]
    rw [remaining]
  next short =>
    rw [List.head?_eq_none_iff, List.map_eq_nil_iff, List.filter_eq_nil_iff]
    intro count listed
    simp only [List.mem_cons, List.mem_reverse, List.mem_range] at listed
    simp only [decide_eq_true_eq]
    omega

/-- Whether a pattern looks at the character before it. -/
def Pattern.Plain : Pattern → Prop
  | boundary => False
  | both first second => first.Plain ∧ second.Plain
  | either first second => first.Plain ∧ second.Plain
  | _ => True

theorem inWord_or {neighbour first second : Option Char}
    (same : inWord isWord first = inWord isWord second) :
    inWord isWord (neighbour.or first) = inWord isWord (neighbour.or second) := by
  cases neighbour with
  | none => exact same
  | some c => rfl

theorem inWord_lastOf {other : Option Char} (same : inWord isWord before = inWord isWord other)
    (start : List Char) :
    inWord isWord (lastOf before start) = inWord isWord (lastOf other start) := inWord_or same

theorem ends_alike {other : Option Char}
    (alike : pattern.Plain ∨ inWord isWord before = inWord isWord other) :
    ends isWord pattern before text = ends isWord pattern other text := by
  induction pattern generalizing before other text with
  | nothing => rfl
  | one accepts => cases text <;> rfl
  | many accepts least => rfl
  | boundary => rw [ends, ends, alike.resolve_left id]
  | both first second firstHypothesis secondHypothesis =>
      rw [ends, ends, firstHypothesis (alike.imp_left And.left)]
      apply List.flatMap_congr
      intro taken _
      rw [secondHypothesis (alike.imp And.right fun same => inWord_lastOf same taken.1)]
  | either first second firstHypothesis secondHypothesis =>
      rw [ends, ends, firstHypothesis (alike.imp_left And.left),
        secondHypothesis (alike.imp_left And.right)]

theorem matches_letters {fold : Char → Char} {letters : List Char} :
    Matches isWord (Pattern.letters fold letters) before text after ↔ text.map fold = letters := by
  induction letters generalizing before text with
  | nil => simp [Pattern.letters, Matches]
  | cons letter rest ih =>
      simp only [Pattern.letters, Matches, ih, List.map_eq_cons_iff,
        decide_eq_true_eq]
      constructor
      · rintro ⟨_, others, rfl, ⟨c, rfl, same⟩, folded⟩
        exact ⟨c, others, rfl, same, folded⟩
      · rintro ⟨c, others, rfl, same, folded⟩
        exact ⟨[c], others, rfl, ⟨c, rfl, same⟩, folded⟩

/-! ## What every match has -/

namespace Pattern

/-- No match is shorter. -/
def leastLength : Pattern → Nat
  | nothing => 0
  | one _ => 1
  | many _ least => least
  | boundary => 0
  | both first second => first.leastLength + second.leastLength
  | either first second => min first.leastLength second.leastLength

/-- The length of every match, where the pattern tells it. -/
def fixedLength : Pattern → Option Nat
  | nothing => some 0
  | one _ => some 1
  | many _ _ => none
  | boundary => some 0
  | both first second =>
      first.fixedLength.bind fun length => second.fixedLength.map fun more => length + more
  | either first second =>
      if first.fixedLength = second.fixedLength then first.fixedLength else none

/-- The pattern tells that no match has the character at the index. -/
def excludes (c : Char) : Pattern → Nat → Bool
  | nothing, _ => true
  | one accepts, index => index ≠ 0 || !accepts c
  | many accepts _, _ => !accepts c
  | boundary, _ => true
  | both first second, index =>
      if index < first.leastLength then first.excludes c index
      else first.fixedLength.any fun length =>
        decide (length ≤ index) && second.excludes c (index - length)
  | either first second, index => first.excludes c index && second.excludes c index

end Pattern

theorem leastLength_le (matching : Matches isWord pattern before text after) :
    pattern.leastLength ≤ text.length := by
  induction pattern generalizing before text after with
  | nothing => exact Nat.zero_le _
  | one accepts =>
      obtain ⟨c, rfl, -⟩ := matching
      exact le_rfl
  | many accepts least => exact matching.1
  | boundary => exact Nat.zero_le _
  | both first second firstHypothesis secondHypothesis =>
      obtain ⟨start, more, rfl, ofFirst, ofSecond⟩ := matching
      rw [List.length_append]
      exact Nat.add_le_add (firstHypothesis ofFirst) (secondHypothesis ofSecond)
  | either first second firstHypothesis secondHypothesis =>
      rcases matching with ofFirst | ofSecond
      · exact (Nat.min_le_left _ _).trans (firstHypothesis ofFirst)
      · exact (Nat.min_le_right _ _).trans (secondHypothesis ofSecond)

theorem length_of_fixedLength {length : Nat} (fixed : pattern.fixedLength = some length)
    (matching : Matches isWord pattern before text after) : text.length = length := by
  induction pattern generalizing before text after length with
  | nothing =>
      cases fixed
      exact congrArg List.length matching
  | one accepts =>
      cases fixed
      obtain ⟨c, rfl, -⟩ := matching
      rfl
  | many accepts least => cases fixed
  | boundary =>
      cases fixed
      exact congrArg List.length matching.1
  | both first second firstHypothesis secondHypothesis =>
      obtain ⟨ofFirst, isFirst, isSum⟩ := Option.bind_eq_some_iff.mp fixed
      obtain ⟨ofSecond, isSecond, rfl⟩ := Option.map_eq_some_iff.mp isSum
      obtain ⟨start, more, rfl, matchesFirst, matchesSecond⟩ := matching
      rw [List.length_append, firstHypothesis isFirst matchesFirst,
        secondHypothesis isSecond matchesSecond]
  | either first second firstHypothesis secondHypothesis =>
      rw [fixedLength] at fixed
      split at fixed
      next same =>
        rcases matching with matchesFirst | matchesSecond
        · exact firstHypothesis fixed matchesFirst
        · exact secondHypothesis (same ▸ fixed) matchesSecond
      next => cases fixed

theorem getElem?_ne_of_excludes {c : Char} {index : Nat} (excluded : pattern.excludes c index = true)
    (matching : Matches isWord pattern before text after) : text[index]? ≠ some c := by
  induction pattern generalizing before text after index with
  | nothing =>
      obtain rfl : text = [] := matching
      simp
  | one accepts =>
      obtain ⟨d, rfl, accepted⟩ := matching
      cases index with
      | zero =>
          rintro same
          obtain rfl := Option.some.inj same
          simp [excludes, accepted] at excluded
      | succ index => simp
  | many accepts least =>
      intro found
      have accepted := matching.2 c (List.mem_of_getElem? found)
      simp [excludes, accepted] at excluded
  | boundary =>
      obtain rfl : text = [] := matching.1
      simp
  | both first second firstHypothesis secondHypothesis =>
      obtain ⟨start, more, rfl, matchesFirst, matchesSecond⟩ := matching
      rw [excludes] at excluded
      split at excluded
      next inFirst =>
        rw [List.getElem?_append_left (inFirst.trans_le (leastLength_le matchesFirst))]
        exact firstHypothesis excluded matchesFirst
      next =>
        obtain ⟨length, fixed, both⟩ := (Option.any_eq_true _ _).mp excluded
        rw [Bool.and_eq_true, decide_eq_true_eq] at both
        obtain rfl := length_of_fixedLength fixed matchesFirst
        rw [List.getElem?_append_right both.1]
        exact secondHypothesis both.2 matchesSecond
  | either first second firstHypothesis secondHypothesis =>
      rw [excludes, Bool.and_eq_true] at excluded
      rcases matching with matchesFirst | matchesSecond
      · exact firstHypothesis excluded.1 matchesFirst
      · exact secondHypothesis excluded.2 matchesSecond

/-! ## Searching -/

variable (isWord) in
/-- What is found first, from the left. -/
def searchFrom (pattern : Pattern) : Option Char → List Char → Option (List Char)
  | before, [] => (ends isWord pattern before []).head?.map Prod.fst
  | before, c :: rest =>
      match (ends isWord pattern before (c :: rest)).head? with
      | some found => some found.1
      | none => searchFrom pattern (some c) rest

variable (isWord) in
/-- `pattern.search(text)`, and its group 0. -/
def search (pattern : Pattern) (text : List Char) : Option (List Char) :=
  searchFrom isWord pattern none text

variable (isWord) in
/-- `pattern.fullmatch(text)` is not `None`. -/
def fullMatch (pattern : Pattern) (text : List Char) : Bool :=
  (ends isWord pattern none text).any fun found => found.2.isEmpty

variable (isWord) in
/-- The text has a match between this neighbour and its end. -/
def OccursFrom (pattern : Pattern) (before : Option Char) (text : List Char) : Prop :=
  ∃ start found rest, text = start ++ found ++ rest ∧
    Matches isWord pattern (lastOf before start) found rest.head?

variable (isWord) in
abbrev Occurs (pattern : Pattern) (text : List Char) : Prop :=
  OccursFrom isWord pattern none text

theorem occursFrom_here (found : (taken, rest) ∈ ends isWord pattern before text) :
    OccursFrom isWord pattern before text := by
  obtain ⟨rfl, matching⟩ := mem_ends.mp found
  exact ⟨[], taken, rest, rfl, matching⟩

theorem lastOf_cons (before : Option Char) (c : Char) (taken : List Char) :
    lastOf before (c :: taken) = lastOf (some c) taken := by
  unfold lastOf
  rw [List.getLast?_cons]
  cases taken.getLast? <;> rfl

theorem occursFrom_cons {c : Char} : OccursFrom isWord pattern before (c :: rest) ↔
    ends isWord pattern before (c :: rest) ≠ [] ∨ OccursFrom isWord pattern (some c) rest := by
  constructor
  · rintro ⟨start, found, last, same, matching⟩
    cases start with
    | nil =>
        left
        apply List.ne_nil_of_mem
        exact mem_ends.mpr ⟨by simpa using same, matching⟩
    | cons d start =>
        simp only [List.cons_append, List.cons.injEq] at same
        obtain ⟨rfl, rfl⟩ := same
        rw [lastOf_cons] at matching
        exact .inr ⟨start, found, last, rfl, matching⟩
  · rintro (here | ⟨start, found, last, rfl, matching⟩)
    · obtain ⟨⟨taken, last⟩, listed⟩ := List.exists_mem_of_ne_nil _ here
      exact occursFrom_here listed
    · exact ⟨c :: start, found, last, rfl, by rwa [lastOf_cons]⟩

theorem occursFrom_nil :
    OccursFrom isWord pattern before [] ↔ ends isWord pattern before [] ≠ [] := by
  constructor
  · rintro ⟨start, found, last, same, matching⟩
    simp only [List.nil_eq, List.append_eq_nil_iff] at same
    obtain ⟨⟨rfl, rfl⟩, rfl⟩ := same
    exact List.ne_nil_of_mem (mem_ends.mpr ⟨rfl, matching⟩)
  · intro here
    obtain ⟨⟨taken, last⟩, listed⟩ := List.exists_mem_of_ne_nil _ here
    exact occursFrom_here listed

theorem isSome_searchFrom :
    (searchFrom isWord pattern before text).isSome ↔ OccursFrom isWord pattern before text := by
  induction text generalizing before with
  | nil =>
      rw [searchFrom, occursFrom_nil]
      cases ends isWord pattern before [] <;> simp
  | cons c rest ih =>
      rw [searchFrom, occursFrom_cons, ← ih]
      cases ends isWord pattern before (c :: rest) <;> simp

theorem isSome_search : (search isWord pattern text).isSome ↔ Occurs isWord pattern text :=
  isSome_searchFrom

/-! ## Replacing -/

/-- A match: the text taken, what is put in its place, and the text after it. -/
structure Hit where
  taken : List Char
  shown : List Char
  rest : List Char

/-- How a pass finds its next match, which is never empty. -/
structure Matcher where
  look : Option Char → List Char → Option Hit
  splits : ∀ {before text hit}, look before text = some hit →
    text = hit.taken ++ hit.rest ∧ hit.taken ≠ []

namespace Matcher

variable (matcher : Matcher)

/-- The pass, when so many of the next characters belong to a match. -/
def subFrom : Nat → Option Char → List Char → List Char
  | _, _, [] => []
  | count + 1, _, c :: rest => subFrom count (some c) rest
  | 0, before, c :: rest =>
      match matcher.look before (c :: rest) with
      | some hit => hit.shown ++ subFrom (hit.taken.length - 1) (some c) rest
      | none => c :: subFrom 0 (some c) rest

/-- `pattern.sub`. -/
def sub (text : List Char) : List Char := matcher.subFrom 0 none text

variable {matcher} {hit : Hit}

theorem subFrom_taken (taken rest : List Char) (before : Option Char) :
    matcher.subFrom taken.length before (taken ++ rest) =
      matcher.subFrom 0 (lastOf before taken) rest := by
  induction taken generalizing before with
  | nil => rfl
  | cons c taken ih =>
      rw [List.cons_append, List.length_cons, subFrom, ih, lastOf_cons]

theorem subFrom_hit (found : matcher.look before text = some hit) :
    matcher.subFrom 0 before text =
      hit.shown ++ matcher.subFrom 0 (lastOf before hit.taken) hit.rest := by
  obtain ⟨same, nonempty⟩ := matcher.splits found
  obtain ⟨c, taken, isTaken⟩ := List.exists_cons_of_ne_nil nonempty
  rw [isTaken, List.cons_append] at same
  subst same
  have length : hit.taken.length - 1 = taken.length := by simp [isTaken]
  rw [subFrom, found]
  change hit.shown ++ matcher.subFrom (hit.taken.length - 1) (some c) (taken ++ hit.rest) = _
  rw [length, subFrom_taken, isTaken, lastOf_cons]

theorem subFrom_miss {c : Char} (missed : matcher.look before (c :: rest) = none) :
    matcher.subFrom 0 before (c :: rest) = c :: matcher.subFrom 0 (some c) rest := by
  rw [subFrom, missed]

theorem length_rest_lt (found : matcher.look before text = some hit) :
    hit.rest.length < text.length := by
  obtain ⟨same, nonempty⟩ := matcher.splits found
  have positive := List.length_pos_of_ne_nil nonempty
  rw [same, List.length_append]
  omega

@[elab_as_elim]
theorem scanInduction (matcher : Matcher) {motive : Option Char → List Char → Prop}
    (nil : ∀ before, motive before [])
    (miss : ∀ before c rest, matcher.look before (c :: rest) = none → motive (some c) rest →
      motive before (c :: rest))
    (hit : ∀ before text hit, matcher.look before text = some hit →
      motive (lastOf before hit.taken) hit.rest → motive before text)
    (before : Option Char) (text : List Char) : motive before text := by
  induction length : text.length using Nat.strong_induction_on generalizing text before with
  | _ size ih =>
    cases found : matcher.look before text with
    | some next =>
        have smaller := length_rest_lt found
        exact hit before text next found (ih _ (length ▸ smaller) _ _ rfl)
    | none =>
        cases text with
        | nil => exact nil before
        | cons c rest =>
            exact miss before c rest found
              (ih rest.length (by simp [← length]) _ _ rfl)

/-! ### Between the matches -/

variable (matcher) in
/-- The parts that a pass leaves, when so many of the next characters belong to a match. -/
def gapsFrom : Nat → Option Char → List Char → List (List Char)
  | _, _, [] => [[]]
  | count + 1, _, c :: rest => gapsFrom count (some c) rest
  | 0, before, c :: rest =>
      match matcher.look before (c :: rest) with
      | some hit => [] :: gapsFrom (hit.taken.length - 1) (some c) rest
      | none => (gapsFrom 0 (some c) rest).modifyHead (c :: ·)

variable (matcher) in
/-- The parts of a text between the matches. -/
def gaps (text : List Char) : List (List Char) := matcher.gapsFrom 0 none text

theorem gapsFrom_taken (taken rest : List Char) (before : Option Char) :
    matcher.gapsFrom taken.length before (taken ++ rest) =
      matcher.gapsFrom 0 (lastOf before taken) rest := by
  induction taken generalizing before with
  | nil => rfl
  | cons c taken ih =>
      rw [List.cons_append, List.length_cons, gapsFrom, ih, lastOf_cons]

theorem gapsFrom_hit (found : matcher.look before text = some hit) :
    matcher.gapsFrom 0 before text =
      [] :: matcher.gapsFrom 0 (lastOf before hit.taken) hit.rest := by
  obtain ⟨same, nonempty⟩ := matcher.splits found
  obtain ⟨c, taken, isTaken⟩ := List.exists_cons_of_ne_nil nonempty
  rw [isTaken, List.cons_append] at same
  subst same
  have length : hit.taken.length - 1 = taken.length := by simp [isTaken]
  rw [gapsFrom, found]
  change [] :: matcher.gapsFrom (hit.taken.length - 1) (some c) (taken ++ hit.rest) = _
  rw [length, gapsFrom_taken, isTaken, lastOf_cons]

theorem gapsFrom_miss {c : Char} (missed : matcher.look before (c :: rest) = none) :
    matcher.gapsFrom 0 before (c :: rest) =
      (matcher.gapsFrom 0 (some c) rest).modifyHead (c :: ·) := by
  rw [gapsFrom, missed]

theorem exists_gapsFrom (matcher : Matcher) (before : Option Char) (text : List Char) :
    ∃ first others, matcher.gapsFrom 0 before text = first :: others ∧ first <+: text := by
  induction before, text using matcher.scanInduction with
  | nil before => exact ⟨[], [], rfl, List.nil_prefix⟩
  | miss before c rest missed ih =>
      obtain ⟨first, others, gaps, isPrefix⟩ := ih
      exact ⟨c :: first, others, by rw [gapsFrom_miss missed, gaps]; rfl,
        List.cons_prefix_cons.mpr ⟨rfl, isPrefix⟩⟩
  | hit before text hit found _ => exact ⟨[], _, gapsFrom_hit found, List.nil_prefix⟩

theorem infix_of_mem_gapsFrom {gap : List Char} (listed : gap ∈ matcher.gapsFrom 0 before text) :
    gap <:+: text := by
  induction before, text using matcher.scanInduction with
  | nil before =>
      rw [List.mem_singleton.mp listed]
  | miss before c rest missed ih =>
      obtain ⟨first, others, gaps, isPrefix⟩ := matcher.exists_gapsFrom (some c) rest
      rw [gapsFrom_miss missed, gaps] at listed
      rw [gaps] at ih
      rcases List.mem_cons.mp listed with
        rfl | later
      · exact (List.cons_prefix_cons.mpr ⟨rfl, isPrefix⟩).isInfix
      · exact (ih (List.mem_cons_of_mem _ later)).trans
          (List.suffix_cons c rest).isInfix
  | hit before text hit found ih =>
      rw [gapsFrom_hit found] at listed
      rcases List.mem_cons.mp listed with
        rfl | later
      · exact List.nil_infix
      · apply (ih later).trans
        rw [(matcher.splits found).1]
        exact (List.suffix_append _ _).isInfix

theorem eq_of_gapsFrom_eq {gap : List Char} (only : matcher.gapsFrom 0 before text = [gap]) :
    gap = text := by
  induction before, text using matcher.scanInduction generalizing gap with
  | nil before => exact (List.singleton_inj.mp only).symm
  | miss before c rest missed ih =>
      obtain ⟨first, others, gaps, -⟩ := matcher.exists_gapsFrom (some c) rest
      rw [gapsFrom_miss missed, gaps] at only
      obtain ⟨rfl, rfl⟩ := List.cons.inj only
      rw [ih gaps]
  | hit before text hit found _ =>
      obtain ⟨first, others, gaps, -⟩ := matcher.exists_gapsFrom (lastOf before hit.taken) hit.rest
      rw [gapsFrom_hit found, gaps] at only
      cases only

end Matcher

end PaymentsPlatform.Library.Patterns
