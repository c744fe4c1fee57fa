import PaymentsPlatform.Library.Patterns

/-!
# Replacing between fences

A character that no class of a pattern accepts, and that belongs to no word, is a fence: the pattern
matches on its sides as it does in two texts.  What replaces a match begins and ends with fences, so
what a pattern finds afterwards it finds in one of the parts between the matches.
-/

namespace PaymentsPlatform.Library.Patterns

open Pattern

/-- No class of the pattern accepts the character. -/
def Pattern.Avoids (fence : Char) : Pattern → Prop
  | one accepts => accepts fence = false
  | many accepts _ => accepts fence = false
  | both first second => first.Avoids fence ∧ second.Avoids fence
  | either first second => first.Avoids fence ∧ second.Avoids fence
  | _ => True

/-- Between two texts the pattern sees nothing but an end. -/
structure Fence (isWord : Char → Bool) (pattern : Pattern) (fence : Char) : Prop where
  avoided : pattern.Avoids fence
  noWord : isWord fence = false

variable {isWord : Char → Bool} {pattern : Pattern} {fence : Char} {before after : Option Char}
  {text taken rest : List Char}

/-- A pattern sees its neighbours as parts of words or not; a plain one does not see them. -/
theorem matches_alike {otherBefore otherAfter : Option Char}
    (alike : pattern.Plain ∨ inWord isWord before = inWord isWord otherBefore ∧
      inWord isWord after = inWord isWord otherAfter) :
    Matches isWord pattern before text after ↔
      Matches isWord pattern otherBefore text otherAfter := by
  induction pattern generalizing before after otherBefore otherAfter text with
  | nothing => exact Iff.rfl
  | one accepts => exact Iff.rfl
  | many accepts least => exact Iff.rfl
  | boundary =>
      obtain ⟨sameBefore, sameAfter⟩ := alike.resolve_left id
      rw [Matches, Matches, sameBefore, sameAfter]
  | both first second firstHypothesis secondHypothesis =>
      simp only [Matches]
      apply exists_congr
      intro start
      apply exists_congr
      intro more
      rw [firstHypothesis (alike.imp And.left fun same => ⟨same.1, inWord_or same.2⟩),
        secondHypothesis (alike.imp And.right fun same => ⟨inWord_lastOf same.1 start, same.2⟩)]
  | either first second firstHypothesis secondHypothesis =>
      rw [Matches, Matches, firstHypothesis (alike.imp_left And.left),
        secondHypothesis (alike.imp_left And.right)]

theorem not_mem_of_matches (avoided : pattern.Avoids fence)
    (matching : Matches isWord pattern before text after) : fence ∉ text := by
  induction pattern generalizing before after text with
  | nothing =>
      cases matching
      simp
  | one accepts =>
      obtain ⟨c, rfl, accepted⟩ := matching
      rintro listed
      rw [← List.mem_singleton.mp listed, avoided] at accepted
      cases accepted
  | many accepts least =>
      intro listed
      have accepted := matching.2 fence listed
      rw [avoided] at accepted
      cases accepted
  | boundary =>
      rw [matching.1]
      simp
  | both first second firstHypothesis secondHypothesis =>
      obtain ⟨start, more, rfl, firstMatches, secondMatches⟩ := matching
      rw [List.mem_append, not_or]
      exact ⟨firstHypothesis avoided.1 firstMatches, secondHypothesis avoided.2 secondMatches⟩
  | either first second firstHypothesis secondHypothesis =>
      rcases matching with
        firstMatches | secondMatches
      · exact firstHypothesis avoided.1 firstMatches
      · exact secondHypothesis avoided.2 secondMatches

namespace Fence

variable (isFence : Fence isWord pattern fence)
include isFence

theorem inWord_eq : inWord isWord (some fence) = inWord isWord none := isFence.noWord

theorem lastOf_append_fence (first start : List Char) :
    inWord isWord (lastOf before (first ++ fence :: start)) = inWord isWord (lastOf none start) := by
  have last : lastOf before (first ++ fence :: start) = lastOf (some fence) start := by
    unfold lastOf
    rw [List.getLast?_append, List.getLast?_cons]
    cases start.getLast? <;> rfl
  rw [last]
  exact inWord_lastOf isFence.inWord_eq start

/-- The pattern occurs on one of the sides. -/
theorem occursFrom_append (first second : List Char) :
    OccursFrom isWord pattern before (first ++ fence :: second) ↔
      OccursFrom isWord pattern before first ∨ Occurs isWord pattern second := by
  have onFirst : ∀ {start found beyond : List Char},
      Matches isWord pattern (lastOf before start) found (beyond ++ fence :: second).head? ↔
        Matches isWord pattern (lastOf before start) found beyond.head? := by
    intro start found beyond
    refine matches_alike (.inr ⟨rfl, ?_⟩)
    cases beyond with
    | nil => exact isFence.inWord_eq
    | cons c beyond => rfl
  have onSecond : ∀ {start found last : List Char},
      Matches isWord pattern (lastOf before (first ++ fence :: start)) found last.head? ↔
        Matches isWord pattern (lastOf none start) found last.head? :=
    matches_alike (.inr ⟨isFence.lastOf_append_fence first _, rfl⟩)
  constructor
  · rintro ⟨start, found, last, same, matching⟩
    have avoided := not_mem_of_matches isFence.avoided matching
    rcases List.append_eq_append_iff.mp same with
      ⟨beyond, isBeyond, isSecond⟩ | ⟨beyond, isFirst, rfl⟩
    · cases beyond with
      | nil =>
          rw [List.append_nil] at isBeyond
          rw [List.nil_append] at isSecond
          rw [← isSecond] at matching
          exact .inl ⟨start, found, [], by rw [isBeyond, List.append_nil],
            onFirst.mp (by simpa using matching)⟩
      | cons c beyond =>
          rw [List.cons_append, List.cons.injEq] at isSecond
          obtain ⟨rfl, rfl⟩ := isSecond
          rcases List.append_eq_append_iff.mp isBeyond with
            ⟨more, isStart, isFound⟩ | ⟨more, rfl, isFound⟩
          · -- the fence would be in the match
            apply absurd _ avoided
            rw [isFound]
            simp
          · cases more with
            | nil =>
                apply absurd _ avoided
                rw [List.nil_append] at isFound
                rw [← isFound]
                exact List.mem_cons_self
            | cons d more =>
                rw [List.cons_append, List.cons.injEq] at isFound
                obtain ⟨rfl, rfl⟩ := isFound
                exact .inr ⟨more, found, last, rfl, onSecond.mp matching⟩
    · exact .inl ⟨start, found, beyond, isFirst, onFirst.mp matching⟩
  · rintro (⟨start, found, last, rfl, matching⟩ | ⟨start, found, last, rfl, matching⟩)
    · exact ⟨start, found, last ++ fence :: second, by simp, onFirst.mpr matching⟩
    · exact ⟨first ++ fence :: start, found, last, by simp, onSecond.mpr matching⟩

theorem occurs_append (first second : List Char) :
    Occurs isWord pattern (first ++ fence :: second) ↔
      Occurs isWord pattern first ∨ Occurs isWord pattern second :=
  isFence.occursFrom_append first second

/-- The ways to match before a fence. -/
theorem ends_append (first second : List Char) :
    ends isWord pattern before (first ++ fence :: second) =
      (ends isWord pattern before first).map fun taken =>
        (taken.1, taken.2 ++ fence :: second) := by
  obtain ⟨avoided, noWord⟩ := isFence
  induction pattern generalizing before first with
  | nothing => rfl
  | one accepts =>
      have refused : accepts fence = false := avoided
      cases first with
      | nil => simp [ends, refused]
      | cons c first =>
          simp only [List.cons_append, ends]
          split <;> rfl
  | many accepts least =>
      have run : (first ++ fence :: second).takeWhile accepts = first.takeWhile accepts := by
        have refused : accepts fence = false := avoided
        clear avoided
        induction first with
        | nil => simp [refused]
        | cons c first ih => simp [List.takeWhile_cons, ih]
      have short : (first.takeWhile accepts).length ≤ first.length :=
        (List.takeWhile_prefix accepts).length_le
      rw [ends, ends, run, List.map_map]
      apply List.map_congr_left
      intro count listed
      rw [List.mem_filter, List.mem_reverse, List.mem_range] at listed
      have within : count ≤ first.length := by omega
      simp only [Function.comp_apply, List.take_append_of_le_length within,
        List.drop_append_of_le_length within]
  | boundary =>
      have sameAfter : inWord isWord (first ++ fence :: second).head? =
          inWord isWord first.head? := by
        cases first with
        | nil => exact noWord
        | cons c first => rfl
      rw [ends, ends, sameAfter]
      split <;> rfl
  | both first' second' firstHypothesis secondHypothesis =>
      rw [ends, ends, firstHypothesis _ avoided.1, List.flatMap_map, List.map_flatMap]
      apply List.flatMap_congr
      intro taken _
      rw [secondHypothesis _ avoided.2, List.map_map, List.map_map]
      rfl
  | either first' second' firstHypothesis secondHypothesis =>
      rw [ends, ends, firstHypothesis _ avoided.1, secondHypothesis _ avoided.2, List.map_append]

end Fence

/-! ## Replacing by one text -/

/-- Every match is replaced by the same text. -/
def replacing (isWord : Char → Bool) (pattern : Pattern) (token : List Char)
    (nonempty : ∀ before after, ¬ Matches isWord pattern before [] after) : Matcher where
  look before text := (ends isWord pattern before text).head?.map fun found =>
    ⟨found.1, token, found.2⟩
  splits := by
    intro before text hit found
    obtain ⟨⟨taken, rest⟩, first, rfl⟩ := Option.map_eq_some_iff.mp found
    obtain ⟨same, matching⟩ := mem_ends.mp (List.mem_of_mem_head? first)
    refine ⟨same, ?_⟩
    rintro rfl
    exact nonempty _ _ matching

section Replacing

variable {token : List Char} {nonempty : ∀ before after, ¬ Matches isWord pattern before [] after}

theorem look_eq_none :
    (replacing isWord pattern token nonempty).look before text = none ↔
      ends isWord pattern before text = [] := by
  simp [replacing]

theorem sub_of_not_occurs (absent : ¬ OccursFrom isWord pattern before text) :
    (replacing isWord pattern token nonempty).subFrom 0 before text = text := by
  induction text generalizing before with
  | nil => rfl
  | cons c rest ih =>
      rw [occursFrom_cons, not_or, not_not] at absent
      rw [Matcher.subFrom_miss (look_eq_none.mpr absent.1), ih absent.2]

theorem subFrom_congr {other : Option Char} (same : inWord isWord before = inWord isWord other) :
    (replacing isWord pattern token nonempty).subFrom 0 before text =
      (replacing isWord pattern token nonempty).subFrom 0 other text := by
  cases text with
  | nil => rfl
  | cons c rest =>
      rw [Matcher.subFrom, Matcher.subFrom]
      simp only [replacing, ends_alike (.inr same)]

/-- The parts on the sides of a fence are replaced by themselves. -/
theorem subFrom_append_fence (isFence : Fence isWord pattern fence) (first second : List Char) :
    (replacing isWord pattern token nonempty).subFrom 0 before (first ++ fence :: second) =
      (replacing isWord pattern token nonempty).subFrom 0 before first ++
        fence :: (replacing isWord pattern token nonempty).sub second := by
  induction before, first using
      (replacing isWord pattern token nonempty).scanInduction with
  | nil before =>
      have missed : (replacing isWord pattern token nonempty).look before
          (fence :: second) = none := by
        have nothing : ends isWord pattern before [] = [] := by
          apply List.eq_nil_iff_forall_not_mem.mpr
          rintro ⟨taken, rest⟩ listed
          obtain ⟨same, matching⟩ := mem_ends.mp listed
          rw [(List.append_eq_nil_iff.mp same.symm).1] at matching
          exact nonempty _ _ matching
        have sides := @Fence.ends_append _ _ _ before isFence [] second
        rw [nothing, List.nil_append, List.map_nil] at sides
        exact look_eq_none.mpr sides
      rw [List.nil_append, Matcher.subFrom_miss missed, Matcher.sub,
        subFrom_congr isFence.inWord_eq]
      rfl
  | miss before c rest missed ih =>
      have missedBoth : (replacing isWord pattern token nonempty).look before
          (c :: (rest ++ fence :: second)) = none := by
        rw [look_eq_none, ← List.cons_append, isFence.ends_append, look_eq_none.mp missed,
          List.map_nil]
      rw [Matcher.subFrom_miss missed, List.cons_append, Matcher.subFrom_miss missedBoth,
        ih, List.cons_append]
  | hit before text hit found ih =>
      have hitBoth : (replacing isWord pattern token nonempty).look before
          (text ++ fence :: second) =
            some ⟨hit.taken, hit.shown, hit.rest ++ fence :: second⟩ := by
        obtain ⟨taken, first, rfl⟩ := Option.map_eq_some_iff.mp found
        simp [replacing, isFence.ends_append, first]
      rw [Matcher.subFrom_hit found, Matcher.subFrom_hit hitBoth, ih,
        List.append_assoc]

theorem intercalate_cons (separator first : List Char) {others : List (List Char)}
    (nonempty : others ≠ []) : separator.intercalate (first :: others) =
      first ++ separator ++ separator.intercalate others := by
  obtain ⟨second, more, rfl⟩ := List.exists_cons_of_ne_nil nonempty
  simp [List.intercalate]

theorem subFrom_eq_intercalate :
    (replacing isWord pattern token nonempty).subFrom 0 before text =
      token.intercalate ((replacing isWord pattern token nonempty).gapsFrom 0 before text) := by
  induction before, text using (replacing isWord pattern token nonempty).scanInduction with
  | nil before => rfl
  | miss before c rest missed ih =>
      obtain ⟨first, others, gaps, -⟩ :=
        (replacing isWord pattern token nonempty).exists_gapsFrom (some c) rest
      rw [Matcher.subFrom_miss missed, Matcher.gapsFrom_miss missed, ih, gaps,
        List.modifyHead_cons]
      cases others with
      | nil => simp [List.intercalate]
      | cons second more =>
          rw [intercalate_cons token first (List.cons_ne_nil second more),
            intercalate_cons token (c :: first) (List.cons_ne_nil second more), List.cons_append,
            List.cons_append]
  | hit before text hit found ih =>
      obtain ⟨first, others, gaps, -⟩ :=
        (replacing isWord pattern token nonempty).exists_gapsFrom (lastOf before hit.taken) hit.rest
      have shown : hit.shown = token := by
        obtain ⟨taken, -, rfl⟩ := Option.map_eq_some_iff.mp found
        rfl
      rw [Matcher.subFrom_hit found, Matcher.gapsFrom_hit found, ih,
        intercalate_cons _ _ (by simp [gaps]), shown, List.nil_append]

theorem occurs_of_isInfix (plain : pattern.Plain) {whole : List Char} (isInfix : text <:+: whole)
    (occurs : OccursFrom isWord pattern before text) (other : Option Char) :
    OccursFrom isWord pattern other whole := by
  obtain ⟨start, found, rest, rfl, matching⟩ := occurs
  obtain ⟨first, last, rfl⟩ := isInfix
  exact ⟨first ++ start, found, rest ++ last, by simp, (matches_alike (.inl plain)).mp matching⟩

/-- No part between the matches contains one. -/
theorem not_occurs_of_mem_gaps (plain : pattern.Plain) {gap : List Char}
    (listed : gap ∈ (replacing isWord pattern token nonempty).gapsFrom 0 before text) :
    ¬ Occurs isWord pattern gap := by
  induction before, text using (replacing isWord pattern token nonempty).scanInduction
    generalizing gap with
  | nil before =>
      rw [List.mem_singleton.mp listed]
      rintro ⟨start, found, rest, same, matching⟩
      simp only [List.nil_eq, List.append_eq_nil_iff] at same
      rw [same.1.2] at matching
      exact nonempty _ _ matching
  | miss before c rest missed ih =>
      obtain ⟨first, others, gaps, isPrefix⟩ :=
        (replacing isWord pattern token nonempty).exists_gapsFrom (some c) rest
      rw [gaps] at ih
      rw [Matcher.gapsFrom_miss missed, gaps, List.modifyHead_cons] at listed
      rcases List.mem_cons.mp listed with
        rfl | later
      · intro occurs
        rcases occursFrom_cons.mp occurs with
          here | inFirst
        · obtain ⟨⟨taken, last⟩, atStart⟩ := List.exists_mem_of_ne_nil _ here
          obtain ⟨same, matching⟩ := mem_ends.mp atStart
          obtain ⟨more, rfl⟩ := isPrefix
          have inText : (taken, last ++ more) ∈
              ends isWord pattern before (c :: (first ++ more)) := by
            rw [mem_ends, ← List.cons_append, same, List.append_assoc]
            exact ⟨rfl, (matches_alike (.inl plain)).mp matching⟩
          rw [look_eq_none.mp missed] at inText
          simp at inText
        · exact ih List.mem_cons_self
            (occurs_of_isInfix plain (List.infix_refl first) inFirst none)
      · exact ih (List.mem_cons_of_mem _ later)
  | hit before text hit found ih =>
      rw [Matcher.gapsFrom_hit found] at listed
      rcases List.mem_cons.mp listed with
        rfl | later
      · rintro ⟨start, found, rest, same, matching⟩
        simp only [List.nil_eq, List.append_eq_nil_iff] at same
        rw [same.1.2] at matching
        exact nonempty _ _ matching
      · exact ih later

end Replacing

/-! ## Replacements that are fenced -/

/-- A text between two fences, in which the pattern finds nothing. -/
structure Fenced (isWord : Char → Bool) (pattern : Pattern) (token : List Char) : Prop where
  shape : ∃ opening body closing, token = opening :: (body ++ [closing]) ∧
    Fence isWord pattern opening ∧ Fence isWord pattern closing ∧ ¬ Occurs isWord pattern body

theorem occurs_intercalate {token : List Char} (fenced : Fenced isWord pattern token)
    {parts : List (List Char)} (nonempty : parts ≠ []) :
    Occurs isWord pattern (token.intercalate parts) ↔
      ∃ part ∈ parts, Occurs isWord pattern part := by
  obtain ⟨opening, body, closing, rfl, isOpening, isClosing, absent⟩ := fenced.shape
  induction parts with
  | nil => exact absurd rfl nonempty
  | cons first others ih =>
      cases others with
      | nil => simp [List.intercalate]
      | cons second more =>
          have separated : ∀ rest : List Char, first ++ opening :: (body ++ [closing]) ++ rest =
              first ++ opening :: (body ++ closing :: rest) := by simp
          rw [intercalate_cons _ _ (by simp), separated, isOpening.occurs_append,
            isClosing.occurs_append, ih (by simp),
            @List.exists_mem_cons_iff _ _ first]
          simp only [absent, false_or]

theorem sub_intercalate {token separator : List Char}
    {free : ∀ before after, ¬ Matches isWord pattern before [] after}
    (fenced : Fenced isWord pattern separator) {parts : List (List Char)} (nonempty : parts ≠ []) :
    (replacing isWord pattern token free).sub (separator.intercalate parts) =
      separator.intercalate (parts.map (replacing isWord pattern token free).sub) := by
  obtain ⟨opening, body, closing, rfl, isOpening, isClosing, absent⟩ := fenced.shape
  induction parts with
  | nil => exact absurd rfl nonempty
  | cons first others ih =>
      cases others with
      | nil => simp [List.intercalate]
      | cons second more =>
          have separated : ∀ first rest : List Char,
              first ++ opening :: (body ++ [closing]) ++ rest =
                first ++ opening :: (body ++ closing :: rest) := by simp
          rw [List.map_cons, intercalate_cons _ first (List.cons_ne_nil second more),
            intercalate_cons _ ((replacing isWord pattern token free).sub first) (by simp),
            ← ih (by simp), separated, separated, Matcher.sub,
            subFrom_append_fence isOpening, Matcher.sub, subFrom_append_fence isClosing,
            sub_of_not_occurs absent]
          rfl

end PaymentsPlatform.Library.Patterns
