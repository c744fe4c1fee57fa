import PaymentsPlatform.Ingestion.Utf8
import PaymentsPlatform.Library.Patterns

/-!
# The output of a child

`_redact` of `transform_execution.py`, and what `execute` returns of the bytes that a child writes.
A single pass replaces what follows a keyword and a sign.  The pass takes the next run of characters
as the value, whatever it is, and goes on after it.
-/

namespace PaymentsPlatform.TransformRuntime.ChildOutput

open Ingestion (isSpace decodeChars utf8 cutText decodeChars_take_utf8 length_utf8_cons
  length_utf8_pos cutText_append_of_le cutText_append_of_lt cutText_of_fits cutText_zero)
open Library.Patterns

def keywords : List String := ["password", "secret", "token", "access_key"]

/-- `(?i)(password|secret|token|access_key)`. -/
def keyword : Pattern :=
  .either (.letters caseless "password".toList) (.either (.letters caseless "secret".toList)
    (.either (.letters caseless "token".toList) (.letters caseless "access_key".toList)))

def isSign (c : Char) : Bool := c = '=' || c = ':'

/-- `(\s*[=:]\s*)`. -/
def separator : Pattern := .both (.many isSpace 0) (.both (.one isSign) (.many isSpace 0))

/-- `\S+`. -/
def secret : Pattern := .many (fun c => !isSpace c) 1

/-- No pattern here looks for words. -/
def noWord : Char → Bool := fun _ => false

def notice : List Char := "[REDACTED]".toList

/-- The first match at a position; `\1\2` stays. -/
def look (before : Option Char) (text : List Char) : Option Hit :=
  (ends noWord (.both keyword separator) before text).findSome? fun lead =>
    (ends noWord secret (lastOf before lead.1) lead.2).head?.map fun value =>
      ⟨lead.1 ++ value.1, lead.1 ++ notice, value.2⟩

theorem look_splits {before : Option Char} {text : List Char} {hit : Hit}
    (found : look before text = some hit) : text = hit.taken ++ hit.rest ∧ hit.taken ≠ [] := by
  obtain ⟨⟨lead, afterLead⟩, listed, step⟩ := List.exists_of_findSome?_eq_some found
  obtain ⟨⟨value, rest⟩, first, rfl⟩ := Option.map_eq_some_iff.mp step
  obtain ⟨rfl, -⟩ := mem_ends.mp listed
  obtain ⟨rfl, nonempty, -⟩ := mem_ends.mp (List.mem_of_mem_head? first)
  refine ⟨(List.append_assoc _ _ _).symm, ?_⟩
  intro empty
  have noValue : value = [] := (List.append_eq_nil_iff.mp empty).2
  simp [noValue] at nonempty

def redaction : Matcher := ⟨look, look_splits⟩

/-- `_redact`. -/
def redact (text : List Char) : List Char := redaction.sub text

/-- `.encode("utf-8")[:size].decode("utf-8", errors="ignore")`: the characters that fit. -/
def fitting : Nat → List Char → List Char
  | _, [] => []
  | size, c :: rest => if c.utf8Size ≤ size then c :: fitting (size - c.utf8Size) rest else []

/-- The output in the result of `execute`. -/
def safeOutput (outputCapBytes : Nat) (output : List UInt8) : List Char :=
  fitting outputCapBytes (redact (decodeChars none (output.take outputCapBytes)))

/-! ## What the pass replaces -/

def IsKeyword (word : List Char) : Prop := ∃ key ∈ keywords, word.map caseless = key.toList

/-- A keyword and a sign, up to the value. -/
def IsLead (lead : List Char) : Prop :=
  ∃ word gap sign space, lead = word ++ gap ++ sign :: space ∧ IsKeyword word ∧
    (∀ c ∈ gap, isSpace c = true) ∧ isSign sign = true ∧ ∀ c ∈ space, isSpace c = true

variable {before after : Option Char} {text lead value rest word : List Char}

theorem matches_keyword : Matches noWord keyword before word after ↔ IsKeyword word := by
  simp [keyword, Matches, matches_letters, IsKeyword, keywords]

theorem matches_lead :
    Matches noWord (.both keyword separator) before lead after ↔ IsLead lead := by
  simp only [Matches, separator, matches_keyword, IsLead]
  constructor
  · rintro ⟨word, _, rfl, isKeyword, gap, _, rfl, ⟨-, blank⟩, _, space, rfl, ⟨sign, rfl, isSign⟩, -,
      spaceBlank⟩
    exact ⟨word, gap, sign, space, by simp, isKeyword, blank, isSign, spaceBlank⟩
  · rintro ⟨word, gap, sign, space, rfl, isKeyword, blank, isSign, spaceBlank⟩
    exact ⟨word, gap ++ sign :: space, by simp, isKeyword, gap, sign :: space, rfl,
      ⟨Nat.zero_le _, blank⟩, [sign], space, rfl, ⟨sign, rfl, isSign⟩, Nat.zero_le _, spaceBlank⟩

theorem isKeyword_ne_nil (isKeyword : IsKeyword word) : word ≠ [] := by
  rintro rfl
  simp [IsKeyword, keywords] at isKeyword

theorem caseless_eq_self {c : Char} (notUpper : ¬ (65 ≤ c.toNat ∧ c.toNat ≤ 90))
    (notSpecial : c.toNat ∉ [0x212A, 0x130, 0x131, 0x17F]) : caseless c = c := by
  simp only [List.mem_cons, List.not_mem_nil, or_false, not_or] at notSpecial
  obtain ⟨notKelvin, notDotted, notDotless, notLong⟩ := notSpecial
  rw [caseless, if_neg notKelvin, if_neg (by tauto), if_neg notLong]
  unfold Char.toLower
  split
  next upper =>
    exact absurd ⟨UInt32.le_iff_toNat_le.mp upper.1, UInt32.le_iff_toNat_le.mp upper.2⟩ notUpper
  next => rfl

theorem plain_of_toNat {c : Char} (outside : 65 ≤ c.toNat ∧ c.toNat ≤ 90 ∨
    c.toNat ∈ [0x212A, 0x130, 0x131, 0x17F]) :
    isSpace c = false ∧ isSign c = false ∧ c ≠ '"' := by
  simp only [List.mem_cons, List.not_mem_nil, or_false] at outside
  refine ⟨?_, ?_, ?_⟩
  · simp only [isSpace, List.mem_cons, List.not_mem_nil, or_false, decide_eq_false_iff_not]
    omega
  · simp only [isSign, Bool.or_eq_false_iff, decide_eq_false_iff_not]
    constructor <;>
      · rintro rfl
        simp at outside
  · rintro rfl
    simp at outside

theorem plain_of_isKeyword (isKeyword : IsKeyword word) {c : Char} (listed : c ∈ word) :
    isSpace c = false ∧ isSign c = false ∧ c ≠ '"' := by
  obtain ⟨key, isKey, same⟩ := isKeyword
  have folded : caseless c ∈ key.toList := same ▸ List.mem_map_of_mem listed
  have letters : ∀ key ∈ keywords, ∀ letter ∈ key.toList,
      isSpace letter = false ∧ isSign letter = false ∧ letter ≠ '"' := by
    have all : (keywords.all fun key => key.toList.all fun letter =>
        decide (isSpace letter = false ∧ isSign letter = false ∧ letter ≠ '"')) = true := by
      decide +kernel
    exact fun key isKey letter isLetter => of_decide_eq_true
      (List.all_eq_true.mp (List.all_eq_true.mp all key isKey) letter isLetter)
  have fixed : caseless c = c → isSpace c = false ∧ isSign c = false ∧ c ≠ '"' := by
    intro same
    exact letters key isKey c (same ▸ folded)
  by_cases outside : 65 ≤ c.toNat ∧ c.toNat ≤ 90 ∨ c.toNat ∈ [0x212A, 0x130, 0x131, 0x17F]
  · exact plain_of_toNat outside
  · rw [not_or] at outside
    exact fixed (caseless_eq_self outside.1 outside.2)

theorem span_unique {accepts : Char → Bool} {run other more others : List Char} {c d : Char}
    (all : ∀ c ∈ run, accepts c = true) (allOther : ∀ c ∈ other, accepts c = true)
    (stop : accepts c = false) (stopOther : accepts d = false)
    (same : run ++ c :: more = other ++ d :: others) : run = other ∧ c :: more = d :: others := by
  have taken := congrArg (List.takeWhile accepts) same
  rw [List.takeWhile_append_of_pos all, List.takeWhile_append_of_pos allOther,
    List.takeWhile_cons_of_neg (by simp [stop]), List.takeWhile_cons_of_neg (by simp [stopOther]),
    List.append_nil, List.append_nil] at taken
  subst taken
  exact ⟨rfl, List.append_cancel_left same⟩

theorem keyword_unique {other : List Char} (isKeyword : IsKeyword word)
    (isOther : IsKeyword other) {more others : List Char}
    (same : word ++ more = other ++ others) : word = other := by
  have keys : ∀ key ∈ keywords, ∀ other ∈ keywords, key.toList <+: other.toList → key = other := by
    decide
  have ofPrefix : ∀ {word other : List Char}, IsKeyword word → IsKeyword other → word <+: other →
      word = other := by
    rintro word other ⟨key, isKey, folded⟩ ⟨otherKey, isOtherKey, otherFolded⟩ isPrefix
    have images := isPrefix.map caseless
    rw [folded, otherFolded] at images
    apply isPrefix.eq_of_length
    have lengths := congrArg List.length folded
    have otherLengths := congrArg List.length otherFolded
    rw [List.length_map] at lengths otherLengths
    rw [lengths, otherLengths, keys key isKey otherKey isOtherKey images]
  rcases List.prefix_or_prefix_of_prefix (List.prefix_append word more)
      (same ▸ List.prefix_append other others) with
    isPrefix | isPrefix
  · exact ofPrefix isKeyword isOther isPrefix
  · exact (ofPrefix isOther isKeyword isPrefix).symm

theorem lead_unique {other more others : List Char} {c d : Char} (isLead : IsLead lead)
    (isOther : IsLead other) (stop : isSpace c = false) (stopOther : isSpace d = false)
    (same : lead ++ c :: more = other ++ d :: others) : lead = other ∧ c :: more = d :: others := by
  obtain ⟨word, gap, sign, space, rfl, isKeyword, gapBlank, isSign, spaceBlank⟩ := isLead
  obtain ⟨word', gap', sign', space', rfl, isKeyword', gapBlank', isSign', spaceBlank'⟩ := isOther
  have notSpace : ∀ {sign : Char}, ChildOutput.isSign sign = true → isSpace sign = false := by
    intro sign isSign
    simp only [ChildOutput.isSign, Bool.or_eq_true, decide_eq_true_eq] at isSign
    rcases isSign with
      rfl | rfl <;> decide
  simp only [List.append_assoc, List.cons_append] at same
  have words := keyword_unique isKeyword isKeyword' same
  subst words
  obtain ⟨rfl, signs⟩ := span_unique gapBlank gapBlank' (notSpace isSign) (notSpace isSign')
    (List.append_cancel_left same)
  obtain ⟨rfl, spaces⟩ := List.cons.inj signs
  obtain ⟨rfl, rests⟩ := span_unique spaceBlank spaceBlank' stop stopOther spaces
  exact ⟨rfl, rests⟩

/-- A value: characters of which none is blank. -/
def IsValue (value : List Char) : Prop := value ≠ [] ∧ ∀ c ∈ value, isSpace c = false

/-- The text does not go on with a character of a value. -/
def StopsValue (rest : List Char) : Prop := ∀ c ∈ rest.head?, isSpace c = true

theorem IsValue.append {other : List Char} (isValue : IsValue value)
    (others : ∀ c ∈ other, isSpace c = false) : IsValue (value ++ other) := by
  refine ⟨by simp [isValue.1], ?_⟩
  intro c listed
  rcases List.mem_append.mp listed with
    inValue | inOther
  · exact isValue.2 c inValue
  · exact others c inOther

theorem takeWhile_value (isValue : IsValue value) (stops : StopsValue rest) :
    (value ++ rest).takeWhile (fun c => !isSpace c) = value ∧
      (value ++ rest).dropWhile (fun c => !isSpace c) = rest := by
  have all : ∀ c ∈ value, (!isSpace c) = true := by
    intro c listed
    rw [isValue.2 c listed]
    rfl
  rw [List.takeWhile_append_of_pos all, List.dropWhile_append_of_pos all]
  cases rest with
  | nil => simp
  | cons c more =>
      have blank : isSpace c = true := stops c rfl
      simp [blank]

theorem look_lead (before : Option Char) (isLead : IsLead lead) (isValue : IsValue value)
    (stops : StopsValue rest) : look before (lead ++ (value ++ rest)) =
      some ⟨lead ++ value, lead ++ notice, rest⟩ := by
  obtain ⟨c, others, isCons⟩ := List.exists_cons_of_ne_nil isValue.1
  have stop : isSpace c = false := isValue.2 c (isCons ▸ List.mem_cons_self)
  have listed : (lead, value ++ rest) ∈
      ends noWord (.both keyword separator) before (lead ++ (value ++ rest)) :=
    mem_ends.mpr ⟨rfl, matches_lead.mpr isLead⟩
  obtain ⟨run, remaining⟩ := takeWhile_value isValue stops
  have positive : 1 ≤ value.length := List.length_pos_of_ne_nil isValue.1
  have step : ∀ start, (ends noWord secret start (value ++ rest)).head? = some (value, rest) := by
    intro start
    rw [secret, head?_ends_many, run, remaining, if_pos positive]
  have found : (look before (lead ++ (value ++ rest))).isSome := by
    rw [look, List.findSome?_isSome_iff]
    exact ⟨_, listed, by rw [step]; rfl⟩
  obtain ⟨hit, isHit⟩ := Option.isSome_iff_exists.mp found
  rw [isHit]
  obtain ⟨⟨other, afterOther⟩, otherListed, otherStep⟩ := List.exists_of_findSome?_eq_some isHit
  obtain ⟨⟨taken, left⟩, first, rfl⟩ := Option.map_eq_some_iff.mp otherStep
  obtain ⟨same, otherMatches⟩ := mem_ends.mp otherListed
  have nonempty : afterOther ≠ [] := by
    rintro rfl
    simp [secret, head?_ends_many] at first
  obtain ⟨d, more, rfl⟩ := List.exists_cons_of_ne_nil nonempty
  have stopOther : isSpace d = false := by
    rw [secret, head?_ends_many] at first
    by_contra blank
    rw [Bool.not_eq_false] at blank
    simp [blank] at first
  rw [isCons, List.cons_append] at same
  obtain ⟨rfl, rests⟩ :=
    lead_unique isLead (matches_lead.mp otherMatches) stop stopOther same
  rw [← rests, ← List.cons_append, ← isCons, step] at first
  cases first
  rfl

theorem look_eq_some {before : Option Char} {hit : Hit} (found : look before text = some hit) :
    ∃ lead c more, text = lead ++ c :: more ∧ IsLead lead ∧ isSpace c = false := by
  obtain ⟨⟨lead, afterLead⟩, listed, step⟩ := List.exists_of_findSome?_eq_some found
  obtain ⟨⟨value, rest⟩, first, -⟩ := Option.map_eq_some_iff.mp step
  obtain ⟨rfl, leadMatches⟩ := mem_ends.mp listed
  obtain ⟨same, nonempty, plain⟩ := mem_ends_many.mp (List.mem_of_mem_head? first)
  obtain ⟨c, others, rfl⟩ := List.exists_cons_of_ne_nil (List.ne_nil_of_length_pos nonempty)
  refine ⟨lead, c, others ++ rest, by simpa using same, matches_lead.mp leadMatches, ?_⟩
  simpa using plain c List.mem_cons_self

/-! ## The pass -/

theorem look_before (before other : Option Char) (text : List Char) :
    look before text = look other text := by
  have plain : (Pattern.both keyword separator).Plain := by
    simp [keyword, separator, Pattern.Plain, Pattern.letters]
  have alike : ends noWord (.both keyword separator) before text =
      ends noWord (.both keyword separator) other text := ends_alike (.inl plain)
  rw [look, look, alike]
  rfl

theorem subFrom_eq_redact (before : Option Char) (text : List Char) :
    redaction.subFrom 0 before text = redact text := by
  cases text with
  | nil => rfl
  | cons c rest =>
      rw [redact, Matcher.sub, Matcher.subFrom, Matcher.subFrom]
      rw [show redaction.look before = redaction.look none from funext (look_before before none)]

theorem redact_lead (isLead : IsLead lead) (isValue : IsValue value) (stops : StopsValue rest) :
    redact (lead ++ (value ++ rest)) = lead ++ notice ++ redact rest := by
  rw [redact, Matcher.sub, Matcher.subFrom_hit (look_lead none isLead isValue stops),
    subFrom_eq_redact]

theorem redact_skip {c : Char}
    (missed : ∀ lead d more, IsLead lead → isSpace d = false → c :: rest ≠ lead ++ d :: more) :
    redact (c :: rest) = c :: redact rest := by
  have none : redaction.look none (c :: rest) = none := by
    rw [← Option.not_isSome_iff_eq_none]
    intro isSome
    obtain ⟨hit, found⟩ := Option.isSome_iff_exists.mp isSome
    obtain ⟨lead, d, more, same, isLead, stop⟩ := look_eq_some found
    exact missed lead d more isLead stop same
  rw [redact, Matcher.sub, Matcher.subFrom_miss none, subFrom_eq_redact]

/-- Read from the left, the text ends inside what the pass takes as a value. -/
inductive Covered : List Char → Prop
  | here {lead part : List Char} : IsLead lead → (∀ c ∈ part, isSpace c = false) →
      Covered (lead ++ part)
  | later {lead value rest : List Char} {c : Char} : IsLead lead → IsValue value →
      isSpace c = true → Covered (c :: rest) → Covered (lead ++ (value ++ c :: rest))
  | skip {c : Char} {rest : List Char} : (∀ lead, IsLead lead → ¬ lead <+: c :: rest) →
      Covered rest → Covered (c :: rest)

/-- The last character that is not blank is a sign or a quote. -/
def Settled (text : List Char) : Prop :=
  ∀ start c space, text = start ++ c :: space → isSpace c = false →
    (∀ c ∈ space, isSpace c = true) → isSign c = true ∨ c = '"'

theorem Settled.of_append {start : List Char} (settled : Settled (start ++ text)) :
    Settled text := by
  intro more c space same notBlank blank
  exact settled (start ++ more) c space (by rw [same, List.append_assoc]) notBlank blank

theorem blank_or_last (text : List Char) : (∀ c ∈ text, isSpace c = true) ∨
    ∃ start c space, text = start ++ c :: space ∧ isSpace c = false ∧
      ∀ c ∈ space, isSpace c = true := by
  induction text with
  | nil => simp
  | cons c rest ih =>
      rcases ih with
        blank | ⟨start, d, space, rfl, notBlank, blank⟩
      · cases first : isSpace c with
        | true =>
            left
            simpa [first] using blank
        | false => exact .inr ⟨[], c, rest, rfl, first, blank⟩
      · exact .inr ⟨c :: start, d, space, rfl, notBlank, blank⟩

theorem IsLead.blank_after {start : List Char} {c : Char} (isLead : IsLead (start ++ c :: rest))
    (notBlank : isSpace c = false) (ending : isSign c = true ∨ c = '"') :
    ∀ d ∈ rest, isSpace d = true := by
  obtain ⟨word, gap, sign, space, same, isKeyword, gapBlank, isSign, spaceBlank⟩ := isLead
  have notBefore : c ∉ word ++ gap := by
    intro listed
    rcases List.mem_append.mp listed with
      inWord | inGap
    · obtain ⟨-, notSign, notQuote⟩ := plain_of_isKeyword isKeyword inWord
      rcases ending with
        isSign | isQuote
      · rw [isSign] at notSign
        cases notSign
      · exact notQuote isQuote
    · rw [gapBlank c inGap] at notBlank
      cases notBlank
  rcases List.append_eq_append_iff.mp same with
    ⟨beyond, isBeyond, rests⟩ | ⟨beyond, isBeyond, rests⟩
  · cases beyond with
    | nil =>
        obtain ⟨-, rfl⟩ := List.cons.inj (by simpa using rests)
        exact spaceBlank
    | cons e beyond =>
        rw [List.cons_append, List.cons.injEq] at rests
        rw [rests.1, isBeyond] at notBefore
        simp at notBefore
  · cases beyond with
    | nil =>
        obtain ⟨-, rfl⟩ := List.cons.inj (by simpa using rests)
        exact spaceBlank
    | cons e beyond =>
        rw [List.cons_append, List.cons.injEq] at rests
        have inSpace : c ∈ space := by simp [rests.2]
        rw [spaceBlank c inSpace] at notBlank
        cases notBlank

theorem Settled.not_lead {c d : Char} (settled : Settled (c :: rest))
    (free : ∀ lead, IsLead lead → ¬ lead <+: c :: rest) (isValue : IsValue value)
    {after more : List Char} (isLead : IsLead lead) :
    c :: rest ++ (value ++ after) ≠ lead ++ d :: more := by
  intro same
  rcases List.append_eq_append_iff.mp same with
    ⟨beyond, isBeyond, values⟩ | ⟨remaining, isPrefix, -⟩
  · cases beyond with
    | nil => exact free lead isLead ⟨[], by rw [isBeyond, List.append_nil, List.append_nil]⟩
    | cons e beyond =>
        have notBlank : isSpace e = false := by
          obtain ⟨first, others, isCons⟩ := List.exists_cons_of_ne_nil isValue.1
          rw [isCons, List.cons_append, List.cons_append] at values
          rw [← (List.cons.inj values).1]
          exact isValue.2 first (isCons ▸ List.mem_cons_self)
        obtain ⟨word, gap, sign, space, rfl, isKeyword, gapBlank, isSign, spaceBlank⟩ := isLead
        rcases blank_or_last (c :: rest) with
          blank | ⟨start, last, spaces, isLast, lastNotBlank, spacesBlank⟩
        · -- a keyword does not begin with a blank
          obtain ⟨first, others, isCons⟩ := List.exists_cons_of_ne_nil (isKeyword_ne_nil isKeyword)
          rw [isCons] at isBeyond
          have isFirst := (List.cons.inj (by simpa using isBeyond)).1
          have plain := (plain_of_isKeyword isKeyword (isCons ▸ List.mem_cons_self)).1
          rw [isFirst, blank c List.mem_cons_self] at plain
          cases plain
        · have isLead : IsLead (start ++ last :: (spaces ++ e :: beyond)) := by
            refine ⟨word, gap, sign, space, ?_, isKeyword, gapBlank, isSign, spaceBlank⟩
            rw [isBeyond, isLast, List.append_assoc, List.cons_append]
          have blank := isLead.blank_after lastNotBlank
            (settled start last spaces isLast lastNotBlank spacesBlank) e (by simp)
          rw [blank] at notBlank
          cases notBlank
  · exact free lead isLead ⟨remaining, isPrefix.symm⟩

theorem isLead_append {space : List Char} (isLead : IsLead lead)
    (blank : ∀ c ∈ space, isSpace c = true) : IsLead (lead ++ space) := by
  obtain ⟨word, gap, sign, spaces, rfl, isKeyword, gapBlank, isSign, spaceBlank⟩ := isLead
  refine ⟨word, gap, sign, spaces ++ space, by simp, isKeyword, gapBlank, isSign, ?_⟩
  intro c listed
  rcases List.mem_append.mp listed with
    before | last
  · exact spaceBlank c before
  · exact blank c last

theorem stopsValue_dropWhile (text : List Char) :
    StopsValue (text.dropWhile fun c => !isSpace c) := by
  intro c first
  have stop := List.head?_dropWhile_not (fun c => !isSpace c) text
  rw [Option.mem_def.mp first] at stop
  simpa using stop

theorem isValue_takeWhile (text : List Char) :
    ∀ c ∈ text.takeWhile (fun c => !isSpace c), isSpace c = false := by
  intro c listed
  simpa using List.mem_takeWhile_imp listed

theorem Covered.redact_append (covered : Covered text) (settled : Settled text) :
    ∃ shown, ∀ value after, IsValue value → redact (text ++ (value ++ after)) =
      shown ++ redact (after.dropWhile fun c => !isSpace c) := by
  induction covered with
  | @here lead part isLead plain =>
      refine ⟨lead ++ notice, ?_⟩
      intro value after isValue
      have all : IsValue (part ++ (value ++ after.takeWhile fun c => !isSpace c)) := by
        have whole := isValue.append (isValue_takeWhile after)
        refine ⟨by simp [isValue.1], ?_⟩
        intro c listed
        rcases List.mem_append.mp listed with
          inPart | inValue
        · exact plain c inPart
        · exact whole.2 c inValue
      have step := redact_lead isLead all (stopsValue_dropWhile after)
      simpa only [List.append_assoc, List.takeWhile_append_dropWhile] using step
  | @later lead value rest c isLead isValue blank _ ih =>
      have restSettled : Settled (c :: rest) := by
        apply @Settled.of_append _ (lead ++ value)
        rwa [List.append_assoc]
      obtain ⟨shown, step⟩ := ih restSettled
      refine ⟨lead ++ notice ++ shown, ?_⟩
      intro other after isOther
      have stops : StopsValue (c :: rest ++ (other ++ after)) := by
        rintro d ⟨⟩
        exact blank
      rw [List.append_assoc lead, List.append_assoc value, redact_lead isLead isValue stops,
        step other after isOther]
      simp only [List.append_assoc]
  | @skip c rest free _ ih =>
      have restSettled : Settled rest := @Settled.of_append _ [c] settled
      obtain ⟨shown, step⟩ := ih restSettled
      refine ⟨c :: shown, ?_⟩
      intro value after isValue
      rw [List.cons_append, redact_skip, step value after isValue, List.cons_append]
      intro lead d more isLead _
      exact settled.not_lead free isValue isLead

theorem split_of_lead (isLead : IsLead lead) (remaining : List Char) :
    ∃ whole value rest, lead ++ remaining = whole ++ (value ++ rest) ∧ IsLead whole ∧
      (∀ c ∈ value, isSpace c = false) ∧
        (rest = [] ∨ value ≠ [] ∧ ∃ c more, rest = c :: more ∧ isSpace c = true) := by
  refine ⟨lead ++ remaining.takeWhile isSpace,
    (remaining.dropWhile isSpace).takeWhile fun c => !isSpace c,
    (remaining.dropWhile isSpace).dropWhile fun c => !isSpace c, by simp,
    isLead_append isLead fun c listed => List.mem_takeWhile_imp listed,
    isValue_takeWhile _, ?_⟩
  have stops := stopsValue_dropWhile (remaining.dropWhile isSpace)
  cases isRest : (remaining.dropWhile isSpace).dropWhile fun c => !isSpace c with
  | nil => exact .inl rfl
  | cons c more =>
      right
      have blank : isSpace c = true := stops c (by rw [isRest]; rfl)
      refine ⟨?_, c, more, rfl, blank⟩
      intro empty
      have same := @List.takeWhile_append_dropWhile _ (fun c => !isSpace c)
        (remaining.dropWhile isSpace)
      rw [empty, isRest, List.nil_append] at same
      have stop := List.head?_dropWhile_not isSpace remaining
      rw [← same, List.head?_cons] at stop
      simp [blank] at stop

/-- What the pass has done before a value that it does not cover. -/
def Exposed (text : List Char) : Prop :=
  ∃ shown, ∀ value after, IsValue value →
    redact (text ++ (value ++ after)) = shown ++ redact (value ++ after)

theorem covered_or_exposed (settled : Settled text) : Covered text ∨ Exposed text := by
  induction length : text.length using Nat.strong_induction_on generalizing text with
  | _ size ih =>
    cases text with
    | nil => exact .inr ⟨[], fun _ _ _ => rfl⟩
    | cons c rest =>
        by_cases starts : ∃ lead, IsLead lead ∧ lead <+: c :: rest
        · obtain ⟨lead, isLead, remaining, same⟩ := starts
          obtain ⟨whole, value, last, split, isWhole, plain, stops⟩ :=
            split_of_lead isLead remaining
          rw [← same, split] at settled length ⊢
          rcases stops with
            rfl | ⟨nonempty, d, more, rfl, blank⟩
          · rw [List.append_nil]
            exact .inl (.here isWhole plain)
          · have lastSettled : Settled (d :: more) := by
              apply @Settled.of_append _ (whole ++ value)
              rwa [List.append_assoc]
            have positive := List.length_pos_of_ne_nil nonempty
            have smaller : (d :: more).length < size := by
              rw [← length, List.length_append, List.length_append]
              omega
            rcases ih _ smaller lastSettled rfl with
              covered | ⟨shown, step⟩
            · exact .inl (.later isWhole ⟨nonempty, plain⟩ blank covered)
            · refine .inr ⟨whole ++ notice ++ shown, ?_⟩
              intro other after isOther
              have stopsValue : StopsValue (d :: more ++ (other ++ after)) := by
                rintro e ⟨⟩
                exact blank
              rw [List.append_assoc whole, List.append_assoc value,
                redact_lead isWhole ⟨nonempty, plain⟩ stopsValue, step other after isOther]
              simp only [List.append_assoc]
        · have free : ∀ lead, IsLead lead → ¬ lead <+: c :: rest :=
            fun lead isLead isPrefix => starts ⟨lead, isLead, isPrefix⟩
          have restSettled : Settled rest := @Settled.of_append _ [c] settled
          rcases ih rest.length (by simp [← length]) restSettled rfl with
            covered | ⟨shown, step⟩
          · exact .inl (.skip free covered)
          · refine .inr ⟨c :: shown, ?_⟩
            intro value after isValue
            rw [List.cons_append, redact_skip, step value after isValue, List.cons_append]
            intro lead d more isLead _
            exact settled.not_lead free isValue isLead

/-! ## Two outputs -/

theorem fitting_of_fits {size : Nat} (fits : (utf8 text).length ≤ size) :
    fitting size text = text := by
  induction text generalizing size with
  | nil => rfl
  | cons c rest ih =>
      rw [length_utf8_cons] at fits
      rw [fitting, if_pos (by omega), ih (by omega)]

theorem safeOutput_utf8 (size : Nat) (text : List Char) :
    safeOutput size (utf8 text) = fitting size (redact (cutText size text)) := by
  rw [safeOutput, decodeChars_take_utf8]

theorem IsValue.cutText {size : Nat} (isValue : IsValue value) (positive : 0 < size) :
    IsValue (cutText size value) := by
  obtain ⟨nonempty, plain⟩ := isValue
  constructor
  · obtain ⟨c, rest, rfl⟩ := List.exists_cons_of_ne_nil nonempty
    rw [Ingestion.cutText]
    split
    next => simp
    next => rw [if_neg (by omega)]; simp
  · clear nonempty positive
    induction value generalizing size with
    | nil => simp [Ingestion.cutText]
    | cons c rest ih =>
        rw [Ingestion.cutText]
        split
        next =>
          intro d listed
          rcases List.mem_cons.mp listed with
            rfl | later
          · exact plain d List.mem_cons_self
          · exact ih (fun e among => plain e (List.mem_cons_of_mem _ among)) d later
        next =>
          split
          next => simp
          next =>
            intro d listed
            rw [List.mem_singleton.mp listed]
            decide

theorem Covered.safeOutput_eq (covered : Covered lead) (settled : Settled lead)
    {other trail : List Char} (isValue : IsValue value) (isOther : IsValue other)
    (sameLength : (utf8 other).length = (utf8 value).length) (size : Nat) :
    safeOutput size (utf8 (lead ++ (other ++ trail))) =
      safeOutput size (utf8 (lead ++ (value ++ trail))) := by
  obtain ⟨shown, step⟩ := covered.redact_append settled
  rw [safeOutput_utf8, safeOutput_utf8]
  congr 1
  by_cases beforeValue : size < (utf8 lead).length
  · rw [cutText_append_of_lt _ beforeValue, cutText_append_of_lt _ beforeValue]
  · rw [cutText_append_of_le (other ++ trail) (by omega),
      cutText_append_of_le (value ++ trail) (by omega)]
    generalize size - (utf8 lead).length = remaining
    by_cases inValue : remaining < (utf8 value).length
    · rw [cutText_append_of_lt _ inValue, cutText_append_of_lt _ (sameLength ▸ inValue)]
      by_cases none : remaining = 0
      · rw [none, cutText_zero, cutText_zero]
      · have cutOther := step _ [] (isOther.cutText (Nat.pos_of_ne_zero none))
        have cutValue := step _ [] (isValue.cutText (Nat.pos_of_ne_zero none))
        rw [List.append_nil] at cutOther cutValue
        rw [cutOther, cutValue]
    · have fits : (utf8 value).length ≤ remaining := by omega
      rw [cutText_append_of_le trail (sameLength ▸ fits), cutText_append_of_le trail fits,
        step _ _ isOther, step _ _ isValue, sameLength]

theorem redact_replicate {c : Char} (free : ∀ key ∈ keywords, key.toList.head? ≠ some (caseless c))
    (count : Nat) (rest : List Char) :
    redact (List.replicate count c ++ rest) = List.replicate count c ++ redact rest := by
  induction count with
  | zero => rfl
  | succ count ih =>
      rw [List.replicate_succ, List.cons_append, redact_skip, ih, List.cons_append]
      rintro lead d more ⟨word, gap, sign, space, rfl, ⟨key, isKey, same⟩, -⟩ - atStart
      cases word with
      | nil =>
          have nonempty : ∀ key ∈ keywords, key.toList ≠ [] := by decide
          exact nonempty key isKey same.symm
      | cons first word =>
          simp only [List.cons_append, List.cons.injEq] at atStart
          apply free key isKey
          rw [← same, List.map_cons, List.head?_cons, atStart.1]

theorem isValue_replicate {c : Char} (notBlank : isSpace c = false) {count : Nat}
    (positive : 0 < count) : IsValue (List.replicate count c) := by
  refine ⟨by simpa using (Nat.pos_iff_ne_zero.mp positive), ?_⟩
  intro d listed
  rw [List.eq_of_mem_replicate listed]
  exact notBlank

theorem length_utf8_replicate {c : Char} (ascii : c.utf8Size = 1) (count : Nat) :
    (utf8 (List.replicate count c)).length = count := by
  induction count with
  | zero => rfl
  | succ count ih =>
      rw [List.replicate_succ, length_utf8_cons, ih, ascii, Nat.add_comm]

theorem safeOutput_of_fits {size : Nat} (fits : (utf8 text).length ≤ size)
    (shownFits : (utf8 (redact text)).length ≤ size) :
    safeOutput size (utf8 text) = redact text := by
  rw [safeOutput_utf8, cutText_of_fits fits, fitting_of_fits shownFits]

theorem Exposed.exists_ne (exposed : Exposed lead) (isValue : IsValue value) (trail : List Char) :
    ∃ size other, IsValue other ∧ (utf8 other).length = (utf8 value).length ∧
      safeOutput size (utf8 (lead ++ (other ++ trail))) ≠
        safeOutput size (utf8 (lead ++ (value ++ trail))) := by
  by_contra same
  obtain ⟨shown, step⟩ := exposed
  have positive := length_utf8_pos isValue.1
  have equal : ∀ size c, isSpace c = false → c.utf8Size = 1 →
      safeOutput size (utf8 (lead ++ (List.replicate (utf8 value).length c ++ trail))) =
        safeOutput size (utf8 (lead ++ (value ++ trail))) := by
    intro size c notBlank ascii
    by_contra different
    exact same ⟨size, _, isValue_replicate notBlank positive, length_utf8_replicate ascii _,
      different⟩
  have fill : ∀ c, isSpace c = false →
      (∀ key ∈ keywords, key.toList.head? ≠ some (caseless c)) →
      redact (lead ++ (List.replicate (utf8 value).length c ++ trail)) =
        shown ++ (List.replicate (utf8 value).length c ++ redact trail) := by
    intro c notBlank free
    rw [step _ _ (isValue_replicate notBlank positive), redact_replicate free]
  have shownSame : ∀ c d, isSpace c = false → isSpace d = false → c.utf8Size = 1 →
      d.utf8Size = 1 → redact (lead ++ (List.replicate (utf8 value).length c ++ trail)) =
        redact (lead ++ (List.replicate (utf8 value).length d ++ trail)) := by
    intro c d cNotBlank dNotBlank cAscii dAscii
    generalize isFirst : lead ++ (List.replicate (utf8 value).length c ++ trail) = first
    generalize isSecond : lead ++ (List.replicate (utf8 value).length d ++ trail) = second
    have large : ∃ size, (utf8 first).length ≤ size ∧ (utf8 (redact first)).length ≤ size ∧
        (utf8 second).length ≤ size ∧ (utf8 (redact second)).length ≤ size :=
      ⟨(utf8 first).length + (utf8 (redact first)).length + (utf8 second).length +
        (utf8 (redact second)).length, by omega, by omega, by omega, by omega⟩
    obtain ⟨size, firstFits, firstShownFits, secondFits, secondShownFits⟩ := large
    rw [← safeOutput_of_fits firstFits firstShownFits,
      ← safeOutput_of_fits secondFits secondShownFits, ← isFirst, ← isSecond,
      equal size c cNotBlank cAscii, equal size d dNotBlank dAscii]
  have filled := shownSame 'z' 'q' (by decide) (by decide) (by decide) (by decide)
  rw [fill 'z' (by decide) (by decide), fill 'q' (by decide) (by decide)] at filled
  obtain ⟨count, isCount⟩ := Nat.exists_eq_succ_of_ne_zero (Nat.pos_iff_ne_zero.mp positive)
  rw [isCount, List.replicate_succ, List.replicate_succ] at filled
  have firsts := List.append_cancel_left filled
  simp at firsts

/-! ## Assignments -/

/-- `key=value`, `key: value` or `"key": "value"` somewhere in an output, without the value. -/
structure Assignment where
  before : List Char
  key : List Char
  gap : List Char
  sign : Char
  space : List Char
  after : List Char
  quoted : Bool
  hasKeyword : ∃ word, word <:+: key ∧ IsKeyword word
  isSign : isSign sign = true
  colonWhenQuoted : quoted = true → sign = ':'
  gapBlank : ∀ c ∈ gap, isSpace c = true
  spaceBlank : ∀ c ∈ space, isSpace c = true

namespace Assignment

variable (assignment : Assignment)

def quote : List Char := if assignment.quoted then ['"'] else []

/-- The output up to the value. -/
def beforeValue : List Char :=
  assignment.before ++ assignment.quote ++ assignment.key ++ assignment.quote ++ assignment.gap ++
    assignment.sign :: (assignment.space ++ assignment.quote)

/-- The output with a value. -/
def output (value : List Char) : List Char :=
  assignment.beforeValue ++ (value ++ (assignment.quote ++ assignment.after))

theorem settled_beforeValue : Settled assignment.beforeValue := by
  intro start c space same notBlank blank
  unfold beforeValue quote at same
  cases isQuoted : assignment.quoted with
  | false =>
      left
      rw [isQuoted] at same
      simp only [Bool.false_eq_true, if_false, List.append_nil] at same
      have reversed := congrArg List.reverse same
      simp only [List.reverse_append, List.reverse_cons, List.append_assoc,
        List.singleton_append] at reversed
      have signNotBlank : isSpace assignment.sign = false := by
        have isSign := assignment.isSign
        simp only [ChildOutput.isSign, Bool.or_eq_true, decide_eq_true_eq] at isSign
        rcases isSign with
          isSign | isSign <;> rw [isSign] <;> decide
      obtain ⟨-, signs⟩ := span_unique (fun d listed => assignment.spaceBlank d
        (List.mem_reverse.mp listed)) (fun d listed => blank d (List.mem_reverse.mp listed))
        signNotBlank notBlank reversed
      rw [← (List.cons.inj signs).1]
      exact assignment.isSign
  | true =>
      right
      rw [isQuoted, if_pos rfl] at same
      have reversed := congrArg List.reverse same
      simp only [List.reverse_append, List.reverse_cons, List.append_assoc,
        List.reverse_nil, List.nil_append, List.cons_append] at reversed
      obtain ⟨-, quotes⟩ := @span_unique isSpace [] space.reverse _ _ '"' c (by simp)
        (fun d listed => blank d (List.mem_reverse.mp listed)) (by decide) notBlank reversed
      exact (List.cons.inj quotes).1.symm

end Assignment

abbrev Value : Type := {text : List Char // IsValue text}

/-- The output tells nothing of a value exactly when the pass covers it. -/
theorem output_hides_value_iff (assignment : Assignment) (value : Value) :
    (∀ (size : Nat) (other : Value), (utf8 other.1).length = (utf8 value.1).length →
      safeOutput size (utf8 (assignment.output other.1)) =
        safeOutput size (utf8 (assignment.output value.1))) ↔ Covered assignment.beforeValue := by
  constructor
  · intro hidden
    rcases covered_or_exposed assignment.settled_beforeValue with
      covered | exposed
    · exact covered
    · obtain ⟨size, other, isOther, sameLength, different⟩ :=
        exposed.exists_ne value.2 (assignment.quote ++ assignment.after)
      exact absurd (hidden size ⟨other, isOther⟩ sameLength) different
  · intro covered size other sameLength
    exact covered.safeOutput_eq assignment.settled_beforeValue value.2 other.2 sameLength size

theorem notBlank_of_all {text : List Char} (all : (text.all fun c => !isSpace c) = true) :
    ∀ c ∈ text, isSpace c = false := by
  intro c listed
  simpa using List.all_eq_true.mp all c listed

/-- `{"password": "..."}` in what a child logs. -/
def loggedPassword : Assignment where
  before := "settings \x7b".toList
  key := "password".toList
  gap := []
  sign := ':'
  space := [' ']
  after := "\x7d".toList
  quoted := true
  hasKeyword := ⟨"password".toList, List.infix_refl _, "password", by decide +kernel,
    by decide +kernel⟩
  isSign := by decide +kernel
  colonWhenQuoted _ := rfl
  gapBlank := List.forall_mem_nil _
  spaceBlank := List.forall_mem_singleton.mpr (by decide)

def firstPassword : Value := ⟨"hunter2".toList, by decide, notBlank_of_all (by decide)⟩

def secondPassword : Value := ⟨"letmein".toList, by decide, notBlank_of_all (by decide)⟩

theorem loggedPassword_shown :
    (utf8 firstPassword.1).length = (utf8 secondPassword.1).length ∧
      safeOutput 64 (utf8 (loggedPassword.output firstPassword.1)) ≠
        safeOutput 64 (utf8 (loggedPassword.output secondPassword.1)) := by
  rw [safeOutput_utf8, safeOutput_utf8]
  decide +kernel

end PaymentsPlatform.TransformRuntime.ChildOutput
