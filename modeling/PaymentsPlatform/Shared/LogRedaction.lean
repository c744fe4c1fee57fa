import PaymentsPlatform.Library.Fences

/-!
# Redaction of log messages

`redact_for_log` and `log_record_is_clean` of `services/shared/data_protection.py`.  E-mail addresses
are replaced first, then phone numbers; `_NIN_RE` is defined beside them and not used.  Between the
replacements a number or an identifier can begin that was none before (`redactForLog_covers_iff`).
-/

namespace PaymentsPlatform.Shared

open Library.Patterns

/-- What `\\w` and `\\d` match. -/
structure Unicode where
  isWord : Char → Bool
  isDecimal : Char → Bool
  isWord_ascii : ∀ c : Char, c.toNat < 128 → isWord c = (c.isAlphanum || c = '_')
  isDecimal_ascii : ∀ c : Char, c.toNat < 128 → isDecimal c = c.isDigit

def emailLocal (c : Char) : Bool :=
  c.isAlphanum || c = '.' || c = '_' || c = '%' || c = '+' || c = '-'

def emailDomain (c : Char) : Bool := c.isAlphanum || c = '.' || c = '-'

/-- `_EMAIL_RE`. -/
def email : Pattern :=
  .both (.many emailLocal 1) (.both (.one (· = '@')) (.both (.many emailDomain 1)
    (.both (.one (· = '.')) (.many Char.isAlpha 2))))

section Patterns

variable (unicode : Unicode)

/-- `_PHONE_RE`. -/
def phone : Pattern :=
  .either
    (.both (.optional (.one (· = '+'))) (.both (.literal "256") (.exactly unicode.isDecimal 9)))
    (.both .boundary (.both (.one (· = '0')) (.both (.exactly unicode.isDecimal 9) .boundary)))

/-- `_NIN_RE`. -/
def nin : Pattern :=
  .both .boundary (.both (.exactly Char.isUpper 2) (.both (.many unicode.isDecimal 6)
    (.both (.many (fun c => c.isUpper || c.isDigit) 0) .boundary)))

end Patterns

/-! ## What a match needs -/

variable {unicode : Unicode} {before after : Option Char} {text : List Char}

theorem at_mem_of_email (matching : Matches unicode.isWord email before text after) :
    '@' ∈ text := by
  obtain ⟨_, _, rfl, -, _, _, rfl, ⟨c, rfl, same⟩, -⟩ := matching
  rw [decide_eq_true_eq] at same
  simp [same]

theorem digit_mem_of_phone (matching : Matches unicode.isWord (phone unicode) before text after) :
    '2' ∈ text ∨ '0' ∈ text := by
  rcases matching with
    ⟨_, _, rfl, -, _, _, rfl, literal, -⟩ | ⟨_, _, rfl, -, _, _, rfl, ⟨c, rfl, same⟩, -⟩
  · left
    have letters := matches_letters.mp literal
    rw [List.map_id] at letters
    simp [letters]
  · right
    rw [decide_eq_true_eq] at same
    simp [same]

theorem decimal_mem_of_nin (matching : Matches unicode.isWord (nin unicode) before text after) :
    ∃ c ∈ text, unicode.isDecimal c = true := by
  obtain ⟨_, _, rfl, -, _, _, rfl, -, digits, _, rfl, ⟨enough, all⟩, -⟩ := matching
  have positive : 0 < digits.length := by omega
  obtain ⟨c, more, rfl⟩ := List.exists_cons_of_ne_nil (List.ne_nil_of_length_pos positive)
  exact ⟨c, by simp, all c List.mem_cons_self⟩

/-! ## The redaction -/

section Definitions

variable (unicode : Unicode)

def emailToken : List Char := "[REDACTED_EMAIL]".toList

def phoneToken : List Char := "[REDACTED_PHONE]".toList

theorem email_nonempty (before after : Option Char) :
    ¬ Matches unicode.isWord email before [] after := by
  intro matching
  simpa using at_mem_of_email matching

theorem phone_nonempty (before after : Option Char) :
    ¬ Matches unicode.isWord (phone unicode) before [] after := by
  intro matching
  simpa using digit_mem_of_phone matching

def emails : Matcher := replacing unicode.isWord email emailToken (email_nonempty unicode)

def phones : Matcher := replacing unicode.isWord (phone unicode) phoneToken (phone_nonempty unicode)

/-- `redact_for_log`. -/
def redactForLog (message : List Char) : List Char :=
  (phones unicode).sub ((emails unicode).sub message)

/-- `part in whole`. -/
def occursIn (part : String) (whole : List Char) : Bool := whole.tails.any part.toList.isPrefixOf

/-- `log_record_is_clean`. -/
def logRecordIsClean (record : List Char) : Bool :=
  (if occursIn "@" record = true ∧ occursIn "REDACTED" record = false then
    occursIn "[REDACTED_EMAIL]" record else true) &&
  (if (search unicode.isWord (phone unicode) record).isSome then
    occursIn "[REDACTED_PHONE]" record else true)

end Definitions

/-! ## Fences -/

theorem fence_of_bracket {bracket : Char} (isBracket : bracket = '[' ∨ bracket = ']')
    {pattern : Pattern}
    (isPattern : pattern = email ∨ pattern = phone unicode ∨ pattern = nin unicode) :
    Fence unicode.isWord pattern bracket := by
  have ascii : bracket.toNat < 128 := by
    rcases isBracket with
      rfl | rfl <;> decide
  have noWord : unicode.isWord bracket = false := by
    rw [unicode.isWord_ascii bracket ascii]
    rcases isBracket with
      rfl | rfl <;> decide
  have noDecimal : unicode.isDecimal bracket = false := by
    rw [unicode.isDecimal_ascii bracket ascii]
    rcases isBracket with
      rfl | rfl <;> decide
  refine ⟨?_, noWord⟩
  rcases isPattern with
    rfl | rfl | rfl
  · rcases isBracket with
      rfl | rfl <;> simp [email, Pattern.Avoids] <;> decide
  · rcases isBracket with
      rfl | rfl <;>
        simp [phone, Pattern.Avoids, Pattern.optional, Pattern.literal, Pattern.letters,
          Pattern.exactly, noDecimal]
  · rcases isBracket with
      rfl | rfl <;> simp [nin, Pattern.Avoids, Pattern.exactly, noDecimal]

/-- No pattern finds anything in the names of the replacements. -/
theorem not_occurs_body {body : List Char}
    (isBody : body = "REDACTED_EMAIL".toList ∨ body = "REDACTED_PHONE".toList) {pattern : Pattern}
    (isPattern : pattern = email ∨ pattern = phone unicode ∨ pattern = nin unicode) :
    ¬ Occurs unicode.isWord pattern body := by
  rintro ⟨start, found, rest, same, matching⟩
  have within : ∀ c ∈ found, c ∈ body := by
    intro c listed
    rw [same]
    simp [listed]
  have letters : ∀ c ∈ body, c ≠ '@' ∧ c ≠ '2' ∧ c ≠ '0' ∧ unicode.isDecimal c = false := by
    have plain : ∀ c ∈ body, c ≠ '@' ∧ c ≠ '2' ∧ c ≠ '0' ∧ c.toNat < 128 ∧ c.isDigit = false := by
      have all : (body.all fun c => decide (c ≠ '@' ∧ c ≠ '2' ∧ c ≠ '0' ∧ c.toNat < 128 ∧
          c.isDigit = false)) = true := by
        rcases isBody with
          rfl | rfl <;> decide +kernel
      exact fun c listed => of_decide_eq_true (List.all_eq_true.mp all c listed)
    intro c listed
    obtain ⟨notAt, notTwo, notZero, ascii, notDigit⟩ := plain c listed
    exact ⟨notAt, notTwo, notZero, by rw [unicode.isDecimal_ascii c ascii, notDigit]⟩
  rcases isPattern with
    rfl | rfl | rfl
  · exact (letters _ (within _ (at_mem_of_email matching))).1 rfl
  · rcases digit_mem_of_phone matching with
      two | zero
    · exact (letters _ (within _ two)).2.1 rfl
    · exact (letters _ (within _ zero)).2.2.1 rfl
  · obtain ⟨c, listed, isDecimal⟩ := decimal_mem_of_nin matching
    rw [(letters c (within c listed)).2.2.2] at isDecimal
    cases isDecimal

theorem fenced {token : List Char} (isToken : token = emailToken ∨ token = phoneToken)
    {pattern : Pattern}
    (isPattern : pattern = email ∨ pattern = phone unicode ∨ pattern = nin unicode) :
    Fenced unicode.isWord pattern token := by
  rcases isToken with rfl | rfl
  · exact ⟨'[', "REDACTED_EMAIL".toList, ']', by decide, fence_of_bracket (.inl rfl) isPattern,
      fence_of_bracket (.inr rfl) isPattern, not_occurs_body (.inl rfl) isPattern⟩
  · exact ⟨'[', "REDACTED_PHONE".toList, ']', by decide, fence_of_bracket (.inl rfl) isPattern,
      fence_of_bracket (.inr rfl) isPattern, not_occurs_body (.inr rfl) isPattern⟩

/-! ## The parts of a message -/

variable (unicode) in
/-- What is left of a message between the replacements. -/
def pieces (message : List Char) : List (List Char) :=
  ((emails unicode).gaps message).flatMap (phones unicode).gaps

variable {message piece : List Char}

theorem gaps_ne_nil (matcher : Matcher) (text : List Char) : matcher.gaps text ≠ [] := by
  obtain ⟨first, others, gaps, -⟩ := matcher.exists_gapsFrom none text
  rw [Matcher.gaps, gaps]
  exact List.cons_ne_nil first others

theorem sub_emails (text : List Char) : (emails unicode).sub text =
    emailToken.intercalate ((emails unicode).gaps text) := subFrom_eq_intercalate

theorem sub_phones (text : List Char) : (phones unicode).sub text =
    phoneToken.intercalate ((phones unicode).gaps text) := subFrom_eq_intercalate

theorem redactForLog_eq (message : List Char) : redactForLog unicode message =
    emailToken.intercalate (((emails unicode).gaps message).map fun gap =>
      phoneToken.intercalate ((phones unicode).gaps gap)) := by
  rw [redactForLog, sub_emails, phones, sub_intercalate (fenced (.inl rfl) (.inr (.inl rfl)))
    (gaps_ne_nil _ _)]
  congr 1
  exact List.map_congr_left fun gap _ => sub_phones gap

theorem occurs_redactForLog {pattern : Pattern}
    (isPattern : pattern = email ∨ pattern = phone unicode ∨ pattern = nin unicode) :
    Occurs unicode.isWord pattern (redactForLog unicode message) ↔
      ∃ piece ∈ pieces unicode message, Occurs unicode.isWord pattern piece := by
  rw [redactForLog_eq, occurs_intercalate (fenced (.inl rfl) isPattern)
    (by simpa using gaps_ne_nil (emails unicode) message)]
  constructor
  · rintro ⟨_, listed, occurs⟩
    obtain ⟨gap, isGap, rfl⟩ := List.mem_map.mp listed
    obtain ⟨piece, isPiece, occursPiece⟩ :=
      (occurs_intercalate (fenced (.inr rfl) isPattern) (gaps_ne_nil _ gap)).mp occurs
    exact ⟨piece, List.mem_flatMap.mpr ⟨gap, isGap, isPiece⟩, occursPiece⟩
  · rintro ⟨piece, isPiece, occurs⟩
    obtain ⟨gap, isGap, inGap⟩ := List.mem_flatMap.mp isPiece
    exact ⟨_, List.mem_map_of_mem isGap,
      (occurs_intercalate (fenced (.inr rfl) isPattern) (gaps_ne_nil _ gap)).mpr
        ⟨piece, inGap, occurs⟩⟩

theorem not_occurs_email (message : List Char) :
    ¬ Occurs unicode.isWord email (redactForLog unicode message) := by
  rw [occurs_redactForLog (.inl rfl)]
  rintro ⟨piece, isPiece, occurs⟩
  obtain ⟨gap, isGap, inGap⟩ := List.mem_flatMap.mp isPiece
  have plain : email.Plain := by simp [email, Pattern.Plain]
  exact not_occurs_of_mem_gaps plain isGap
    (occurs_of_isInfix plain (Matcher.infix_of_mem_gapsFrom inGap) occurs none)

theorem redactForLog_of_not_occurs (noEmail : ¬ Occurs unicode.isWord email message)
    (noPhone : ¬ Occurs unicode.isWord (phone unicode) message) :
    redactForLog unicode message = message := by
  have first : (emails unicode).sub message = message := sub_of_not_occurs noEmail
  rw [redactForLog, first]
  exact sub_of_not_occurs noPhone

/-! ## What is accepted -/

theorem occursIn_iff {part : String} {whole : List Char} :
    occursIn part whole = true ↔ part.toList <:+: whole := by
  simp only [occursIn, List.any_eq_true, List.mem_tails, List.isPrefixOf_iff_prefix]
  rw [List.infix_iff_prefix_suffix]
  exact ⟨fun ⟨tail, isTail, isPrefix⟩ => ⟨tail, isPrefix, isTail⟩,
    fun ⟨tail, isPrefix, isTail⟩ => ⟨tail, isTail, isPrefix⟩⟩

theorem infix_intercalate {token first second : List Char} {others : List (List Char)} :
    token <:+: token.intercalate (first :: second :: others) := by
  rw [intercalate_cons _ _ (List.cons_ne_nil _ _)]
  exact ⟨first, token.intercalate (second :: others), rfl⟩

theorem occursIn_of_token {token whole : List Char}
    (isToken : token = emailToken ∨ token = phoneToken) (isInfix : token <:+: whole) :
    occursIn "REDACTED" whole = true := by
  apply occursIn_iff.mpr
  apply List.IsInfix.trans _ isInfix
  rcases isToken with rfl | rfl
  · exact ⟨['['], "_EMAIL]".toList, by decide⟩
  · exact ⟨['['], "_PHONE]".toList, by decide⟩

/-- The name of a replacement is seen in the result, unless nothing was replaced. -/
theorem replaced_or_same (message : List Char) :
    pieces unicode message = [message] ∧ redactForLog unicode message = message ∨
      pieces unicode message ≠ [message] ∧
        occursIn "REDACTED" (redactForLog unicode message) = true := by
  obtain ⟨first, others, gaps, -⟩ := (emails unicode).exists_gapsFrom none message
  have isGaps : (emails unicode).gaps message = first :: others := gaps
  rw [redactForLog_eq, pieces, isGaps]
  cases others with
  | nil =>
      have whole : first = message := Matcher.eq_of_gapsFrom_eq gaps
      subst whole
      obtain ⟨inner, more, innerGaps, -⟩ := (phones unicode).exists_gapsFrom none first
      have isInner : (phones unicode).gaps first = inner :: more := innerGaps
      rw [List.flatMap_singleton, List.map_singleton, isInner]
      cases more with
      | nil =>
          have same : inner = first := Matcher.eq_of_gapsFrom_eq innerGaps
          left
          rw [same]
          exact ⟨rfl, by simp [List.intercalate]⟩
      | cons second more =>
          right
          have single : emailToken.intercalate [phoneToken.intercalate (inner :: second :: more)] =
              phoneToken.intercalate (inner :: second :: more) := by simp [List.intercalate]
          refine ⟨by simp, occursIn_of_token (.inr rfl) ?_⟩
          rw [single]
          exact infix_intercalate
  | cons second more =>
      right
      refine ⟨?_, occursIn_of_token (.inl rfl) infix_intercalate⟩
      intro only
      have length := congrArg List.length only
      have firstParts := List.length_pos_of_ne_nil (gaps_ne_nil (phones unicode) first)
      have secondParts := List.length_pos_of_ne_nil (gaps_ne_nil (phones unicode) second)
      rw [List.flatMap_cons, List.flatMap_cons, List.length_append, List.length_append,
        List.length_singleton] at length
      omega

theorem logRecordIsClean_iff (noPhone : ¬ Occurs unicode.isWord (phone unicode) message) :
    logRecordIsClean unicode message = true ↔
      ('@' ∈ message → occursIn "REDACTED" message = true) := by
  have notFound : (search unicode.isWord (phone unicode) message).isSome = false := by
    rw [Bool.eq_false_iff]
    intro found
    exact noPhone (isSome_search.mp found)
  have hasAt : occursIn "@" message = true ↔ '@' ∈ message := by
    rw [occursIn_iff]
    exact List.singleton_infix_iff '@' message
  rw [logRecordIsClean, notFound, ← hasAt]
  cases marked : occursIn "REDACTED" message with
  | true => simp
  | false =>
      have unmarked : occursIn "[REDACTED_EMAIL]" message = false := by
        rw [Bool.eq_false_iff]
        intro found
        rw [occursIn_of_token (.inl rfl) (occursIn_iff.mp found)] at marked
        cases marked
      simp [unmarked]

/-! ## What the redaction covers -/

variable (unicode) in
/-- No known shape is left, a second redaction changes nothing, and the result is accepted. -/
structure Covers (message : List Char) : Prop where
  noEmail : ¬ Occurs unicode.isWord email (redactForLog unicode message)
  noPhone : ¬ Occurs unicode.isWord (phone unicode) (redactForLog unicode message)
  noNin : ¬ Occurs unicode.isWord (nin unicode) (redactForLog unicode message)
  idempotent : redactForLog unicode (redactForLog unicode message) = redactForLog unicode message
  accepted : logRecordIsClean unicode (redactForLog unicode message) = true

variable (unicode) in
/-- No piece contains a number or an identifier when it is read by itself, and where there is a
`@` something is replaced or the message says so already. -/
structure Harmless (message : List Char) : Prop where
  pieces : ∀ piece ∈ pieces unicode message, ¬ Occurs unicode.isWord (phone unicode) piece ∧
    ¬ Occurs unicode.isWord (nin unicode) piece
  marked : '@' ∈ message →
    Shared.pieces unicode message ≠ [message] ∨ occursIn "REDACTED" message = true

theorem redactForLog_covers_iff (unicode : Unicode) (message : List Char) :
    Covers unicode message ↔ Harmless unicode message := by
  constructor
  · rintro ⟨-, noPhone, noNin, -, accepted⟩
    refine ⟨?_, ?_⟩
    · intro piece isPiece
      exact ⟨fun occurs => noPhone ((occurs_redactForLog (.inr (.inl rfl))).mpr
          ⟨piece, isPiece, occurs⟩),
        fun occurs => noNin ((occurs_redactForLog (.inr (.inr rfl))).mpr ⟨piece, isPiece, occurs⟩)⟩
    · intro hasAt
      rcases @replaced_or_same unicode message with
        ⟨-, same⟩ | ⟨replaced, -⟩
      · rw [same] at accepted noPhone
        exact .inr ((logRecordIsClean_iff noPhone).mp accepted hasAt)
      · exact .inl replaced
  · rintro ⟨harmless, marked⟩
    have noPhone : ¬ Occurs unicode.isWord (phone unicode) (redactForLog unicode message) := by
      rw [occurs_redactForLog (.inr (.inl rfl))]
      rintro ⟨piece, isPiece, occurs⟩
      exact (harmless piece isPiece).1 occurs
    refine ⟨not_occurs_email message, noPhone, ?_,
      redactForLog_of_not_occurs (not_occurs_email message) noPhone, ?_⟩
    · rw [occurs_redactForLog (.inr (.inr rfl))]
      rintro ⟨piece, isPiece, occurs⟩
      exact (harmless piece isPiece).2 occurs
    · rw [logRecordIsClean_iff noPhone]
      rcases @replaced_or_same unicode message with
        ⟨only, same⟩ | ⟨-, shown⟩
      · rw [same]
        intro hasAt
        exact (marked hasAt).resolve_left fun replaced => replaced only
      · exact fun _ => shown

/-- Texts of ASCII characters. -/
def ascii : Unicode where
  isWord c := c.isAlphanum || c = '_'
  isDecimal := Char.isDigit
  isWord_ascii _ _ := rfl
  isDecimal_ascii _ _ := rfl

/-- An identification number stays in the message. -/
theorem not_covers_nin : ¬ Covers ascii "beneficiary CM12345678 paid".toList := by
  rintro ⟨-, -, noNin, -, -⟩
  apply noNin
  apply isSome_search.mp
  decide +kernel

end PaymentsPlatform.Shared
