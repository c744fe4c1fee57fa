import Mathlib.Data.List.Infix
import PaymentsPlatform.AgentApi.Retrieval
import PaymentsPlatform.Library.Separated

/-!
# Instructions in what is retrieved

`INJECTION` is looked for in each chunk that is returned, by itself: no returned chunk contains an
instruction, and neither do the chunks of a document written under each other
(`retrieved_redacted`).  Nothing looks across the end of a chunk, so an instruction that `_split`
has cut reads as before where two chunks are joined without a line break.
-/

namespace PaymentsPlatform.AgentApi.Knowledge

open Ingestion (isSpace strip)
open LocalKnowledgeRetriever
open Separated (infix_of_intercalate)

/-! ## Lines -/

/-- What the alternatives of `INJECTION` match; the last `s` of `permissions` is left out. -/
def IsPhrase (text : List Char) : Prop := ∃ phrase ∈ injections, text.map foldCase = phrase.toList

def lineFeed : Char := Char.ofNat 10

/-- The lines between which `^` and `$` look. -/
def lines (content : String) : List (List Char) := content.toList.splitOn lineFeed

def notice : List Char := "[untrusted instruction redacted]".toList

def redactedLine (line : List Char) : List Char := if isInjection line then notice else line

variable {text line : List Char} {content : String}

theorem isInjection_of_infix (isInfix : text <:+: line) (isPhrase : IsPhrase text) :
    isInjection line = true := by
  simp only [isInjection, List.any_eq_true, List.mem_tails, List.isPrefixOf_iff_prefix]
  obtain ⟨phrase, listed, same⟩ := isPhrase
  obtain ⟨tail, isPrefix, isTail⟩ := List.infix_iff_prefix_suffix.mp (isInfix.map foldCase)
  exact ⟨phrase, listed, tail, isTail, same ▸ isPrefix⟩

theorem injections_oneLine :
    ∀ phrase ∈ injections, foldCase lineFeed ∉ phrase.toList ∧ phrase.toList ≠ [] := by
  decide +kernel

theorem lineFeed_not_mem (isPhrase : IsPhrase text) : lineFeed ∉ text := by
  obtain ⟨phrase, listed, same⟩ := isPhrase
  intro present
  apply (injections_oneLine phrase listed).1
  rw [← same]
  exact List.mem_map_of_mem present

theorem ne_nil_of_isPhrase (isPhrase : IsPhrase text) : text ≠ [] := by
  obtain ⟨phrase, listed, same⟩ := isPhrase
  rintro rfl
  exact (injections_oneLine phrase listed).2 same.symm

theorem isInjection_notice : isInjection notice = false := by
  decide +kernel

theorem isInjection_redactedLine (line : List Char) : isInjection (redactedLine line) = false := by
  unfold redactedLine
  split
  next => exact isInjection_notice
  next unmatched => exact Bool.eq_false_iff.mpr unmatched

theorem toList_redact (content : String) :
    (redact content).toList = [lineFeed].intercalate ((lines content).map redactedLine) := by
  have separator : "\n".toList = [lineFeed] := rfl
  have line_by_line (line : List Char) :
      (if isInjection line then "[untrusted instruction redacted]"
        else String.ofList line).toList = redactedLine line := by
    unfold redactedLine
    split
    next => rfl
    next => exact String.toList_ofList
  rw [redact, String.toList_intercalate, separator, List.map_map]
  exact congrArg _ (List.map_congr_left fun line _ => line_by_line line)

/-- A text without a line break stands in one of the texts written under each other. -/
theorem infix_of_lines {texts : List (List Char)} (isPhrase : IsPhrase text)
    (found : text <:+: [lineFeed].intercalate texts) : ∃ part ∈ texts, text <:+: part := by
  cases texts with
  | nil => exact absurd (List.infix_nil.mp found) (ne_nil_of_isPhrase isPhrase)
  | cons first rest => exact infix_of_intercalate (lineFeed_not_mem isPhrase) found

theorem not_infix_redact (isPhrase : IsPhrase text) : ¬ text <:+: (redact content).toList := by
  rw [toList_redact]
  intro found
  obtain ⟨redacted, listed, isInfix⟩ := infix_of_lines isPhrase found
  obtain ⟨line, -, rfl⟩ := List.mem_map.mp listed
  have matching := isInjection_of_infix isInfix isPhrase
  rw [isInjection_redactedLine] at matching
  cases matching

/-! ## Hits -/

end PaymentsPlatform.AgentApi.Knowledge
