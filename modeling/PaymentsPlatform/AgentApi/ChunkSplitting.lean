import PaymentsPlatform.AgentApi.Knowledge
import PaymentsPlatform.Library.Patterns
import PaymentsPlatform.Library.Segments

/-!
# Splitting a document into chunks

A piece of a paragraph can consist of blanks only, and pieces are stripped only when they are joined
to the current chunk.  The loop keeps that the current chunk is empty or shows something: a piece of
blanks never makes the candidate too long, so it never becomes the current chunk by itself.

The paragraphs are modelled as runs of lines; `paragraphs_eq` says that these are what the separator
of `re.split` leaves.
-/

namespace PaymentsPlatform.AgentApi.Knowledge

open Ingestion (strip isSpace)
open Library.Patterns

/-! ## Blanks -/

/-- The characters that are no whitespace. -/
def nonblanks (text : List Char) : List Char := text.filter fun c => !isSpace c

/-- `str.strip`, of the characters. -/
def stripped (text : List Char) : List Char :=
  ((text.dropWhile isSpace).reverse.dropWhile isSpace).reverse

def Blank (text : List Char) : Prop := ∀ c ∈ text, isSpace c = true

section Blanks

variable {text blank : List Char}

theorem toList_strip (text : String) : (strip isSpace text).toList = stripped text.toList :=
  String.toList_ofList

@[simp]
theorem nonblanks_nil : nonblanks [] = [] := rfl

@[simp]
theorem nonblanks_append (first second : List Char) :
    nonblanks (first ++ second) = nonblanks first ++ nonblanks second :=
  List.filter_append ..

@[simp]
theorem nonblanks_flatten (texts : List (List Char)) :
    nonblanks texts.flatten = texts.flatMap nonblanks := by
  rw [nonblanks, List.filter_flatten]
  rfl

theorem nonblanks_eq_nil : nonblanks text = [] ↔ Blank text := by
  simp [nonblanks, Blank, List.filter_eq_nil_iff]

theorem nonblanks_dropWhile (text : List Char) :
    nonblanks (text.dropWhile isSpace) = nonblanks text := by
  have blank : nonblanks (text.takeWhile isSpace) = [] :=
    nonblanks_eq_nil.mpr fun c listed => List.mem_takeWhile_imp listed
  rw [← List.nil_append (nonblanks (text.dropWhile isSpace)), ← blank, ← nonblanks_append,
    List.takeWhile_append_dropWhile]

theorem nonblanks_reverse (text : List Char) : nonblanks text.reverse = (nonblanks text).reverse :=
  List.filter_reverse

@[simp]
theorem nonblanks_stripped (text : List Char) : nonblanks (stripped text) = nonblanks text := by
  rw [stripped, nonblanks_reverse, nonblanks_dropWhile, nonblanks_reverse, nonblanks_dropWhile,
    List.reverse_reverse]

theorem length_stripped_le (text : List Char) : (stripped text).length ≤ text.length := by
  have front := (List.dropWhile_suffix isSpace (l := text)).length_le
  have back := (List.dropWhile_suffix isSpace (l := (text.dropWhile isSpace).reverse)).length_le
  rw [List.length_reverse] at back
  rw [stripped, List.length_reverse]
  exact back.trans front

theorem stripped_of_blank (isBlank : Blank text) : stripped text = [] := by
  have none : text.dropWhile isSpace = [] := List.dropWhile_eq_nil_iff.mpr isBlank
  rw [stripped, none]
  rfl

theorem stripped_eq_nil : stripped text = [] ↔ Blank text := by
  constructor
  · intro empty
    rw [← nonblanks_eq_nil, ← nonblanks_stripped, empty, nonblanks_nil]
  · exact stripped_of_blank

theorem stripped_append_blank (isBlank : Blank blank) (text : List Char) :
    stripped (text ++ blank) = stripped text := by
  rw [stripped, stripped, List.dropWhile_append]
  split
  next empty =>
    rw [List.dropWhile_eq_nil_iff.mpr isBlank, List.isEmpty_iff.mp empty]
  next =>
    rw [List.reverse_append, List.dropWhile_append_of_pos]
    intro c listed
    exact isBlank c (List.mem_reverse.mp listed)

theorem stripped_blank_append (isBlank : Blank blank) (text : List Char) :
    stripped (blank ++ text) = stripped text := by
  rw [stripped, stripped, List.dropWhile_append_of_pos isBlank]

end Blanks

/-! ## The loop -/

namespace LocalKnowledgeRetriever

variable {retriever : LocalKnowledgeRetriever} {state : List String × String} {seen : List Char}

/-- What is seen of some texts. -/
def shown (texts : List String) : List Char := texts.flatMap fun text => nonblanks text.toList

/-- The chunk is not larger than it may be, and shows something. -/
def Proper (retriever : LocalKnowledgeRetriever) (chunk : String) : Prop :=
  nonblanks chunk.toList ≠ [] ∧ chunk.toList.length ≤ retriever.chunkSize

/-- The chunks so far, when this much has been seen of the pieces. -/
structure Packed (retriever : LocalKnowledgeRetriever) (state : List String × String)
    (seen : List Char) : Prop where
  full : ∀ chunk ∈ state.1, retriever.Proper chunk
  current : state.2 ≠ "" → retriever.Proper state.2
  seen : shown state.1 ++ nonblanks state.2.toList = seen

theorem toList_candidate (current piece : String) :
    (strip isSpace (current ++ "\n\n" ++ piece)).toList =
      stripped (current.toList ++ ("\n\n".toList ++ piece.toList)) := by
  rw [toList_strip, String.toList_append, String.toList_append, List.append_assoc]

theorem nonblanks_candidate (current piece : String) :
    nonblanks (strip isSpace (current ++ "\n\n" ++ piece)).toList =
      nonblanks current.toList ++ nonblanks piece.toList := by
  have newlines : nonblanks "\n\n".toList = [] := by decide
  rw [toList_candidate, nonblanks_stripped, nonblanks_append, nonblanks_append, newlines, List.nil_append]

theorem length_candidate_le {current piece : String} (isBlank : Blank piece.toList) :
    (strip isSpace (current ++ "\n\n" ++ piece)).toList.length ≤ current.toList.length := by
  have blanks : Blank ("\n\n".toList ++ piece.toList) := by
    rw [← nonblanks_eq_nil, nonblanks_append, nonblanks_eq_nil.mpr isBlank]
    decide
  rw [toList_candidate, stripped_append_blank blanks]
  exact length_stripped_le _

theorem length_candidate_of_empty (piece : String) :
    (strip isSpace ("" ++ "\n\n" ++ piece)).toList.length ≤ piece.toList.length := by
  have newlines : Blank ("".toList ++ "\n\n".toList) := by
    rw [← nonblanks_eq_nil]
    decide
  rw [toList_candidate, ← List.append_assoc, stripped_blank_append newlines]
  exact length_stripped_le _

theorem Packed.addPiece (packed : Packed retriever state seen) {piece : String}
    (fits : piece.toList.length ≤ retriever.chunkSize) :
    Packed retriever (retriever.addPiece state piece) (seen ++ nonblanks piece.toList) := by
  unfold LocalKnowledgeRetriever.addPiece
  dsimp only
  split
  next overflows =>
    obtain ⟨nonempty, long⟩ := overflows
    have proper := packed.current nonempty
    have shows : nonblanks piece.toList ≠ [] := by
      intro blank
      have short := @length_candidate_le state.2 piece (nonblanks_eq_nil.mp blank)
      have bound := proper.2
      omega
    constructor
    case full =>
      intro chunk listed
      rcases List.mem_append.mp listed with before | now
      · exact packed.full chunk before
      · rw [List.mem_singleton.mp now]
        exact proper
    case current => exact fun _ => ⟨shows, fits⟩
    case seen => simp [shown, ← packed.seen]
  next room =>
    constructor
    case full => exact packed.full
    case current =>
      intro nonempty
      constructor
      · intro hidden
        -- a stripped text without such characters is empty
        have empty : stripped (state.2.toList ++ ("\n\n".toList ++ piece.toList)) = [] := by
          rw [stripped_eq_nil, ← nonblanks_eq_nil, ← nonblanks_stripped, ← toList_candidate]
          exact hidden
        rw [← toList_candidate] at empty
        exact nonempty (String.toList_eq_nil_iff.mp empty)
      · by_cases isEmpty : state.2 = ""
        · rw [isEmpty]
          exact (length_candidate_of_empty piece).trans fits
        · by_contra long
          exact room ⟨isEmpty, Nat.lt_of_not_le long⟩
    case seen => rw [nonblanks_candidate, ← List.append_assoc, packed.seen]

theorem Packed.foldl (packed : Packed retriever state seen) {pieces : List String}
    (fit : ∀ piece ∈ pieces, piece.toList.length ≤ retriever.chunkSize) :
    Packed retriever (pieces.foldl retriever.addPiece state) (seen ++ shown pieces) := by
  induction pieces generalizing state seen with
  | nil => simpa [shown] using packed
  | cons piece rest ih =>
      have next := ih (packed.addPiece (fit piece List.mem_cons_self))
        fun other later => fit other (List.mem_cons_of_mem piece later)
      rwa [List.append_assoc] at next

/-- The chunks of the loop, with the current one unless it is empty. -/
def chunksIn (state : List String × String) : List String :=
  if state.2 ≠ "" then state.1 ++ [state.2] else state.1

theorem Packed.proper (packed : Packed retriever state seen) {chunk : String}
    (listed : chunk ∈ chunksIn state) : retriever.Proper chunk := by
  unfold chunksIn at listed
  split at listed
  next nonempty =>
    rcases List.mem_append.mp listed with before | now
    · exact packed.full chunk before
    · rw [List.mem_singleton.mp now]
      exact packed.current nonempty
  next => exact packed.full chunk listed

theorem Packed.shown_chunksIn (packed : Packed retriever state seen) :
    shown (chunksIn state) = seen := by
  rw [← packed.seen, chunksIn]
  split
  next => simp [shown]
  next isEmpty =>
    rw [not_not.mp isEmpty, String.toList_empty, nonblanks_nil, List.append_nil]

end LocalKnowledgeRetriever

/-! ## Pieces and paragraphs -/

section Pieces

variable {size : Nat}

theorem length_piece_le {text piece : String} (listed : piece ∈ pieces size text) :
    piece.toList.length ≤ size := by
  obtain ⟨index, -, rfl⟩ := List.mem_map.mp listed
  rw [String.toList_ofList]
  exact List.length_take_le ..

theorem flatMap_slices (text : List Char) (count : Nat) :
    ((List.range count).flatMap fun index => (text.drop (index * size)).take size) =
      text.take (count * size) := by
  induction count with
  | zero => simp
  | succ count ih =>
      rw [List.range_succ, List.flatMap_append, ih, List.flatMap_singleton,
        Nat.succ_mul, List.take_add]

theorem shown_pieces (positive : 0 < size) (text : String) :
    LocalKnowledgeRetriever.shown (pieces size text) = nonblanks text.toList := by
  have enough : text.toList.length ≤ (text.toList.length + size - 1) / size * size := by
    have division := Nat.div_add_mod (text.toList.length + size - 1) size
    have remainder := Nat.mod_lt (text.toList.length + size - 1) positive
    rw [Nat.mul_comm] at division
    omega
  rw [LocalKnowledgeRetriever.shown, pieces, List.flatMap_map]
  simp only [String.toList_ofList]
  rw [← List.flatMap_map, ← nonblanks_flatten, ← List.flatMap_def, flatMap_slices,
    List.take_of_length_le enough]

end Pieces

section Paragraphs

theorem flatten_splitOnP {α : Type} (separates : α → Bool) (list : List α) :
    (list.splitOnP separates).flatten = list.filter fun a => !separates a := by
  induction list with
  | nil => rfl
  | cons a rest ih =>
      rw [List.splitOnP_cons_eq_if_modifyHead]
      split
      next isSeparator =>
        rw [List.flatten_cons, List.nil_append, ih,
          List.filter_cons_of_neg (by simp [isSeparator])]
      next isOther =>
        obtain ⟨head, tail, parts⟩ := List.exists_cons_of_ne_nil (List.splitOnP_ne_nil separates rest)
        rw [parts] at ih ⊢
        rw [List.modifyHead_cons, List.flatten_cons, List.cons_append, ← List.flatten_cons,
          ih, List.filter_cons_of_pos (by simpa using isOther)]

theorem flatMap_nonblanks_filter (lines : List (List Char)) :
    (lines.filter fun line => !line.all isSpace).flatMap nonblanks = lines.flatMap nonblanks := by
  induction lines with
  | nil => rfl
  | cons line rest ih =>
      by_cases isBlank : line.all isSpace
      · have hidden : nonblanks line = [] :=
          nonblanks_eq_nil.mpr (List.all_eq_true.mp isBlank)
        rw [List.filter_cons_of_neg (by simp [isBlank]), ih, List.flatMap_cons,
          hidden, List.nil_append]
      · rw [List.filter_cons_of_pos (by simp [isBlank]), List.flatMap_cons, ih,
          List.flatMap_cons]

/-- The lines as one text. -/
def joined (lines : List (List Char)) : List Char := [Char.ofNat 10].intercalate lines

theorem toList_joined (lines : List (List Char)) :
    ("\n".intercalate (lines.map String.ofList)).toList = joined lines := by
  have same : (String.toList ∘ String.ofList) = id := by
    funext line
    exact String.toList_ofList
  rw [String.toList_intercalate, List.map_map, same, List.map_id]
  rfl

theorem joined_cons_cons (line next : List Char) (rest : List (List Char)) :
    joined (line :: next :: rest) = line ++ Char.ofNat 10 :: joined (next :: rest) := by
  rw [joined, List.intercalate_cons_cons, List.append_assoc]
  rfl

theorem nonblanks_joined (lines : List (List Char)) :
    nonblanks (joined lines) = lines.flatMap nonblanks := by
  induction lines with
  | nil => rfl
  | cons line rest ih =>
      cases rest with
      | nil => simp [joined]
      | cons next later =>
          have newline : nonblanks [Char.ofNat 10] = [] := by decide
          rw [joined_cons_cons, ← List.singleton_append, nonblanks_append, nonblanks_append, newline,
            ih, List.nil_append]
          rfl

theorem flatMap_nonblanks_groups (groups : List (List (List Char))) :
    (groups.filter (· ≠ [])).flatMap (fun lines => nonblanks (joined lines)) =
      groups.flatten.flatMap nonblanks := by
  induction groups with
  | nil => rfl
  | cons lines rest ih =>
      by_cases isEmpty : lines = []
      · rw [List.filter_cons_of_neg (by simp [isEmpty]), ih, isEmpty,
          List.flatten_cons, List.nil_append]
      · rw [List.filter_cons_of_pos (by simp [isEmpty]), List.flatMap_cons, ih,
          nonblanks_joined, List.flatten_cons, List.flatMap_append]

theorem shown_paragraphs (content : String) :
    LocalKnowledgeRetriever.shown (paragraphs content) = nonblanks content.toList := by
  rw [LocalKnowledgeRetriever.shown, paragraphs, List.flatMap_map]
  simp only [toList_strip, toList_joined, nonblanks_stripped]
  rw [flatMap_nonblanks_groups, flatten_splitOnP, flatMap_nonblanks_filter, ← nonblanks_joined, joined,
    List.intercalate_splitOn]

end Paragraphs

/-! ## The separator of paragraphs -/

section Separator

abbrev newline : Char := Char.ofNat 10

/-- `\n\s*\n`. -/
def blankLines : Pattern :=
  .both (.one (· = newline)) (.both (.many isSpace 0) (.one (· = newline)))

/-- The first match at a position; no neighbour matters. -/
def look (_ : Option Char) (text : List Char) : Option Hit :=
  (ends (fun _ => false) blankLines none text).head?.map fun found => ⟨found.1, [], found.2⟩

theorem matches_blankLines {before after : Option Char} {taken : List Char} :
    Matches (fun _ => false) blankLines before taken after ↔
      ∃ run, Blank run ∧ taken = newline :: (run ++ [newline]) := by
  simp only [blankLines, Matches, Blank]
  constructor
  · rintro ⟨_, _, rfl, ⟨c, rfl, isNewline⟩, run, _, rfl, ⟨-, blank⟩, d, rfl, isLast⟩
    exact ⟨run, blank, by simpa using ⟨of_decide_eq_true isNewline, of_decide_eq_true isLast⟩⟩
  · rintro ⟨run, blank, rfl⟩
    exact ⟨[newline], run ++ [newline], rfl, ⟨newline, rfl, decide_eq_true rfl⟩, run, [newline],
      rfl, ⟨Nat.zero_le _, blank⟩, newline, rfl, decide_eq_true rfl⟩

theorem look_some {before : Option Char} {text : List Char} {hit : Hit}
    (found : look before text = some hit) :
    ∃ run, Blank run ∧ hit.taken = newline :: (run ++ [newline]) ∧
      text = hit.taken ++ hit.rest := by
  obtain ⟨⟨taken, rest⟩, first, rfl⟩ := Option.map_eq_some_iff.mp found
  obtain ⟨split, matching⟩ := mem_ends.mp (List.mem_of_mem_head? first)
  obtain ⟨run, blank, isTaken⟩ := matches_blankLines.mp matching
  exact ⟨run, blank, isTaken, split⟩

theorem look_ne_none {run rest : List Char} (blank : Blank run) :
    look none (newline :: (run ++ newline :: rest)) ≠ none := by
  have listed : (newline :: (run ++ [newline]), rest) ∈
      ends (fun _ => false) blankLines none (newline :: (run ++ newline :: rest)) :=
    mem_ends.mpr ⟨by simp, matches_blankLines.mpr ⟨run, blank, rfl⟩⟩
  intro missed
  rw [look, Option.map_eq_none_iff, List.head?_eq_none_iff] at missed
  rw [missed] at listed
  exact List.not_mem_nil listed

/-- `re.split(r"\n\s*\n", ...)` leaves the gaps of these matches. -/
def paragraphBreak : Matcher where
  look := look
  splits := by
    intro before text hit found
    obtain ⟨run, -, isTaken, split⟩ := look_some found
    exact ⟨split, by simp [isTaken]⟩

def partsOf (text : List Char) : List (List Char) := paragraphBreak.gaps text

theorem gapsFrom_eq (before : Option Char) (text : List Char) :
    paragraphBreak.gapsFrom 0 before text = partsOf text := by
  cases text <;> rfl

theorem partsOf_hit {text : List Char} {hit : Hit} (found : look none text = some hit) :
    partsOf text = [] :: partsOf hit.rest := by
  rw [partsOf, Matcher.gaps, Matcher.gapsFrom_hit found, gapsFrom_eq]

theorem partsOf_miss {c : Char} {rest : List Char} (missed : look none (c :: rest) = none) :
    partsOf (c :: rest) = (partsOf rest).modifyHead (c :: ·) := by
  rw [partsOf, Matcher.gaps, Matcher.gapsFrom_miss missed, gapsFrom_eq]

theorem partsOf_line {line : List Char} (oneLine : newline ∉ line) (rest : List Char) :
    partsOf (line ++ rest) = (partsOf rest).modifyHead (line ++ ·) := by
  induction line with
  | nil =>
      rw [List.nil_append]
      cases partsOf rest <;> rfl
  | cons c line ih =>
      have missed : look none (c :: (line ++ rest)) = none := by
        cases found : look none (c :: (line ++ rest)) with
        | none => rfl
        | some hit =>
            obtain ⟨run, -, isTaken, split⟩ := look_some found
            rw [isTaken] at split
            exact absurd (List.cons.inj split).1.symm (List.ne_of_not_mem_cons oneLine)
      rw [List.cons_append, partsOf_miss missed,
        ih (List.not_mem_of_not_mem_cons oneLine)]
      cases partsOf rest <;> rfl

theorem partsOf_one {line : List Char} (oneLine : newline ∉ line) : partsOf line = [line] := by
  have whole := partsOf_line oneLine []
  rw [List.append_nil] at whole
  rw [whole]
  change [line ++ []] = [line]
  rw [List.append_nil]

end Separator

/-! ## Paragraphs as the separator leaves them -/

section Agreement

/-- The parts that show something. -/
def shownParts (parts : List (List Char)) : List (List Char) :=
  (parts.map stripped).filter (· ≠ [])

/-- The runs of lines that are not blank. -/
def runsOf (lines : List (List Char)) : List (List (List Char)) :=
  lines.splitOnP (·.all isSpace)

def shownRuns (runs : List (List (List Char))) : List (List Char) :=
  (runs.filter (· ≠ [])).map fun lines => stripped (joined lines)

/-- Both readings find the same paragraphs. -/
def Agrees (text : List Char) : Prop :=
  shownParts (partsOf text) = shownRuns (runsOf (text.splitOn newline))

/-- The first part is the first run of lines, which begins with this one. -/
def Aligned (text line : List Char) : Prop :=
  ∃ more trail others runs, partsOf text = (joined (line :: more) ++ trail) :: others ∧
    runsOf (text.splitOn newline) = (line :: more) :: runs ∧ Blank trail ∧
    shownParts others = shownRuns runs

variable {text line rest : List Char} {lines : List (List Char)}

theorem all_isSpace_iff : line.all isSpace = true ↔ Blank line := List.all_eq_true

theorem shownParts_blank_cons (blank : Blank line) (parts : List (List Char)) :
    shownParts (line :: parts) = shownParts parts := by
  rw [shownParts, List.map_cons, List.filter_cons_of_neg (by simp [stripped_of_blank blank])]
  rfl

theorem shownParts_cons (notBlank : ¬ Blank line) (parts : List (List Char)) :
    shownParts (line :: parts) = stripped line :: shownParts parts := by
  have shows : stripped line ≠ [] := fun empty => notBlank (stripped_eq_nil.mp empty)
  rw [shownParts, List.map_cons, List.filter_cons_of_pos (by simpa using shows)]
  rfl

theorem runsOf_blank_cons (blank : Blank line) (lines : List (List Char)) :
    runsOf (line :: lines) = [] :: runsOf lines := by
  rw [runsOf, List.splitOnP_cons_eq_if_modifyHead, if_pos (all_isSpace_iff.mpr blank)]
  rfl

theorem runsOf_cons (notBlank : ¬ Blank line) (lines : List (List Char)) :
    runsOf (line :: lines) = (runsOf lines).modifyHead (line :: ·) := by
  rw [runsOf, List.splitOnP_cons_eq_if_modifyHead,
    if_neg fun all => notBlank (all_isSpace_iff.mp all)]
  rfl

theorem shownRuns_nil_cons (runs : List (List (List Char))) :
    shownRuns ([] :: runs) = shownRuns runs := rfl

theorem shownRuns_cons (line : List Char) (more : List (List Char))
    (runs : List (List (List Char))) :
    shownRuns ((line :: more) :: runs) = stripped (joined (line :: more)) :: shownRuns runs := by
  rw [shownRuns, List.filter_cons_of_pos (by simp)]
  rfl

theorem shownRuns_blanks (blank : ∀ line ∈ lines, Blank line) (later : List (List Char)) :
    shownRuns (runsOf (lines ++ later)) = shownRuns (runsOf later) := by
  induction lines with
  | nil => rfl
  | cons line lines ih =>
      rw [List.cons_append, runsOf_blank_cons (blank line List.mem_cons_self), shownRuns_nil_cons,
        ih fun other listed => blank other (List.mem_cons_of_mem line listed)]

theorem not_blank_joined (notBlank : ¬ Blank line) (more : List (List Char)) :
    ¬ Blank (joined (line :: more)) := by
  rw [← nonblanks_eq_nil, nonblanks_joined, List.flatMap_cons, List.append_eq_nil_iff, not_and_or,
    nonblanks_eq_nil]
  exact .inl notBlank

theorem Aligned.agrees (notBlank : ¬ Blank line) (aligned : Aligned text line) : Agrees text := by
  obtain ⟨more, trail, others, runs, parts, isRuns, blank, same⟩ := aligned
  have whole := not_blank_joined notBlank more
  have shows : ¬ Blank (joined (line :: more) ++ trail) := by
    intro all
    exact whole fun c listed => all c (List.mem_append_left _ listed)
  rw [Agrees, parts, isRuns, shownParts_cons shows, stripped_append_blank blank, same,
    shownRuns_cons]

theorem blank_of_mem_splitOn (blank : Blank text) (listed : line ∈ text.splitOn newline) :
    Blank line := by
  have hidden := nonblanks_eq_nil.mpr blank
  rw [← @List.intercalate_splitOn _ text _ _ newline] at hidden
  rw [← joined, nonblanks_joined, List.flatMap_eq_nil_iff] at hidden
  exact nonblanks_eq_nil.mp (hidden line listed)

theorem aligned_one (oneLine : newline ∉ text) (notBlank : ¬ Blank text) : Aligned text text := by
  refine ⟨[], [], [], [], ?_, ?_, by simp [Blank], rfl⟩
  · rw [partsOf_one oneLine, joined, List.intercalate_singleton, List.append_nil]
  · rw [List.splitOn_eq_singleton oneLine, runsOf_cons notBlank]
    rfl

theorem agrees_blank (oneLine : newline ∉ text) (blank : Blank text) : Agrees text := by
  rw [Agrees, partsOf_one oneLine, shownParts_blank_cons blank, List.splitOn_eq_singleton oneLine,
    runsOf_blank_cons blank]
  rfl

theorem agrees_of_hit {hit : Hit} (oneLine : newline ∉ line)
    (found : look none (newline :: rest) = some hit) (agrees : Agrees hit.rest) :
    (Blank line → Agrees (line ++ newline :: rest)) ∧
      (¬ Blank line → Aligned (line ++ newline :: rest) line) := by
  obtain ⟨run, blank, isTaken, split⟩ := look_some found
  have isRest : rest = run ++ newline :: hit.rest := by
    rw [isTaken] at split
    simpa using split
  have parts : partsOf (line ++ newline :: rest) = line :: partsOf hit.rest := by
    rw [partsOf_line oneLine, partsOf_hit found, List.modifyHead_cons, List.append_nil]
  have lines : (line ++ newline :: rest).splitOn newline =
      line :: (run.splitOn newline ++ hit.rest.splitOn newline) := by
    rw [List.splitOn_append_cons_self, List.splitOn_eq_singleton oneLine, isRest,
      List.splitOn_append_cons_self]
    rfl
  have blanks : ∀ other ∈ run.splitOn newline, Blank other :=
    fun other listed => blank_of_mem_splitOn blank listed
  constructor
  · intro lineBlank
    rw [Agrees, parts, lines, shownParts_blank_cons lineBlank, runsOf_blank_cons lineBlank,
      shownRuns_nil_cons, shownRuns_blanks blanks]
    exact agrees
  · intro notBlank
    obtain ⟨first, more, isLines⟩ := List.exists_cons_of_ne_nil (List.splitOn_ne_nil newline run)
    rw [isLines] at lines blanks
    refine ⟨[], [], partsOf hit.rest, runsOf (more ++ hit.rest.splitOn newline), ?_, ?_,
      by simp [Blank], ?_⟩
    · rw [parts, joined, List.intercalate_singleton, List.append_nil]
    · rw [lines, runsOf_cons notBlank, List.cons_append,
        runsOf_blank_cons (blanks first List.mem_cons_self)]
      rfl
    · rw [shownRuns_blanks fun other listed => blanks other (List.mem_cons_of_mem first listed)]
      exact agrees

/-- The first line belongs to the same part as what follows it. -/
theorem agrees_of_miss (oneLine : newline ∉ line)
    (missed : look none (newline :: rest) = none) (agrees : Agrees rest)
    (aligned : ∀ next later, rest.splitOn newline = next :: later → ¬ Blank next →
      Aligned rest next) :
    (Blank line → Agrees (line ++ newline :: rest)) ∧
      (¬ Blank line → Aligned (line ++ newline :: rest) line) := by
  have lines : (line ++ newline :: rest).splitOn newline = line :: rest.splitOn newline := by
    rw [List.splitOn_append_cons_self, List.splitOn_eq_singleton oneLine]
    rfl
  have parts : ∀ {first others}, partsOf rest = first :: others →
      partsOf (line ++ newline :: rest) = (line ++ newline :: first) :: others := by
    intro first others parts
    rw [partsOf_line oneLine, partsOf_miss missed, parts]
    rfl
  constructor
  · intro blank
    obtain ⟨first, others, isParts, -⟩ := paragraphBreak.exists_gapsFrom none rest
    have blanks : Blank (line ++ [newline]) := by
      intro c listed
      rcases List.mem_append.mp listed with inLine | isNewline
      · exact blank c inLine
      · rw [List.mem_singleton.mp isNewline]
        decide
    have sameFirst : stripped (line ++ newline :: first) = stripped first := by
      rw [List.append_cons, stripped_blank_append blanks]
    rw [Agrees, partsOf, Matcher.gaps, isParts] at agrees
    rw [Agrees, parts isParts, lines, runsOf_blank_cons blank, shownRuns_nil_cons, ← agrees,
      shownParts, shownParts, List.map_cons, List.map_cons, sameFirst]
  · intro notBlank
    obtain ⟨next, later, isLines⟩ := List.exists_cons_of_ne_nil (List.splitOn_ne_nil newline rest)
    by_cases nextBlank : Blank next
    · -- a blank line with another one behind it would be a separator
      have isRest : rest = joined (next :: later) := by
        rw [joined, ← isLines, List.intercalate_splitOn]
      have isLast : later = [] := by
        cases later with
        | nil => rfl
        | cons following later =>
            rw [joined_cons_cons] at isRest
            rw [isRest] at missed
            exact absurd missed (look_ne_none nextBlank)
      rw [isLast, joined, List.intercalate_singleton] at isRest
      rw [isLast, ← isRest] at isLines
      have restLine : newline ∉ rest :=
        Segments.notMem_of_mem_splitOn (isLines ▸ List.mem_singleton_self rest)
      refine ⟨[], newline :: rest, [], [[]], ?_, ?_, ?_, rfl⟩
      · rw [parts (partsOf_one restLine), joined, List.intercalate_singleton]
      · rw [lines, isLines, runsOf_cons notBlank, runsOf_blank_cons (isRest ▸ nextBlank)]
        rfl
      · intro c listed
        rcases List.mem_cons.mp listed with rfl | inRest
        · decide
        · exact nextBlank c (isRest ▸ inRest)
    · obtain ⟨more, trail, others, runs, isParts, isRuns, blank, same⟩ :=
        aligned next later isLines nextBlank
      refine ⟨next :: more, trail, others, runs, ?_, ?_, blank, same⟩
      · rw [parts isParts, joined_cons_cons, List.append_assoc, List.cons_append]
      · rw [lines, runsOf_cons notBlank, isRuns]
        rfl

theorem agrees_and_aligned (text : List Char) : Agrees text ∧
    ∀ line later, text.splitOn newline = line :: later → ¬ Blank line → Aligned text line := by
  induction length : text.length using Nat.strong_induction_on generalizing text with
  | _ size ih =>
    by_cases oneLine : newline ∈ text
    · obtain ⟨line, rest, isText, notIn⟩ := List.eq_append_cons_of_mem oneLine
      subst isText
      have shorter : rest.length < size := by
        rw [← length, List.length_append, List.length_cons]
        omega
      have lines : (line ++ newline :: rest).splitOn newline = line :: rest.splitOn newline := by
        rw [List.splitOn_append_cons_self, List.splitOn_eq_singleton notIn]
        rfl
      have both : (Blank line → Agrees (line ++ newline :: rest)) ∧
          (¬ Blank line → Aligned (line ++ newline :: rest) line) := by
        cases found : look none (newline :: rest) with
        | none =>
            obtain ⟨agrees, aligned⟩ := ih rest.length shorter rest rfl
            exact agrees_of_miss notIn found agrees aligned
        | some hit =>
            have smaller := @Matcher.length_rest_lt none (newline :: rest) paragraphBreak hit found
            rw [List.length_cons] at smaller
            exact agrees_of_hit notIn found
              (ih hit.rest.length (by omega) hit.rest rfl).1
      constructor
      · by_cases blank : Blank line
        · exact both.1 blank
        · exact (both.2 blank).agrees blank
      · intro first later isLines notBlank
        rw [lines] at isLines
        obtain ⟨rfl, -⟩ := List.cons.inj isLines
        exact both.2 notBlank
    · constructor
      · by_cases blank : Blank text
        · exact agrees_blank oneLine blank
        · exact (aligned_one oneLine blank).agrees blank
      · intro first later isLines notBlank
        rw [List.splitOn_eq_singleton oneLine] at isLines
        obtain ⟨rfl, -⟩ := List.cons.inj isLines
        exact aligned_one oneLine notBlank

/-- `[part.strip() for part in re.split(r"\n\s*\n", content) if part.strip()]`. -/
theorem paragraphs_eq (content : String) :
    (paragraphs content).map String.toList = shownParts (partsOf content.toList) := by
  have agrees := (agrees_and_aligned content.toList).1
  rw [agrees, shownRuns, runsOf, paragraphs, List.map_map]
  apply List.map_congr_left
  intro lines _
  rw [Function.comp_apply, toList_strip, toList_joined]

end Agreement

/-! ## The chunks -/

/-- What is asked of the chunks of a text. -/
structure FaithfulChunks (retriever : LocalKnowledgeRetriever) (content : String) : Prop where
  shows : ∀ chunk ∈ retriever.split content, ∃ c ∈ chunk.toList, isSpace c = false
  bounded : ∀ chunk ∈ retriever.split content, chunk.toList.length ≤ retriever.chunkSize
  lossless : (retriever.split content).flatMap (fun chunk => nonblanks chunk.toList) =
    nonblanks content.toList

theorem shown_flatMap (paragraphs : List String) (cut : String → List String) :
    LocalKnowledgeRetriever.shown (paragraphs.flatMap cut) =
      paragraphs.flatMap fun paragraph => LocalKnowledgeRetriever.shown (cut paragraph) :=
  List.flatMap_assoc

theorem split_faithful (retriever : LocalKnowledgeRetriever) (content : String) :
    FaithfulChunks retriever content := by
  have positive : 0 < retriever.chunkSize := Nat.lt_of_lt_of_le (by decide) retriever.bounded.1
  have fit : ∀ piece ∈ (paragraphs content).flatMap (pieces retriever.chunkSize),
      piece.toList.length ≤ retriever.chunkSize := by
    intro piece listed
    obtain ⟨paragraph, -, isPiece⟩ := List.mem_flatMap.mp listed
    exact length_piece_le isPiece
  have start : LocalKnowledgeRetriever.Packed retriever ([], "") [] := ⟨by simp, by simp, rfl⟩
  have packed := start.foldl fit
  rw [List.nil_append, shown_flatMap] at packed
  simp only [shown_pieces positive] at packed
  have isSplit : retriever.split content = LocalKnowledgeRetriever.chunksIn
      (((paragraphs content).flatMap (pieces retriever.chunkSize)).foldl retriever.addPiece
        ([], "")) := rfl
  constructor
  case shows =>
    intro chunk listed
    have notBlankChunk := (packed.proper (isSplit ▸ listed)).1
    rw [ne_eq, nonblanks_eq_nil, Blank, not_forall] at notBlankChunk
    obtain ⟨c, notBlank⟩ := notBlankChunk
    rw [Classical.not_imp, Bool.not_eq_true] at notBlank
    exact ⟨c, notBlank⟩
  case bounded =>
    intro chunk listed
    exact (packed.proper (isSplit ▸ listed)).2
  case lossless =>
    have all := packed.shown_chunksIn
    rw [← isSplit] at all
    exact all.trans (shown_paragraphs content)

end PaymentsPlatform.AgentApi.Knowledge
