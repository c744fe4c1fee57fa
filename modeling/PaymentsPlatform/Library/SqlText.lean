import Mathlib.Data.List.Basic

/-!
# The pieces of an SQL text

A text is read a character at a time into words, single marks, and quoted texts; what stands in
comments and between pieces is dropped.  Reading is a finite automaton, so a text that is put
together from parts is read part by part, as long as no part ends where it swallows the next.

A word is a run of the other characters; which tokens it holds is a matter of the grammar.  So is
the meaning of a quoted text that a word directly precedes, such as `X'00'`.
-/

namespace SqlText

/-- White space between tokens. -/
def isGap (character : Char) : Bool :=
  character = ' ' || character = '\t' || character = '\n' || character = '\r'

/-- The characters that are tokens wherever they stand outside quotes and comments. -/
def isMark (character : Char) : Bool :=
  character = '(' || character = ')' || character = ';' || character = '?'

/-- The quotes of texts and of identifiers. -/
inductive Delimiter where
  | text
  | name
  deriving DecidableEq

def Delimiter.character : Delimiter → Char
  | .text => '\''
  | .name => '"'

def delimiter? (character : Char) : Option Delimiter :=
  if character = '\'' then some .text else if character = '"' then some .name else none

inductive Piece where
  | word (text : List Char)
  | mark (character : Char)
  | quoted (delimiter : Delimiter) (attached : Bool) (content : List Char)
  deriving DecidableEq

inductive Mode where
  | plain (word : List Char)
  /-- After a word, a `-` that may open a comment. -/
  | dash (word : List Char)
  /-- After a word, a `/` that may open a comment. -/
  | slash (word : List Char)
  | inside (delimiter : Delimiter) (attached : Bool) (content : List Char)
  /-- The quoted text has ended here, unless another delimiter follows. -/
  | closing (delimiter : Delimiter) (attached : Bool) (content : List Char)
  | lineComment
  | comment
  /-- In a comment, after a `*`. -/
  | commentStar
  deriving DecidableEq

def flush : List Char → List Piece
  | [] => []
  | word => [.word word]

/-- A character outside quotes and comments, after the word. -/
def readPlain (word : List Char) (character : Char) : List Piece × Mode :=
  if isGap character then (flush word, .plain [])
  else if isMark character then (flush word ++ [.mark character], .plain [])
  else
    match delimiter? character with
    | some delimiter => (flush word, .inside delimiter (!word.isEmpty) [])
    | none =>
        if character = '-' then ([], .dash word)
        else if character = '/' then ([], .slash word)
        else ([], .plain (word ++ [character]))

/-- The pieces that a character completes, and the mode after it. -/
def Mode.read : Mode → Char → List Piece × Mode
  | .plain word, character => readPlain word character
  | .dash word, character =>
      if character = '-' then (flush word, .lineComment)
      else readPlain (word ++ ['-']) character
  | .slash word, character =>
      if character = '*' then (flush word, .comment)
      else readPlain (word ++ ['/']) character
  | .inside delimiter attached content, character =>
      if character = delimiter.character then ([], .closing delimiter attached content)
      else ([], .inside delimiter attached (content ++ [character]))
  | .closing delimiter attached content, character =>
      if character = delimiter.character then
        ([], .inside delimiter attached (content ++ [character]))
      else
        let found := readPlain [] character
        (.quoted delimiter attached content :: found.1, found.2)
  | .lineComment, character =>
      if character = '\n' ∨ character = '\r' then ([], .plain []) else ([], .lineComment)
  | .comment, character => if character = '*' then ([], .commentStar) else ([], .comment)
  | .commentStar, character =>
      if character = '/' then ([], .plain [])
      else if character = '*' then ([], .commentStar)
      else ([], .comment)

/-- The pieces that a text completes, and the mode after it. -/
def scan (mode : Mode) : List Char → List Piece × Mode
  | [] => ([], mode)
  | character :: rest =>
      let first := mode.read character
      let later := scan first.2 rest
      (first.1 ++ later.1, later.2)

/-- The last pieces of a text; a quoted text or a comment that is not closed makes it none. -/
def finish : Mode → Option (List Piece)
  | .plain word => some (flush word)
  | .dash word => some (flush (word ++ ['-']))
  | .slash word => some (flush (word ++ ['/']))
  | .closing delimiter attached content => some [.quoted delimiter attached content]
  | .lineComment => some []
  | .inside _ _ _ | .comment | .commentStar => none

/-- The pieces of a text read from a mode on. -/
def piecesFrom (mode : Mode) (text : List Char) : Option (List Piece) :=
  (finish (scan mode text).2).map ((scan mode text).1 ++ ·)

def pieces (text : List Char) : Option (List Piece) := piecesFrom (.plain []) text

/-- The mode in which a text ends. -/
def modeAfter (text : List Char) : Mode := (scan (.plain []) text).2

section Scanning

variable {mode : Mode} {first second text : List Char} {character : Char}

@[simp]
theorem scan_nil (mode : Mode) : scan mode [] = ([], mode) := rfl

theorem scan_cons (mode : Mode) (character : Char) (rest : List Char) :
    scan mode (character :: rest) =
      ((mode.read character).1 ++ (scan (mode.read character).2 rest).1,
        (scan (mode.read character).2 rest).2) := rfl

theorem scan_append (mode : Mode) (first second : List Char) :
    scan mode (first ++ second) =
      ((scan mode first).1 ++ (scan (scan mode first).2 second).1,
        (scan (scan mode first).2 second).2) := by
  induction first generalizing mode with
  | nil => rfl
  | cons character rest ih =>
      rw [List.cons_append, scan_cons, ih, scan_cons, List.append_assoc]

theorem piecesFrom_append (mode : Mode) (first second : List Char) :
    piecesFrom mode (first ++ second) =
      (piecesFrom (scan mode first).2 second).map ((scan mode first).1 ++ ·) := by
  simp only [piecesFrom, scan_append, Option.map_map]
  congr 1
  funext last
  simp

theorem piecesFrom_cons (mode : Mode) (character : Char) (rest : List Char) :
    piecesFrom mode (character :: rest) =
      (piecesFrom (mode.read character).2 rest).map ((mode.read character).1 ++ ·) := by
  simpa [scan_cons] using piecesFrom_append mode [character] rest

/-- Outside quotes and comments, or at the end of a quoted text. -/
def Mode.isOpen : Mode → Bool
  | .plain _ | .dash _ | .slash _ | .closing _ _ _ => true
  | _ => false

theorem isMark_cases (mark : isMark character) :
    character = '(' ∨ character = ')' ∨ character = ';' ∨ character = '?' := by
  simpa [isMark, or_assoc] using mark

theorem readPlain_mark (word : List Char) (mark : isMark character) :
    readPlain word character = (flush word ++ [.mark character], .plain []) := by
  have noGap : isGap character = false := by
    rcases isMark_cases mark with rfl | rfl | rfl | rfl <;> rfl
  simp [readPlain, noGap, mark]

theorem isMark_ne_delimiter (mark : isMark character) (delimiter : Delimiter) :
    character ≠ delimiter.character := by
  rcases isMark_cases mark with rfl | rfl | rfl | rfl <;> cases delimiter <;> decide

theorem read_mark (isOpen : mode.isOpen) (mark : isMark character) :
    ∃ last, finish mode = some last ∧
      mode.read character = (last ++ [.mark character], .plain []) := by
  have others : character ≠ '-' ∧ character ≠ '*' := by
    rcases isMark_cases mark with rfl | rfl | rfl | rfl <;> decide
  cases mode with
  | plain word => exact ⟨_, rfl, readPlain_mark word mark⟩
  | dash word => exact ⟨_, rfl, by rw [Mode.read, if_neg others.1, readPlain_mark _ mark]⟩
  | slash word => exact ⟨_, rfl, by rw [Mode.read, if_neg others.2, readPlain_mark _ mark]⟩
  | closing delimiter attached content =>
      refine ⟨_, rfl, ?_⟩
      rw [Mode.read, if_neg (isMark_ne_delimiter mark delimiter), readPlain_mark _ mark]
      rfl
  | inside _ _ _ | lineComment | comment | commentStar => cases isOpen

theorem piecesFrom_mark (rest : List Char) (isOpen : (scan mode text).2.isOpen)
    (mark : isMark character) :
    ∃ found, piecesFrom mode text = some found ∧
      piecesFrom mode (text ++ character :: rest) =
        (pieces rest).map (found ++ .mark character :: ·) := by
  obtain ⟨last, finished, isRead⟩ := read_mark isOpen mark
  refine ⟨(scan mode text).1 ++ last, by simp [piecesFrom, finished], ?_⟩
  rw [piecesFrom_append, piecesFrom_cons, isRead, Option.map_map]
  congr 1
  funext later
  simp

theorem isOpen_or_lineComment {last : List Piece} (finished : finish mode = some last) :
    mode.isOpen ∨ mode = .lineComment := by
  cases mode <;> simp_all [finish, Mode.isOpen]

theorem scan_lineComment (line : ∀ character ∈ text, character ≠ '\n' ∧ character ≠ '\r') :
    scan .lineComment text = ([], .lineComment) := by
  induction text with
  | nil => rfl
  | cons character rest ih =>
      obtain ⟨here, later⟩ := List.forall_mem_cons.mp line
      have same : Mode.read .lineComment character = ([], .lineComment) := by simp [Mode.read, here]
      rw [scan_cons, same, ih later]
      rfl

section Quoted

variable {delimiter : Delimiter} {attached : Bool} {content text : List Char} {found : List Piece}

/-- The quoted text that a text is in is its first piece; so is the one that may have ended. -/
theorem piecesFrom_quoted :
    (piecesFrom (.inside delimiter attached content) text = some found →
      ∃ whole rest, found = .quoted delimiter attached whole :: rest ∧ content <+: whole) ∧
    (piecesFrom (.closing delimiter attached content) text = some found →
      ∃ whole rest, found = .quoted delimiter attached whole :: rest ∧
        (whole = content ∨ content ++ [delimiter.character] <+: whole)) := by
  induction text generalizing content found with
  | nil =>
      constructor
      · intro read
        cases read
      · intro read
        cases read
        exact ⟨content, [], rfl, .inl rfl⟩
  | cons character rest ih =>
      simp only [piecesFrom_cons, Mode.read]
      by_cases ends : character = delimiter.character
      · simp only [ends, if_true, List.nil_append, Option.map_id']
        constructor
        · intro read
          obtain ⟨whole, later, isFound, same | longer⟩ := ih.2 read
          · exact ⟨whole, later, isFound, same ▸ List.prefix_rfl⟩
          · exact ⟨whole, later, isFound, (List.prefix_append _ _).trans longer⟩
        · intro read
          obtain ⟨whole, later, isFound, longer⟩ := ih.1 read
          exact ⟨whole, later, isFound, .inr longer⟩
      · simp only [ends, if_false, List.nil_append, Option.map_id']
        constructor
        · intro read
          obtain ⟨whole, later, isFound, longer⟩ := ih.1 read
          exact ⟨whole, later, isFound, (List.prefix_append _ _).trans longer⟩
        · intro read
          obtain ⟨later, -, isFound⟩ := Option.map_eq_some_iff.mp read
          exact ⟨content, _, isFound.symm, .inl rfl⟩

theorem piecesFrom_closing (other : text.head? ≠ some delimiter.character) :
    piecesFrom (.closing delimiter attached content) text =
      (pieces text).map (.quoted delimiter attached content :: ·) := by
  cases text with
  | nil => rfl
  | cons character rest =>
      have ends : character ≠ delimiter.character := by simpa using other
      simp only [pieces, piecesFrom_cons, Mode.read, if_neg ends, Option.map_map]
      rfl

end Quoted

end Scanning

end SqlText
