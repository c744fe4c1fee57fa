import PaymentsPlatform.Ingestion.SourceRecord

/-!
# Decoding UTF-8

Decoding reads back what encoding wrote, and replaces a character that was cut off.
-/

namespace PaymentsPlatform.Ingestion

/-- `text.encode("utf-8")`. -/
def utf8 (text : List Char) : List UInt8 := text.flatMap String.utf8EncodeChar

/-- The text of so many bytes, with a replacement for a character cut in two. -/
def cutText : Nat → List Char → List Char
  | _, [] => []
  | size, c :: rest =>
      if c.utf8Size ≤ size then c :: cutText (size - c.utf8Size) rest
      else if size = 0 then [] else [Char.ofNat 0xFFFD]

/-- Decoding with something in place of what is not UTF-8. -/
def decodeWith (replacement : List Char) :
    Option (Nat × Nat × Nat × Nat) → List UInt8 → List Char
  | none, [] => []
  | some _, [] => replacement
  | expected, byte :: rest =>
      let start (replaced : List Char) : List Char :=
        if byte.toNat < 0x80 then
          replaced ++ Char.ofNat byte.toNat :: decodeWith replacement none rest
        else
          match utf8Lead byte.toNat with
          | none => replaced ++ (replacement ++ decodeWith replacement none rest)
          | some (low, high, more) =>
              let value := if more = 0 then byte.toNat % 32
                else if more = 1 then byte.toNat % 16 else byte.toNat % 8
              replaced ++ decodeWith replacement (some (value, low, high, more)) rest
      match expected with
      | none => start []
      | some (value, low, high, more) =>
          if low ≤ byte.toNat ∧ byte.toNat ≤ high then
            let next := value * 64 + byte.toNat % 64
            if more = 0 then Char.ofNat next :: decodeWith replacement none rest
            else decodeWith replacement (some (next, 0x80, 0xBF, more - 1)) rest
          else start replacement

/-- `bytes.decode("utf-8", errors="ignore")`. -/
def decodeIgnore (bytes : List UInt8) : List Char := decodeWith [] none bytes

theorem decodeChars_eq_decodeWith (expected : Option (Nat × Nat × Nat × Nat))
    (bytes : List UInt8) :
    decodeChars expected bytes = decodeWith [Char.ofNat 0xFFFD] expected bytes := by
  induction bytes generalizing expected with
  | nil => cases expected <;> rfl
  | cons byte rest ih =>
      cases expected <;> cases lead : utf8Lead byte.toNat <;>
        simp only [decodeChars, decodeWith, lead, ih, List.nil_append,
          List.singleton_append]

/-- The text of so many bytes, with the replacement for a character cut in two. -/
def cutWith (replacement : List Char) : Nat → List Char → List Char
  | _, [] => []
  | size, c :: rest =>
      if c.utf8Size ≤ size then c :: cutWith replacement (size - c.utf8Size) rest
      else if size = 0 then [] else replacement

theorem cutText_eq_cutWith (size : Nat) (text : List Char) :
    cutText size text = cutWith [Char.ofNat 0xFFFD] size text := by
  induction text generalizing size with
  | nil => rfl
  | cons c rest ih => rw [cutText, cutWith, ih]

variable {replacement : List Char}

theorem toNat_ofNat_of_lt {value : Nat} (small : value < 256) :
    (UInt8.ofNat value).toNat = value := by
  simp [Nat.mod_eq_of_lt small]

section Bytes

variable {byte : UInt8} {rest : List UInt8} {value low high more : Nat}

theorem decodeWith_lead (notAscii : 0x80 ≤ byte.toNat)
    (lead : utf8Lead byte.toNat = some (low, high, more)) :
    decodeWith replacement none (byte :: rest) = decodeWith replacement (some
      (if more = 0 then byte.toNat % 32 else if more = 1 then byte.toNat % 16 else byte.toNat % 8,
        low, high, more)) rest := by
  rw [decodeWith]
  simp only [if_neg (show ¬ byte.toNat < 0x80 by omega), lead, List.nil_append]

theorem decodeWith_last (inRange : low ≤ byte.toNat ∧ byte.toNat ≤ high) :
    decodeWith replacement (some (value, low, high, 0)) (byte :: rest) =
      Char.ofNat (value * 64 + byte.toNat % 64) :: decodeWith replacement none rest := by
  rw [decodeWith]
  simp only [if_pos inRange, if_true]

theorem decodeWith_more (inRange : low ≤ byte.toNat ∧ byte.toNat ≤ high) :
    decodeWith replacement (some (value, low, high, more + 1)) (byte :: rest) =
      decodeWith replacement (some (value * 64 + byte.toNat % 64, 0x80, 0xBF, more)) rest := by
  rw [decodeWith]
  simp only [if_pos inRange, if_neg (Nat.succ_ne_zero more), Nat.add_sub_cancel]

theorem decodeWith_cut (expected : Nat × Nat × Nat × Nat) :
    decodeWith replacement (some expected) [] = replacement := by
  rw [decodeWith]

end Bytes

theorem toNat_continuation (value : Nat) :
    (UInt8.ofNat (value % 0x40 + 0x80)).toNat = value % 64 + 0x80 :=
  toNat_ofNat_of_lt (by omega)

theorem decodeWith_final (value : Nat) (rest : List UInt8) :
    decodeWith replacement (some (value / 64, 0x80, 0xBF, 0))
        (UInt8.ofNat (value % 0x40 + 0x80) :: rest) =
      Char.ofNat value :: decodeWith replacement none rest := by
  rw [decodeWith_last (by rw [toNat_continuation]; omega), toNat_continuation]
  congr 2
  omega

theorem decodeWith_further {low high more value : Nat}
    (inRange : low ≤ value % 64 + 0x80 ∧ value % 64 + 0x80 ≤ high) (rest : List UInt8) :
    decodeWith replacement (some (value / 64, low, high, more + 1))
        (UInt8.ofNat (value % 0x40 + 0x80) :: rest) =
      decodeWith replacement (some (value, 0x80, 0xBF, more)) rest := by
  rw [decodeWith_more (by rw [toNat_continuation]; exact inRange), toNat_continuation]
  congr 3
  omega

theorem decodeWith_pair {value : Nat} (low : 0x7f < value) (high : value ≤ 0x7ff)
    (rest : List UInt8) :
    decodeWith replacement none (UInt8.ofNat (value / 64 % 0x20 + 0xc0) :: rest) =
      decodeWith replacement (some (value / 64, 0x80, 0xBF, 0)) rest := by
  have lead : (UInt8.ofNat (value / 64 % 0x20 + 0xc0)).toNat = value / 64 + 0xc0 := by
    rw [toNat_ofNat_of_lt (by omega)]
    omega
  rw [@decodeWith_lead _ _ _ 0x80 0xBF 0 (by omega), lead]
  · simp only [if_true]
    congr 4
    omega
  · rw [lead, utf8Lead, if_pos (by omega)]

theorem decodeWith_triple {value : Nat} (low : 0x7ff < value) (high : value ≤ 0xffff)
    (valid : value < 0xD800 ∨ 0xDFFF < value) : ∃ first last, ∀ rest : List UInt8,
    decodeWith replacement none (UInt8.ofNat (value / 4096 % 0x10 + 0xe0) :: rest) =
        decodeWith replacement (some (value / 4096, first, last, 1)) rest ∧
      decodeWith replacement (some (value / 4096, first, last, 1))
          (UInt8.ofNat (value / 64 % 0x40 + 0x80) :: rest) =
        decodeWith replacement (some (value / 64, 0x80, 0xBF, 0)) rest := by
  have lead : (UInt8.ofNat (value / 4096 % 0x10 + 0xe0)).toNat = value / 4096 + 0xe0 := by
    rw [toNat_ofNat_of_lt (by omega)]
    omega
  have range : ∃ first last, utf8Lead (value / 4096 + 0xe0) = some (first, last, 1) ∧
      first ≤ value / 64 % 64 + 0x80 ∧ value / 64 % 64 + 0x80 ≤ last := by
    unfold utf8Lead
    rw [if_neg (by omega)]
    by_cases short : value / 4096 + 0xe0 = 0xE0
    · exact ⟨0xA0, 0xBF, by rw [if_pos short], by omega, by omega⟩
    · by_cases surrogate : value / 4096 + 0xe0 = 0xED
      · exact ⟨0x80, 0x9F, by rw [if_neg short, if_pos surrogate], by omega, by omega⟩
      · exact ⟨0x80, 0xBF, by rw [if_neg short, if_neg surrogate, if_pos (by omega)], by omega,
          by omega⟩
  obtain ⟨first, final, isLead, inRange⟩ := range
  refine ⟨first, final, fun rest => ⟨?_, ?_⟩⟩
  · rw [@decodeWith_lead _ _ _ first final 1 (by omega) (by rw [lead, isLead]), lead]
    rw [if_neg (by omega), if_pos rfl]
    congr 3
    omega
  · rw [← decodeWith_further inRange, Nat.div_div_eq_div_mul]

theorem decodeWith_quadruple {value : Nat} (low : 0xffff < value) (high : value < 0x110000) :
    ∃ first last, ∀ rest : List UInt8,
    decodeWith replacement none (UInt8.ofNat (value / 262144 % 0x08 + 0xf0) :: rest) =
        decodeWith replacement (some (value / 262144, first, last, 2)) rest ∧
      decodeWith replacement (some (value / 262144, first, last, 2))
          (UInt8.ofNat (value / 4096 % 0x40 + 0x80) :: rest) =
        decodeWith replacement (some (value / 4096, 0x80, 0xBF, 1)) rest ∧
      decodeWith replacement (some (value / 4096, 0x80, 0xBF, 1))
          (UInt8.ofNat (value / 64 % 0x40 + 0x80) :: rest) =
        decodeWith replacement (some (value / 64, 0x80, 0xBF, 0)) rest := by
  have lead : (UInt8.ofNat (value / 262144 % 0x08 + 0xf0)).toNat = value / 262144 + 0xf0 := by
    rw [toNat_ofNat_of_lt (by omega)]
    omega
  have range : ∃ first last, utf8Lead (value / 262144 + 0xf0) = some (first, last, 2) ∧
      first ≤ value / 4096 % 64 + 0x80 ∧ value / 4096 % 64 + 0x80 ≤ last := by
    unfold utf8Lead
    rw [if_neg (by omega), if_neg (by omega), if_neg (by omega), if_neg (by omega)]
    by_cases short : value / 262144 + 0xf0 = 0xF0
    · exact ⟨0x90, 0xBF, by rw [if_pos short], by omega, by omega⟩
    · by_cases middle : 0xF1 ≤ value / 262144 + 0xf0 ∧ value / 262144 + 0xf0 ≤ 0xF3
      · exact ⟨0x80, 0xBF, by rw [if_neg short, if_pos middle], by omega, by omega⟩
      · exact ⟨0x80, 0x8F, by rw [if_neg short, if_neg middle, if_pos (by omega)], by omega,
          by omega⟩
  obtain ⟨first, final, isLead, inRange⟩ := range
  refine ⟨first, final, fun rest => ⟨?_, ?_, ?_⟩⟩
  · rw [@decodeWith_lead _ _ _ first final 2 (by omega) (by rw [lead, isLead]), lead]
    rw [if_neg (by omega), if_neg (by omega)]
    congr 3
    omega
  · rw [← decodeWith_further inRange, Nat.div_div_eq_div_mul]
  · rw [← @decodeWith_further _ 0x80 0xBF 0 (value / 64) (by omega), Nat.div_div_eq_div_mul]

theorem utf8EncodeChar_eq (c : Char) : String.utf8EncodeChar c =
    if c.toNat ≤ 0x7f then [UInt8.ofNat c.toNat]
    else if c.toNat ≤ 0x7ff then
      [UInt8.ofNat (c.toNat / 64 % 0x20 + 0xc0), UInt8.ofNat (c.toNat % 0x40 + 0x80)]
    else if c.toNat ≤ 0xffff then
      [UInt8.ofNat (c.toNat / 4096 % 0x10 + 0xe0), UInt8.ofNat (c.toNat / 64 % 0x40 + 0x80),
        UInt8.ofNat (c.toNat % 0x40 + 0x80)]
    else
      [UInt8.ofNat (c.toNat / 262144 % 0x08 + 0xf0), UInt8.ofNat (c.toNat / 4096 % 0x40 + 0x80),
        UInt8.ofNat (c.toNat / 64 % 0x40 + 0x80), UInt8.ofNat (c.toNat % 0x40 + 0x80)] := rfl

/-- A character is read back from its bytes, and replaced when some of them are missing. -/
theorem decodeWith_utf8EncodeChar (c : Char) :
    (∀ rest, decodeWith replacement none (String.utf8EncodeChar c ++ rest) =
        c :: decodeWith replacement none rest) ∧
      ∀ size, 0 < size → size < c.utf8Size →
        decodeWith replacement none ((String.utf8EncodeChar c).take size) = replacement := by
  have valid : c.toNat < 0xD800 ∨ 0xDFFF < c.toNat ∧ c.toNat < 0x110000 := by
    rcases c.valid with
      below | ⟨above, bound⟩
    · exact .inl below
    · exact .inr ⟨above, bound⟩
  have length : c.utf8Size = (String.utf8EncodeChar c).length := by simp
  rw [length, utf8EncodeChar_eq]
  split
  next ascii =>
    constructor
    · intro rest
      rw [List.singleton_append, decodeWith]
      simp only [toNat_ofNat_of_lt (show c.toNat < 256 by omega),
        if_pos (show c.toNat < 0x80 by omega), List.nil_append, Char.ofNat_toNat]
    · intro size positive less
      rw [List.length_singleton] at less
      omega
  next =>
    split
    next =>
      have bytes := @decodeWith_pair replacement c.toNat (by omega) (by omega)
      constructor
      · intro rest
        rw [List.cons_append, bytes, List.singleton_append, decodeWith_final, Char.ofNat_toNat]
      · intro size positive less
        have one : size = 1 := by
          simp only [List.length_cons, List.length_nil] at less
          omega
        rw [one, List.take_succ_cons, List.take_zero, bytes, decodeWith_cut]
    next =>
      split
      next =>
        obtain ⟨first, last, bytes⟩ := @decodeWith_triple replacement c.toNat (by omega) (by omega)
          (by omega)
        constructor
        · intro rest
          rw [List.cons_append, (bytes _).1, List.cons_append, (bytes _).2, List.singleton_append,
            decodeWith_final, Char.ofNat_toNat]
        · intro size positive less
          have cases : size = 1 ∨ size = 2 := by
            simp only [List.length_cons, List.length_nil] at less
            omega
          rcases cases with rfl | rfl
          · rw [List.take_succ_cons, List.take_zero, (bytes _).1, decodeWith_cut]
          · rw [List.take_succ_cons, List.take_succ_cons, List.take_zero, (bytes _).1,
              (bytes _).2, decodeWith_cut]
      next =>
        obtain ⟨first, last, bytes⟩ := @decodeWith_quadruple replacement c.toNat (by omega)
          (by omega)
        constructor
        · intro rest
          rw [List.cons_append, (bytes _).1, List.cons_append, (bytes _).2.1, List.cons_append,
            (bytes _).2.2, List.singleton_append, decodeWith_final, Char.ofNat_toNat]
        · intro size positive less
          have cases : size = 1 ∨ size = 2 ∨ size = 3 := by
            simp only [List.length_cons, List.length_nil] at less
            omega
          rcases cases with
            rfl | rfl | rfl
          · rw [List.take_succ_cons, List.take_zero, (bytes _).1, decodeWith_cut]
          · rw [List.take_succ_cons, List.take_succ_cons, List.take_zero, (bytes _).1,
              (bytes _).2.1, decodeWith_cut]
          · rw [List.take_succ_cons, List.take_succ_cons, List.take_succ_cons, List.take_zero,
              (bytes _).1, (bytes _).2.1, (bytes _).2.2, decodeWith_cut]

@[simp]
theorem length_utf8_cons (c : Char) (rest : List Char) :
    (utf8 (c :: rest)).length = c.utf8Size + (utf8 rest).length := by
  rw [utf8, List.flatMap_cons, List.length_append, String.length_utf8EncodeChar]
  rfl

theorem length_utf8_pos {text : List Char} (nonempty : text ≠ []) : 0 < (utf8 text).length := by
  obtain ⟨c, rest, rfl⟩ := List.exists_cons_of_ne_nil nonempty
  have positive := c.utf8Size_pos
  rw [length_utf8_cons]
  omega

theorem decodeWith_take_utf8 (size : Nat) (text : List Char) :
    decodeWith replacement none ((utf8 text).take size) = cutWith replacement size text := by
  induction text generalizing size with
  | nil => cases size <;> rfl
  | cons c rest ih =>
      have bytes := @decodeWith_utf8EncodeChar replacement c
      rw [utf8, List.flatMap_cons, cutWith]
      by_cases whole : c.utf8Size ≤ size
      · rw [if_pos whole, List.take_append, List.take_of_length_le (by simpa using whole), bytes.1,
          String.length_utf8EncodeChar]
        exact congrArg _ (ih _)
      · rw [if_neg whole, List.take_append_of_le_length (by
          rw [String.length_utf8EncodeChar]
          omega)]
        by_cases none : size = 0
        · rw [if_pos none, none]
          rfl
        · rw [if_neg none, bytes.2 size (by omega) (by omega)]

theorem decodeChars_take_utf8 (size : Nat) (text : List Char) :
    decodeChars none ((utf8 text).take size) = cutText size text := by
  rw [decodeChars_eq_decodeWith, decodeWith_take_utf8, cutText_eq_cutWith]

/-! ## Cut texts -/

@[simp]
theorem cutText_zero (text : List Char) : cutText 0 text = [] := by
  cases text with
  | nil => rfl
  | cons c rest => rw [cutText, if_neg (by have := c.utf8Size_pos; omega), if_pos rfl]

theorem cutText_append_of_le {size : Nat} {first : List Char} (second : List Char)
    (fits : (utf8 first).length ≤ size) :
    cutText size (first ++ second) = first ++ cutText (size - (utf8 first).length) second := by
  induction first generalizing size with
  | nil => rfl
  | cons c rest ih =>
      rw [length_utf8_cons] at fits ⊢
      rw [List.cons_append, cutText, if_pos (by omega), ih (by omega),
        Nat.sub_add_eq, List.cons_append]

theorem cutText_append_of_lt {size : Nat} {first : List Char} (second : List Char)
    (short : size < (utf8 first).length) : cutText size (first ++ second) = cutText size first := by
  induction first generalizing size with
  | nil => simp [utf8] at short
  | cons c rest ih =>
      rw [length_utf8_cons] at short
      rw [List.cons_append, cutText, cutText]
      split
      next => rw [ih (by omega)]
      next => rfl

theorem cutText_of_fits {size : Nat} {text : List Char} (fits : (utf8 text).length ≤ size) :
    cutText size text = text := by
  have whole := cutText_append_of_le [] fits
  rwa [List.append_nil, cutText, List.append_nil] at whole

end PaymentsPlatform.Ingestion
