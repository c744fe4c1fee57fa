import Mathlib.Data.List.Basic
import PaymentsPlatform.Ingestion.SourceRecord

/-!
# Splitting URLs

`urlsplit` and `unquote` of `urllib.parse`, on texts as lists of characters.  What the parts of a
URL are is said by how it is put together from them.
-/

namespace PaymentsPlatform.TransformRuntime.Urls

open Ingestion (decodeChars)

/-- What the tables of Unicode and the module `ipaddress` decide. -/
structure Unicode where
  /-- `str.lower`. -/
  lower : List Char → List Char
  /-- `unicodedata.normalize("NFKC", text)`. -/
  normalize : List Char → List Char
  /-- What stands between brackets is not an IP address, or something stands around them. -/
  bracketedRefused : List Char → Bool

/-! ## Parts of a text -/

/-- `text.partition(separator)`; there is nothing after a separator that does not occur. -/
def partition (separator : Char) : List Char → List Char × Option (List Char)
  | [] => ([], none)
  | c :: rest =>
      if c = separator then ([], some rest)
      else (c :: (partition separator rest).1, (partition separator rest).2)

/-- The text that is parted so. -/
def parted (separator : Char) (before : List Char) (after : Option (List Char)) : List Char :=
  before ++ after.elim [] (separator :: ·)

theorem parted_partition (separator : Char) (text : List Char) :
    parted separator (partition separator text).1 (partition separator text).2 = text := by
  induction text with
  | nil => rfl
  | cons c rest ih =>
      rw [partition]
      split
      next isSeparator =>
        rw [isSeparator]
        rfl
      next => exact congrArg (c :: ·) ih

theorem notMem_partition (separator : Char) (text : List Char) :
    separator ∉ (partition separator text).1 := by
  induction text with
  | nil => exact List.not_mem_nil
  | cons c rest ih =>
      rw [partition]
      split
      next => exact List.not_mem_nil
      next other =>
        intro listed
        rcases List.mem_cons.mp listed with rfl | listed
        · exact other rfl
        · exact ih listed

theorem partition_parted {separator : Char} {before : List Char} (absent : separator ∉ before)
    (after : Option (List Char)) :
    partition separator (parted separator before after) = (before, after) := by
  induction before with
  | nil =>
      cases after with
      | none => rfl
      | some rest => exact if_pos rfl
  | cons c rest ih =>
      obtain ⟨other, absent⟩ := not_or.mp (mt List.mem_cons.mpr absent)
      change partition separator (c :: parted separator rest after) = _
      rw [partition, if_neg (Ne.symm other), ih absent]

theorem partition_eq_iff {separator : Char} {text before : List Char}
    {after : Option (List Char)} :
    partition separator text = (before, after) ↔
      separator ∉ before ∧ text = parted separator before after := by
  constructor
  · intro isPartition
    have absent := notMem_partition separator text
    have together := parted_partition separator text
    rw [isPartition] at absent together
    exact ⟨absent, together.symm⟩
  · rintro ⟨absent, rfl⟩
    exact partition_parted absent after

theorem partition_of_notMem {separator : Char} {text : List Char} (absent : separator ∉ text) :
    partition separator text = (text, none) :=
  partition_eq_iff.mpr ⟨absent, (List.append_nil text).symm⟩

/-- `text.rpartition("@")`: what stands before the last one, if there is any, and after it. -/
def rpartition (text : List Char) : Option (List Char) × List Char :=
  ((partition '@' text.reverse).2.map List.reverse, (partition '@' text.reverse).1.reverse)

theorem toNat_toLower (c : Char) :
    c.toLower.toNat =
      if 'A'.toNat ≤ c.toNat ∧ c.toNat ≤ 'Z'.toNat then c.toNat + 32 else c.toNat := by
  unfold Char.toLower
  simp only [UInt32.le_iff_toNat_le, ge_iff_le]
  split
  next upper =>
    rw [if_pos (show 'A'.toNat ≤ c.toNat ∧ c.toNat ≤ 'Z'.toNat from upper)]
    change (c.val + ('a'.val - 'A'.val)).toNat = c.val.toNat + 32
    have small : c.val.toNat ≤ 90 := upper.2
    have distance : ('a'.val - 'A'.val).toNat = 32 := by decide
    rw [UInt32.toNat_add]
    omega
  next other => rw [if_neg (show ¬ ('A'.toNat ≤ c.toNat ∧ c.toNat ≤ 'Z'.toNat) from other)]

theorem of_toLower_eq {c lowered : Char} (isLowered : c.toLower = lowered) :
    c = lowered ∨ ('A'.toNat ≤ c.toNat ∧ c.toNat + 32 = lowered.toNat) := by
  have code := toNat_toLower c
  rw [isLowered] at code
  split at code
  next upper => exact .inr ⟨upper.1, code.symm⟩
  next => exact .inl (Char.toNat_inj.mp code.symm)

/-! ## `urlsplit` -/

/-- What `urlsplit` returns. -/
structure SplitResult where
  scheme : List Char
  netloc : List Char
  path : List Char
  query : List Char
  fragment : List Char

/-- A character of `_WHATWG_C0_CONTROL_OR_SPACE`. -/
def isControlOrSpace (c : Char) : Bool := c.toNat ≤ 32

/-- `_UNSAFE_URL_BYTES_TO_REMOVE`. -/
def isUnsafe (c : Char) : Bool := c ∈ ['\t', '\r', '\n']

/-- A character of `scheme_chars`. -/
def isSchemeChar (c : Char) : Bool := c.isAlphanum || c ∈ ['+', '-', '.']

/-- The scheme, in lower case, and what follows it. -/
def splitScheme (url : List Char) : List Char × List Char :=
  match partition ':' url with
  | (before, some rest) =>
      if before.head?.any Char.isAlpha ∧ before.all isSchemeChar then
        (before.map Char.toLower, rest)
      else ([], url)
  | (_, none) => ([], url)

theorem splitScheme_eq_iff {url scheme rest : List Char} (named : scheme ≠ []) :
    splitScheme url = (scheme, rest) ↔
      ∃ before, url = before ++ ':' :: rest ∧ before.map Char.toLower = scheme ∧
        before.head?.any Char.isAlpha ∧ before.all isSchemeChar := by
  constructor
  · intro isSplit
    rw [splitScheme] at isSplit
    split at isSplit
    next before after isPartition =>
      split at isSplit
      next allowed =>
        obtain ⟨rfl, rfl⟩ := Prod.mk.inj isSplit
        exact ⟨before, (partition_eq_iff.mp isPartition).2, rfl, allowed⟩
      next => exact absurd (Prod.mk.inj isSplit).1.symm named
    next => exact absurd (Prod.mk.inj isSplit).1.symm named
  · rintro ⟨before, rfl, rfl, starts, allowed⟩
    have absent : ':' ∉ before := fun listed =>
      absurd (List.all_eq_true.mp allowed ':' listed) (by decide)
    have isPartition : partition ':' (before ++ ':' :: rest) = (before, some rest) :=
      partition_eq_iff.mpr ⟨absent, rfl⟩
    simp only [splitScheme, isPartition]
    exact if_pos ⟨starts, allowed⟩

/-- One of the characters that a netloc ends before. -/
def isDelimiter (c : Char) : Bool := c ∈ ['/', '?', '#']

/-- `_splitnetloc`, where a netloc follows. -/
def splitNetloc : List Char → List Char × List Char
  | '/' :: '/' :: rest =>
      (rest.takeWhile fun c => !isDelimiter c, rest.dropWhile fun c => !isDelimiter c)
  | url => ([], url)

theorem splitNetloc_eq_iff {url netloc rest : List Char} (placed : netloc ≠ []) :
    splitNetloc url = (netloc, rest) ↔
      url = '/' :: '/' :: (netloc ++ rest) ∧ (∀ c ∈ netloc, isDelimiter c = false) ∧
        ∀ c ∈ rest.head?, isDelimiter c := by
  constructor
  · intro isSplit
    rw [splitNetloc.eq_def] at isSplit
    split at isSplit
    next after =>
      obtain ⟨rfl, rfl⟩ := Prod.mk.inj isSplit
      refine ⟨by rw [List.takeWhile_append_dropWhile], ?_, ?_⟩
      · intro c listed
        simpa using List.mem_takeWhile_imp listed
      · intro c isHead
        have stopped := List.head?_dropWhile_not (fun c => !isDelimiter c) after
        rw [isHead] at stopped
        simpa using stopped
    next => exact absurd (Prod.mk.inj isSplit).1.symm placed
  · rintro ⟨rfl, without, ends⟩
    have inside : ∀ c ∈ netloc, (!isDelimiter c) = true := by
      intro c listed
      rw [without c listed]
      rfl
    have stops : rest.takeWhile (fun c => !isDelimiter c) = [] ∧
        rest.dropWhile (fun c => !isDelimiter c) = rest := by
      cases rest with
      | nil => exact ⟨rfl, rfl⟩
      | cons c later => simp [ends c rfl]
    simp only [splitNetloc, List.takeWhile_append_of_pos inside,
      List.dropWhile_append_of_pos inside, stops, List.append_nil]

namespace Unicode

variable (unicode : Unicode)

/-- `_checknetloc`, and what is checked of brackets. -/
def netlocRefused (netloc : List Char) : Bool :=
  let compared := netloc.filter (· ∉ ['@', ':', '#', '?'])
  (decide ('[' ∈ netloc) != decide (']' ∈ netloc)) ||
    (decide ('[' ∈ netloc) && unicode.bracketedRefused netloc) ||
    (netloc.any (128 ≤ Char.toNat ·) && decide (unicode.normalize compared ≠ compared) &&
      (unicode.normalize compared).any (· ∈ ['/', '?', '#', '@', ':']))

/-- `none` is a `ValueError`. -/
def urlsplit (url : List Char) : Option SplitResult :=
  let url := (url.dropWhile isControlOrSpace).filter (!isUnsafe ·)
  let (scheme, url) := splitScheme url
  let (netloc, url) := splitNetloc url
  let (url, fragment) := partition '#' url
  let (path, query) := partition '?' url
  if unicode.netlocRefused netloc then none
  else some ⟨scheme, netloc, path, query.getD [], fragment.getD []⟩

theorem urlsplit_of_parts {url scheme afterScheme netloc afterNetloc left path : List Char}
    {fragment query : Option (List Char)}
    (isScheme : splitScheme ((url.dropWhile isControlOrSpace).filter (!isUnsafe ·)) =
      (scheme, afterScheme))
    (isNetloc : splitNetloc afterScheme = (netloc, afterNetloc))
    (isFragment : partition '#' afterNetloc = (left, fragment))
    (isQuery : partition '?' left = (path, query)) :
    unicode.urlsplit url =
      if unicode.netlocRefused netloc then none
      else some ⟨scheme, netloc, path, query.getD [], fragment.getD []⟩ := by
  simp only [urlsplit, isScheme, isNetloc, isFragment, isQuery]

theorem accepted_of_urlsplit {url : List Char} {result : SplitResult}
    (isSplit : unicode.urlsplit url = some result) :
    unicode.netlocRefused result.netloc = false := by
  simp only [urlsplit] at isSplit
  split at isSplit
  next => cases isSplit
  next accepted =>
    obtain rfl := Option.some.inj isSplit
    simpa using accepted

theorem urlsplit_eq_some_iff {url : List Char} {result : SplitResult} (named : result.scheme ≠ [])
    (placed : result.netloc ≠ []) :
    unicode.urlsplit url = some result ↔
      unicode.netlocRefused result.netloc = false ∧ ∃ before query fragment,
        (url.dropWhile isControlOrSpace).filter (!isUnsafe ·) =
            before ++ ':' :: '/' :: '/' ::
              (result.netloc ++ parted '#' (parted '?' result.path query) fragment) ∧
          before.map Char.toLower = result.scheme ∧ before.head?.any Char.isAlpha ∧
          before.all isSchemeChar ∧ (∀ c ∈ result.netloc, isDelimiter c = false) ∧
          (∀ c ∈ (parted '#' (parted '?' result.path query) fragment).head?, isDelimiter c) ∧
          '#' ∉ parted '?' result.path query ∧ '?' ∉ result.path ∧
          result.query = query.getD [] ∧ result.fragment = fragment.getD [] := by
  constructor
  · intro isSplit
    rcases isScheme : splitScheme ((url.dropWhile isControlOrSpace).filter (!isUnsafe ·)) with
      ⟨scheme, afterScheme⟩
    rcases isNetloc : splitNetloc afterScheme with ⟨netloc, afterNetloc⟩
    rcases isFragment : partition '#' afterNetloc with ⟨left, fragment⟩
    rcases isQuery : partition '?' left with ⟨path, query⟩
    rw [unicode.urlsplit_of_parts isScheme isNetloc isFragment isQuery] at isSplit
    split at isSplit
    next => cases isSplit
    next accepted =>
      obtain rfl := Option.some.inj isSplit
      obtain ⟨before, cleaned, lowered, starts, allowed⟩ := (splitScheme_eq_iff named).mp isScheme
      obtain ⟨rfl, without, ends⟩ := (splitNetloc_eq_iff placed).mp isNetloc
      obtain ⟨noFragment, rfl⟩ := partition_eq_iff.mp isFragment
      obtain ⟨noQuery, rfl⟩ := partition_eq_iff.mp isQuery
      exact ⟨by simpa using accepted, before, query, fragment, cleaned, lowered, starts, allowed,
        without, ends, noFragment, noQuery, rfl, rfl⟩
  · rintro ⟨accepted, before, query, fragment, cleaned, lowered, starts, allowed, without, ends,
      noFragment, noQuery, isQuery, isFragment⟩
    rw [unicode.urlsplit_of_parts ((splitScheme_eq_iff named).mpr
        ⟨before, cleaned, lowered, starts, allowed⟩)
      ((splitNetloc_eq_iff placed).mpr ⟨rfl, without, ends⟩)
      (partition_parted noFragment fragment) (partition_parted noQuery query), accepted,
      ← isQuery, ← isFragment]
    rfl

end Unicode

/-! ## Netlocs -/

section Netloc

variable (netloc : List Char)

/-- `_hostinfo`: the host and, if it is not empty, the port. -/
def hostinfo : List Char × Option (List Char) :=
  let hostinfo := (rpartition netloc).2
  let (hostname, port) :=
    match partition '[' hostinfo with
    | (_, some bracketed) =>
        let (hostname, rest) := partition ']' bracketed
        (hostname, (partition ':' (rest.getD [])).2)
    | (_, none) => partition ':' hostinfo
  (hostname, port.filter (· ≠ []))

def hostname (unicode : Unicode) : Option (List Char) :=
  if (hostinfo netloc).1 = [] then none
  else
    let (name, zone) := partition '%' (hostinfo netloc).1
    some (parted '%' (unicode.lower name) zone)

/-- `username` and `password`. -/
def userinfo : Option (List Char) × Option (List Char) :=
  match (rpartition netloc).1 with
  | none => (none, none)
  | some userinfo => (some (partition ':' userinfo).1, (partition ':' userinfo).2)

/-- `none` is a `ValueError`. -/
def port : Option (Option Nat) :=
  match (hostinfo netloc).2 with
  | none => some none
  | some digits =>
      let number := digits.foldl (fun value c => value * 10 + (c.toNat - '0'.toNat)) 0
      if digits.all Char.isDigit ∧ number ≤ 65535 then some (some number) else none

/-- A netloc that is nothing but the name of a host, in lower case. -/
structure HostAlone (unicode : Unicode) : Prop where
  userinfo : userinfo netloc = (none, none)
  hostname : hostname netloc unicode = some netloc
  port : port netloc = some none
  accepted : unicode.netlocRefused netloc = false

theorem HostAlone.nonempty {unicode : Unicode} {netloc : List Char}
    (alone : HostAlone netloc unicode) : netloc ≠ [] := by
  rintro rfl
  have named := alone.hostname
  simp [Urls.hostname, hostinfo, rpartition, partition] at named

end Netloc

/-! ## `unquote` -/

/-- The number that a hexadecimal digit stands for. -/
def hexadecimal (c : Char) : Option Nat :=
  if c.isDigit then some (c.toNat - '0'.toNat)
  else if 'a' ≤ c ∧ c ≤ 'f' then some (c.toNat - 'a'.toNat + 10)
  else if 'A' ≤ c ∧ c ≤ 'F' then some (c.toNat - 'A'.toNat + 10)
  else none

/-- `unquote_to_bytes`, of ASCII characters. -/
def unquoteToBytes : List Char → List UInt8
  | '%' :: first :: second :: rest =>
      match hexadecimal first, hexadecimal second with
      | some high, some low => UInt8.ofNat (high * 16 + low) :: unquoteToBytes rest
      | _, _ => '%'.toUInt8 :: unquoteToBytes (first :: second :: rest)
  | c :: rest => c.toUInt8 :: unquoteToBytes rest
  | [] => []

/-- `_generate_unquoted_parts`, with the run of ASCII characters read so far. -/
def unquotedParts (run : List Char) : List Char → List Char
  | [] => decodeChars none (unquoteToBytes run)
  | c :: rest =>
      if c.toNat < 128 then unquotedParts (run ++ [c]) rest
      else decodeChars none (unquoteToBytes run) ++ c :: unquotedParts [] rest

def unquote (text : List Char) : List Char :=
  if '%' ∈ text then unquotedParts [] text else text

end PaymentsPlatform.TransformRuntime.Urls
