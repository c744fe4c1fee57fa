import PaymentsPlatform.TransformRuntime.Confinement

/-!
# Confinement of the restricted writer

`_table_location` of `materialise_token_link.py` checks a location against the same bucket and
warehouse as the Bronze writer, with checks of its own.
-/

namespace PaymentsPlatform.TransformRuntime.TokenLink

open RawToBronze (Invocation Root bind_eq_ok locationOf validateTableLocation_eq_ok_iff)
open RelyGuarantee
open Urls (Unicode unquote)

/-- `value.rstrip("/")`. -/
def withoutSlashes (value : List Char) : List Char := (value.reverse.dropWhile (· = '/')).reverse

/-- The location and the warehouse are of the bucket, and the path of the location, decoded, begins
with the one of the warehouse. -/
def BeginsAlike (bucket : String) (parsed base : Urls.SplitResult) : Prop :=
  parsed.scheme = ['s', '3'] ∧ parsed.netloc = bucket.toList ∧ base.scheme = ['s', '3'] ∧
    base.netloc = bucket.toList ∧ withoutSlashes (unquote base.path) ++ ['/'] <+: unquote parsed.path

/-- What `_table_location` checks of a location. -/
def checkLocation (unicode : Unicode) (environment : Environment) (location : String) :
    Except Fault Unit := do
  let warehouse ← requireEnv environment "NESSIE_WAREHOUSE"
  let bucket ← requireEnv environment "OBJECT_STORE_BUCKET"
  match unicode.urlsplit location.toList, unicode.urlsplit (withoutSlashes warehouse.toList) with
  | some parsed, some base =>
      if parsed.scheme ≠ ['s', '3'] ∨ parsed.netloc ≠ bucket.toList ∨ base.scheme ≠ ['s', '3'] ∨
          base.netloc ≠ bucket.toList then
        .error (.runtimeError "invalid restricted Iceberg table location")
      else if (withoutSlashes (unquote base.path) ++ ['/']).isPrefixOf (unquote parsed.path) then
        .ok ()
      else .error (.runtimeError "restricted Iceberg table location is outside governed warehouse")
  | _, _ => .error (.outside "ValueError")

/-- The environment, with the functions of `urllib.parse`. -/
def Environment.reading (environment : Environment) (unicode : Unicode) : Environment :=
  { environment with withinWarehouse := checkLocation unicode environment }

/-- What `_table_location` does with the text of `SHOW CREATE TABLE`. -/
def locationIn (environment : Environment) (text : String) : Except Fault String :=
  match findLocations 0 text.toList with
  | [found] =>
      let location := String.ofList (withoutSlashes (undoubled found))
      (environment.withinWarehouse location).map fun _ => location
  | _ => .error (.runtimeError "ambiguous Iceberg table location")

section Agreement

variable (unicode : Unicode) (environment : Environment) (invocation : Invocation)

/-- The Bronze writer in the same process. -/
def bronzeWriter : Invocation :=
  { invocation with environ := environment.getenv }.reading unicode

/-- A location that the writer returns is the one that the Bronze writer returns. -/
def FollowsBronze (text : String) : Prop :=
  ∀ location, locationIn (environment.reading unicode) text = .ok location →
    (bronzeWriter unicode environment invocation).extractTableLocation [[some text]] = .ok location

/-- The writer's checks pass. -/
def LooselyBelow (location : String) : Prop :=
  ∃ warehouse bucket parsed base,
    requireEnv environment "NESSIE_WAREHOUSE" = .ok warehouse ∧
    requireEnv environment "OBJECT_STORE_BUCKET" = .ok bucket ∧
    unicode.urlsplit location.toList = some parsed ∧
    unicode.urlsplit (withoutSlashes warehouse.toList) = some base ∧
    BeginsAlike bucket parsed base

/-- The only location of the text that begins a word spells a path of plain segments properly below
the warehouse, and the location is that path as the Bronze writer writes it. -/
def PlainlyBelow (text location : String) : Prop :=
  ∃ found bucket warehouse base more,
    (bronzeWriter unicode environment invocation).findLocations false 0 text.toList = [found] ∧
    (bronzeWriter unicode environment invocation).requiredEnvironment "OBJECT_STORE_BUCKET" =
      .ok bucket ∧
    (bronzeWriter unicode environment invocation).requiredEnvironment "NESSIE_WAREHOUSE" =
      .ok warehouse ∧
    Root unicode bucket.toList base (Invocation.withoutSlashes warehouse).toList ∧
    Root unicode bucket.toList (base ++ more)
      (Invocation.withoutSlashes (String.ofList (undoubled found))).toList ∧
    more ≠ [] ∧ location = locationOf bucket (base ++ more)

variable {unicode environment}

theorem checkLocation_eq_ok_iff {location : String} :
    checkLocation unicode environment location = .ok () ↔
      LooselyBelow unicode environment location := by
  rw [checkLocation]
  constructor
  · intro checked
    obtain ⟨warehouse, isWarehouse, checked⟩ := bind_eq_ok.mp checked
    obtain ⟨bucket, isBucket, checked⟩ := bind_eq_ok.mp checked
    split at checked
    next parsed base isParsed isBase =>
      split at checked
      next => cases checked
      next inBucket =>
        split at checked
        next begins =>
          simp only [not_or, not_not] at inBucket
          obtain ⟨isS3, isNetloc, baseIsS3, baseIsNetloc⟩ := inBucket
          have alike : BeginsAlike bucket parsed base :=
            ⟨isS3, isNetloc, baseIsS3, baseIsNetloc, List.isPrefixOf_iff_prefix.mp begins⟩
          exact ⟨warehouse, bucket, parsed, base, isWarehouse, isBucket, isParsed, isBase, alike⟩
        next => cases checked
    next => cases checked
  · rintro ⟨warehouse, bucket, parsed, base, isWarehouse, isBucket, isParsed, isBase, isS3, isNetloc,
      baseIsS3, baseIsNetloc, begins⟩
    refine bind_eq_ok.mpr ⟨warehouse, isWarehouse, bind_eq_ok.mpr ⟨bucket, isBucket, ?_⟩⟩
    simp only [isParsed, isBase]
    rw [if_neg (by simp [isS3, isNetloc, baseIsS3, baseIsNetloc]),
      if_pos (List.isPrefixOf_iff_prefix.mpr begins)]

theorem locationIn_eq_ok_iff {text location : String} :
    locationIn (environment.reading unicode) text = .ok location ↔
      ∃ found, findLocations 0 text.toList = [found] ∧
        location = String.ofList (withoutSlashes (undoubled found)) ∧
        LooselyBelow unicode environment location := by
  rw [locationIn]
  constructor
  · intro isLocation
    split at isLocation
    next found isFound =>
      cases checked : checkLocation unicode environment
          (String.ofList (withoutSlashes (undoubled found))) with
      | error fault =>
          simp only [Environment.reading, checked, Except.map] at isLocation
          cases isLocation
      | ok nothing =>
          simp only [Environment.reading, checked, Except.map] at isLocation
          obtain rfl := Except.ok.inj isLocation
          exact ⟨found, isFound, rfl, checkLocation_eq_ok_iff.mp checked⟩
    next => cases isLocation
  · rintro ⟨found, isFound, rfl, below⟩
    simp only [isFound, Environment.reading, checkLocation_eq_ok_iff.mpr below]
    rfl

variable {invocation}

theorem extractTableLocation_eq_ok_iff {text location : String} :
    (bronzeWriter unicode environment invocation).extractTableLocation [[some text]] =
        .ok location ↔ PlainlyBelow unicode environment invocation text location := by
  rw [Invocation.extractTableLocation]
  have isText : "\n".intercalate ([[some text]].flatMap fun row => row.filterMap id) = text := by
    simp
  rw [isText]
  constructor
  · intro extracted
    split at extracted
    next found isFound =>
      obtain ⟨bucket, warehouse, base, more, isBucket, isWarehouse, baseRoot, root, below, isBelow⟩ :=
        (validateTableLocation_eq_ok_iff _).mp extracted
      exact ⟨found, bucket, warehouse, base, more, isFound, isBucket, isWarehouse, baseRoot, root,
        below, isBelow⟩
    next => cases extracted
  · rintro ⟨found, bucket, warehouse, base, more, isFound, isBucket, isWarehouse, baseRoot, root,
      below, isBelow⟩
    simp only [isFound]
    exact (validateTableLocation_eq_ok_iff _).mpr
      ⟨bucket, warehouse, base, more, isBucket, isWarehouse, baseRoot, root, below, isBelow⟩

/-- The writer follows the Bronze writer exactly if a location that it lets pass is plain. -/
theorem followsBronze_iff (unicode : Unicode) (environment : Environment) (invocation : Invocation)
    (text : String) :
    FollowsBronze unicode environment invocation text ↔
      ∀ found, findLocations 0 text.toList = [found] →
        LooselyBelow unicode environment (String.ofList (withoutSlashes (undoubled found))) →
        PlainlyBelow unicode environment invocation text
          (String.ofList (withoutSlashes (undoubled found))) := by
  constructor
  · intro follows found isFound below
    exact extractTableLocation_eq_ok_iff.mp
      (follows _ (locationIn_eq_ok_iff.mpr ⟨found, isFound, rfl, below⟩))
  · intro plainly location returned
    obtain ⟨found, isFound, rfl, below⟩ := locationIn_eq_ok_iff.mp returned
    exact extractTableLocation_eq_ok_iff.mpr (plainly found isFound below)

end Agreement

/-- The environment of a bucket `lake` with its warehouse. -/
def lakeEnvironment : Environment where
  getenv := RawToBronze.lakeInvocation.environ
  requireMountedSecret _ := .ok "v1"
  activeKey := .ok ("key", "v1")
  hmac key message := key ++ message
  now := "2026-01-01T00:00:00+00:00"
  withinWarehouse _ := .ok ()

/-- The writer returns a location whose path climbs out of the warehouse. -/
theorem not_followsBronze_above :
    ¬ FollowsBronze RawToBronze.asciiUnicode lakeEnvironment RawToBronze.lakeInvocation
      "location = 's3://lake/warehouse/../vault/t'" := by
  intro follows
  have returned : locationIn (lakeEnvironment.reading RawToBronze.asciiUnicode)
      "location = 's3://lake/warehouse/../vault/t'" = .ok "s3://lake/warehouse/../vault/t" := by
    decide +kernel
  have refused : (bronzeWriter RawToBronze.asciiUnicode lakeEnvironment
      RawToBronze.lakeInvocation).extractTableLocation
        [[some "location = 's3://lake/warehouse/../vault/t'"]] =
      .error RawToBronze.Invocation.invalidLocation := by
    decide +kernel
  cases (follows _ returned).symm.trans refused

end PaymentsPlatform.TransformRuntime.TokenLink
