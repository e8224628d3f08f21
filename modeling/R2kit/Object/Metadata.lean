import R2kit.Misc.EntryMap
import R2kit.Object.UploadOptions

/-!
# Custom metadata on the wire

`with_custom_metadata` keeps the entries in an ordered map, `validate` checks them against a
set of lowercase keys, and `custom_metadata_values` collects them into a hash map under their
lowercase keys. Valid options lose no entry on the way.
-/

namespace R2kit

open Misc

namespace ObjectUploadOptions

/-- `ObjectUploadOptions::with_custom_metadata`. -/
def withCustomMetadata (options : ObjectUploadOptions) (key value : String) :
    ObjectUploadOptions :=
  { options with custom := options.custom.insert key value }

/-- Calls of `with_custom_metadata`, one on the result of the other. -/
def withCustomMetadataCalls (options : ObjectUploadOptions) (calls : List (String × String)) :
    ObjectUploadOptions :=
  calls.foldl (fun options call => options.withCustomMetadata call.1 call.2) options

/-- An entry as it is sent. -/
def lowercased (entry : String × String) : String × String :=
  (toAsciiLowercase entry.1, entry.2)

/-- `ObjectUploadOptions::custom_metadata_values`, as the hash map it returns. -/
def customMetadataMap (options : ObjectUploadOptions) : Option (Std.HashMap String String) :=
  if options.custom.isEmpty then none
  else some (collectHash (options.custom.toList.map lowercased))

/-- The bytes of the typed headers that `validate` counts. -/
def typedBytes (options : ObjectUploadOptions) : Nat :=
  headerBytes "content-type" (options.mime.map Mime.rendered) +
  headerBytes "cache-control" (options.cacheControl.map CacheControl.encoded) +
  headerBytes "content-disposition" options.contentDisposition +
  headerBytes "content-encoding" options.contentEncoding +
  headerBytes "content-language" options.contentLanguage

/-- What `validate` checks of a custom entry on its own. -/
def ValidEntry (entry : String × String) : Prop :=
  validateMetadataKey entry.1 = .ok () ∧
    validateMetadataHeader "custom_metadata" entry.2 = .ok ()

section Validate

variable {crates : Crates} {options : ObjectUploadOptions}

/-- The checks that valid options pass. -/
theorem validate_eq_ok_iff :
    options.validate crates = .ok () ↔
      (∀ error, options.contentType ≠ some (.error error)) ∧
        whenSome options.contentDisposition (validateMetadataHeader "content_disposition") =
          .ok () ∧
        whenSome options.contentEncoding (validateMetadataHeader "content_encoding") = .ok () ∧
        whenSome options.ifMatch (validateMetadataHeader "if_match") = .ok () ∧
        whenSome options.ifNoneMatch (validateMetadataHeader "if_none_match") = .ok () ∧
        whenSome options.contentLanguage (validateContentLanguage crates) = .ok () ∧
        whenSome options.checksumValue (fun value => validateChecksumValue value.1 value.2) =
          .ok () ∧
        ∃ total, countCustom ∅ options.typedBytes options.custom.toList = .ok total ∧
          total ≤ maxObjectMetadataBytes := by
  have limit : ∀ total : Nat, (if maxObjectMetadataBytes < total then
      Except.error (Error.invalidInput "upload_options"
        "metadata exceeds R2's 8,192-byte object metadata limit")
      else .ok ()) = .ok () ↔ total ≤ maxObjectMetadataBytes := by
    intro total
    by_cases large : maxObjectMetadataBytes < total
    · simp [large]
    · simp [large, Nat.not_lt.mp large]
  simp only [validate, bind_unit_eq_ok_iff]
  simp only [bind_eq_ok_iff, limit, typedBytes]
  rw [and_congr_left_iff]
  intro _
  cases options.contentType with
  | none => simp [whenSome]
  | some parsed =>
      cases parsed with
      | error error => simp [whenSome]
      | ok mime => simp [whenSome]

theorem countCustom_valid {normalized : Std.TreeMap String Unit} {before total : Nat}
    {entries : List (String × String)}
    (accepted : countCustom normalized before entries = .ok total) :
    ∀ entry ∈ entries, ValidEntry entry := by
  induction entries generalizing normalized before with
  | nil => simp
  | cons entry rest ih =>
      simp only [countCustom, bind_unit_eq_ok_iff] at accepted
      obtain ⟨key, value, counted⟩ := accepted
      by_cases seen : normalized.contains (toAsciiLowercase entry.1) = true
      · rw [if_pos seen] at counted
        cases counted
      · rw [if_neg seen] at counted
        intro other member
        rcases List.mem_cons.mp member with same | later
        · rw [same]
          exact ⟨key, value⟩
        · exact ih counted other later

theorem validEntry_of_validate (valid : options.validate crates = .ok ()) :
    ∀ entry ∈ options.custom.toList, ValidEntry entry := by
  obtain ⟨_, _, counted⟩ := validate_countCustom valid
  exact countCustom_valid counted

theorem nodup_lowercased (valid : options.validate crates = .ok ()) :
    ((options.custom.toList.map lowercased).map Prod.fst).Nodup := by
  obtain ⟨_, _, counted⟩ := validate_countCustom valid
  have distinct := (countCustom_ok counted).1
  rwa [List.map_map]

/-- Validation reads the custom entries in order and nothing else of their map. -/
theorem validate_congr {first second : Std.TreeMap String String}
    (same : first.toList = second.toList) :
    validate crates { options with custom := first } =
      validate crates { options with custom := second } := by
  simp only [validate, same, mime]

theorem customMetadataMap_congr {first second : Std.TreeMap String String}
    (same : first.toList = second.toList) :
    customMetadataMap { options with custom := first } =
      customMetadataMap { options with custom := second } := by
  simp only [customMetadataMap, ← Std.TreeMap.isEmpty_toList, same]

end Validate

section Calls

variable {options : ObjectUploadOptions}

theorem withCustomMetadataCalls_eq (calls : List (String × String)) :
    options.withCustomMetadataCalls calls =
      { options with custom := putAll options.custom calls } := by
  induction calls generalizing options with
  | nil => rfl
  | cons call rest ih => exact ih

/-- A key is configured with the last value given for it. -/
theorem getElem?_withCustomMetadataCalls (calls : List (String × String)) (key : String) :
    (options.withCustomMetadataCalls calls).custom[key]? =
      (lastValue calls key).or options.custom[key]? := by
  rw [withCustomMetadataCalls_eq, getElem?_putAll]

end Calls

/-- No entry is lost, changed or merged with another when it is sent. -/
structure SentWhole (options : ObjectUploadOptions) : Prop where
  /-- Lowercasing keeps the configured keys apart. -/
  lowercase_inj : ∀ key ∈ options.custom, ∀ other ∈ options.custom,
    toAsciiLowercase key = toAsciiLowercase other → key = other
  /-- There is a map to send exactly when something is configured. -/
  none_iff : options.customMetadataMap = none ↔ options.custom.isEmpty
  /-- However the map is iterated, the entries come out once each. -/
  entries : ∀ values, options.customMetadataMap = some values →
    values.toList.Perm (options.custom.toList.map lowercased)
  /-- The requests list the same entries, ascending by name. -/
  ascending : ∀ values, options.customMetadataValues = some values →
    values.Perm (options.custom.toList.map lowercased)
  /-- A sent header holds the value configured for its one key. -/
  lookup : ∀ values, options.customMetadataMap = some values → ∀ name value : String,
    values[name]? = some value ↔
      ∃ key, toAsciiLowercase key = name ∧ options.custom[key]? = some value
  /-- The prefix is left to the service. -/
  no_prefix : ∀ values, options.customMetadataMap = some values → ∀ name ∈ values,
    ¬ "x-amz-meta-".toList <+: (toAsciiLowercase name).toList

theorem eq_customMetadataMap {options : ObjectUploadOptions}
    {values : Std.HashMap String String} (sent : options.customMetadataMap = some values) :
    values = collectHash (options.custom.toList.map lowercased) := by
  rw [customMetadataMap] at sent
  split at sent
  · cases sent
  · exact (Option.some.inj sent).symm

theorem customMetadataValues_perm {options : ObjectUploadOptions}
    {values : List (String × String)}
    (distinct : ((options.custom.toList.map lowercased).map Prod.fst).Nodup)
    (sent : options.customMetadataValues = some values) :
    values.Perm (options.custom.toList.map lowercased) := by
  have kept := toList_putAll_perm distinct
  rw [putAll, List.foldl_map] at kept
  rw [customMetadataValues] at sent
  split at sent
  · cases sent
  · rw [← Option.some.inj sent]
    exact kept

/-- A lowercase character is no longer an uppercase letter. -/
theorem toLower_toLower (char : Char) : char.toLower.toLower = char.toLower := by
  have settled : ¬ (char.toLower.val ≥ 'A'.val ∧ char.toLower.val ≤ 'Z'.val) := by
    unfold Char.toLower
    split
    · rename_i upper
      simp [UInt32.le_iff_toNat_le, UInt32.toNat_add] at upper ⊢
      omega
    · rename_i other
      exact other
  exact dif_neg settled

theorem toAsciiLowercase_idem (text : String) :
    toAsciiLowercase (toAsciiLowercase text) = toAsciiLowercase text := by
  have same : Char.toLower ∘ Char.toLower = Char.toLower := funext toLower_toLower
  rw [toAsciiLowercase, toAsciiLowercase, String.toList_ofList, List.map_map, same]

/-- A valid key does not carry the prefix, in any case. -/
theorem no_prefix_of_validateMetadataKey {key : String}
    (valid : validateMetadataKey key = .ok ()) :
    ¬ "x-amz-meta-".toList <+: (toAsciiLowercase key).toList := by
  intro carried
  rw [validateMetadataKey] at valid
  split at valid
  · cases valid
  · rw [if_pos (List.isPrefixOf_iff_prefix.mpr carried)] at valid
    cases valid

section Distinct

variable {options : ObjectUploadOptions}
  (distinct : ((options.custom.toList.map lowercased).map Prod.fst).Nodup)

theorem mem_custom_toList {key value : String} (found : options.custom[key]? = some value) :
    (key, value) ∈ options.custom.toList :=
  Std.TreeMap.mem_toList_iff_getElem?_eq_some.mpr found

include distinct

/-- Keys whose lowercase forms are listed once each are told apart by them. -/
theorem lowercase_inj_of_nodup {key other : String} (present : key ∈ options.custom)
    (again : other ∈ options.custom) (same : toAsciiLowercase key = toAsciiLowercase other) :
    key = other := by
  rw [Std.TreeMap.mem_iff_isSome_getElem?, Option.isSome_iff_exists] at present again
  obtain ⟨value, found⟩ := present
  obtain ⟨second, refound⟩ := again
  rw [List.map_map] at distinct
  have equal := List.inj_on_of_nodup_map distinct (mem_custom_toList found)
    (mem_custom_toList refound) same
  exact congrArg Prod.fst equal

/-- A name is sent with the value of the key that it is the lowercase form of. -/
theorem getElem?_customMetadataMap {values : Std.HashMap String String}
    (sent : options.customMetadataMap = some values) {name value : String} :
    values[name]? = some value ↔
      ∃ key, toAsciiLowercase key = name ∧ options.custom[key]? = some value := by
  rw [eq_customMetadataMap sent, getElem?_collectHash, lastValue_eq_some_iff distinct,
    List.mem_map]
  constructor
  · intro among
    obtain ⟨entry, among, same⟩ := among
    cases same
    exact ⟨entry.1, rfl, Std.TreeMap.mem_toList_iff_getElem?_eq_some.mp among⟩
  · intro configured
    obtain ⟨key, rfl, found⟩ := configured
    exact ⟨(key, value), mem_custom_toList found, rfl⟩

end Distinct

/-- Valid options send every entry whole. -/
theorem sentWhole_of_validate {crates : Crates} {options : ObjectUploadOptions}
    (valid : options.validate crates = .ok ()) : options.SentWhole := by
  have distinct := nodup_lowercased valid
  exact {
    lowercase_inj := by
      intro key present other again same
      exact lowercase_inj_of_nodup distinct present again same
    none_iff := by
      rw [customMetadataMap]
      split <;> simp_all
    entries := by
      intro values sent
      rw [eq_customMetadataMap sent]
      exact toList_collectHash_perm distinct
    ascending := fun values sent => customMetadataValues_perm distinct sent
    lookup := fun values sent name value => getElem?_customMetadataMap distinct sent
    no_prefix := by
      intro values sent name present
      rw [Std.HashMap.mem_iff_isSome_getElem?, Option.isSome_iff_exists] at present
      obtain ⟨value, found⟩ := present
      obtain ⟨key, rfl, configured⟩ := (getElem?_customMetadataMap distinct sent).mp found
      rw [toAsciiLowercase_idem]
      exact no_prefix_of_validateMetadataKey
        (validEntry_of_validate valid _ (mem_custom_toList configured)).1 }

/-- Custom metadata is transmitted losslessly. Whatever the calls, a key is configured with the
    last value given for it; valid options send each configured entry once and unchanged under
    its lowercase key; calls for different keys can be made in any order; and keys that
    differ only in case are rejected. -/
theorem customMetadata_lossless (crates : Crates) (options : ObjectUploadOptions) :
    (∀ calls (key : String), (options.withCustomMetadataCalls calls).custom[key]? =
        (lastValue calls key).or options.custom[key]?) ∧
      (∀ calls, (options.withCustomMetadataCalls calls).validate crates = .ok () →
        (options.withCustomMetadataCalls calls).SentWhole) ∧
      (∀ first second : List (String × String),
        (∀ key, first.filter (fun call => call.1 = key) =
          second.filter (fun call => call.1 = key)) →
        (options.withCustomMetadataCalls first).validate crates =
            (options.withCustomMetadataCalls second).validate crates ∧
          (options.withCustomMetadataCalls first).customMetadataMap =
            (options.withCustomMetadataCalls second).customMetadataMap) ∧
      ∀ calls, ∀ key ∈ (options.withCustomMetadataCalls calls).custom,
        ∀ other ∈ (options.withCustomMetadataCalls calls).custom,
          key ≠ other → toAsciiLowercase key = toAsciiLowercase other →
            (options.withCustomMetadataCalls calls).validate crates ≠ .ok () := by
  refine ⟨getElem?_withCustomMetadataCalls, fun _ valid => sentWhole_of_validate valid, ?_, ?_⟩
  · intro first second same
    have listed := toList_putAll_congr (m := options.custom) same
    rw [withCustomMetadataCalls_eq, withCustomMetadataCalls_eq]
    exact ⟨validate_congr listed, customMetadataMap_congr listed⟩
  · intro calls key present other again distinct same valid
    exact distinct ((sentWhole_of_validate valid).lowercase_inj key present other again same)

end ObjectUploadOptions

end R2kit
