import R2kit.Object.Metadata

/-!
# The size of the metadata

`validate` sums the bytes of the typed headers and of the custom entries and compares the sum
with R2's limit. `apply_to` and `custom_metadata_values` send the same headers, and `Expires`,
which the sum leaves out.
-/

namespace R2kit

open Misc

/-- `usize` addition as a release build computes it. -/
def usizeAdd (left right : Nat) : Nat := (left + right) % 2 ^ 64

/-- `isize::MAX` of a 64-bit platform, which no allocation exceeds. -/
def isizeMax : Nat := 2 ^ 63 - 1

/-- The bytes of a value that is set. -/
def valueBytes (value : Option String) : Nat := headerBytes "" value

/-- The bytes of a custom entry: the prefix, the key and the value. -/
def entryBytes (entry : String × String) : Nat :=
  "x-amz-meta-".utf8ByteSize + entry.1.utf8ByteSize + entry.2.utf8ByteSize

theorem headerBytes_le (name : String) (value : Option String) :
    headerBytes name value ≤ name.utf8ByteSize + valueBytes value := by
  cases value with
  | none => exact Nat.zero_le _
  | some value => simp [headerBytes, valueBytes]

namespace ObjectUploadOptions

/-- The values of the typed headers that `validate` counts, as they lie in memory. -/
def typedValueBytes (options : ObjectUploadOptions) : Nat :=
  valueBytes (options.mime.map Mime.rendered) +
  valueBytes (options.cacheControl.map CacheControl.encoded) +
  valueBytes options.contentDisposition + valueBytes options.contentEncoding +
  valueBytes options.contentLanguage

/-- The sum of `validate` over the typed headers, as a release build computes it. -/
def typedBytesUsize (options : ObjectUploadOptions) : Nat :=
  usizeAdd (usizeAdd (usizeAdd (usizeAdd
    (headerBytes "content-type" (options.mime.map Mime.rendered))
    (headerBytes "cache-control" (options.cacheControl.map CacheControl.encoded)))
    (headerBytes "content-disposition" options.contentDisposition))
    (headerBytes "content-encoding" options.contentEncoding))
    (headerBytes "content-language" options.contentLanguage)

/-- What the loop of `validate` adds for an entry. -/
def countEntry (totalBytes : Nat) (entry : String × String) : Nat :=
  saturatingAdd (saturatingAdd (saturatingAdd totalBytes "x-amz-meta-".utf8ByteSize)
    (toAsciiLowercase entry.1).utf8ByteSize) entry.2.utf8ByteSize

/-- The whole sum of `validate`. -/
def countedUsize (options : ObjectUploadOptions) : Nat :=
  options.custom.toList.foldl countEntry options.typedBytesUsize

/-- The bytes that `validate` accounts for. -/
def countedBytes (options : ObjectUploadOptions) : Nat :=
  options.typedBytes + ((options.custom.toList.map lowercased).map entryBytes).sum

/-- The bytes of the metadata headers of a request: what `apply_to` sets, with the date as the
    SDK renders it, and what `custom_metadata_values` returns. -/
def sentBytes (httpDate : SystemTime → Option String) (options : ObjectUploadOptions) : Nat :=
  headerBytes "content-type" options.applyTo.contentType +
  headerBytes "cache-control" options.applyTo.cacheControl +
  headerBytes "content-disposition" options.applyTo.contentDisposition +
  headerBytes "content-encoding" options.applyTo.contentEncoding +
  headerBytes "content-language" options.applyTo.contentLanguage +
  headerBytes "expires" (options.applyTo.expires.bind httpDate) +
  ((options.customMetadataMap.elim [] Std.HashMap.toList).map entryBytes).sum

section Sum

variable {options : ObjectUploadOptions}

/-- The values share one address space, so the sum over the typed headers does not wrap. -/
theorem typedBytesUsize_eq (inMemory : options.typedValueBytes ≤ isizeMax) :
    options.typedBytesUsize = options.typedBytes := by
  have names : "content-type".utf8ByteSize + "cache-control".utf8ByteSize +
      "content-disposition".utf8ByteSize + "content-encoding".utf8ByteSize +
      "content-language".utf8ByteSize = 76 := by decide
  have contentType := headerBytes_le "content-type" (options.mime.map Mime.rendered)
  have cacheControl :=
    headerBytes_le "cache-control" (options.cacheControl.map CacheControl.encoded)
  have disposition := headerBytes_le "content-disposition" options.contentDisposition
  have encoding := headerBytes_le "content-encoding" options.contentEncoding
  have language := headerBytes_le "content-language" options.contentLanguage
  simp only [typedValueBytes, isizeMax] at inMemory
  have fits : options.typedBytes < 2 ^ 64 := by
    rw [typedBytes]
    omega
  rw [typedBytes] at fits ⊢
  simp (disch := omega) only [typedBytesUsize, usizeAdd, Nat.mod_eq_of_lt]

/-- The saturating sum of the loop is the sum, up to the bound. -/
theorem foldl_countEntry {entries : List (String × String)} {before : Nat}
    (small : before ≤ u64Max) :
    entries.foldl countEntry before =
      min (before + ((entries.map lowercased).map entryBytes).sum) u64Max := by
  induction entries generalizing before with
  | nil => simp [small]
  | cons entry rest ih =>
      have bounded : countEntry before entry ≤ u64Max := Nat.min_le_right _ _
      rw [List.foldl_cons, ih bounded]
      simp only [countEntry, saturatingAdd, List.map_cons, List.sum_cons, entryBytes, lowercased]
      generalize u64Max = limit at *
      omega

theorem countCustom_total {normalized : Std.TreeMap String Unit} {before total : Nat}
    {entries : List (String × String)}
    (accepted : countCustom normalized before entries = .ok total) :
    total = entries.foldl countEntry before := by
  induction entries generalizing normalized before with
  | nil => exact (Except.ok.inj accepted).symm
  | cons entry rest ih =>
      simp only [countCustom, bind_unit_eq_ok_iff] at accepted
      obtain ⟨-, -, counted⟩ := accepted
      by_cases seen : normalized.contains (toAsciiLowercase entry.1) = true
      · rw [if_pos seen] at counted
        cases counted
      · rw [if_neg seen] at counted
        exact ih counted

/-- What `validate` counts of valid options, it counts exactly, and it is within the limit. -/
theorem countedUsize_of_validate {crates : Crates}
    (inMemory : options.typedValueBytes ≤ isizeMax) (valid : options.validate crates = .ok ()) :
    options.countedUsize = options.countedBytes ∧
      options.countedBytes ≤ maxObjectMetadataBytes := by
  obtain ⟨-, -, -, -, -, -, -, total, counted, bounded⟩ := validate_eq_ok_iff.mp valid
  have small : options.typedBytes ≤ u64Max := by
    rw [← typedBytesUsize_eq inMemory]
    exact Nat.le_of_lt_succ (Nat.mod_lt _ (by decide))
  have sum := countCustom_total counted
  rw [countedUsize, typedBytesUsize_eq inMemory, ← sum]
  rw [foldl_countEntry small] at sum
  simp only [countedBytes, u64Max, maxObjectMetadataBytes] at *
  omega

/-- The request carries what was counted, and the date. -/
theorem sentBytes_of_validate {crates : Crates} {httpDate : SystemTime → Option String}
    (valid : options.validate crates = .ok ()) :
    options.sentBytes httpDate =
      options.countedBytes + headerBytes "expires" (options.expires.bind httpDate) := by
  have custom : ((options.customMetadataMap.elim [] Std.HashMap.toList).map entryBytes).sum =
      ((options.custom.toList.map lowercased).map entryBytes).sum := by
    cases sent : options.customMetadataMap with
    | none =>
        have unset := (sentWhole_of_validate valid).none_iff.mp sent
        rw [← Std.TreeMap.isEmpty_toList, List.isEmpty_iff] at unset
        rw [unset]
        rfl
    | some values =>
        have entries := (sentWhole_of_validate valid).entries values sent
        exact (entries.map entryBytes).sum_eq
  simp only [sentBytes, custom, countedBytes, typedBytes, applyTo]
  omega

/-- The sum of `validate` does not wrap around, and it bounds what is sent unless a date takes
    the room: an `Expires` header has 36 bytes, and the sum does not count them. -/
theorem metadataSize_bounded_iff {crates : Crates} {httpDate : SystemTime → Option String}
    (fixed_length : ∀ time date, httpDate time = some date → date.utf8ByteSize = 29)
    (inMemory : options.typedValueBytes ≤ isizeMax) (valid : options.validate crates = .ok ()) :
    (options.sentBytes httpDate ≤ maxObjectMetadataBytes ∧
        options.countedUsize = options.countedBytes) ↔
      options.expires.bind httpDate = none ∨
        options.countedBytes + 36 ≤ maxObjectMetadataBytes := by
  obtain ⟨exact_sum, bounded⟩ := countedUsize_of_validate inMemory valid
  rw [sentBytes_of_validate valid]
  cases given : options.expires.bind httpDate with
  | none => simp [headerBytes, exact_sum, bounded]
  | some date =>
      have name : "expires".utf8ByteSize = 7 := by decide
      have length : date.utf8ByteSize = 29 := by
        obtain ⟨time, -, rendered⟩ := Option.bind_eq_some_iff.mp given
        exact fixed_length time date rendered
      simp [headerBytes, name, length, exact_sum]

end Sum

/-- The date of the epoch, and of no other time. -/
def epochDate (time : SystemTime) : Option String :=
  if time = 0 then some "Thu, 01 Jan 1970 00:00:00 GMT" else none

/-- Typed headers, a date and a custom entry stay within the limit. -/
theorem metadataSize_bounded_labelled :
    (labelled.sentBytes epochDate ≤ maxObjectMetadataBytes ∧
        labelled.countedUsize = labelled.countedBytes) ↔
      labelled.expires.bind epochDate = none ∨
        labelled.countedBytes + 36 ≤ maxObjectMetadataBytes := by
  refine metadataSize_bounded_iff ?_ (by decide) validate_labelled
  intro time date rendered
  rw [epochDate] at rendered
  split at rendered
  · rw [← Option.some.inj rendered]
    decide
  · cases rendered

theorem validateMetadataHeader_repeated {field : String} {length : Nat} (nonempty : length ≠ 0) :
    validateMetadataHeader field (repeated length) = .ok () := by
  have set : repeated length ≠ "" := by
    intro empty
    have size := utf8ByteSize_repeated length
    rw [empty] at size
    exact nonempty size.symm
  rw [validateMetadataHeader, if_neg set, bytes_repeated, if_pos]
  rw [List.all_replicate, if_neg nonempty]
  decide

/-- A content disposition of this length, and a date. -/
def withDisposition (length : Nat) : ObjectUploadOptions where
  contentDisposition := some (repeated length)
  expires := some 0

theorem typedBytes_withDisposition (length : Nat) :
    (withDisposition length).typedBytes = 19 + length := by
  have name : "content-disposition".utf8ByteSize = 19 := by decide
  simp [typedBytes, withDisposition, headerBytes, mime, utf8ByteSize_repeated, name]

theorem validate_withDisposition {length : Nat} (nonempty : length ≠ 0)
    (fits : 19 + length ≤ maxObjectMetadataBytes) :
    (withDisposition length).validate Crates.minimal = .ok () := by
  refine validate_eq_ok_iff.mpr ⟨nofun, ?_, rfl, rfl, rfl, rfl, rfl, 19 + length, ?_, fits⟩
  · exact validateMetadataHeader_repeated nonempty
  · rw [typedBytes_withDisposition]
    rfl

theorem sentBytes_withDisposition {length : Nat} (nonempty : length ≠ 0)
    (fits : 19 + length ≤ maxObjectMetadataBytes) :
    (withDisposition length).sentBytes epochDate = 55 + length := by
  have date : headerBytes "expires" ((withDisposition length).expires.bind epochDate) = 36 := by
    change headerBytes "expires" ((some (0 : SystemTime)).bind epochDate) = 36
    decide
  have custom : (withDisposition length).custom.toList = [] := rfl
  rw [sentBytes_of_validate (validate_withDisposition nonempty fits), countedBytes,
    typedBytes_withDisposition, date, custom, List.map_nil, List.map_nil, List.sum_nil]
  omega

/-- Valid options whose metadata headers have more than 8,192 bytes. -/
theorem metadataSize_over_limit :
    (withDisposition 8173).validate Crates.minimal = .ok () ∧
      maxObjectMetadataBytes < (withDisposition 8173).sentBytes epochDate := by
  have nonempty : 8173 ≠ 0 := by decide
  have fits : 19 + 8173 ≤ maxObjectMetadataBytes := by decide
  rw [sentBytes_withDisposition nonempty fits]
  exact ⟨validate_withDisposition nonempty fits, by decide⟩

end ObjectUploadOptions

end R2kit
