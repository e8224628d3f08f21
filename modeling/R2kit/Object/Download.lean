import R2kit.Object.UploadOptions

/-!
# Reading objects

`ByteRange`, `GetObjectBuilder::send` and `HeadObjectBuilder::send` of `src/object.rs` up to the
request: the checks, in their order, and the request that is built.
-/

namespace R2kit

/-- A single byte range: `start` to `stop` inclusive, from an offset on, or the last bytes. -/
inductive ByteRange where
  | bounded (start stop : Nat)
  | fromOffset (offset : Nat)
  | suffix (length : Nat)
  deriving DecidableEq, Repr

namespace ByteRange

/-- `as_header_value`. -/
def asHeaderValue : ByteRange → String
  | bounded start stop => "bytes=" ++ toString start ++ "-" ++ toString stop
  | fromOffset offset => "bytes=" ++ toString offset ++ "-"
  | suffix length => "bytes=-" ++ toString length

/-- A range must not end before it starts, and no suffix is empty. -/
def validate : ByteRange → Except Error Unit
  | bounded start stop =>
      if stop < start then .error (.invalidInput "range" "start must not exceed end") else .ok ()
  | suffix 0 => .error (.invalidInput "range" "suffix length must be greater than zero")
  | _ => .ok ()

end ByteRange

/-- The conditions on ETags, checked in this order by both operations. -/
def checkConditions (ifMatch ifNoneMatch : Option String) : Except Error Unit := do
  whenSome ifMatch (validateMetadataHeader "if_match")
  whenSome ifNoneMatch (validateMetadataHeader "if_none_match")

/-- `GetObjectBuilder` as its setters leave it. -/
structure GetObjectBuilder where
  bucket : BucketName
  key : Except Error ObjectKey
  range : Option ByteRange := none
  ifMatch : Option String := none
  ifNoneMatch : Option String := none
  ifModifiedSince : Option SystemTime := none
  ifUnmodifiedSince : Option SystemTime := none

/-- `GetObject` as the SDK's builder holds it. -/
structure GetObjectInput where
  bucket : String
  key : String
  range : Option String
  ifMatch : Option String
  ifNoneMatch : Option String
  ifModifiedSince : Option SystemTime
  ifUnmodifiedSince : Option SystemTime
  deriving DecidableEq

namespace GetObjectBuilder

/-- `GetObject` for a checked key. -/
def input (builder : GetObjectBuilder) (key : ObjectKey) : GetObjectInput where
  bucket := builder.bucket.value
  key := key.value
  range := builder.range.map ByteRange.asHeaderValue
  ifMatch := builder.ifMatch
  ifNoneMatch := builder.ifNoneMatch
  ifModifiedSince := builder.ifModifiedSince
  ifUnmodifiedSince := builder.ifUnmodifiedSince

/-- `send` up to the request. -/
def send (builder : GetObjectBuilder) : Except Error GetObjectInput := do
  let key ← builder.key
  whenSome builder.range ByteRange.validate
  checkConditions builder.ifMatch builder.ifNoneMatch
  .ok (builder.input key)

theorem send_eq_ok_iff {builder : GetObjectBuilder} {input : GetObjectInput} :
    builder.send = .ok input ↔ ∃ key, builder.key = .ok key ∧
      whenSome builder.range ByteRange.validate = .ok () ∧
      checkConditions builder.ifMatch builder.ifNoneMatch = .ok () ∧
      input = builder.input key := by
  simp only [send, bind_eq_ok_iff]
  constructor
  · rintro ⟨key, hkey, ⟨⟩, hrange, ⟨⟩, hconditions, accepted⟩
    cases accepted
    exact ⟨key, hkey, hrange, hconditions, rfl⟩
  · rintro ⟨key, hkey, hrange, hconditions, rfl⟩
    exact ⟨key, hkey, (), hrange, (), hconditions, rfl⟩

end GetObjectBuilder

/-- `HeadObjectBuilder` as its setters leave it. -/
structure HeadObjectBuilder where
  bucket : BucketName
  key : Except Error ObjectKey
  ifMatch : Option String := none
  ifNoneMatch : Option String := none
  ifModifiedSince : Option SystemTime := none
  ifUnmodifiedSince : Option SystemTime := none

/-- `HeadObject` as the SDK's builder holds it. -/
structure HeadObjectInput where
  bucket : String
  key : String
  ifMatch : Option String
  ifNoneMatch : Option String
  ifModifiedSince : Option SystemTime
  ifUnmodifiedSince : Option SystemTime
  deriving DecidableEq

namespace HeadObjectBuilder

/-- `HeadObject` for a checked key. -/
def input (builder : HeadObjectBuilder) (key : ObjectKey) : HeadObjectInput where
  bucket := builder.bucket.value
  key := key.value
  ifMatch := builder.ifMatch
  ifNoneMatch := builder.ifNoneMatch
  ifModifiedSince := builder.ifModifiedSince
  ifUnmodifiedSince := builder.ifUnmodifiedSince

/-- `send` up to the request. -/
def send (builder : HeadObjectBuilder) : Except Error HeadObjectInput := do
  let key ← builder.key
  checkConditions builder.ifMatch builder.ifNoneMatch
  .ok (builder.input key)

theorem send_eq_ok_iff {builder : HeadObjectBuilder} {input : HeadObjectInput} :
    builder.send = .ok input ↔ ∃ key, builder.key = .ok key ∧
      checkConditions builder.ifMatch builder.ifNoneMatch = .ok () ∧
      input = builder.input key := by
  simp only [send, bind_eq_ok_iff]
  constructor
  · rintro ⟨key, hkey, ⟨⟩, hconditions, accepted⟩
    cases accepted
    exact ⟨key, hkey, hconditions, rfl⟩
  · rintro ⟨key, hkey, hconditions, rfl⟩
    exact ⟨key, hkey, (), hconditions, rfl⟩

end HeadObjectBuilder

end R2kit
