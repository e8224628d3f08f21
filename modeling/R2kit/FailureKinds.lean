import R2kit.Managed.Retry
import R2kit.Object.Requests

/-!
# The kinds of failures

An SDK failure is looked at in several ways. `ServiceError::from_sdk` reports a category: by the
service code if it is a known one, else by the status, else by the variant. The uploader of
parts decides on a retry by the variant and the status, and the mappings of errors look at
some statuses before the category. They agree unless code and status contradict each other, or
the response could not be processed.
-/

namespace R2kit

namespace ServiceErrorKind

/-- The categories that the error-handling guide declares retryable. -/
def retryable : ServiceErrorKind → Bool
  | .network | .timeout | .rateLimited | .unavailable => true
  | _ => false

/-- The known service codes of a category. -/
def codes : ServiceErrorKind → List String
  | .authentication => ["Unauthorized", "ExpiredRequest", "SignatureDoesNotMatch"]
  | .permissionDenied => ["AccessDenied", "NotEntitled", "ObjectLockedByBucketPolicy"]
  | .notFound => ["NoSuchBucket", "NoSuchKey", "NoSuchUpload"]
  | .conflict => ["BucketConflict", "BucketNotEmpty", "PreconditionFailed"]
  | .rateLimited => ["TooManyRequests", "SlowDown"]
  | .unavailable => ["InternalError", "ServiceUnavailable"]
  | _ => []

theorem all_codes (kind : ServiceErrorKind) :
    kind.codes.all (fun code => fromCode code == some kind) = true := by
  cases kind <;> decide

theorem fromCode_eq_some_iff {code : String} {kind : ServiceErrorKind} :
    fromCode code = some kind ↔ code ∈ kind.codes := by
  constructor
  · intro named
    unfold fromCode at named
    split_ifs at named with inside inside inside inside inside inside
    all_goals
      cases named
      exact inside
  · intro listed
    exact eq_of_beq (List.all_eq_true.mp (all_codes kind) code listed)

/-- No code is listed twice. -/
theorem codes_unique {code : String} {kind other : ServiceErrorKind} (listed : code ∈ kind.codes)
    (again : code ∈ other.codes) : kind = other := by
  have named := fromCode_eq_some_iff.mpr listed
  rw [fromCode_eq_some_iff.mpr again, Option.some.injEq] at named
  exact named.symm

end ServiceErrorKind

/-- The statuses that the uploader of parts retries. -/
def TransientStatus (status : Nat) : Prop :=
  status = 408 ∨ status = 429 ∨ 500 ≤ status ∧ status ≤ 599

section Kind

open ServiceErrorKind

variable {operation : String} {error : SdkError} {status : Nat}

theorem isRetryableStatus_iff : isRetryableStatus status = true ↔ TransientStatus status := by
  simp only [isRetryableStatus, TransientStatus, Bool.or_eq_true, Bool.and_eq_true, beq_iff_eq,
    decide_eq_true_eq, or_assoc]

/-- By the status alone a failure is retryable exactly when the uploader retries it. -/
theorem retryable_fromStatus_iff :
    (fromStatus status).retryable = true ↔ TransientStatus status := by
  unfold fromStatus TransientStatus
  split_ifs
  all_goals
    simp only [retryable, Bool.false_eq_true, false_iff, true_iff]
    omega

theorem fromStatus_eq_notFound_iff : fromStatus status = .notFound ↔ status = 404 := by
  unfold fromStatus
  split_ifs
  all_goals
    simp only [false_iff, true_iff]
    omega

/-- A known code decides on the category. -/
theorem kind_of_code {code : String} {kind : ServiceErrorKind}
    (sent : error.serviceCode = some code) (listed : code ∈ kind.codes) :
    (ServiceError.fromSdk operation error).kind = kind := by
  have named := fromCode_eq_some_iff.mpr listed
  cases error with
  | serviceError found response =>
      change found = some code at sent
      rw [sent]
      simp [ServiceError.fromSdk, named]
  | constructionFailure | timeoutError | dispatchFailure | responseError response => cases sent

/-- The failure carries no code of a category. -/
def CodeUnknown (error : SdkError) : Prop :=
  ∀ code kind, error.serviceCode = some code → code ∉ ServiceErrorKind.codes kind

/-- Without a known code the status of the response does. -/
theorem kind_of_status (unknown : CodeUnknown error) (answered : error.status = some status) :
    (ServiceError.fromSdk operation error).kind = fromStatus status := by
  cases error with
  | constructionFailure | timeoutError | dispatchFailure => cases answered
  | responseError response =>
      cases answered
      rfl
  | serviceError code response =>
      cases answered
      cases code with
      | none => rfl
      | some code =>
          have nameless : fromCode code = none := by
            rw [Option.eq_none_iff_forall_ne_some]
            intro kind named
            exact unknown code kind rfl (fromCode_eq_some_iff.mp named)
          simp [ServiceError.fromSdk, SdkError.rawResponse, nameless]

/-- A failure has a known code, a response without one, or neither. -/
theorem failure_cases (error : SdkError) :
    (∃ code kind, error.serviceCode = some code ∧ code ∈ ServiceErrorKind.codes kind) ∨
      CodeUnknown error := by
  by_cases known : ∃ code kind, error.serviceCode = some code ∧ code ∈ ServiceErrorKind.codes kind
  · exact Or.inl known
  · refine Or.inr ?_
    intro code kind sent listed
    exact known ⟨code, kind, sent, listed⟩

end Kind

section Retry

/-- The uploader of parts retries a failure exactly if the category reported for it is
    retryable. -/
def RetryAgrees (error : SdkError) : Prop :=
  isRetryable error = true ↔ (ServiceError.fromSdk "UploadPart" error).kind.retryable = true

instance (error : SdkError) : Decidable (RetryAgrees error) :=
  inferInstanceAs (Decidable (isRetryable error = true ↔ _ = true))

/-- A response that could not be processed is reported as such, and not retried. -/
def MalformedReported (error : SdkError) : Prop :=
  ∀ response, error = .responseError response →
    (ServiceError.fromSdk "UploadPart" error).kind = .invalidResponse ∧
      isRetryable error = false

/-- The code of a service error, if it is a known one, is of a retryable category exactly if
    the status is a transient one. -/
def CodeFitsStatus (error : SdkError) : Prop :=
  ∀ code response kind, error = .serviceError (some code) response →
    code ∈ ServiceErrorKind.codes kind → (kind.retryable = true ↔ TransientStatus response.status)

theorem retryAgrees_of_unknown {code : Option String} {response : RawResponse}
    (unknown : CodeUnknown (.serviceError code response)) :
    RetryAgrees (.serviceError code response) := by
  rw [RetryAgrees, kind_of_status unknown rfl, retryable_fromStatus_iff]
  exact isRetryableStatus_iff

/-- A response that could not be processed is retried, and reported by its status. -/
theorem retryAgrees_response_iff {response : RawResponse} :
    RetryAgrees (.responseError response) ↔ TransientStatus response.status := by
  have unknown : CodeUnknown (.responseError response) := by
    intro code kind sent
    cases sent
  rw [RetryAgrees, kind_of_status unknown rfl, retryable_fromStatus_iff]
  simp only [isRetryable, true_iff]

theorem codeFitsStatus_iff {code : String} {response : RawResponse} {kind : ServiceErrorKind}
    (listed : code ∈ kind.codes) :
    CodeFitsStatus (.serviceError (some code) response) ↔
      (kind.retryable = true ↔ TransientStatus response.status) := by
  constructor
  · intro fits
    exact fits code response kind rfl listed
  · rintro agrees _ _ other ⟨⟩ again
    rw [ServiceErrorKind.codes_unique again listed]
    exact agrees

/-- A known code decides on the category, the status on the retry. -/
theorem retryAgrees_service_iff {code : Option String} {response : RawResponse} :
    RetryAgrees (.serviceError code response) ↔
      CodeFitsStatus (.serviceError code response) := by
  rcases failure_cases (.serviceError code response) with ⟨found, kind, sent, listed⟩ | unknown
  · obtain rfl : code = some found := sent
    rw [RetryAgrees, kind_of_code rfl listed, codeFitsStatus_iff listed, isRetryable,
      isRetryableStatus_iff]
    exact iff_comm
  · refine iff_of_true (retryAgrees_of_unknown unknown) ?_
    intro found response kind same listed
    exact absurd listed (unknown found kind (congrArg SdkError.serviceCode same))

/-- When the two decisions agree, whatever is reported of a response that could not be
    processed. -/
theorem retryAgrees_iff {error : SdkError} :
    RetryAgrees error ↔ CodeFitsStatus error ∧
      ∀ response, error = .responseError response → TransientStatus response.status := by
  cases error with
  | constructionFailure | timeoutError | dispatchFailure =>
      refine iff_of_true (by decide) ⟨?_, ?_⟩
      · rintro _ _ _ ⟨⟩
      · rintro _ ⟨⟩
  | responseError response =>
      rw [retryAgrees_response_iff]
      constructor
      · intro transient
        refine ⟨?_, ?_⟩
        · rintro _ _ _ ⟨⟩
        · rintro _ ⟨⟩
          exact transient
      · intro fits
        exact fits.2 response rfl
  | serviceError code response =>
      rw [retryAgrees_service_iff]
      refine (and_iff_left ?_).symm
      rintro _ ⟨⟩

/-- The two decisions agree on every failure but those whose response could not be processed
    and those whose code and status contradict each other. -/
theorem retry_matches_kind_iff (error : SdkError) :
    (RetryAgrees error ∧ MalformedReported error) ↔
      (∀ response, error ≠ .responseError response) ∧ CodeFitsStatus error := by
  rw [retryAgrees_iff]
  constructor
  · rintro ⟨⟨fits, -⟩, reported⟩
    refine ⟨?_, fits⟩
    intro response malformed
    have retried := (reported response malformed).2
    rw [malformed] at retried
    cases retried
  · rintro ⟨processed, fits⟩
    refine ⟨⟨fits, ?_⟩, ?_⟩
    · intro response malformed
      exact absurd malformed (processed response)
    · intro response malformed
      exact absurd malformed (processed response)

/-- The answer of a failed part is cut off: it is retried, and reported as unknown. A code can
    contradict its status either way. -/
theorem retry_contradicts_kind :
    ¬ (RetryAgrees (.responseError ⟨200, none, none⟩) ∧
        MalformedReported (.responseError ⟨200, none, none⟩)) ∧
      isRetryable (.responseError ⟨200, none, none⟩) = true ∧
      (ServiceError.fromSdk "UploadPart" (.responseError ⟨200, none, none⟩)).kind = .unknown ∧
      ¬ RetryAgrees (.serviceError (some "SlowDown") ⟨400, none, none⟩) ∧
      ¬ RetryAgrees (.serviceError (some "AccessDenied") ⟨503, none, none⟩) := by
  refine ⟨?_, rfl, rfl, by decide, by decide⟩
  intro both
  exact absurd both.1 (by decide)

end Retry

/-- `map_object_error!`. -/
def mapObjectError (operation : String) (error : SdkError) : Error :=
  if error.status = some 404 then .notFound
  else if error.status = some 304 then .notModified
  else if error.status = some 412 then .preconditionFailed
  else .remoteError operation error

/-- `bucket_exists` from the answer on. -/
def bucketExists (answer : Except SdkError Unit) : Except Error Bool :=
  match answer with
  | .ok () => .ok true
  | .error error =>
      if error.status = some 404 then .ok false
      else .error (.remoteError "HeadBucket" error)

/-- The mappings of failures to errors: of GET, HEAD and COPY, of the direct abort, of
    `PutObject`, and of every other operation. -/
inductive ErrorMapping where
  | object (operation : String)
  | directAbort
  | putObject
  | remote (operation : String)
  deriving DecidableEq, Repr

/-- The error that a caller sees for an error of the SDK. -/
def ErrorMapping.map : ErrorMapping → SdkError → Error
  | .object operation, error => mapObjectError operation error
  | .directAbort, error => .fromSdk "AbortMultipartUpload" error
  | .putObject, error => putObjectError error
  | .remote operation, error => .remoteError operation error

section NotFound

/-- The service code says that a resource is missing. -/
def NamesMissing (error : SdkError) : Prop :=
  ∃ code ∈ ServiceErrorKind.notFound.codes, error.serviceCode = some code

/-- The service code is a known one that says something else. -/
def NamesOther (error : SdkError) : Prop :=
  ∃ code kind, error.serviceCode = some code ∧ code ∈ ServiceErrorKind.codes kind ∧
    kind ≠ .notFound

/-- The status or the service code says that a resource is missing. -/
def Missing (error : SdkError) : Prop := error.status = some 404 ∨ NamesMissing error

/-- Code and status leave this mapping no choice: a code that names a missing resource comes
    with no status that is looked at before, and a 404 that is not looked at with no code that
    names something else. -/
def ErrorMapping.Unequivocal : ErrorMapping → SdkError → Prop
  | .object _, error =>
      ¬ ((error.status = some 304 ∨ error.status = some 412) ∧ NamesMissing error)
  | .directAbort, _ => True
  | .putObject, error => ¬ (error.status = some 412 ∧ NamesMissing error) ∧
      ¬ (error.status = some 404 ∧ NamesOther error)
  | .remote _, error => ¬ (error.status = some 404 ∧ NamesOther error)

/-- One of code and status says that a resource is missing, the other stands against it. -/
def Contradictory (error : SdkError) : Prop :=
  (error.status = some 304 ∨ error.status = some 412) ∧ NamesMissing error ∨
    error.status = some 404 ∧ NamesOther error

variable {operation : String} {error : SdkError}

theorem isNotFound_remoteError :
    (Error.remoteError operation error).isNotFound = true ↔
      (ServiceError.fromSdk operation error).kind = .notFound := by
  rw [Error.remoteError, Error.isNotFound, beq_iff_eq]

theorem isNotFound_of_code {code : String} {kind : ServiceErrorKind}
    (sent : error.serviceCode = some code) (listed : code ∈ kind.codes) :
    (Error.remoteError operation error).isNotFound = true ↔ kind = .notFound := by
  rw [isNotFound_remoteError, kind_of_code sent listed]

/-- Without a known code it is by the status. -/
theorem isNotFound_of_unknown (unknown : CodeUnknown error) :
    (Error.remoteError operation error).isNotFound = true ↔ error.status = some 404 := by
  rw [isNotFound_remoteError]
  cases answered : error.status with
  | some status =>
      rw [kind_of_status unknown answered, fromStatus_eq_notFound_iff, Option.some.injEq]
  | none =>
      cases error with
      | constructionFailure | timeoutError | dispatchFailure =>
          refine iff_of_false ?_ (Option.some_ne_none 404).symm
          rintro ⟨⟩
      | responseError response | serviceError code response => cases answered

theorem namesMissing_iff {code : String} {kind : ServiceErrorKind}
    (sent : error.serviceCode = some code) (listed : code ∈ kind.codes) :
    NamesMissing error ↔ kind = .notFound := by
  constructor
  · rintro ⟨found, missing, same⟩
    rw [sent, Option.some.injEq] at same
    subst same
    exact ServiceErrorKind.codes_unique listed missing
  · rintro rfl
    exact ⟨code, listed, sent⟩

theorem namesOther_iff {code : String} {kind : ServiceErrorKind}
    (sent : error.serviceCode = some code) (listed : code ∈ kind.codes) :
    NamesOther error ↔ kind ≠ .notFound := by
  constructor
  · rintro ⟨found, other, same, again, different⟩
    rw [sent, Option.some.injEq] at same
    subst same
    rwa [ServiceErrorKind.codes_unique listed again]
  · intro different
    exact ⟨code, kind, sent, listed, different⟩

/-- The category is by the code, and by a status of 404 if no known code names another one. -/
theorem isNotFound_remoteError_iff :
    (Error.remoteError operation error).isNotFound = true ↔
      NamesMissing error ∨ error.status = some 404 ∧ ¬ NamesOther error := by
  rcases failure_cases error with ⟨code, kind, sent, listed⟩ | unknown
  · rw [isNotFound_of_code sent listed, namesMissing_iff sent listed, namesOther_iff sent listed]
    tauto
  · have unnamed : ¬ NamesMissing error := by
      rintro ⟨code, listed, sent⟩
      exact unknown code .notFound sent listed
    have nothing : ¬ NamesOther error := by
      rintro ⟨code, kind, sent, listed, -⟩
      exact unknown code kind sent listed
    rw [isNotFound_of_unknown unknown]
    simp only [unnamed, nothing, false_or, not_false_eq_true, and_true]

/-- A code does not name a missing resource and something else. -/
theorem not_namesOther (missing : NamesMissing error) : ¬ NamesOther error := by
  obtain ⟨code, listed, sent⟩ := missing
  rw [namesOther_iff sent listed]
  exact not_not_intro rfl

theorem isNotFound_remoteError_agrees_iff :
    ((Error.remoteError operation error).isNotFound = true ↔ Missing error) ↔
      ¬ (error.status = some 404 ∧ NamesOther error) := by
  rw [isNotFound_remoteError_iff, Missing]
  have exclusive : NamesMissing error → ¬ NamesOther error := not_namesOther
  tauto

/-- `Error::from_sdk` looks at a 404 first, and at nothing else before the code. -/
theorem isNotFound_fromSdk_iff :
    (Error.fromSdk operation error).isNotFound = true ↔ Missing error := by
  rw [Error.fromSdk]
  split_ifs with gone
  · exact iff_of_true rfl (Or.inl gone)
  · exact isNotFound_remoteError_agrees_iff.mpr (fun both => gone both.1)

/-- An answer that is taken for another one hides a code that names a missing resource. -/
theorem isNotFound_hidden_agrees_iff {mapped : Error} {status : Nat}
    (hidden : mapped.isNotFound = false) (answered : error.status = some status)
    (other : status ≠ 404) :
    (mapped.isNotFound = true ↔ Missing error) ↔ ¬ NamesMissing error := by
  have present : error.status ≠ some 404 := by
    rw [answered]
    exact fun same => other (Option.some.inj same)
  rw [hidden, Missing, or_iff_right present]
  simp only [Bool.false_eq_true, false_iff]

theorem mapObjectError_agrees_iff :
    ((mapObjectError operation error).isNotFound = true ↔ Missing error) ↔
      ¬ ((error.status = some 304 ∨ error.status = some 412) ∧ NamesMissing error) := by
  rw [mapObjectError]
  split_ifs with gone unmodified failed
  · refine iff_of_true (iff_of_true rfl (Or.inl gone)) ?_
    rw [gone]
    rintro ⟨answered | answered, -⟩ <;> cases answered
  · rw [isNotFound_hidden_agrees_iff rfl unmodified (by decide), unmodified]
    simp only [true_or, true_and]
  · rw [isNotFound_hidden_agrees_iff rfl failed (by decide), failed]
    simp only [or_true, true_and]
  · rw [isNotFound_remoteError_agrees_iff]
    refine iff_of_true (fun both => gone both.1) ?_
    rintro ⟨answered | answered, -⟩
    · exact unmodified answered
    · exact failed answered

theorem putObjectError_agrees_iff :
    ((putObjectError error).isNotFound = true ↔ Missing error) ↔
      ¬ (error.status = some 412 ∧ NamesMissing error) ∧
        ¬ (error.status = some 404 ∧ NamesOther error) := by
  rw [putObjectError]
  split_ifs with failed
  · rw [isNotFound_hidden_agrees_iff rfl failed (by decide), failed]
    constructor
    · intro unnamed
      refine ⟨fun both => unnamed both.2, ?_⟩
      rintro ⟨answered, -⟩
      cases answered
    · intro apart named
      exact apart.1 ⟨rfl, named⟩
  · rw [isNotFound_remoteError_agrees_iff]
    exact (and_iff_right (fun both => failed both.1)).symm

theorem ErrorMapping.agrees_iff (mapping : ErrorMapping) :
    ((mapping.map error).isNotFound = true ↔ Missing error) ↔ mapping.Unequivocal error := by
  cases mapping with
  | object operation => exact mapObjectError_agrees_iff
  | directAbort => exact iff_of_true isNotFound_fromSdk_iff trivial
  | putObject => exact putObjectError_agrees_iff
  | remote operation => exact isNotFound_remoteError_agrees_iff

theorem unequivocal_iff :
    (∀ mapping : ErrorMapping, mapping.Unequivocal error) ↔ ¬ Contradictory error := by
  constructor
  · rintro all (hidden | renamed)
    · exact all (.object "GetObject") hidden
    · exact all (.remote "UploadPart") renamed
  · intro fits mapping
    cases mapping with
    | object operation => exact fun hidden => fits (Or.inl hidden)
    | directAbort => exact trivial
    | putObject =>
        refine ⟨?_, fun renamed => fits (Or.inr renamed)⟩
        rintro ⟨answered, named⟩
        exact fits (Or.inl ⟨Or.inr answered, named⟩)
    | remote operation => exact fun renamed => fits (Or.inr renamed)

/-- The direct abort answers by the rule, so that any mapping that answers as it does is right. -/
theorem sameAnswer_iff :
    (∀ first second : ErrorMapping,
        (first.map error).isNotFound = (second.map error).isNotFound) ↔
      ¬ Contradictory error := by
  rw [← unequivocal_iff]
  constructor
  · intro same mapping
    have right : (ErrorMapping.directAbort.map error).isNotFound = true ↔ Missing error :=
      isNotFound_fromSdk_iff
    rw [← mapping.agrees_iff, same mapping .directAbort]
    exact right
  · intro all first second
    rw [Bool.eq_iff_iff, first.agrees_iff.mpr (all first), second.agrees_iff.mpr (all second)]

/-- `bucket_exists` answers a 404 itself. -/
theorem bucketExists_error {mapped : Error} (failed : bucketExists (.error error) = .error mapped) :
    mapped.isNotFound = true ↔ Missing error := by
  rw [bucketExists] at failed
  split_ifs at failed with gone
  cases failed
  exact isNotFound_remoteError_agrees_iff.mpr (fun both => gone both.1)

/-- When each mapping recognises a missing resource, and when all of them give one answer. -/
theorem notFound_recognised_iff (error : SdkError) :
    (∀ mapping : ErrorMapping,
        ((mapping.map error).isNotFound = true ↔ Missing error) ↔ mapping.Unequivocal error) ∧
      ((∀ first second : ErrorMapping,
          (first.map error).isNotFound = (second.map error).isNotFound) ↔
        ¬ Contradictory error) ∧
      ∀ mapped, bucketExists (.error error) = .error mapped →
        (mapped.isNotFound = true ↔ Missing error) := by
  refine ⟨ErrorMapping.agrees_iff, sameAnswer_iff, ?_⟩
  intro mapped failed
  exact bucketExists_error failed

/-- A 404 that comes with a code of a refused access is a missing resource for a download and
    not for a listing; a failed condition hides the code of a missing key. -/
theorem notFound_differs :
    ((ErrorMapping.object "GetObject").map
        (.serviceError (some "AccessDenied") ⟨404, none, none⟩)).isNotFound = true ∧
      ((ErrorMapping.remote "ListObjectsV2").map
        (.serviceError (some "AccessDenied") ⟨404, none, none⟩)).isNotFound = false ∧
      (ErrorMapping.putObject.map
        (.serviceError (some "AccessDenied") ⟨404, none, none⟩)).isNotFound = false ∧
      Missing (.serviceError (some "AccessDenied") ⟨404, none, none⟩) ∧
      ((ErrorMapping.object "GetObject").map
        (.serviceError (some "NoSuchKey") ⟨412, none, none⟩)).isNotFound = false ∧
      (ErrorMapping.putObject.map
        (.serviceError (some "NoSuchKey") ⟨412, none, none⟩)).isNotFound = false ∧
      Missing (.serviceError (some "NoSuchKey") ⟨412, none, none⟩) := by
  refine ⟨by decide, by decide, by decide, Or.inl rfl, by decide, by decide, Or.inr ?_⟩
  exact ⟨"NoSuchKey", by decide, rfl⟩

end NotFound

end R2kit
