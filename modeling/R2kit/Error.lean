import Mathlib.Data.List.Basic

/-!
# Errors of the crate and of the SDK

`src/error.rs`, with the part of the SDK's error type that the crate inspects: the variant,
the status and the retry headers of the raw response, and the service code.
-/

namespace R2kit

/-- A span of time in nanoseconds. -/
abbrev Duration := Nat

/-- An instant, in nanoseconds from the epoch. -/
abbrev SystemTime := Int

/-- `Duration::from_secs`, in nanoseconds. -/
def Duration.fromSecs (secs : Nat) : Duration := secs * 1000000000

/-- `Duration::from_millis`, in nanoseconds. -/
def Duration.fromMillis (millis : Nat) : Duration := millis * 1000000

/-- A value outside of R2's limits, with what was given and the bounds. -/
inductive ValidationError where
  | partSizeOutOfRange (provided min max : Nat)
  | multipartFileSizeZero
  | multipartObjectTooLarge (provided max : Nat)
  | tooManyParts (required max : Nat)
  | partNumberOutOfRange (provided min max : Nat)
  | concurrencyOutOfRange (provided min max : Nat)
  | attemptsOutOfRange (provided min max : Nat)
  | managedMemoryBudgetExceeded (required max : Nat)
  | singleUploadTooLarge (provided max : Nat)
  | listLimitOutOfRange (provided min max : Nat)
  | presignExpiryOutOfRange (provided min max : Duration)
  deriving DecidableEq, Repr

/-- The kinds that errors of the service are sorted into. -/
inductive ServiceErrorKind where
  | authentication
  | permissionDenied
  | notFound
  | conflict
  | rateLimited
  | timeout
  | network
  | unavailable
  | invalidResponse
  | unknown
  deriving DecidableEq, Repr

namespace ServiceErrorKind

/-- The kind of an error whose code says nothing. -/
def fromStatus (status : Nat) : ServiceErrorKind :=
  if status = 401 then .authentication
  else if status = 403 then .permissionDenied
  else if status = 404 then .notFound
  else if status = 409 then .conflict
  else if status = 408 then .timeout
  else if status = 429 then .rateLimited
  else if 500 ≤ status ∧ status ≤ 599 then .unavailable
  else .unknown

/-- The kind that a code names, if it names one. -/
def fromCode (code : String) : Option ServiceErrorKind :=
  if code ∈ ["Unauthorized", "ExpiredRequest", "SignatureDoesNotMatch"] then
    some .authentication
  else if code ∈ ["AccessDenied", "NotEntitled", "ObjectLockedByBucketPolicy"] then
    some .permissionDenied
  else if code ∈ ["NoSuchBucket", "NoSuchKey", "NoSuchUpload"] then some .notFound
  else if code ∈ ["BucketConflict", "BucketNotEmpty", "PreconditionFailed"] then
    some .conflict
  else if code ∈ ["TooManyRequests", "SlowDown"] then some .rateLimited
  else if code ∈ ["InternalError", "ServiceUnavailable"] then some .unavailable
  else none

end ServiceErrorKind

/-- The raw HTTP response kept in an SDK error, as far as the crate reads it. -/
structure RawResponse where
  status : Nat
  retryAfter : Option String
  amzRetryAfter : Option String
  deriving DecidableEq, Repr

/-- `SdkError<E>`. Only a response or service error carries the raw response. -/
inductive SdkError where
  | constructionFailure
  | timeoutError
  | dispatchFailure
  | responseError (response : RawResponse)
  | serviceError (code : Option String) (response : RawResponse)
  deriving DecidableEq, Repr

/-- The response that an error came with. -/
def SdkError.rawResponse : SdkError → Option RawResponse
  | .responseError response => some response
  | .serviceError _ response => some response
  | _ => none

/-- The status of the raw response. -/
def SdkError.status (error : SdkError) : Option Nat := error.rawResponse.map RawResponse.status

/-- The code of a service error. -/
def SdkError.serviceCode : SdkError → Option String
  | .serviceError code _ => code
  | _ => none

/-- An error of the service: the operation, its kind, and what the response told. -/
structure ServiceError where
  operation : String
  kind : ServiceErrorKind
  status : Option Nat
  deriving DecidableEq, Repr

/-- `from_sdk`: the code decides the kind where it names one, else the status. -/
def ServiceError.fromSdk (operation : String) (error : SdkError) : ServiceError :=
  let status := error.rawResponse.map RawResponse.status
  let serviceCode :=
    match error with
    | .serviceError code _ => code
    | _ => none
  let kind :=
    ((serviceCode.bind ServiceErrorKind.fromCode).orElse
      (fun _ => status.map ServiceErrorKind.fromStatus)).getD
      (match error with
        | .timeoutError => .timeout
        | .dispatchFailure => .network
        | .responseError _ => .invalidResponse
        | _ => .unknown)
  { operation, kind, status }

/-- The errors of the crate, as far as the modelled functions return them. -/
inductive Error where
  | validation (error : ValidationError)
  | invalidInput (field reason : String)
  | service (operation : String)
  | remote (error : ServiceError)
  | notFound
  | preconditionFailed
  | notModified
  | io (operation : String)
  | cancelled
  | presign
  deriving DecidableEq, Repr

/-- `Error::remote`. -/
def Error.remoteError (operation : String) (error : SdkError) : Error :=
  .remote (ServiceError.fromSdk operation error)

/-- `Error::from_sdk`. -/
def Error.fromSdk (operation : String) (error : SdkError) : Error :=
  if error.status = some 404 then .notFound else .remoteError operation error

/-- `is_not_found`. -/
def Error.isNotFound : Error → Bool
  | .notFound => true
  | .remote error => error.kind == .notFound
  | _ => false

/-- A computation that returns passed each of its steps. -/
theorem bind_eq_ok_iff {ε α β : Type} {first : Except ε α} {next : α → Except ε β} {result : β} :
    first >>= next = .ok result ↔ ∃ middle, first = .ok middle ∧ next middle = .ok result := by
  cases first with
  | error error => simp [bind, Except.bind]
  | ok middle => simp [bind, Except.bind]

/-- A computation fails at one of its steps. -/
theorem bind_eq_error_iff {ε α β : Type} {first : Except ε α} {next : α → Except ε β} {error : ε} :
    first >>= next = .error error ↔
      first = .error error ∨ ∃ middle, first = .ok middle ∧ next middle = .error error := by
  cases first with
  | error other => simp [bind, Except.bind]
  | ok middle => simp [bind, Except.bind]

/-- A check that passes returns nothing. -/
theorem bind_unit_eq_ok_iff {ε β : Type} {check : Except ε Unit} {next : Unit → Except ε β}
    {result : β} :
    check >>= next = .ok result ↔ check = .ok () ∧ next () = .ok result := by
  cases check with
  | error error => simp [bind, Except.bind]
  | ok passed => simp [bind, Except.bind]

theorem map_eq_ok_iff {ε α β : Type} {first : Except ε α} {f : α → β} {result : β} :
    first.map f = .ok result ↔ ∃ middle, first = .ok middle ∧ f middle = result := by
  cases first with
  | error error => simp [Except.map]
  | ok middle => simp [Except.map]

/-- A loop that fails on none of its elements. -/
theorem mapM_eq_pure {m : Type → Type} [Monad m] [LawfulMonad m] {α β : Type} {f : α → m β}
    {g : α → β} {xs : List α} (passes : ∀ x ∈ xs, f x = pure (g x)) :
    xs.mapM f = pure (xs.map g) := by
  induction xs with
  | nil => rfl
  | cons x rest ih =>
      rw [List.mapM_cons, passes x List.mem_cons_self,
        ih (fun y member => passes y (List.mem_cons_of_mem _ member))]
      simp

/-- How a function can fail to return a value: with an error, or by a panic (an index out
    of bounds, a failed `expect`). -/
inductive Fault where
  | error (error : Error)
  | panic (site : String)
  deriving DecidableEq, Repr

/-- What a function that may panic returns. -/
abbrev Outcome (α : Type) := Except Fault α

end R2kit
