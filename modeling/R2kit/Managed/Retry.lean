import R2kit.Error
import R2kit.Types

/-!
# Retrying a part

The retry policy of `src/managed.rs`: which failures are retried, how long the loop waits
before the next attempt, one turn of the loop of `retry_with_policy`, and the loop itself. An
upload takes the turns one at a time; here the loop runs on its own, against any sequence of
outcomes.
-/

namespace R2kit

/-- `MAX_RETRY_DELAY`. -/
def maxRetryDelay : Duration := Duration.fromSecs 30

/-- `is_retryable_status`. -/
def isRetryableStatus (status : Nat) : Bool :=
  status == 408 || status == 429 || (500 ≤ status && status ≤ 599)

/-- `is_retryable`. -/
def isRetryable : SdkError → Bool
  | .constructionFailure => false
  | .timeoutError | .dispatchFailure | .responseError _ => true
  | .serviceError _ response => isRetryableStatus response.status

/-- `str::parse::<u64>`: decimal digits after an optional plus sign, no overflow. -/
def parseU64 (text : String) : Option Nat :=
  let digits := match text.toList with
    | '+' :: rest => rest
    | chars => chars
  if digits = [] ∨ ¬ digits.all Char.isDigit then none
  else
    let value := digits.foldl (fun value digit => value * 10 + (digit.toNat - 48)) 0
    if value ≤ u64Max then some value else none

/-- `Retry-After` in seconds, else the header of AWS in milliseconds. -/
def parseRetryAfter (retryAfter awsRetryAfter : Option String) : Option Duration :=
  ((retryAfter.bind parseU64).map Duration.fromSecs).orElse
    (fun _ => (awsRetryAfter.bind parseU64).map Duration.fromMillis)

/-- What the response of an error says about trying again. -/
def sdkRetryAfter (error : SdkError) : Option Duration :=
  error.rawResponse.bind (fun response =>
    parseRetryAfter response.retryAfter response.amzRetryAfter)

/-- The longest random delay after so many attempts. -/
def retryCeiling (attempt : Nat) : Duration :=
  min (Duration.fromMillis (250 * 2 ^ min (attempt - 1) 7)) maxRetryDelay

/-- `Duration::as_millis`. -/
def asMillis (duration : Duration) : Nat := duration / 1000000

/-- `retry_delay`, where `random` stands for the generator. -/
def retryDelay (attempt : Nat) (retryAfter : Option Duration) (random : Nat) : Duration :=
  max (Duration.fromMillis (random % (asMillis (retryCeiling attempt) + 1)))
    (min (retryAfter.getD 0) maxRetryDelay)

/-- What one turn of `retry_with_policy` leads to. -/
inductive RetryStep (T E : Type) where
  | done (result : Except E T)
  | sleep (delay : Duration) (attempt : Nat)
  deriving DecidableEq

/-- One turn of the loop, from the outcome of the attempt on. -/
def retryStep {T E : Type} (maxAttempts : Nat) (classify : E → Bool)
    (retryAfter : E → Option Duration) (attempt random : Nat) :
    Except E T → RetryStep T E
  | .ok value => .done (.ok value)
  | .error error =>
      if attempt < maxAttempts ∧ classify error then
        .sleep (retryDelay attempt (retryAfter error) random) (attempt + 1)
      else .done (.error error)

section Policy

variable {T E : Type} {maxAttempts attempt random : Nat} {classify : E → Bool}
  {retryAfter : E → Option Duration}

/-- The loop goes on only after a retryable failure and below the limit. -/
theorem retryStep_eq_sleep {result : Except E T} {delay : Duration} {next : Nat}
    (slept : retryStep maxAttempts classify retryAfter attempt random result =
      .sleep delay next) :
    next = attempt + 1 ∧ attempt < maxAttempts ∧ ∃ error, result = .error error ∧
      classify error = true := by
  cases result with
  | ok value => cases slept
  | error error =>
      simp only [retryStep] at slept
      split at slept
      · rename_i retried
        cases slept
        exact ⟨rfl, retried.1, error, rfl, retried.2⟩
      · cases slept

/-- The loop ends with the outcome of its last attempt. -/
theorem retryStep_eq_done {result ended : Except E T}
    (stopped : retryStep maxAttempts classify retryAfter attempt random result = .done ended) :
    ended = result := by
  cases result with
  | ok value =>
      cases stopped
      rfl
  | error error =>
      simp only [retryStep] at stopped
      split at stopped
      · cases stopped
      · cases stopped
        rfl

end Policy

/-- `as u8`. -/
def asU8 (value : Nat) : Nat := value % 2 ^ 8

/-- What the loop does, with its counter at every attempt. -/
inductive RetryEvent (T E : Type) where
  | attempt (counter : Nat) (result : Except E T)
  | sleep (delay : Duration)
  deriving DecidableEq

/-- A run of the loop that has returned. -/
structure RetryRun (T E : Type) where
  result : Except E T
  events : List (RetryEvent T E)
  deriving DecidableEq

section Loop

variable {T E : Type} (maxAttempts : Nat) (classify : E → Bool)
  (retryAfter : E → Option Duration) (outcome : Nat → Except E T) (random : Nat → Nat)

/-- The loop from a turn on. Operation and random source are read in order; the counter is a
    `u8`. -/
def retryLoop : (fuel turn attempt : Nat) → Option (RetryRun T E)
  | 0, _, _ => none
  | fuel + 1, turn, attempt =>
      match retryStep maxAttempts classify retryAfter attempt (random turn) (outcome turn) with
      | .done result => some ⟨result, [.attempt attempt (outcome turn)]⟩
      | .sleep delay next =>
          (retryLoop fuel (turn + 1) (asU8 next)).map (fun run =>
            ⟨run.result, .attempt attempt (outcome turn) :: .sleep delay :: run.events⟩)

/-- `retry_with_policy` from its first attempt on. -/
def retryWithPolicy (fuel : Nat) : Option (RetryRun T E) :=
  retryLoop maxAttempts classify retryAfter outcome random fuel 0 1

/-- The attempt with which the policy stops: the first one that succeeds or fails for good,
    or the last one permitted. -/
structure StopsAt (attempts : Nat) : Prop where
  positive : 1 ≤ attempts
  permitted : attempts ≤ max maxAttempts 1
  retried : ∀ turn, turn + 1 < attempts →
    ∃ error, outcome turn = .error error ∧ classify error = true
  stops : attempts = max maxAttempts 1 ∨
    ∀ error, outcome (attempts - 1) = .error error → classify error = false

/-- The wait after a failed turn. -/
def delayAfter (turn : Nat) : Duration :=
  match outcome turn with
  | .ok _ => 0
  | .error error => retryDelay (turn + 1) (retryAfter error) (random turn)

/-- An attempt and the wait after it. -/
def turnEvents (turn : Nat) : List (RetryEvent T E) :=
  [.attempt (turn + 1) (outcome turn), .sleep (delayAfter retryAfter outcome random turn)]

variable {maxAttempts classify outcome}

/-- The policy stops somewhere, and nowhere else. -/
theorem existsUnique_stopsAt : ∃! attempts, StopsAt maxAttempts classify outcome attempts := by
  classical
  let last (attempts : Nat) : Prop := 1 ≤ attempts ∧ (attempts = max maxAttempts 1 ∨
    ∀ error, outcome (attempts - 1) = .error error → classify error = false)
  have limit : last (max maxAttempts 1) := ⟨Nat.le_max_right _ _, Or.inl rfl⟩
  have some_last : ∃ attempts, last attempts := ⟨_, limit⟩
  refine ⟨Nat.find some_last, ?_, ?_⟩
  · obtain ⟨positive, stops⟩ := Nat.find_spec some_last
    refine ⟨positive, Nat.find_le limit, ?_, stops⟩
    intro turn earlier
    have goes_on := Nat.find_min some_last earlier
    by_contra terminal
    apply goes_on
    refine ⟨by omega, Or.inr ?_⟩
    intro error failed
    by_contra retryable
    exact terminal ⟨error, failed, by simpa using retryable⟩
  · intro attempts stopped
    apply Nat.le_antisymm
    · by_contra later
      obtain ⟨-, stops⟩ := Nat.find_spec some_last
      rcases stops with limit | terminal
      · have := stopped.permitted
        omega
      · obtain ⟨error, failed, retryable⟩ :=
          stopped.retried (Nat.find some_last - 1) (by
            have := (Nat.find_spec some_last).1
            omega)
        rw [terminal error failed] at retryable
        cases retryable
    · exact Nat.find_le ⟨stopped.positive, stopped.stops⟩

/-- From any turn before the last on, by induction on the number of turns still to come. -/
theorem retryLoop_eq {attempts : Nat} (stopped : StopsAt maxAttempts classify outcome attempts)
    (counter : maxAttempts < 2 ^ 8) {remaining turn fuel : Nat}
    (here : turn + remaining + 1 = attempts) (enough : remaining < fuel) :
    retryLoop maxAttempts classify retryAfter outcome random fuel turn (turn + 1) =
      some ⟨outcome (attempts - 1),
        (List.range' turn remaining).flatMap (turnEvents retryAfter outcome random) ++
          [.attempt attempts (outcome (attempts - 1))]⟩ := by
  have permitted := stopped.permitted
  induction remaining generalizing turn fuel with
  | zero =>
      obtain ⟨fuel, rfl⟩ := Nat.exists_eq_succ_of_ne_zero (Nat.ne_of_gt enough)
      obtain rfl : turn = attempts - 1 := by omega
      have last : attempts - 1 + 1 = attempts := by omega
      have ended : retryStep maxAttempts classify retryAfter attempts (random (attempts - 1))
          (outcome (attempts - 1)) = .done (outcome (attempts - 1)) := by
        cases answer : outcome (attempts - 1) with
        | ok value => rfl
        | error error =>
            apply if_neg
            rintro ⟨below, retryable⟩
            rcases stopped.stops with limit | terminal
            · omega
            · rw [terminal error answer] at retryable
              cases retryable
      simp [retryLoop, last, ended]
  | succ remaining ih =>
      obtain ⟨fuel, rfl⟩ := Nat.exists_eq_succ_of_ne_zero (Nat.ne_of_gt (Nat.zero_lt_of_lt enough))
      obtain ⟨error, failed, retryable⟩ := stopped.retried turn (by omega)
      have below : turn + 1 < maxAttempts := by omega
      have slept : retryStep maxAttempts classify retryAfter (turn + 1) (random turn)
          (outcome turn) = .sleep (delayAfter retryAfter outcome random turn) (turn + 1 + 1) := by
        simp only [delayAfter, failed]
        exact if_pos ⟨below, retryable⟩
      have narrow : asU8 (turn + 1 + 1) = turn + 1 + 1 := Nat.mod_eq_of_lt (by omega)
      have later := @ih (turn + 1) fuel (by omega) (by omega)
      simp only [retryLoop, slept, narrow, later, Option.map_some, List.range'_succ,
        List.flatMap_cons, turnEvents, List.cons_append, List.nil_append]

end Loop

/-- The ceiling of the jitter, without the cap on its exponent. -/
theorem retryCeiling_eq (attempt : Nat) :
    retryCeiling attempt = min (Duration.fromMillis (250 * 2 ^ (attempt - 1))) maxRetryDelay := by
  by_cases small : attempt - 1 ≤ 7
  · rw [retryCeiling, Nat.min_eq_left small]
  · have power : 2 ^ 7 ≤ 2 ^ (attempt - 1) := Nat.pow_le_pow_right (by decide) (by omega)
    have capped : maxRetryDelay ≤ Duration.fromMillis (250 * 2 ^ (attempt - 1)) := by
      show (30 * 1000000000 : Nat) ≤ 250 * 2 ^ (attempt - 1) * 1000000
      omega
    have exponent : min (attempt - 1) 7 = 7 := Nat.min_eq_right (by omega)
    rw [retryCeiling, exponent, Nat.min_eq_right capped]
    decide

theorem retryDelay_bounds (attempt : Nat) (retryAfter : Option Duration) (random : Nat) :
    min (retryAfter.getD 0) maxRetryDelay ≤ retryDelay attempt retryAfter random ∧
      retryDelay attempt retryAfter random ≤ maxRetryDelay ∧
      retryDelay attempt retryAfter random ≤
        max (min (Duration.fromMillis (250 * 2 ^ (attempt - 1))) maxRetryDelay)
          (min (retryAfter.getD 0) maxRetryDelay) := by
  have jitter : Duration.fromMillis (random % (asMillis (retryCeiling attempt) + 1)) ≤
      retryCeiling attempt := by
    have below := Nat.mod_lt random (Nat.succ_pos (asMillis (retryCeiling attempt)))
    calc Duration.fromMillis (random % (asMillis (retryCeiling attempt) + 1))
        ≤ asMillis (retryCeiling attempt) * 1000000 :=
          Nat.mul_le_mul_right _ (Nat.lt_succ_iff.mp below)
      _ ≤ retryCeiling attempt := Nat.div_mul_le_self _ _
  have capped : retryCeiling attempt ≤ maxRetryDelay := Nat.min_le_right _ _
  rw [← retryCeiling_eq]
  simp only [retryDelay]
  refine ⟨Nat.le_max_right _ _, ?_, ?_⟩
  · exact Nat.max_le.mpr ⟨Nat.le_trans jitter capped, Nat.min_le_right _ _⟩
  · exact Nat.max_le.mpr
      ⟨Nat.le_trans jitter (Nat.le_max_left _ _), Nat.le_max_right _ _⟩

/-- The loop makes the attempts that the policy asks for, waits between them and not after the
    last, counts them without wrapping, and every wait is between its bounds. -/
theorem retryWithPolicy_follows {T E : Type} (maxAttempts : Nat) (classify : E → Bool)
    (retryAfter : E → Option Duration) (outcome : Nat → Except E T) (random : Nat → Nat)
    (counter : maxAttempts < 2 ^ 8) :
    (∃! attempts, StopsAt maxAttempts classify outcome attempts) ∧
      ∀ attempts, StopsAt maxAttempts classify outcome attempts →
        (∀ fuel, attempts ≤ fuel →
          retryWithPolicy maxAttempts classify retryAfter outcome random fuel =
            some ⟨outcome (attempts - 1),
              (List.range (attempts - 1)).flatMap (turnEvents retryAfter outcome random) ++
                [.attempt attempts (outcome (attempts - 1))]⟩) ∧
        attempts < 2 ^ 8 ∧
        ∀ turn, turn + 1 < attempts → ∃ error, outcome turn = .error error ∧
          let server := min ((retryAfter error).getD 0) (Duration.fromSecs 30)
          let delay := delayAfter retryAfter outcome random turn
          server ≤ delay ∧ delay ≤ Duration.fromSecs 30 ∧
            delay ≤ max (min (Duration.fromMillis (250 * 2 ^ turn)) (Duration.fromSecs 30))
              server := by
  refine ⟨existsUnique_stopsAt, ?_⟩
  intro attempts stopped
  have positive := stopped.positive
  have permitted := stopped.permitted
  refine ⟨?_, by omega, ?_⟩
  · intro fuel enough
    rw [retryWithPolicy, List.range_eq_range']
    exact retryLoop_eq retryAfter random stopped counter (by omega) (by omega)
  · intro turn earlier
    obtain ⟨error, failed, -⟩ := stopped.retried turn earlier
    refine ⟨error, failed, ?_⟩
    simp only [delayAfter, failed]
    exact retryDelay_bounds (turn + 1) (retryAfter error) (random turn)

/-- Three attempts that fail with a retryable error: two waits, the second one as long as the
    server asks for. -/
theorem retryWithPolicy_exhausted :
    StopsAt 3 (fun _ => true) (fun _ => (.error 503 : Except Nat Nat)) 3 ∧
      retryWithPolicy 3 (fun _ => true) (fun _ => some (Duration.fromSecs 1))
          (fun _ => (.error 503 : Except Nat Nat)) (fun turn => turn) 3 =
        some ⟨.error 503, [.attempt 1 (.error 503), .sleep (Duration.fromSecs 1),
          .attempt 2 (.error 503), .sleep (Duration.fromSecs 1), .attempt 3 (.error 503)]⟩ := by
  have stopped : StopsAt 3 (fun _ => true) (fun _ => (.error 503 : Except Nat Nat)) 3 :=
    ⟨by decide, by decide, fun _ _ => ⟨503, rfl, rfl⟩, Or.inl rfl⟩
  refine ⟨stopped, ?_⟩
  exact ((retryWithPolicy_follows 3 _ _ _ _ (by decide)).2 3 stopped).1 3 (Nat.le_refl 3)

end R2kit
