import R2kit.Error
import R2kit.Types

/-!
# Configuration

`src/config.rs`: the checks of `R2ConfigBuilder::build`, what `R2Config::from_env` reads, and the
endpoint that a configuration leads to.
-/

namespace R2kit

/-- What can be wrong with a configuration or the environment it is read from. -/
inductive ConfigError where
  | missingField (field : String)
  | invalidAccountId
  | emptyField (field : String)
  | invalidEnvironment (field : String)
  | invalidJurisdiction
  | invalidTimeout (field : String)
  | invalidAttempts (field : String)
  | inconsistentTimeouts
  deriving DecidableEq, Repr

/-- The jurisdictions that R2 has endpoints for. -/
inductive R2Jurisdiction where
  | default
  | eu
  | us
  | fedRamp
  deriving DecidableEq, Repr

namespace R2Jurisdiction

/-- The label of a jurisdiction in the host name; the default one has none. -/
def asStr : R2Jurisdiction → Option String
  | default => none
  | eu => some "eu"
  | us => some "us"
  | fedRamp => some "fedramp"

/-- A jurisdiction by its name. -/
def fromStr (value : String) : Except ConfigError R2Jurisdiction :=
  if value = "default" then .ok default
  else if value = "eu" then .ok eu
  else if value = "us" then .ok us
  else if value = "fedramp" then .ok fedRamp
  else .error .invalidJurisdiction

/-- The text that names a jurisdiction in the environment. -/
def name (jurisdiction : R2Jurisdiction) : String := jurisdiction.asStr.getD "default"

theorem fromStr_name (jurisdiction : R2Jurisdiction) :
    fromStr jurisdiction.name = .ok jurisdiction := by
  cases jurisdiction <;> decide

theorem fromStr_eq_ok_iff {value : String} {jurisdiction : R2Jurisdiction} :
    fromStr value = .ok jurisdiction ↔ value = jurisdiction.name := by
  constructor
  · intro parsed
    unfold fromStr at parsed
    repeat' split at parsed
    all_goals cases parsed
    all_goals assumption
  · intro same
    rw [same]
    exact fromStr_name jurisdiction

theorem fromStr_eq_error {value : String} {error : ConfigError}
    (failed : fromStr value = .error error) :
    error = .invalidJurisdiction ∧ ∀ jurisdiction : R2Jurisdiction, value ≠ jurisdiction.name := by
  constructor
  · unfold fromStr at failed
    repeat' split at failed
    all_goals cases failed
    rfl
  · intro jurisdiction same
    rw [same, fromStr_name] at failed
    cases failed

end R2Jurisdiction

/-- `u8::is_ascii_hexdigit`. -/
def isAsciiHexdigit (byte : UInt8) : Bool :=
  (0x30 ≤ byte && byte ≤ 0x39) || (0x41 ≤ byte && byte ≤ 0x46) || (0x61 ≤ byte && byte ≤ 0x66)

/-- Thirty-two hexadecimal digits. -/
def isAccountId (value : String) : Bool :=
  value.utf8ByteSize == 32 && (bytes value).all isAsciiHexdigit

/-- One attempt may take no longer than the whole operation. -/
def TimeoutsConsistent (operation attempt : Option Duration) : Prop :=
  ∀ limit ∈ operation, ∀ once ∈ attempt, once ≤ limit

instance (operation attempt : Option Duration) :
    Decidable (TimeoutsConsistent operation attempt) :=
  inferInstanceAs (Decidable (∀ limit ∈ operation, ∀ once ∈ attempt, once ≤ limit))

/-- The values set so far; nothing is checked before `build`. -/
structure R2ConfigBuilder where
  accountId : Option String := none
  accessKeyId : Option String := none
  secretAccessKey : Option String := none
  sessionToken : Option String := none
  jurisdiction : R2Jurisdiction := .default
  connectTimeout : Option Duration := none
  readTimeout : Option Duration := none
  operationTimeout : Option Duration := none
  operationAttemptTimeout : Option Duration := none
  sdkMaxAttempts : Option Nat := none

/-- A configuration that has passed the checks of `build`. -/
structure R2Config where
  accountId : String
  accessKeyId : String
  secretAccessKey : String
  sessionToken : Option String
  jurisdiction : R2Jurisdiction
  connectTimeout : Option Duration
  readTimeout : Option Duration
  operationTimeout : Option Duration
  operationAttemptTimeout : Option Duration
  sdkMaxAttempts : Option Nat
  account_valid : isAccountId accountId = true
  access_nonempty : accessKeyId ≠ ""
  secret_nonempty : secretAccessKey ≠ ""
  session_nonempty : sessionToken ≠ some ""
  connect_nonzero : connectTimeout ≠ some 0
  read_nonzero : readTimeout ≠ some 0
  operation_nonzero : operationTimeout ≠ some 0
  attempt_nonzero : operationAttemptTimeout ≠ some 0
  attempts_nonzero : sdkMaxAttempts ≠ some 0
  consistent : TimeoutsConsistent operationTimeout operationAttemptTimeout

/-- The settings that a configuration was built from. -/
def R2Config.settings (config : R2Config) : R2ConfigBuilder where
  accountId := some config.accountId
  accessKeyId := some config.accessKeyId
  secretAccessKey := some config.secretAccessKey
  sessionToken := config.sessionToken
  jurisdiction := config.jurisdiction
  connectTimeout := config.connectTimeout
  readTimeout := config.readTimeout
  operationTimeout := config.operationTimeout
  operationAttemptTimeout := config.operationAttemptTimeout
  sdkMaxAttempts := config.sdkMaxAttempts

section Checks

variable {α : Type}

/-- `Option::ok_or`. -/
def okOr (value : Option α) (error : ConfigError) : Except ConfigError α :=
  match value with
  | none => .error error
  | some value => .ok value

/-- A value together with the check that it has passed. -/
def checked (value : α) (P : α → Prop) [Decidable (P value)] (error : ConfigError) :
    Except ConfigError { value : α // P value } :=
  if valid : P value then .ok ⟨value, valid⟩ else .error error

/-- A value that must be set and must not be empty. -/
def requiredNonEmpty (value : Option String) (name : String) :
    Except ConfigError { value : String // value ≠ "" } := do
  let value ← okOr value (.missingField name)
  checked value (· ≠ "") (.emptyField name)

/-- A timeout that must not be zero once it is set. -/
def validateTimeout (value : Option Duration) (name : String) :
    Except ConfigError { value : Option Duration // value ≠ some 0 } :=
  checked value (· ≠ some 0) (.invalidTimeout name)

theorem okOr_eq_ok_iff {value : Option α} {error : ConfigError} {result : α} :
    okOr value error = .ok result ↔ value = some result := by
  cases value <;> simp [okOr]

theorem okOr_eq_error_iff {value : Option α} {error other : ConfigError} :
    okOr value error = .error other ↔ value = none ∧ other = error := by
  cases value <;> simp [okOr, eq_comm]

theorem checked_eq_ok_iff {value : α} {P : α → Prop} [Decidable (P value)] {error : ConfigError}
    {result : { value : α // P value }} :
    checked value P error = .ok result ↔ result.val = value := by
  unfold checked
  by_cases valid : P value
  · rw [dif_pos valid, Except.ok.injEq, Subtype.ext_iff]
    exact eq_comm
  · rw [dif_neg valid]
    constructor
    · intro passed
      cases passed
    · intro same
      exact absurd (same ▸ result.property) valid

theorem checked_eq_error_iff {value : α} {P : α → Prop} [Decidable (P value)]
    {error other : ConfigError} :
    checked value P error = .error other ↔ ¬ P value ∧ other = error := by
  unfold checked
  by_cases valid : P value
  · simp [valid]
  · simp [valid, eq_comm]

theorem requiredNonEmpty_eq_ok_iff {value : Option String} {name : String}
    {result : { value : String // value ≠ "" }} :
    requiredNonEmpty value name = .ok result ↔ value = some result.val := by
  unfold requiredNonEmpty
  rw [bind_eq_ok_iff]
  simp only [okOr_eq_ok_iff, checked_eq_ok_iff]
  constructor
  · rintro ⟨text, found, same⟩
    rw [found, same]
  · intro found
    exact ⟨result.val, found, rfl⟩

theorem requiredNonEmpty_eq_error_iff {value : Option String} {name : String}
    {error : ConfigError} :
    requiredNonEmpty value name = .error error ↔
      value = none ∧ error = .missingField name ∨ value = some "" ∧ error = .emptyField name := by
  unfold requiredNonEmpty
  rw [bind_eq_error_iff]
  simp only [okOr_eq_error_iff, okOr_eq_ok_iff, checked_eq_error_iff, not_not]
  constructor
  · rintro (missing | ⟨text, found, empty, same⟩)
    · exact .inl missing
    · exact .inr ⟨found.trans (congrArg some empty), same⟩
  · rintro (missing | ⟨empty, same⟩)
    · exact .inl missing
    · exact .inr ⟨"", empty, rfl, same⟩

end Checks

namespace R2ConfigBuilder

/-- `R2ConfigBuilder::build`: the checks in the source's order, the first failure is returned. -/
def build (builder : R2ConfigBuilder) : Except ConfigError R2Config := do
  let accountId ← okOr builder.accountId (.missingField "account_id")
  let accountId ← checked accountId (isAccountId · = true) .invalidAccountId
  let accessKeyId ← requiredNonEmpty builder.accessKeyId "access_key_id"
  let secretAccessKey ← requiredNonEmpty builder.secretAccessKey "secret_access_key"
  let sessionToken ← checked builder.sessionToken (· ≠ some "") (.emptyField "session_token")
  let connect ← validateTimeout builder.connectTimeout "connect_timeout"
  let read ← validateTimeout builder.readTimeout "read_timeout"
  let operation ← validateTimeout builder.operationTimeout "operation_timeout"
  let attempt ← validateTimeout builder.operationAttemptTimeout "operation_attempt_timeout"
  let attempts ← checked builder.sdkMaxAttempts (· ≠ some 0) (.invalidAttempts "sdk_max_attempts")
  let agree ← checked () (fun _ => TimeoutsConsistent operation.val attempt.val)
    .inconsistentTimeouts
  .ok {
    accountId := accountId.val
    accessKeyId := accessKeyId.val
    secretAccessKey := secretAccessKey.val
    sessionToken := sessionToken.val
    jurisdiction := builder.jurisdiction
    connectTimeout := connect.val
    readTimeout := read.val
    operationTimeout := operation.val
    operationAttemptTimeout := attempt.val
    sdkMaxAttempts := attempts.val
    account_valid := accountId.property
    access_nonempty := accessKeyId.property
    secret_nonempty := secretAccessKey.property
    session_nonempty := sessionToken.property
    connect_nonzero := connect.property
    read_nonzero := read.property
    operation_nonzero := operation.property
    attempt_nonzero := attempt.property
    attempts_nonzero := attempts.property
    consistent := agree.property }

/-- The settings that pass are those of a configuration, and nothing in them is changed. -/
theorem build_eq_ok_iff {builder : R2ConfigBuilder} {config : R2Config} :
    builder.build = .ok config ↔ builder = config.settings := by
  constructor
  · intro built
    unfold build at built
    simp only [bind_eq_ok_iff, okOr_eq_ok_iff, checked_eq_ok_iff, requiredNonEmpty_eq_ok_iff,
      validateTimeout] at built
    obtain ⟨accountId, account, checkedId, sameId, accessKeyId, access, secretAccessKey, secret,
      sessionToken, session, connect, sameConnect, read, sameRead, operation, sameOperation,
      attempt, sameAttempt, attempts, sameAttempts, agree, -, built⟩ := built
    cases built
    rcases builder with ⟨⟩
    simp only at *
    subst_vars
    rfl
  · intro same
    subst same
    unfold build
    simp only [bind_eq_ok_iff, okOr_eq_ok_iff, checked_eq_ok_iff, requiredNonEmpty_eq_ok_iff,
      validateTimeout]
    exact ⟨config.accountId, rfl, ⟨_, config.account_valid⟩, rfl, ⟨_, config.access_nonempty⟩, rfl,
      ⟨_, config.secret_nonempty⟩, rfl, ⟨_, config.session_nonempty⟩, rfl,
      ⟨_, config.connect_nonzero⟩, rfl, ⟨_, config.read_nonzero⟩, rfl,
      ⟨_, config.operation_nonzero⟩, rfl, ⟨_, config.attempt_nonzero⟩, rfl,
      ⟨_, config.attempts_nonzero⟩, rfl, ⟨(), config.consistent⟩, trivial, rfl⟩

/-- What a failure of `build` is about. -/
def AtFault (builder : R2ConfigBuilder) : ConfigError → Prop
  | .missingField field => (field, none) ∈ [("account_id", builder.accountId),
      ("access_key_id", builder.accessKeyId), ("secret_access_key", builder.secretAccessKey)]
  | .invalidAccountId => ∃ accountId, builder.accountId = some accountId ∧
      isAccountId accountId = false
  | .emptyField field => (field, some "") ∈ [("access_key_id", builder.accessKeyId),
      ("secret_access_key", builder.secretAccessKey), ("session_token", builder.sessionToken)]
  | .invalidTimeout field => (field, some 0) ∈ [("connect_timeout", builder.connectTimeout),
      ("read_timeout", builder.readTimeout), ("operation_timeout", builder.operationTimeout),
      ("operation_attempt_timeout", builder.operationAttemptTimeout)]
  | .invalidAttempts field => (field, some 0) ∈ [("sdk_max_attempts", builder.sdkMaxAttempts)]
  | .inconsistentTimeouts => ∃ operation attempt, builder.operationTimeout = some operation ∧
      builder.operationAttemptTimeout = some attempt ∧ operation < attempt
  | .invalidEnvironment _ | .invalidJurisdiction => False

theorem atFault_of_build {builder : R2ConfigBuilder} {error : ConfigError}
    (failed : builder.build = .error error) : builder.AtFault error := by
  unfold build at failed
  simp only [bind_eq_error_iff, okOr_eq_error_iff, checked_eq_error_iff,
    requiredNonEmpty_eq_error_iff, okOr_eq_ok_iff, checked_eq_ok_iff,
    requiredNonEmpty_eq_ok_iff, validateTimeout] at failed
  -- The checks in the order in which they are made.
  rcases failed with ⟨missing, rfl⟩ | ⟨accountId, account, ⟨invalid, rfl⟩ | ⟨_, _, failed⟩⟩
  · simp [AtFault, missing]
  · exact ⟨accountId, account, by simpa using invalid⟩
  rcases failed with (⟨missing, rfl⟩ | ⟨empty, rfl⟩) | ⟨_, _, failed⟩
  · simp [AtFault, missing]
  · simp [AtFault, empty]
  rcases failed with (⟨missing, rfl⟩ | ⟨empty, rfl⟩) | ⟨_, _, failed⟩
  · simp [AtFault, missing]
  · simp [AtFault, empty]
  rcases failed with ⟨empty, rfl⟩ | ⟨_, _, failed⟩
  · simp [AtFault, not_not.mp empty]
  rcases failed with ⟨zero, rfl⟩ | ⟨_, _, failed⟩
  · simp [AtFault, not_not.mp zero]
  rcases failed with ⟨zero, rfl⟩ | ⟨_, _, failed⟩
  · simp [AtFault, not_not.mp zero]
  rcases failed with ⟨zero, rfl⟩ | ⟨operation, sameOperation, failed⟩
  · simp [AtFault, not_not.mp zero]
  rcases failed with ⟨zero, rfl⟩ | ⟨attempt, sameAttempt, failed⟩
  · simp [AtFault, not_not.mp zero]
  rcases failed with ⟨zero, rfl⟩ | ⟨_, _, failed⟩
  · simp [AtFault, not_not.mp zero]
  rcases failed with ⟨apart, rfl⟩ | ⟨_, _, failed⟩
  · rw [sameOperation, sameAttempt] at apart
    simpa [AtFault, TimeoutsConsistent] using apart
  · cases failed

end R2ConfigBuilder

/-- `env::VarError`. -/
inductive VarError where
  | notPresent
  | notUnicode
  deriving DecidableEq

/-- What `env::var` gives for a name. -/
abbrev Environment := String → Except VarError String

namespace Environment

variable {read : Environment}

/-- A variable that must be set. -/
def requiredEnvWith (read : Environment) (name : String) : Except ConfigError String :=
  match read name with
  | .ok value => .ok value
  | .error .notPresent => .error (.missingField name)
  | .error .notUnicode => .error (.invalidEnvironment name)

/-- A variable that may be absent; one that is not Unicode is an error all the same. -/
def optionalEnvWith (read : Environment) (name : String) : Except ConfigError (Option String) :=
  match read name with
  | .ok value => .ok (some value)
  | .error .notPresent => .ok none
  | .error .notUnicode => .error (.invalidEnvironment name)

/-- `R2Config::from_env_with`. -/
def fromEnvWith (read : Environment) : Except ConfigError R2Config := do
  let accountId ← read.requiredEnvWith "R2_ACCOUNT_ID"
  let accessKeyId ← read.requiredEnvWith "R2_ACCESS_KEY_ID"
  let secretAccessKey ← read.requiredEnvWith "R2_SECRET_ACCESS_KEY"
  let sessionToken ← read.optionalEnvWith "R2_SESSION_TOKEN"
  let jurisdiction ← read.optionalEnvWith "R2_JURISDICTION"
  let jurisdiction ← jurisdiction.elim (.ok .default) R2Jurisdiction.fromStr
  R2ConfigBuilder.build {
    accountId := some accountId
    accessKeyId := some accessKeyId
    secretAccessKey := some secretAccessKey
    sessionToken := sessionToken
    jurisdiction := jurisdiction }

/-- A variable has this value, or is not set. -/
def Holds (read : Environment) (name : String) : Option String → Prop
  | none => read name = .error .notPresent
  | some value => read name = .ok value

/-- The environment has the settings of a configuration and no other ones. -/
structure Spells (read : Environment) (config : R2Config) : Prop where
  account : read.Holds "R2_ACCOUNT_ID" (some config.accountId)
  access : read.Holds "R2_ACCESS_KEY_ID" (some config.accessKeyId)
  secret : read.Holds "R2_SECRET_ACCESS_KEY" (some config.secretAccessKey)
  session : read.Holds "R2_SESSION_TOKEN" config.sessionToken
  jurisdiction : read.Holds "R2_JURISDICTION" (some config.jurisdiction.name) ∨
    read.Holds "R2_JURISDICTION" none ∧ config.jurisdiction = .default
  connect : config.connectTimeout = none
  reading : config.readTimeout = none
  operation : config.operationTimeout = none
  attempt : config.operationAttemptTimeout = none
  attempts : config.sdkMaxAttempts = none

/-- What a failure of `from_env_with` is about. -/
def AtFault (read : Environment) : ConfigError → Prop
  | .missingField name =>
      name ∈ ["R2_ACCOUNT_ID", "R2_ACCESS_KEY_ID", "R2_SECRET_ACCESS_KEY"] ∧
        read name = .error .notPresent
  | .invalidEnvironment name =>
      name ∈ ["R2_ACCOUNT_ID", "R2_ACCESS_KEY_ID", "R2_SECRET_ACCESS_KEY", "R2_SESSION_TOKEN",
        "R2_JURISDICTION"] ∧ read name = .error .notUnicode
  | .invalidJurisdiction => ∃ value, read "R2_JURISDICTION" = .ok value ∧
      ∀ jurisdiction : R2Jurisdiction, value ≠ jurisdiction.name
  | .invalidAccountId => ∃ accountId, read "R2_ACCOUNT_ID" = .ok accountId ∧
      isAccountId accountId = false
  | .emptyField field => ∃ name, (field, name) ∈ [("access_key_id", "R2_ACCESS_KEY_ID"),
      ("secret_access_key", "R2_SECRET_ACCESS_KEY"), ("session_token", "R2_SESSION_TOKEN")] ∧
        read name = .ok ""
  | .invalidTimeout _ | .invalidAttempts _ | .inconsistentTimeouts => False

theorem requiredEnvWith_eq_ok_iff {name value : String} :
    read.requiredEnvWith name = .ok value ↔ read.Holds name (some value) := by
  unfold requiredEnvWith Holds
  split
  · next found => simp [found]
  · next unset => simp [unset]
  · next broken => simp [broken]

theorem requiredEnvWith_eq_error_iff {name : String} {error : ConfigError} :
    read.requiredEnvWith name = .error error ↔
      read name = .error .notPresent ∧ error = .missingField name ∨
        read name = .error .notUnicode ∧ error = .invalidEnvironment name := by
  unfold requiredEnvWith
  split
  · next found => simp [found]
  · next unset => simp [unset, eq_comm]
  · next broken => simp [broken, eq_comm]

theorem optionalEnvWith_eq_ok_iff {name : String} {value : Option String} :
    read.optionalEnvWith name = .ok value ↔ read.Holds name value := by
  unfold optionalEnvWith Holds
  split
  · next found => cases value <;> simp [found]
  · next unset => cases value <;> simp [unset]
  · next broken => cases value <;> simp [broken]

theorem optionalEnvWith_eq_error_iff {name : String} {error : ConfigError} :
    read.optionalEnvWith name = .error error ↔
      read name = .error .notUnicode ∧ error = .invalidEnvironment name := by
  unfold optionalEnvWith
  split
  · next found => simp [found]
  · next unset => simp [unset]
  · next broken => simp [broken, eq_comm]

theorem elim_fromStr_eq_ok_iff {value : Option String} {jurisdiction : R2Jurisdiction} :
    value.elim (.ok .default) R2Jurisdiction.fromStr = .ok jurisdiction ↔
      value = some jurisdiction.name ∨ value = none ∧ jurisdiction = .default := by
  cases value with
  | none => simp [eq_comm]
  | some text => simp [R2Jurisdiction.fromStr_eq_ok_iff]

theorem spells_of_read {config : R2Config} (loaded : read.fromEnvWith = .ok config) :
    read.Spells config := by
  unfold fromEnvWith at loaded
  simp only [bind_eq_ok_iff, requiredEnvWith_eq_ok_iff, optionalEnvWith_eq_ok_iff,
    elim_fromStr_eq_ok_iff, R2ConfigBuilder.build_eq_ok_iff] at loaded
  obtain ⟨accountId, account, accessKeyId, access, secretAccessKey, secret, sessionToken, session,
    value, present, jurisdiction, named, same⟩ := loaded
  simp only [R2Config.settings, R2ConfigBuilder.mk.injEq, Option.some.injEq] at same
  obtain ⟨rfl, rfl, rfl, rfl, rfl, connect, reading, operation, attempt, attempts⟩ := same
  refine ⟨account, access, secret, session, ?_, connect.symm, reading.symm, operation.symm,
    attempt.symm, attempts.symm⟩
  rcases named with rfl | ⟨rfl, unset⟩
  · exact .inl present
  · exact .inr ⟨present, unset⟩

theorem read_of_spells {config : R2Config} (spells : read.Spells config) :
    read.fromEnvWith = .ok config := by
  unfold fromEnvWith
  simp only [bind_eq_ok_iff, requiredEnvWith_eq_ok_iff, optionalEnvWith_eq_ok_iff,
    elim_fromStr_eq_ok_iff, R2ConfigBuilder.build_eq_ok_iff]
  have settings : config.settings = {
      accountId := some config.accountId
      accessKeyId := some config.accessKeyId
      secretAccessKey := some config.secretAccessKey
      sessionToken := config.sessionToken
      jurisdiction := config.jurisdiction } := by
    simp [R2Config.settings, spells.connect, spells.reading, spells.operation, spells.attempt,
      spells.attempts]
  refine ⟨_, spells.account, _, spells.access, _, spells.secret, _, spells.session, ?_⟩
  rcases spells.jurisdiction with named | ⟨unset, preset⟩
  · exact ⟨_, named, _, .inl rfl, settings.symm⟩
  · exact ⟨_, unset, _, .inr ⟨rfl, preset⟩, settings.symm⟩

theorem atFault_of_read {error : ConfigError} (failed : read.fromEnvWith = .error error) :
    read.AtFault error := by
  unfold fromEnvWith at failed
  simp only [bind_eq_error_iff, requiredEnvWith_eq_error_iff, optionalEnvWith_eq_error_iff,
    requiredEnvWith_eq_ok_iff, optionalEnvWith_eq_ok_iff] at failed
  rcases failed with (⟨unset, rfl⟩ | ⟨broken, rfl⟩) | ⟨accountId, account, failed⟩
  · simp [AtFault, unset]
  · simp [AtFault, broken]
  rcases failed with (⟨unset, rfl⟩ | ⟨broken, rfl⟩) | ⟨accessKeyId, access, failed⟩
  · simp [AtFault, unset]
  · simp [AtFault, broken]
  rcases failed with (⟨unset, rfl⟩ | ⟨broken, rfl⟩) | ⟨secretAccessKey, secret, failed⟩
  · simp [AtFault, unset]
  · simp [AtFault, broken]
  rcases failed with ⟨broken, rfl⟩ | ⟨sessionToken, session, failed⟩
  · simp [AtFault, broken]
  rcases failed with ⟨broken, rfl⟩ | ⟨value, present, failed⟩
  · simp [AtFault, broken]
  rcases failed with unnamed | ⟨jurisdiction, named, failed⟩
  · cases value with
    | none => cases unnamed
    | some text =>
        obtain ⟨rfl, other⟩ := R2Jurisdiction.fromStr_eq_error unnamed
        exact ⟨text, present, other⟩
  -- The environment is fine, and what is left are the checks of `build`.
  have fault := R2ConfigBuilder.atFault_of_build failed
  cases error with
  | invalidAccountId =>
      obtain ⟨_, same, invalid⟩ := fault
      cases same
      exact ⟨accountId, account, invalid⟩
  | emptyField field =>
      simp only [R2ConfigBuilder.AtFault, List.mem_cons, List.not_mem_nil, or_false,
        Prod.mk.injEq, Option.some.injEq] at fault
      rcases fault with ⟨rfl, same⟩ | ⟨rfl, same⟩ | ⟨rfl, same⟩
      · subst same
        exact ⟨"R2_ACCESS_KEY_ID", by simp, access⟩
      · subst same
        exact ⟨"R2_SECRET_ACCESS_KEY", by simp, secret⟩
      · subst same
        exact ⟨"R2_SESSION_TOKEN", by simp, session⟩
  | missingField field => simp [R2ConfigBuilder.AtFault] at fault
  | invalidTimeout field => simp [R2ConfigBuilder.AtFault] at fault
  | invalidAttempts field => simp [R2ConfigBuilder.AtFault] at fault
  | inconsistentTimeouts => simp [R2ConfigBuilder.AtFault] at fault
  | invalidEnvironment name => exact fault.elim
  | invalidJurisdiction => exact fault.elim

/-- The environments that are accepted are those that spell a configuration, which is then what is
    returned; a failure names a setting that is at fault. -/
theorem from_env_exact (read : Environment) :
    (∀ config, read.fromEnvWith = .ok config ↔ read.Spells config) ∧
      ∀ error, read.fromEnvWith = .error error → read.AtFault error := by
  constructor
  · intro config
    exact ⟨spells_of_read, read_of_spells⟩
  · intro error failed
    exact atFault_of_read failed

/-- An environment with a jurisdiction and without a session token. -/
def clip : Environment := fun name =>
  if name = "R2_ACCOUNT_ID" then .ok "0123456789abcdef0123456789abcdef"
  else if name = "R2_ACCESS_KEY_ID" then .ok "access"
  else if name = "R2_SECRET_ACCESS_KEY" then .ok "secret"
  else if name = "R2_JURISDICTION" then .ok "eu"
  else .error .notPresent

/-- The configuration of `clip`. -/
def clipConfig : R2Config where
  accountId := "0123456789abcdef0123456789abcdef"
  accessKeyId := "access"
  secretAccessKey := "secret"
  sessionToken := none
  jurisdiction := .eu
  connectTimeout := none
  readTimeout := none
  operationTimeout := none
  operationAttemptTimeout := none
  sdkMaxAttempts := none
  account_valid := by decide
  access_nonempty := by decide
  secret_nonempty := by decide
  session_nonempty := by decide
  connect_nonzero := by decide
  read_nonzero := by decide
  operation_nonzero := by decide
  attempt_nonzero := by decide
  attempts_nonzero := by decide
  consistent := by decide

theorem from_env_exact_clip : clip.fromEnvWith = .ok clipConfig := by
  apply ((from_env_exact clip).1 clipConfig).mpr
  exact ⟨rfl, rfl, rfl, rfl, .inl rfl, rfl, rfl, rfl, rfl, rfl⟩

end Environment

section Endpoint

/-- `endpoint_url`: the host is the account, with the jurisdiction as a label after it. -/
def R2Config.endpointUrl (config : R2Config) : String :=
  match config.jurisdiction.asStr with
  | some jurisdiction =>
      "https://" ++ config.accountId ++ "." ++ jurisdiction ++ ".r2.cloudflarestorage.com"
  | none => "https://" ++ config.accountId ++ ".r2.cloudflarestorage.com"

/-- What follows the account in the name of the host. -/
def R2Jurisdiction.domain (jurisdiction : R2Jurisdiction) : String :=
  match jurisdiction.asStr with
  | some name => "." ++ name ++ ".r2.cloudflarestorage.com"
  | none => ".r2.cloudflarestorage.com"

theorem R2Jurisdiction.domain_inj {first second : R2Jurisdiction}
    (same : first.domain = second.domain) : first = second := by
  revert same
  cases first <;> cases second <;> decide

theorem R2Config.bytes_endpointUrl (config : R2Config) :
    bytes config.endpointUrl =
      bytes "https://" ++ (bytes config.accountId ++ bytes config.jurisdiction.domain) := by
  unfold endpointUrl R2Jurisdiction.domain
  cases config.jurisdiction.asStr with
  | none => simp only [bytes_append, List.append_assoc]
  | some name => simp only [bytes_append, List.append_assoc]

theorem R2Config.length_accountId (config : R2Config) : (bytes config.accountId).length = 32 := by
  have valid := config.account_valid
  simp only [isAccountId, Bool.and_eq_true, beq_iff_eq] at valid
  exact (length_bytes config.accountId).trans valid.1

/-- An account has the same length in every endpoint, so that no account reads as another one with
    a jurisdiction. -/
theorem R2Config.endpoint_identifies (config other : R2Config) :
    config.endpointUrl = other.endpointUrl ↔
      config.accountId = other.accountId ∧ config.jurisdiction = other.jurisdiction := by
  constructor
  · intro same
    have texts := congrArg bytes same
    rw [bytes_endpointUrl, bytes_endpointUrl, List.append_cancel_left_eq] at texts
    have lengths : (bytes config.accountId).length = (bytes other.accountId).length :=
      config.length_accountId.trans other.length_accountId.symm
    obtain ⟨account, domain⟩ := List.append_inj texts lengths
    exact ⟨bytes_inj account, R2Jurisdiction.domain_inj (bytes_inj domain)⟩
  · rintro ⟨account, jurisdiction⟩
    unfold endpointUrl
    rw [account, jurisdiction]

end Endpoint

end R2kit
