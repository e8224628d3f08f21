import R2kit.Managed.Call

/-!
# What a failed upload leaves behind

A call that fails while its session may still be alive should hand the session back, in the
snapshot of `ManagedUploadError`. The call knows the upload ID of a session when it was given
one to resume, or when the answer to `CreateMultipartUpload` had one.
-/

namespace R2kit

open Misc

/-- A resumed session is the one that was saved. -/
theorem snapshot_of_resume {bucket : BucketName} {snapshot : MultipartSessionSnapshot}
    {session : PresignedMultipart}
    (resumed : bucket.resumePresignedMultipart snapshot = .ok session) :
    session.snapshot = snapshot := by
  unfold BucketName.resumePresignedMultipart at resumed
  split at resumed
  · cases resumed
  · rename_i same
    obtain ⟨plan, planned, made⟩ := bind_eq_ok_iff.mp resumed
    obtain ⟨file_eq, part_eq⟩ := MultipartPlan.new_eq_ok_iff.mp planned
    cases made
    simp only [ne_eq, not_not] at same
    rw [PresignedMultipart.snapshot, file_eq, part_eq, ← same]

/-- The snapshot of a builder that resumes is one that can be resumed. -/
theorem ManagedMultipartBuilder.resumes {builder : ManagedMultipartBuilder}
    {snapshot : MultipartSessionSnapshot} (resumed : builder.resume = some snapshot) :
    ∃ session, builder.bucket.resumePresignedMultipart snapshot = .ok session := by
  have origin := builder.origin
  rw [resumed] at origin
  exact origin.2

section Call

variable {Boot S E : Type} (builder : ManagedMultipartBuilder)

/-- The sessions whose upload ID a call knows, as they would be saved. -/
inductive Known (fileSize : Nat) (history : History (CallEvent Boot E) Effect) :
    MultipartSessionSnapshot → Prop
  | given {snapshot} (resumed : builder.resume = some snapshot) :
      Known fileSize history snapshot
  | created {uploadId} (told : .created (.ok (some uploadId)) ∈ history.events) :
      Known fileSize history
        ⟨builder.bucket.value, builder.key, uploadId, fileSize, builder.partSize⟩

/-- What the caller needs from a failure: the snapshot of a known session that was not
    aborted, and no snapshot of one that was. -/
structure KeepsSession (fileSize : Nat) (history : History (CallEvent Boot E) Effect)
    (failure : ManagedUploadError) : Prop where
  kept : ∀ snapshot, Known builder fileSize history snapshot →
    .aborted (.ok ()) ∉ history.events →
    failure.aborted = false ∧ failure.snapshot = some snapshot
  gone : failure.aborted = true → failure.snapshot = none

/-- Whatever is answered and whenever the call is cancelled, a failure keeps the session.
    `boot` is what the call found when it started. -/
def NeverLoses (entry : Entry Boot S E) (fileSize : Nat) (boot : Boot) : Prop :=
  ∀ history failure,
    (managedCall builder entry).Reaches .ready history (.returned (.error failure)) →
    .poll boot ∈ history.events → KeepsSession builder fileSize history failure

/-- An entry that comes to sessions of its own builder only. -/
structure Entry.Faithful (entry : Entry Boot S E) (fileSize : Boot → Nat) : Prop where
  creating : ∀ boot request plan input, entry.start boot = .creating request plan input →
    builder.resume = none ∧ request.bucket = builder.bucket ∧
      request.key.value = builder.key ∧ plan.fileSize = fileSize boot ∧
      plan.partSize = builder.partSize
  resumed : ∀ boot session, entry.start boot = .resumed session →
    builder.resume = some session.snapshot

variable {builder} {entry : Entry Boot S E} {fileSize : Boot → Nat} {boot : Boot}
  {history : History (CallEvent Boot E) Effect}

/-- What a step of the call may not be if it is to leave the known sessions alone. -/
def CallEvent.Silent (event : CallEvent Boot E) : Prop :=
  (∀ uploadId, event ≠ .created (.ok (some uploadId))) ∧ event ≠ .aborted (.ok ())

theorem Known.of_silent {size : Nat} {event : CallEvent Boot E} {out : List Effect}
    {snapshot : MultipartSessionSnapshot} (silent : event.Silent)
    (known : Known builder size (history ++ [(event, out)]) snapshot) :
    Known builder size history snapshot := by
  cases known with
  | given resumed => exact .given resumed
  | created told =>
      rcases History.mem_events_snoc.mp told with earlier | now
      · exact .created earlier
      · exact absurd now.symm (silent.1 _)

/-- A builder that resumes nothing and was told nothing knows no session. -/
theorem not_known {size : Nat} {snapshot : MultipartSessionSnapshot}
    (fresh : builder.resume = none)
    (untold : ∀ uploadId, .created (.ok (some uploadId)) ∉ history.events) :
    ¬ Known builder size history snapshot := by
  intro known
  cases known with
  | given resumed =>
      rw [fresh] at resumed
      cases resumed
  | created told => exact untold _ told

/-- A failure before the start loses nothing if nothing was known. -/
theorem keepsSession_beforeStart {size : Nat} {error : Error}
    (unknown : ∀ snapshot, ¬ Known builder size history snapshot) :
    KeepsSession builder size history (.beforeStart error) := by
  constructor
  · intro snapshot known
    exact absurd known (unknown snapshot)
  · intro aborted
    cases aborted

/-- All that a call with this session knows, and it has not been aborted. -/
structure Tracks (builder : ManagedMultipartBuilder) (fileSize : Nat)
    (session : PresignedMultipart) (history : History (CallEvent Boot E) Effect) : Prop where
  known : ∀ snapshot, Known builder fileSize history snapshot → snapshot = session.snapshot
  unaborted : .aborted (.ok ()) ∉ history.events

theorem Tracks.snoc {size : Nat} {session : PresignedMultipart} {event : CallEvent Boot E}
    {out : List Effect} (tracks : Tracks builder size session history)
    (silent : event.Silent) : Tracks builder size session (history ++ [(event, out)]) := by
  constructor
  · intro snapshot known
    exact tracks.known snapshot (known.of_silent silent)
  · intro aborted
    rcases History.mem_events_snoc.mp aborted with earlier | now
    · exact tracks.unaborted earlier
    · exact silent.2 now.symm

/-- A failure that carries the snapshot of the session keeps it. -/
theorem Tracks.keeps {size : Nat} {session : PresignedMultipart} {error : Error}
    (tracks : Tracks builder size session history) :
    KeepsSession builder size history ⟨error, some session.snapshot, false⟩ := by
  constructor
  · intro snapshot known _
    rw [tracks.known snapshot known]
    exact ⟨rfl, rfl⟩
  · intro aborted
    cases aborted

/-- The invariant of calls that start with `boot`. -/
def CallInvariant (builder : ManagedMultipartBuilder) (entry : Entry Boot S E)
    (fileSize : Boot → Nat) (boot : Boot) (history : History (CallEvent Boot E) Effect) :
    CallState Boot S → Prop
  | .ready => history = []
  | .creating other request plan => history.events = [.poll other] ∧
      ∃ input, entry.start other = .creating request plan input
  | .running _ session _ => .poll boot ∈ history.events →
      Tracks builder (fileSize boot) session history
  | .aborting session _ => .poll boot ∈ history.events →
      Tracks builder (fileSize boot) session history
  | .returned (.error failure) => .poll boot ∈ history.events →
      KeepsSession builder (fileSize boot) history failure
  | _ => True

/-- An error after the start goes to the abort or out with the snapshot. -/
theorem callInvariant_afterStartError {session : PresignedMultipart} {error : Error}
    {state : CallState Boot S} {sent : List Effect}
    (left : afterStartError builder session error = (state, sent))
    (tracks : .poll boot ∈ history.events → Tracks builder (fileSize boot) session history) :
    CallInvariant builder entry fileSize boot history state := by
  unfold afterStartError at left
  split at left
  · cases left
    exact tracks
  · cases left
    exact fun polled => (tracks polled).keeps

/-- What is tracked from the start on is still tracked after a silent step. -/
theorem tracks_snoc {session : PresignedMultipart} {event : CallEvent Boot E}
    {out : List Effect}
    (tracks : .poll boot ∈ history.events → Tracks builder (fileSize boot) session history)
    (later : event ≠ .poll boot) (silent : event.Silent)
    (polled : .poll boot ∈ History.events (history ++ [(event, out)])) :
    Tracks builder (fileSize boot) session (history ++ [(event, out)]) := by
  rcases History.mem_events_snoc.mp polled with earlier | now
  · exact (tracks earlier).snoc silent
  · exact absurd now.symm later

/-- A resumed call knows the session that it was given and no other. -/
theorem tracks_resumed {size : Nat} {session : PresignedMultipart} {out : List Effect}
    (resumed : builder.resume = some session.snapshot) :
    Tracks builder size session ([(.poll boot, out)] : History (CallEvent Boot E) Effect) := by
  constructor
  · intro snapshot known
    cases known with
    | given found =>
        rw [resumed] at found
        exact (Option.some.inj found).symm
    | created told => simp at told
  · simp

/-- A call that was just told a session knows that one and no other. -/
theorem tracks_created {uploadId : String} {request : PresignedMultipartBuilder}
    {plan : MultipartPlan} {input : CreateMultipartUploadInput} {out : List Effect}
    (faithful : entry.Faithful builder fileSize)
    (new : entry.start boot = .creating request plan input)
    (begun : history.events = [.poll boot]) :
    Tracks builder (fileSize boot)
      { bucket := request.bucket, key := request.key.value, uploadId, plan }
      (history ++ [(.created (.ok (some uploadId)), out)]) := by
  obtain ⟨fresh, bucket, key, size, part⟩ := faithful.creating boot request plan input new
  constructor
  · intro snapshot known
    cases known with
    | given resumed =>
        rw [fresh] at resumed
        cases resumed
    | @created told_id told =>
        rw [History.mem_events_snoc, begun] at told
        obtain rfl : told_id = uploadId := by simpa using told
        rw [PresignedMultipart.snapshot, bucket, key, size, part]
  · simp [begun]

theorem callInvariant_step {s s' : CallState Boot S} {event : CallEvent Boot E}
    {out : List Effect} (faithful : entry.Faithful builder fileSize)
    (starts : ∀ error, entry.start boot = .failed error → builder.resume = none)
    (holds : CallInvariant builder entry fileSize boot history s)
    (taken : (managedCall builder entry).step s event = some (s', out)) :
    CallInvariant builder entry fileSize boot (history ++ [(event, out)]) s' := by
  cases callStep_of_step taken with
  | @failed other error failed =>
      obtain rfl : history = [] := holds
      intro polled
      obtain rfl : boot = other := by simpa using polled
      exact keepsSession_beforeStart (fun _ => not_known (starts error failed) (by simp))
  | create new =>
      obtain rfl : history = [] := holds
      exact ⟨rfl, _, new⟩
  | @resume other session resumed =>
      obtain rfl : history = [] := holds
      intro polled
      obtain rfl : boot = other := by simpa using polled
      exact tracks_resumed (faithful.resumed boot session resumed)
  | @uncreated other request plan answer error failed =>
      obtain ⟨begun, input, new⟩ := holds
      obtain ⟨fresh, -⟩ := faithful.creating other request plan input new
      intro polled
      refine keepsSession_beforeStart (fun _ => not_known fresh ?_)
      intro uploadId told
      rw [History.mem_events_snoc, begun] at told
      obtain rfl : .ok (some uploadId) = answer := by simpa using told
      cases failed
  | @created other request plan answer session made =>
      obtain ⟨begun, input, new⟩ := holds
      intro polled
      obtain rfl : boot = other := by simpa [begun] using polled
      obtain ⟨uploadId, rfl, rfl⟩ := PresignedMultipartBuilder.created_eq_ok_iff.mp made
      exact tracks_created faithful new begun
  | inner moved unsettled => exact tracks_snoc holds (by simp) ⟨by simp, by simp⟩
  | @settled _ session _ _ _ _ result _ _ moved finished left =>
      cases result with
      | ok result =>
          cases left
          trivial
      | error fault =>
          cases fault with
          | panic site =>
              cases left
              trivial
          | error error =>
              apply callInvariant_afterStartError left
              exact tracks_snoc holds (by simp) ⟨by simp, by simp⟩
  | cancelled token left =>
      apply callInvariant_afterStartError left
      exact tracks_snoc holds (by simp) ⟨by simp, by simp⟩
  | @aborted session error answer =>
      intro polled
      cases answer with
      | ok done =>
          constructor
          · intro snapshot known unaborted
            exact absurd (by simp) unaborted
          · intro aborted
            rfl
      | error fault => exact (tracks_snoc holds (by simp) ⟨by simp, by simp⟩ polled).keeps

/-- A failure keeps the session exactly when the call cannot fail on the way to the session
    that it was given. -/
theorem neverLoses_iff (faithful : entry.Faithful builder fileSize) :
    NeverLoses builder entry (fileSize boot) boot ↔
      ∀ error, entry.start boot = .failed error → builder.resume = none := by
  constructor
  · intro keeps error failed
    by_contra resumes
    obtain ⟨snapshot, resumed⟩ := Option.ne_none_iff_exists'.mp resumes
    have run : (managedCall builder entry).Reaches .ready [(.poll boot, [])]
        (.returned (.error (.beforeStart error))) :=
      Machine.Reaches.single (by simp [managedCall, failed])
    have lost := (keeps _ _ run (by simp)).kept snapshot (.given resumed) (by simp)
    cases lost.2
  · intro starts history failure run polled
    have initial : CallInvariant builder entry fileSize boot [] .ready := rfl
    have holds := run.invariant (P := CallInvariant builder entry fileSize boot) initial
      (fun _ _ _ _ _ _ holds taken => callInvariant_step faithful starts holds taken)
    exact holds polled

end Call

section Entries

variable {crates : Crates} {builder : ManagedMultipartBuilder}

theorem uploadFile_faithful :
    (uploadFile crates builder).Faithful builder (fun boot => boot.fingerprint.len) := by
  have passes : ∀ boot, (∀ error, (uploadFile crates builder).start boot ≠ .failed error) →
      ∃ file, ManagedMultipartBuilder.ReachesSnapshot crates builder boot.metadata
          boot.cancelled file ∧ boot.fingerprint.len = file.len := by
    intro boot passed
    obtain ⟨file, reached⟩ := ManagedMultipartBuilder.reaches_of_beginFile passed
    refine ⟨file, reached, ?_⟩
    rw [FileBoot.fingerprint, reached.2.1]
    rfl
  constructor
  · intro boot request plan input begun
    obtain ⟨file, reached, size⟩ := passes boot (by rw [begun]; simp)
    have begins := ManagedMultipartBuilder.beginFile_of_reaches reached
    rw [show builder.beginFile crates boot.metadata boot.cancelled = _ from begun] at begins
    cases resume : builder.resume with
    | some snapshot =>
        rw [resume] at begins
        exact absurd begins.symm ManagedMultipartBuilder.beginResumed_ne_creating
    | none =>
        rw [resume] at begins
        rw [size]
        exact ⟨rfl, ManagedMultipartBuilder.request_of_beginNew begins.symm⟩
  · intro boot session begun
    obtain ⟨file, reached, -⟩ := passes boot (by rw [begun]; simp)
    have begins := ManagedMultipartBuilder.beginFile_of_reaches reached
    rw [show builder.beginFile crates boot.metadata boot.cancelled = _ from begun] at begins
    cases resume : builder.resume with
    | some snapshot =>
        rw [resume] at begins
        obtain ⟨-, -, resumed⟩ :=
          ManagedMultipartBuilder.beginResumed_eq_resumed_iff.mp begins.symm
        rw [snapshot_of_resume resumed]
    | none =>
        rw [resume] at begins
        exact absurd begins.symm ManagedMultipartBuilder.beginNew_ne_resumed

theorem uploadStream_faithful {content : List UInt8} {fileSize : Nat} :
    (uploadStream crates builder content fileSize).Faithful builder (fun _ => fileSize) := by
  have begins : ∀ cancelled,
      (∀ error, (uploadStream crates builder content fileSize).start cancelled ≠
        .failed error) →
      builder.resume = none ∧
        (uploadStream crates builder content fileSize).start cancelled =
          builder.beginNew crates fileSize := by
    intro cancelled passed
    obtain ⟨valid, active, fresh⟩ := ManagedMultipartBuilder.new_of_beginStream passed
    exact ⟨fresh, ManagedMultipartBuilder.beginStream_of_new valid active fresh⟩
  constructor
  · intro cancelled request plan input begun
    obtain ⟨fresh, new⟩ := begins cancelled (by rw [begun]; simp)
    exact ⟨fresh, ManagedMultipartBuilder.request_of_beginNew (new.symm.trans begun)⟩
  · intro cancelled session begun
    obtain ⟨-, new⟩ := begins cancelled (by rw [begun]; simp)
    exact absurd (new.symm.trans begun) ManagedMultipartBuilder.beginNew_ne_resumed

/-- When `upload_file` comes to the session of its snapshot: no check on the way fails, and the
    file and the part size are those of the snapshot. -/
def ResumesAt (crates : Crates) (builder : ManagedMultipartBuilder) (boot : FileBoot) : Prop :=
  ∃ file snapshot, ManagedMultipartBuilder.ReachesSnapshot crates builder boot.metadata
      boot.cancelled file ∧ builder.resume = some snapshot ∧
    snapshot.fileSize = file.len ∧ snapshot.partSize = builder.partSize

theorem uploadFile_starts_iff {boot : FileBoot} :
    (∀ error, (uploadFile crates builder).start boot = .failed error → builder.resume = none) ↔
      builder.resume = none ∨ ResumesAt crates builder boot := by
  constructor
  · intro starts
    by_cases fresh : builder.resume = none
    · exact Or.inl fresh
    · refine Or.inr ?_
      have passed : ∀ error,
          builder.beginFile crates boot.metadata boot.cancelled ≠ .failed error :=
        fun error failed => fresh (starts error failed)
      obtain ⟨file, reached⟩ := ManagedMultipartBuilder.reaches_of_beginFile passed
      obtain ⟨snapshot, resume⟩ := Option.ne_none_iff_exists'.mp fresh
      rw [ManagedMultipartBuilder.beginFile_of_reaches reached, resume] at passed
      refine ⟨file, snapshot, reached, resume, ?_⟩
      by_contra differs
      rw [not_and_or] at differs
      have failed : builder.beginResumed snapshot file.len = .failed (.invalidInput "path"
          "file size or part size differs from the saved session") := by
        rw [ManagedMultipartBuilder.beginResumed, if_pos differs]
      exact passed _ failed
  · rintro (fresh | ⟨file, snapshot, reached, resume, size, part⟩) error failed
    · exact fresh
    · obtain ⟨session, resumed⟩ := ManagedMultipartBuilder.resumes resume
      have begins := ManagedMultipartBuilder.beginFile_of_reaches reached
      rw [resume] at begins
      have found := ManagedMultipartBuilder.beginResumed_eq_resumed_iff.mpr ⟨size, part, resumed⟩
      rw [show builder.beginFile crates boot.metadata boot.cancelled = _ from failed] at begins
      cases begins.trans found

theorem uploadStream_starts_iff {content : List UInt8} {fileSize : Nat} {cancelled : Bool} :
    (∀ error, (uploadStream crates builder content fileSize).start cancelled = .failed error →
      builder.resume = none) ↔ builder.resume = none := by
  constructor
  · intro starts
    by_contra resumes
    have passed : ∀ error, builder.beginStream crates fileSize cancelled ≠ .failed error :=
      fun error failed => resumes (starts error failed)
    exact resumes (ManagedMultipartBuilder.new_of_beginStream passed).2.2
  · intro fresh _ _
    exact fresh

/-- No failure of `upload_file` loses a session exactly when the call is for a new upload or
    comes to the session of its snapshot; `upload_stream` never comes to one. -/
theorem session_kept_iff (crates : Crates) (builder : ManagedMultipartBuilder) :
    (∀ boot : FileBoot,
      NeverLoses builder (uploadFile crates builder) boot.fingerprint.len boot ↔
        builder.resume = none ∨ ResumesAt crates builder boot) ∧
    ∀ (content : List UInt8) (fileSize : Nat) (cancelled : Bool),
      NeverLoses builder (uploadStream crates builder content fileSize) fileSize cancelled ↔
        builder.resume = none := by
  constructor
  · intro boot
    rw [← uploadFile_starts_iff]
    exact neverLoses_iff uploadFile_faithful
  · intro content fileSize cancelled
    rw [← uploadStream_starts_iff]
    exact neverLoses_iff uploadStream_faithful

/-- The builder that resumes `PresignedMultipart.tiny`. -/
def ManagedMultipartBuilder.resumedTiny : ManagedMultipartBuilder where
  bucket := PresignedMultipart.tiny.bucket
  key := "clip"
  partSize := minMultipartPartSize
  resume := some PresignedMultipart.tiny.snapshot
  origin := ⟨rfl, .tiny, rfl⟩

/-- A resumed upload of a file that cannot be looked at loses the session it was given. -/
theorem resumed_loses_session :
    ∃ history failure,
      (managedCall .resumedTiny (uploadFile .minimal .resumedTiny)).Reaches .ready history
        (.returned (.error failure)) ∧
      Known .resumedTiny 3 history PresignedMultipart.tiny.snapshot ∧
      .aborted (.ok ()) ∉ history.events ∧ failure.snapshot = none :=
  ⟨[(.poll ⟨none, false⟩, [])], .beforeStart (.io "metadata"), .single rfl, .given rfl,
    by simp, rfl⟩

end Entries

end R2kit
