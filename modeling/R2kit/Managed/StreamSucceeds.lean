import R2kit.Managed.Succeeds
import R2kit.Managed.TeamContent

/-!
# Streams that arrive

A call to `upload_stream` over a reader that delivers the whole file. Three stages wait for
each other: the reader for room in the channel, the channel for a free place among the parts
in flight, and the end for all of them. None of them waits for ever, and if the store is no
reason to fail then the call does not.
-/

namespace R2kit

open Misc

/-- An event that gives `run_stream` no reason to fail by itself. -/
def StreamEvent.Good : StreamEvent → Prop
  | .task _ (.answered _ (.ok etag)) => ∃ text, etag = some text ∧ text ≠ ""
  | .task _ (.answered _ (.error error)) => isRetryable error = true
  | .completed answer => ∃ etag, answer = .ok etag
  | .reader _ | .recv | .drained | .task _ (.read _) | .task _ .woken => True

/-- An event that gives a call no reason to fail: nobody cancels it, and its session is
    created. -/
def CallEvent.GoodStream : CallEvent Bool StreamEvent → Prop
  | .poll token => token = false
  | .created answer => ∃ uploadId, answer = .ok (some uploadId)
  | .inner event => event.Good
  | .cancelled | .aborted _ => False

/-- Events that give a call no reason to fail: each is good, and no part fails as often as it
    may be tried. -/
structure HealthyStream (builder : ManagedMultipartBuilder)
    (events : List (CallEvent Bool StreamEvent)) : Prop where
  good : ∀ event ∈ events, event.GoodStream
  retries : ∀ number,
    failures (CallEvent.failsPart StreamEvent.failsPart number) events < builder.maxAttempts

section Healthy

variable {builder : ManagedMultipartBuilder} {events : List (CallEvent Bool StreamEvent)}
  {event : CallEvent Bool StreamEvent}

theorem HealthyStream.before (healthy : HealthyStream builder (events ++ [event])) :
    HealthyStream builder events := by
  refine ⟨fun other member => healthy.good other (List.mem_append_left _ member), ?_⟩
  intro number
  have fewer := healthy.retries number
  rw [failures_snoc] at fewer
  omega

/-- A good event that is no failure keeps what has happened healthy. -/
theorem HealthyStream.snoc (healthy : HealthyStream builder events) (good : event.GoodStream)
    (unfailed : ∀ number, event.failsPart StreamEvent.failsPart number = false) :
    HealthyStream builder (events ++ [event]) := by
  constructor
  · rw [List.forall_mem_append, List.forall_mem_singleton]
    exact ⟨healthy.good, good⟩
  · intro number
    rw [failures_snoc, unfailed number]
    exact healthy.retries number

/-- What is good for a part of a file is good for one of a stream. -/
theorem StreamEvent.good_of_run {fingerprint : SourceFileFingerprint} {content : List UInt8}
    {number : PartNumber} {event : TaskEvent}
    (good : (RunEvent.task number event).Good fingerprint content) :
    (StreamEvent.task number event).Good := by
  cases event with
  | read view => trivial
  | answered random answer =>
      cases answer with
      | ok etag => exact good
      | error error => exact good
  | woken => trivial

end Healthy

section Inside

variable {transfer : Transfer} {content : List UInt8} {history : History StreamEvent Effect}
  {out : List Effect}

/-- What `run_stream` returns for a whole file. -/
structure Whole (session : PresignedMultipart) (result : ManagedUploadResult) : Prop where
  size : result.fileSize = session.plan.fileSize
  count : result.partCount = session.partCount
  uploaded : result.uploadedParts = session.partCount
  reused : result.reusedParts = 0

/-- On the way to a result. -/
def StreamCourse (session : PresignedMultipart) : StreamState → Prop
  | .running _ => True
  | .ending (.completing _ uploadedParts reusedParts) =>
      uploadedParts = session.partCount ∧ reusedParts = 0
  | .ending (.finished (.ok result)) => Whole session result
  | .ending (.finished (.error _)) => False

/-- When the stages are empty the completion of all planned parts is asked for. -/
theorem join_onCourse {received : List StreamPart} {pipeline : Pipeline}
    (sound : PipelineInvariant transfer.session.plan content received pipeline)
    (joined : pipeline.reader.phase = .returned (.ok ())) (queue_empty : pipeline.queue = [])
    (none_left : pipeline.uploads.inFlight = []) :
    StreamCourse transfer.session (transfer.join (.ok ()) pipeline.uploads).1 := by
  have numbers := sound.uploaded_all joined queue_empty none_left
  have distinct := numbers.nodup_iff.mpr transfer.session.plan.nodup_numbers
  have gathered := intoValues_insertAll (m := ∅) pipeline.uploads.uploaded distinct (by simp)
  rw [intoValues_empty, List.append_nil] at gathered
  obtain ⟨completion, request, -, -, -, started⟩ := Ending.start_of_planned
    (keyed_empty.insertAll pipeline.uploads.uploaded) (asU16 pipeline.uploads.uploaded.length) 0
    ((gathered.map UploadedPart.partNumber).trans numbers)
  have count := numbers.length_eq
  rw [List.length_map, MultipartPlan.length_numbers] at count
  have most := transfer.session.plan.partCount_le
  simp only [maxParts] at most
  simp only [Transfer.join, started]
  refine ⟨?_, rfl⟩
  rw [count]
  exact asU16_eq (by omega)

/-- A good event of a part that may still be tried does not end the pool. -/
theorem onTask_streams {received : List StreamPart} {pipeline : Pipeline} {number : PartNumber}
    {event : TaskEvent} {error : Error}
    (sound : PipelineInvariant transfer.session.plan content received pipeline)
    (tally : Tally transfer.builder.maxAttempts (sendsIn history)
      (failuresIn StreamEvent.failsPart history) pipeline.uploads)
    (good : (StreamEvent.task number event).Good)
    (retried : failures (StreamEvent.failsPart number) (history.events ++ [.task number event]) <
      transfer.builder.maxAttempts) :
    pipeline.uploads.onTask transfer number event ≠ some (.failed error) := by
  intro failed
  rcases tally.failed_cases failed with ⟨task, view, among, reading, -, -, -⟩ |
    ⟨random, etag, rfl, unusable⟩ | ⟨random, reason, rfl, spent⟩
  · exact (sound.tasks task among).buffered reading
  · obtain ⟨text, rfl, nonempty⟩ := good
    simp [uploadPartAnswer, UploadedPart.new, nonempty] at unusable
  · have retryable : isRetryable reason = true := good
    have most := spent retryable
    rw [failures_snoc] at retried
    simp only [StreamEvent.failsPart, beq_self_eq_true, TaskEvent.retryable, retryable,
      Bool.and_self, Bool.toNat_true] at retried
    simp only [failuresIn] at most
    omega

/-- A step on a good event stays on course. -/
theorem streamCourse_step {s s' : StreamState} {event : StreamEvent}
    (long : transfer.session.plan.fileSize ≤ content.length) (good : event.Good)
    (retried : ∀ number, failures (StreamEvent.failsPart number) (history.events ++ [event]) <
      transfer.builder.maxAttempts)
    (stream : StreamInvariant transfer content history s) (tally : StreamTally transfer history s)
    (course : StreamCourse transfer.session s)
    (taken : transfer.runStream.step s event = some (s', out)) :
    StreamCourse transfer.session s' := by
  cases Transfer.streamStep_of_step taken with
  | reader isOpen moved room => trivial
  | recv room => trivial
  | @partFailed pipeline number event error failed =>
      obtain ⟨received, sound⟩ := stream.pipeline _ rfl
      exact absurd failed (onTask_streams sound tally good (retried number))
  | part moved => trivial
  | @drained pipeline result joined queue_empty none_left =>
      obtain ⟨received, sound⟩ := stream.pipeline _ rfl
      cases result with
      | error error =>
          obtain ⟨⟨count, -, -, -, -, phase⟩, -⟩ := sound.reader
          simp only [PhaseInvariant, joined] at phase
          exact absurd phase.1 (Nat.not_lt.mpr long)
      | ok passed => exact join_onCourse sound joined queue_empty none_left
  | @completed request uploadedParts reusedParts answer =>
      obtain ⟨etag, rfl⟩ := good
      obtain ⟨rfl, rfl⟩ := course
      exact ⟨rfl, rfl, rfl, rfl⟩

/-- Unless `run_stream` has returned, something good can happen next. -/
theorem runStream_goes_on_well {s : StreamState} (parallel : 0 < transfer.builder.concurrency)
    (stream : StreamInvariant transfer content history s)
    (course : StreamCourse transfer.session s) :
    (∃ result, s = .ending (.finished (.ok result))) ∨ ∃ event s' out,
      transfer.runStream.step s event = some (s', out) ∧ event.Good ∧
        ∀ number, event.failsPart number = false := by
  cases s with
  | ending ending =>
      cases ending with
      | completing request uploadedParts reusedParts =>
          exact Or.inr ⟨.completed (.ok none), _, _, rfl, ⟨none, rfl⟩, fun _ => rfl⟩
      | finished outcome =>
          cases outcome with
          | ok result => exact Or.inl ⟨result, rfl⟩
          | error fault => exact course.elim
  | running pipeline =>
      refine Or.inr ?_
      obtain ⟨received, sound⟩ := stream.pipeline _ rfl
      obtain ⟨reader, queue, uploads⟩ := pipeline
      cases flying : uploads.inFlight with
      | cons task rest =>
          -- the part that is furthest on
          obtain ⟨event, outcome, stepped, good, unfailed⟩ :=
            @PartTask.goes_on_well transfer ⟨0, none, 0, 0⟩ content task
          obtain ⟨step, moved⟩ := Uploads.onTask_head flying stepped
          refine ⟨.task task.number event, ?_⟩
          simp only [Transfer.runStream, moved]
          have quiet : ∀ number,
              (StreamEvent.task task.number event).failsPart number = false :=
            fun number => by simp [StreamEvent.failsPart, unfailed]
          cases step with
          | running next sent => exact ⟨_, _, rfl, StreamEvent.good_of_run good, quiet⟩
          | failed error => exact ⟨_, _, rfl, StreamEvent.good_of_run good, quiet⟩
      | nil =>
          cases queue with
          | cons part queue =>
              exact ⟨.recv, _, _, runStream_recv (by simpa [flying] using parallel), trivial,
                fun _ => rfl⟩
          | nil =>
              by_cases returned : ∃ result, reader.phase = .returned result
              · obtain ⟨result, phase⟩ := returned
                refine ⟨.drained, ?_⟩
                simp only [Transfer.runStream, phase]
                rw [if_pos ⟨trivial, flying⟩]
                exact ⟨_, _, rfl, trivial, fun _ => rfl⟩
              · -- the channel is empty, so that it has room
                obtain ⟨event, next, sent, isOpen, moved⟩ := readerLoop_progress sound.reader
                  (fun result phase => returned ⟨result, phase⟩)
                have most := readerLoop_length_le moved
                have room : 1 ≤ channelSize transfer.builder := Nat.le_max_right _ _
                refine ⟨.reader event, _, _, runStream_reader isOpen moved ?_, trivial,
                  fun _ => rfl⟩
                simp only [List.length_nil]
                omega

end Inside

section Call

variable {crates : Crates} {builder : ManagedMultipartBuilder} {content : List UInt8}
  {fileSize : Nat} {history : History (CallEvent Bool StreamEvent) Effect}
  {out : List Effect}

/-- Every step of a call leaves less to do, whatever the reader delivers. -/
theorem streamCall_work {s s' : CallState Bool StreamState} {event : CallEvent Bool StreamEvent}
    (knows : Knows (uploadStream crates builder content fileSize) history s)
    (taken : (managedCall builder (uploadStream crates builder content fileSize)).step s event =
      some (s', out)) : callWork builder fileSize s' < callWork builder fileSize s := by
  have after_error : ∀ {session error state sent},
      afterStartError builder session error = (state, sent) →
      callWork builder fileSize state ≤ 1 := fun left =>
    (@shortCall_afterStartError builder content fileSize _ _ _ _ left).2.2
  cases callStep_of_step taken with
  | failed failed => exact Nat.succ_pos _
  | @create _ request plan input new =>
      obtain ⟨size, -⟩ := beginStream_creating new
      simp only [callWork, size]
      omega
  | resume resumed => exact absurd resumed beginStream_ne_resumed
  | uncreated failed => exact Nat.succ_pos _
  | @created boot request plan answer session made =>
      obtain ⟨uploadId, -, rfl⟩ := PresignedMultipartBuilder.created_eq_ok_iff.mp made
      show (StreamState.start plan content).work builder.maxAttempts + 2 < _
      rw [work_start]
      exact Nat.lt_succ_self _
  | inner moved unsettled =>
      obtain ⟨ran, past⟩ := knows
      exact Nat.add_lt_add_right (runStream_work (streamInvariant_of_reaches past.reached) moved) 2
  | @settled boot session inner event next sent result state last moved finished left =>
      refine Nat.lt_of_le_of_lt ?_ (Nat.lt_add_left _ Nat.one_lt_two)
      unfold settle at left
      split at left
      · cases left
        exact Nat.zero_le 1
      · cases left
        exact Nat.zero_le 1
      · exact after_error left
  | cancelled token left =>
      exact Nat.lt_of_le_of_lt (after_error left) (Nat.lt_add_left _ Nat.one_lt_two)
  | aborted => exact Nat.succ_pos _

/-- An answer with an upload ID makes a session. -/
theorem exists_created (request : PresignedMultipartBuilder) (plan : MultipartPlan)
    (uploadId : String) : ∃ session, request.created plan (.ok (some uploadId)) = .ok session :=
  ⟨_, PresignedMultipartBuilder.created_eq_ok_iff.mpr ⟨uploadId, rfl, rfl⟩⟩

/-- A call on its way to a result. -/
def CallCourse (fileSize : Nat) : CallState Bool StreamState → Prop
  | .ready => True
  | .creating _ _ plan => plan.fileSize = fileSize
  | .running _ session inner => session.plan.fileSize = fileSize ∧
      StreamCourse session inner ∧ ∀ result, inner ≠ .ending (.finished result)
  | .returned (.ok result) => ∃ session : PresignedMultipart,
      session.plan.fileSize = fileSize ∧ Whole session result
  | .aborting _ _ | .returned (.error _) | .panicked _ => False

/-- What the future of a healthy call does is on course too. -/
theorem streamCourse_of_ran {boot : Bool} {session : PresignedMultipart} {inner next : StreamState}
    {event : StreamEvent} {ran : History StreamEvent Effect} {sent : List Effect}
    (long : session.plan.fileSize ≤ content.length)
    (healthy : HealthyStream builder (history.events ++ [.inner event]))
    (past : Ran (uploadStream crates builder content fileSize) history boot session ran inner)
    (course : StreamCourse session inner)
    (moved : (Transfer.mk builder session).runStream.step inner event = some (next, sent)) :
    StreamCourse session next := by
  have reached : (Transfer.mk builder session).runStream.Reaches
      (StreamState.start session.plan content) ran inner := past.reached
  have positive : 0 < builder.maxAttempts :=
    Nat.lt_of_le_of_lt (Nat.zero_le _) (healthy.retries ⟨1, by decide⟩)
  have good : event.Good := healthy.good (.inner event) (by simp)
  have retried : ∀ number,
      failures (StreamEvent.failsPart number) (ran.events ++ [event]) < builder.maxAttempts := by
    intro number
    have fewer := healthy.retries number
    rw [failures_inner, List.filterMap_append, ← past.events] at fewer
    exact fewer
  exact @streamCourse_step ⟨builder, session⟩ content ran sent _ _ _ long good retried
    (streamInvariant_of_reaches reached) (streamTally_of_reaches positive reached) course moved

/-- A step on a healthy event stays on course. -/
theorem callCourse_step {s s' : CallState Bool StreamState} {event : CallEvent Bool StreamEvent}
    (begins : ∃ request plan input,
      builder.beginStream crates fileSize false = .creating request plan input)
    (long : fileSize ≤ content.length)
    (healthy : HealthyStream builder (history.events ++ [event]))
    (knows : Knows (uploadStream crates builder content fileSize) history s)
    (course : CallCourse fileSize s)
    (taken : (managedCall builder (uploadStream crates builder content fileSize)).step s event =
      some (s', out)) : CallCourse fileSize s' := by
  have good : event.GoodStream := healthy.good event (by simp)
  cases callStep_of_step taken with
  | @failed boot error failed =>
      obtain rfl : boot = false := good
      obtain ⟨request, plan, input, begun⟩ := begins
      have other : builder.beginStream crates fileSize false = .failed error := failed
      rw [begun] at other
      cases other
  | create new => exact (beginStream_creating new).1
  | resume resumed => exact absurd resumed beginStream_ne_resumed
  | @uncreated boot request plan answer error failed =>
      obtain ⟨uploadId, rfl⟩ := good
      obtain ⟨session, made⟩ := exists_created request plan uploadId
      rw [failed] at made
      cases made
  | created made =>
      obtain ⟨uploadId, -, rfl⟩ := PresignedMultipartBuilder.created_eq_ok_iff.mp made
      exact ⟨course, trivial, nofun⟩
  | @inner boot session inner event next out moved unsettled =>
      obtain ⟨ran, past⟩ := knows
      obtain ⟨size, on_course, -⟩ := course
      refine ⟨size, streamCourse_of_ran (size ▸ long) healthy past on_course moved, ?_⟩
      rintro result rfl
      exact unsettled result rfl
  | @settled boot session inner event next sent result state last moved finished left =>
      obtain ⟨ran, past⟩ := knows
      obtain ⟨size, on_course, -⟩ := course
      have ended := streamCourse_of_ran (size ▸ long) healthy past on_course moved
      cases next with
      | running pipeline => cases finished
      | ending ending =>
          obtain rfl : ending = .finished result := Option.some.inj finished
          cases result with
          | ok result =>
              cases left
              exact ⟨session, size, ended⟩
          | error fault => exact ended.elim
  | cancelled token left => exact good.elim
  | aborted => exact course.elim

/-- Unless the call has returned, something healthy can happen next. -/
theorem streamCall_goes_on {s : CallState Bool StreamState}
    (begins : ∃ request plan input,
      builder.beginStream crates fileSize false = .creating request plan input)
    (healthy : HealthyStream builder history.events)
    (knows : Knows (uploadStream crates builder content fileSize) history s)
    (course : CallCourse fileSize s) :
    (∃ result, s = .returned (.ok result)) ∨ ∃ event s' out,
      (managedCall builder (uploadStream crates builder content fileSize)).step s event =
        some (s', out) ∧ HealthyStream builder (history.events ++ [event]) := by
  obtain ⟨request, plan, input, begun⟩ := begins
  cases s with
  | ready =>
      have begun' : (uploadStream crates builder content fileSize).start false =
          .creating request plan input := begun
      refine Or.inr ⟨.poll false, ?_⟩
      simp only [managedCall, begun']
      exact ⟨_, _, rfl, healthy.snoc rfl (fun _ => rfl)⟩
  | creating boot request plan =>
      obtain ⟨session, made⟩ := exists_created request plan "u"
      refine Or.inr ⟨.created (.ok (some "u")), ?_⟩
      simp only [managedCall, made]
      exact ⟨_, _, rfl, healthy.snoc ⟨"u", rfl⟩ (fun _ => rfl)⟩
  | running boot session inner =>
      obtain ⟨ran, past⟩ := knows
      obtain ⟨-, on_course, unfinished⟩ := course
      have reached : (Transfer.mk builder session).runStream.Reaches
          (StreamState.start session.plan content) ran inner := past.reached
      rcases runStream_goes_on_well (beginStream_creating begun).2
          (streamInvariant_of_reaches reached) on_course with
        ⟨result, is⟩ | ⟨event, next, sent, moved, good, unfailed⟩
      · exact absurd is (unfinished _)
      · have moved' : ((uploadStream crates builder content fileSize).machine boot session).step
            inner event = some (next, sent) := moved
        have next_healthy := @HealthyStream.snoc _ _ (.inner event) healthy good unfailed
        refine Or.inr ⟨.inner event, ?_⟩
        simp only [managedCall, moved']
        split
        · exact ⟨_, _, rfl, next_healthy⟩
        · exact ⟨_, _, rfl, next_healthy⟩
  | aborting session error => exact course.elim
  | returned result =>
      cases result with
      | ok result => exact Or.inl ⟨result, rfl⟩
      | error failure => exact course.elim
  | panicked site => exact course.elim

theorem callCourse_of_reaches {s : CallState Bool StreamState}
    (begins : ∃ request plan input,
      builder.beginStream crates fileSize false = .creating request plan input)
    (long : fileSize ≤ content.length) (healthy : HealthyStream builder history.events)
    (run : (managedCall builder (uploadStream crates builder content fileSize)).Reaches .ready
      history s) : CallCourse fileSize s := by
  induction run with
  | refl => trivial
  | @snoc history s event s' out before taken ih =>
      rw [History.events_append, History.events_singleton] at healthy
      exact callCourse_step begins long healthy (knows_of_reaches before) (ih healthy.before) taken

/-- A call to `upload_stream` has a bounded number of steps, whatever happens. If it can begin,
    its reader delivers the whole file and it is given no reason to fail, then it never waits
    for something that cannot come, and it can end only with a result that counts every
    planned part as uploaded. -/
theorem stream_succeeds (crates : Crates) (builder : ManagedMultipartBuilder)
    (content : List UInt8) (fileSize : Nat)
    (history : History (CallEvent Bool StreamEvent) Effect) (s : CallState Bool StreamState)
    (run : (managedCall builder (uploadStream crates builder content fileSize)).Reaches .ready
      history s) :
    history.length ≤ (2 * builder.maxAttempts + 3) * (3 * fileSize + 1) + 6 ∧
    ((∃ request plan input,
        builder.beginStream crates fileSize false = .creating request plan input) →
      fileSize ≤ content.length → HealthyStream builder history.events →
      (∃ (result : ManagedUploadResult) (session : PresignedMultipart),
          s = .returned (.ok result) ∧ session.plan.fileSize = fileSize ∧
          Whole session result) ∨
        ∃ event s' out,
          (managedCall builder (uploadStream crates builder content fileSize)).step s event =
            some (s', out) ∧ HealthyStream builder (history.events ++ [event])) := by
  constructor
  · have bound := run.length_le (fun _ _ _ _ _ reached taken =>
      streamCall_work (knows_of_reaches reached) taken)
    exact Nat.le_trans (Nat.le_add_right _ _) bound
  · intro begins long healthy
    have course := callCourse_of_reaches begins long healthy run
    rcases streamCall_goes_on begins healthy (knows_of_reaches run) course with ⟨result, rfl⟩ | more
    · obtain ⟨session, size, whole⟩ := course
      exact Or.inl ⟨result, session, rfl, size, whole⟩
    · exact Or.inr more

/-- What a call has returned, if it is a result. -/
def CallState.result? : CallState Bool StreamState → Option ManagedUploadResult
  | .returned (.ok result) => some result
  | _ => none

/-- A run in which the first attempt of the only part times out while the reader goes on. -/
theorem stream_succeeds_tiny :
    ∃ (history : History (CallEvent Bool StreamEvent) Effect) (s : CallState Bool StreamState),
      s.result? = some ⟨⟨none⟩, 3, 1, 1, 0⟩ ∧ history.length ≤ (2 * 3 + 3) * (3 * 3 + 1) + 6 ∧
      ((∃ (result : ManagedUploadResult) (session : PresignedMultipart),
          s = .returned (.ok result) ∧ session.plan.fileSize = 3 ∧ Whole session result) ∨
        ∃ event s' out,
          (managedCall .tiny (uploadStream .minimal .tiny [1, 2, 3, 4] 3)).step s event =
            some (s', out) ∧ HealthyStream .tiny (history.events ++ [event])) := by
  let part (event : TaskEvent) : CallEvent Bool StreamEvent := .inner (.task ⟨1, by decide⟩ event)
  let events : List (CallEvent Bool StreamEvent) := [.poll false, .created (.ok (some "u")),
    .inner (.reader .loop), .inner (.reader (.chunk 1)), .inner (.reader (.chunk 2)),
    .inner (.reader (.sent true)), .inner .recv, part (.answered 0 (.error .timeoutError)),
    .inner (.reader .loop), part .woken, part (.answered 0 (.ok (some "e"))), .inner .drained,
    .inner (.completed (.ok none))]
  have executed : ((managedCall .tiny (uploadStream .minimal .tiny [1, 2, 3, 4] 3)).exec .ready
      events).map (fun final => final.2.result?) = some (some ⟨⟨none⟩, 3, 1, 1, 0⟩) := by decide
  obtain ⟨⟨history, s⟩, reached, is⟩ := Option.map_eq_some_iff.mp executed
  obtain ⟨bound, succeeds⟩ := stream_succeeds .minimal .tiny [1, 2, 3, 4] 3 history s
    (Machine.reaches_of_exec reached)
  refine ⟨history, s, is, bound, succeeds ⟨_, _, _, rfl⟩ (by decide) ?_⟩
  rw [Machine.events_of_exec reached]
  constructor
  · simp [events, part, CallEvent.GoodStream, StreamEvent.Good, isRetryable]
  · intro number
    by_cases same : (⟨1, by decide⟩ : PartNumber) = number
    · subst same
      decide
    · simp [events, part, failures, CallEvent.failsPart, StreamEvent.failsPart,
        TaskEvent.retryable, same]
      decide

end Call

end R2kit
