import R2kit.Managed.Reader

/-!
# The upload of a stream

`ManagedMultipartBuilder::run_stream` of `src/managed.rs`: the reader task, the bounded
channel and the parts in flight, each of which may go on next. The stream of parts ends
when the task has returned and the channel is empty; only then is the task joined.
-/

namespace R2kit

open Misc

/-- The three stages. A buffer is held by exactly one of them. -/
structure Pipeline where
  reader : ReaderState
  queue : List StreamPart
  uploads : Uploads

/-- `run_stream` in its pipeline, or past it. -/
inductive StreamState where
  | running (pipeline : Pipeline)
  | ending (ending : Ending)

/-- What can happen while `run_stream` is polled. -/
inductive StreamEvent where
  | reader (event : ReaderEvent)
  | recv
  | task (number : PartNumber) (event : TaskEvent)
  | drained
  | completed (answer : Except SdkError (Option String))
  deriving DecidableEq

/-- `run_stream` has returned an error. -/
def StreamState.failed (error : Error) : StreamState := .ending (.finished (.error (.error error)))

/-- The capacity of the channel. -/
def channelSize (builder : ManagedMultipartBuilder) : Nat :=
  max (builder.maxBufferedBytes / builder.partSize - builder.concurrency) 1

/-- The part that a buffer from the channel becomes. -/
def receivedTask (part : StreamPart) : PartTask where
  number := part.1
  length := part.2.length
  phase := .requesting part.2 1

/-- The pipeline before anything has been read. -/
def Pipeline.start (plan : MultipartPlan) (source : List UInt8) : Pipeline where
  reader := ReaderState.start plan source
  queue := []
  uploads := { inFlight := [], uploaded := [], completedParts := 0, transferredBytes := 0 }

/-- `run_stream` once the reader is spawned. -/
def StreamState.start (plan : MultipartPlan) (source : List UInt8) : StreamState :=
  .running (Pipeline.start plan source)

namespace Transfer

variable (transfer : Transfer)

/-- After the stream of parts has ended: the task is joined, then the session completed. -/
def join (result : Except Error Unit) (uploads : Uploads) : StreamState × List Effect :=
  match result with
  | .error error => (.failed error, [])
  | .ok () =>
      let (ending, out) := Ending.start transfer.session
        (insertAll UploadedPart.partNumber ∅ uploads.uploaded) (asU16 uploads.uploaded.length) 0
      (.ending ending, out)

/-- `ManagedMultipartBuilder::run_stream`. The receiving end of the channel lives as long as
    the pipeline, so the task never finds it closed. -/
def runStream : Machine StreamState StreamEvent Effect where
  step
    | .running _, .reader (.sent false) => none
    | .running pipeline, .reader event =>
        match (readerLoop transfer.session.plan).step pipeline.reader event with
        | none => none
        | some (reader, sent) =>
            if pipeline.queue.length + sent.length ≤ channelSize transfer.builder then
              some (.running { pipeline with reader, queue := pipeline.queue ++ sent }, [])
            else none
    | .running ⟨reader, part :: queue, uploads⟩, .recv =>
        if uploads.inFlight.length < transfer.builder.concurrency then
          some (.running {
            reader, queue
            uploads := { uploads with inFlight := uploads.inFlight ++ [receivedTask part] } },
            [.send (uploadPartRequest transfer.session part.1 part.2)])
        else none
    | .running pipeline, .task number event =>
        match pipeline.uploads.onTask transfer number event with
        | none => none
        | some (.failed error) => some (.failed error, [])
        | some (.running uploads out) => some (.running { pipeline with uploads }, out)
    | .running pipeline, .drained =>
        match pipeline.reader.phase with
        | .returned result =>
            if pipeline.queue = [] ∧ pipeline.uploads.inFlight = [] then
              some (transfer.join result pipeline.uploads)
            else none
        | _ => none
    | .ending (.completing _ uploadedParts reusedParts), .completed answer =>
        some (.ending (Ending.onCompleted transfer.session uploadedParts reusedParts answer), [])
    | _, _ => none

/-- The request whose answer an event hands in. -/
def streamConsumes : StreamState → StreamEvent → Option (Effect × Response)
  | .running pipeline, .task number (.answered _ (.ok etag)) =>
      (pipeline.uploads.awaited transfer.session number).map
        (fun request => (.send request, .uploadPart etag))
  | .ending (.completing request _ _), .completed (.ok etag) =>
      some (.send request, .completeMultipartUpload etag)
  | _, _ => none

/-- Everything one step of `run_stream` can be. -/
inductive StreamStep : StreamState → StreamEvent → StreamState → List Effect → Prop
  | reader {pipeline event reader sent} (isOpen : event ≠ .sent false)
      (moved : (readerLoop transfer.session.plan).step pipeline.reader event =
        some (reader, sent))
      (room : pipeline.queue.length + sent.length ≤ channelSize transfer.builder) :
      StreamStep (.running pipeline) (.reader event)
        (.running { pipeline with reader, queue := pipeline.queue ++ sent }) []
  | recv {reader part queue uploads}
      (room : uploads.inFlight.length < transfer.builder.concurrency) :
      StreamStep (.running ⟨reader, part :: queue, uploads⟩) .recv
        (.running {
          reader, queue
          uploads := { uploads with inFlight := uploads.inFlight ++ [receivedTask part] } })
        [.send (uploadPartRequest transfer.session part.1 part.2)]
  | partFailed {pipeline number event error}
      (failed : pipeline.uploads.onTask transfer number event = some (.failed error)) :
      StreamStep (.running pipeline) (.task number event) (.failed error) []
  | part {pipeline number event uploads out}
      (moved : pipeline.uploads.onTask transfer number event = some (.running uploads out)) :
      StreamStep (.running pipeline) (.task number event) (.running { pipeline with uploads })
        out
  | drained {pipeline result} (joined : pipeline.reader.phase = .returned result)
      (queue_empty : pipeline.queue = []) (none_left : pipeline.uploads.inFlight = []) :
      StreamStep (.running pipeline) .drained (transfer.join result pipeline.uploads).1
        (transfer.join result pipeline.uploads).2
  | completed {request uploadedParts reusedParts answer} :
      StreamStep (.ending (.completing request uploadedParts reusedParts)) (.completed answer)
        (.ending (Ending.onCompleted transfer.session uploadedParts reusedParts answer)) []

variable {transfer}

theorem streamStep_of_step {s s' : StreamState} {event : StreamEvent} {out : List Effect}
    (taken : transfer.runStream.step s event = some (s', out)) :
    transfer.StreamStep s event s' out := by
  simp only [runStream] at taken
  split at taken
  · cases taken
  · rename_i pipeline event isOpen
    split at taken
    · cases taken
    · rename_i reader sent moved
      split at taken
      · rename_i room
        cases taken
        exact .reader isOpen moved room
      · cases taken
  · split at taken
    · rename_i room
      cases taken
      exact .recv room
    · cases taken
  · split at taken
    · cases taken
    · rename_i error failed
      cases taken
      exact .partFailed failed
    · rename_i uploads sent moved
      cases taken
      exact .part moved
  · rename_i pipeline
    split at taken
    · rename_i result joined
      split at taken
      · rename_i empty
        have step : transfer.StreamStep (.running pipeline) .drained
            (transfer.join result pipeline.uploads).1 (transfer.join result pipeline.uploads).2 :=
          .drained joined empty.1 empty.2
        rwa [Option.some.inj taken] at step
      · cases taken
    · cases taken
  · cases taken
    exact .completed
  · cases taken

end Transfer

section Steps

variable {transfer : Transfer}

theorem runStream_reader {reader next : ReaderState} {queue sent : List StreamPart}
    {uploads : Uploads} {event : ReaderEvent} (isOpen : event ≠ .sent false)
    (moved : (readerLoop transfer.session.plan).step reader event = some (next, sent))
    (room : queue.length + sent.length ≤ channelSize transfer.builder) :
    transfer.runStream.step (.running ⟨reader, queue, uploads⟩) (.reader event) =
      some (.running ⟨next, queue ++ sent, uploads⟩, []) := by
  cases event with
  | sent accepted =>
      cases accepted with
      | false => exact absurd rfl isOpen
      | true =>
          simp only [Transfer.runStream, moved]
          rw [if_pos room]
  | loop =>
      simp only [Transfer.runStream, moved]
      rw [if_pos room]
  | chunk length =>
      simp only [Transfer.runStream, moved]
      rw [if_pos room]
  | stopped stop =>
      simp only [Transfer.runStream, moved]
      rw [if_pos room]

theorem runStream_recv {reader : ReaderState} {part : StreamPart} {queue : List StreamPart}
    {uploads : Uploads} (room : uploads.inFlight.length < transfer.builder.concurrency) :
    transfer.runStream.step (.running ⟨reader, part :: queue, uploads⟩) .recv =
      some (.running ⟨reader, queue,
        { uploads with inFlight := uploads.inFlight ++ [receivedTask part] }⟩,
        [.send (uploadPartRequest transfer.session part.1 part.2)]) := by
  simp only [Transfer.runStream]
  rw [if_pos room]

/-- From one head of the loop to the next. -/
theorem reaches_turn {start : StreamState} {history : History StreamEvent Effect}
    {remaining count : Nat} {source : List UInt8} {queue : List StreamPart} {uploads : Uploads}
    (run : transfer.runStream.Reaches start history
      (.running ⟨⟨remaining, count + 1, .looping, source⟩, queue, uploads⟩))
    (more : remaining ≠ 0)
    (enough : min remaining transfer.session.plan.partSize ≤ source.length)
    (valid : count + 1 ≤ maxParts) (room : queue.length + 1 ≤ channelSize transfer.builder) :
    transfer.runStream.Reaches start (history ++ [(.reader .loop, []),
      (.reader (.chunk (min remaining transfer.session.plan.partSize)), []),
      (.reader (.sent true), [])]) (.running
        ⟨⟨remaining - min remaining transfer.session.plan.partSize, count + 1 + 1, .looping,
          source.drop (min remaining transfer.session.plan.partSize)⟩,
          queue ++ [(⟨count + 1, Nat.le_add_left 1 count, valid⟩,
            source.take (min remaining transfer.session.plan.partSize))], uploads⟩) := by
  have positive : 0 < min remaining transfer.session.plan.partSize :=
    Nat.lt_min.mpr ⟨Nat.pos_of_ne_zero more, transfer.session.plan.partSize_pos⟩
  have nothing : queue.length + ([] : List StreamPart).length ≤ channelSize transfer.builder :=
    Nat.le_of_succ_le room
  have allocated := run.snoc (runStream_reader (by simp) (readerLoop_loop more) nothing)
  rw [List.append_nil] at allocated
  have filled := allocated.snoc
    (runStream_reader (by simp) (readerLoop_chunk positive enough valid) nothing)
  rw [List.append_nil] at filled
  have sent := filled.snoc (runStream_reader (by simp) readerLoop_sent (by simpa using room))
  have number : asU16 (count + 1 + 1) = count + 1 + 1 := by
    simp only [maxParts] at valid
    exact asU16_eq (by omega)
  rw [number] at sent
  simpa using sent

/-- A part that goes from the reader through the empty channel into flight. -/
theorem reaches_received {start : StreamState} {history : History StreamEvent Effect}
    {remaining count : Nat} {body rest : List UInt8} {uploads : Uploads}
    (run : transfer.runStream.Reaches start history
      (.running ⟨⟨remaining, count + 1, .looping, body ++ rest⟩, [], uploads⟩))
    (length : body.length = min remaining transfer.session.plan.partSize)
    (more : remaining ≠ 0) (valid : count + 1 ≤ maxParts)
    (room : uploads.inFlight.length < transfer.builder.concurrency) :
    ∃ number : PartNumber, number.get = count + 1 ∧ transfer.runStream.Reaches start
      (history ++ [(.reader .loop, []), (.reader (.chunk body.length), []),
        (.reader (.sent true), []),
        (.recv, [.send (uploadPartRequest transfer.session number body)])]) (.running
          ⟨⟨remaining - body.length, count + 1 + 1, .looping, rest⟩, [],
            { uploads with inFlight := uploads.inFlight ++ [receivedTask (number, body)] }⟩) := by
  have enough : min remaining transfer.session.plan.partSize ≤ (body ++ rest).length := by
    rw [List.length_append, ← length]
    exact Nat.le_add_right _ _
  have turned := reaches_turn run more enough valid (Nat.le_max_right _ _)
  rw [← length, List.take_left, List.drop_left, List.nil_append] at turned
  have received := turned.snoc (runStream_recv room)
  rw [List.append_assoc] at received
  exact ⟨_, rfl, received⟩

/-- A part in flight goes on. -/
theorem runStream_task {reader : ReaderState} {queue : List StreamPart} {uploads next : Uploads}
    {number : PartNumber} {event : TaskEvent} {out : List Effect}
    (moved : uploads.onTask transfer number event = some (.running next out)) :
    transfer.runStream.step (.running ⟨reader, queue, uploads⟩) (.task number event) =
      some (.running ⟨reader, queue, next⟩, out) := by
  simp only [Transfer.runStream, moved]

end Steps

end R2kit
