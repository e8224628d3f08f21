import R2kit.Misc.Machine
import R2kit.Object.Reading

/-!
# Downloading to a file

`Bucket::download_file` of `src/object.rs`: the object is asked for, the file created, the body
copied to it as it arrives, and the file removed again when that fails. What has arrived and is
not on disk yet is in one queue, whoever holds it.
-/

namespace R2kit

open Misc

/-- Where a download to a file is. -/
inductive DownloadState where
  | ready
  | requesting (input : GetObjectInput)
  | creating (metadata : ObjectMetadata)
  | copying (metadata : ObjectMetadata) (queue : List UInt8) (ended : Bool)
  | syncing (metadata : ObjectMetadata)
  | removing
  | returned (result : Except Error ObjectMetadata)

/-- What can happen to it. -/
inductive DownloadEvent where
  | poll
  | answered (answer : Except SdkError ObjectOutput)
  | created (succeeded : Bool)
  | received (chunk : List UInt8)
  | ended
  | wrote (count : Nat)
  | flushed
  | copyFailed
  | synced (succeeded : Bool)
  | removed (succeeded : Bool)
  deriving DecidableEq

/-- The request of `Bucket::get`. -/
def getRequest (bucket : BucketName) (key : Except Error ObjectKey) :
    Except Error GetObjectInput :=
  GetObjectBuilder.send { bucket, key }

section Machine

variable (dates : HttpDates) (bucket : BucketName) (key : Except Error ObjectKey)

/-- `Bucket::download_file`. -/
def downloadFile : Machine DownloadState DownloadEvent GetObjectInput where
  step
    | .ready, .poll =>
        match getRequest bucket key with
        | .error error => some (.returned (.error error), [])
        | .ok input => some (.requesting input, [input])
    | .requesting _, .answered answer =>
        match GetObjectBuilder.answered dates answer with
        | .error error => some (.returned (.error error), [])
        | .ok metadata => some (.creating metadata, [])
    | .creating metadata, .created succeeded =>
        if succeeded then some (.copying metadata [] false, [])
        else some (.returned (.error (.io "download_file")), [])
    | .copying metadata queue false, .received chunk =>
        some (.copying metadata (queue ++ chunk) false, [])
    | .copying metadata queue false, .ended => some (.copying metadata queue true, [])
    | .copying metadata queue ended, .wrote count =>
        if count ≤ queue.length then some (.copying metadata (queue.drop count) ended, []) else none
    | .copying metadata [] true, .flushed => some (.syncing metadata, [])
    | .copying _ _ _, .copyFailed => some (.removing, [])
    | .syncing metadata, .synced succeeded =>
        if succeeded then some (.returned (.ok metadata), []) else some (.removing, [])
    | .removing, .removed _ => some (.returned (.error (.io "download_file")), [])
    | _, _ => none

/-- What an event does to the file at the path. -/
def fileAfter : DownloadState → DownloadEvent → Option (List UInt8) → Option (List UInt8)
  | .creating _, .created true, _ => some []
  | .copying _ queue _, .wrote count, some content => some (content ++ queue.take count)
  | .removing, .removed true, _ => none
  | _, _, file => file

/-- A download, the file at its path, and what is still to come of the body. -/
structure DownloadWorld where
  client : DownloadState
  file : Option (List UInt8)
  stream : List UInt8

/-- The download is about to start; this is at its path. -/
def DownloadWorld.start (prior : Option (List UInt8)) : DownloadWorld where
  client := .ready
  file := prior
  stream := []

variable (objects : String × String → Option StoredObject)

/-- An answer reports the object that is asked for, and its body arrives in order and ends when
    all of it has. -/
def DownloadWorld.Comes (world : DownloadWorld) : DownloadEvent → Prop
  | .answered (.ok output) =>
      match world.client with
      | .requesting input =>
          ∃ object ∈ objects (input.bucket, input.key), object.Reports dates output
      | _ => False
  | .received chunk => chunk <+: world.stream
  | .ended => world.stream = []
  | _ => True

instance (world : DownloadWorld) (event : DownloadEvent) :
    Decidable (world.Comes dates objects event) := by
  unfold DownloadWorld.Comes
  split
  · split <;> infer_instance
  · infer_instance
  · infer_instance
  · infer_instance

/-- The body that an event leaves to come. -/
def DownloadWorld.streamAfter (world : DownloadWorld) : DownloadEvent → List UInt8
  | .answered (.ok _) =>
      match world.client with
      | .requesting input => (objects (input.bucket, input.key)).elim [] StoredObject.body
      | _ => world.stream
  | .received chunk => world.stream.drop chunk.length
  | _ => world.stream

/-- A download from objects that stay as they are, to a path that nobody else touches. -/
def downloadWorld : Machine DownloadWorld DownloadEvent GetObjectInput where
  step world event :=
    if world.Comes dates objects event then
      match (downloadFile dates bucket key).step world.client event with
      | none => none
      | some (client, out) =>
          some ({
            client
            file := fileAfter world.client event world.file
            stream := world.streamAfter objects event }, out)
    else none

/-- Everything one step of a download can be. -/
inductive DownloadStep : DownloadState → DownloadEvent → DownloadState → Prop
  | refused {error} (refused : getRequest bucket key = .error error) :
      DownloadStep .ready .poll (.returned (.error error))
  | asked {input} (accepted : getRequest bucket key = .ok input) :
      DownloadStep .ready .poll (.requesting input)
  | failed {input answer error} (failed : GetObjectBuilder.answered dates answer = .error error) :
      DownloadStep (.requesting input) (.answered answer) (.returned (.error error))
  | read {input answer metadata} (read : GetObjectBuilder.answered dates answer = .ok metadata) :
      DownloadStep (.requesting input) (.answered answer) (.creating metadata)
  | created {metadata} :
      DownloadStep (.creating metadata) (.created true) (.copying metadata [] false)
  | uncreated {metadata} :
      DownloadStep (.creating metadata) (.created false)
        (.returned (.error (.io "download_file")))
  | received {metadata queue chunk} :
      DownloadStep (.copying metadata queue false) (.received chunk)
        (.copying metadata (queue ++ chunk) false)
  | ended {metadata queue} :
      DownloadStep (.copying metadata queue false) .ended (.copying metadata queue true)
  | wrote {metadata queue ended count} (there : count ≤ queue.length) :
      DownloadStep (.copying metadata queue ended) (.wrote count)
        (.copying metadata (queue.drop count) ended)
  | flushed {metadata} :
      DownloadStep (.copying metadata [] true) .flushed (.syncing metadata)
  | copyFailed {metadata queue ended} :
      DownloadStep (.copying metadata queue ended) .copyFailed .removing
  | synced {metadata} :
      DownloadStep (.syncing metadata) (.synced true) (.returned (.ok metadata))
  | unsynced {metadata} :
      DownloadStep (.syncing metadata) (.synced false) .removing
  | removed {succeeded} :
      DownloadStep .removing (.removed succeeded) (.returned (.error (.io "download_file")))

variable {dates bucket key objects}

theorem downloadStep_of_step {s s' : DownloadState} {event : DownloadEvent}
    {out : List GetObjectInput}
    (taken : (downloadFile dates bucket key).step s event = some (s', out)) :
    DownloadStep dates bucket key s event s' := by
  simp only [downloadFile] at taken
  split at taken
  · split at taken
    · rename_i error refused
      cases taken
      exact .refused refused
    · rename_i input accepted
      cases taken
      exact .asked accepted
  · split at taken
    · rename_i error failed
      cases taken
      exact .failed failed
    · rename_i metadata read
      cases taken
      exact .read read
  · rename_i metadata succeeded
    cases succeeded with
    | true =>
        cases taken
        exact .created
    | false =>
        cases taken
        exact .uncreated
  · cases taken
    exact .received
  · cases taken
    exact .ended
  · split at taken
    · rename_i there
      cases taken
      exact .wrote there
    · cases taken
  · cases taken
    exact .flushed
  · cases taken
    exact .copyFailed
  · rename_i metadata succeeded
    cases succeeded with
    | true =>
        cases taken
        exact .synced
    | false =>
        cases taken
        exact .unsynced
  · cases taken
    exact .removed
  · cases taken

end Machine

section Invariant

variable (dates : HttpDates) (objects : String × String → Option StoredObject)
  (bucket : BucketName) (key : Except Error ObjectKey)

/-- What stands at the key. -/
def Finds (object : StoredObject) : Prop :=
  ∃ valid, key = .ok valid ∧ objects (bucket.value, valid.value) = some object

/-- Metadata that an answer about this object has told. -/
def ToldOf (object : StoredObject) (metadata : ObjectMetadata) : Prop :=
  ∃ output, object.Reports dates output ∧ readMetadata dates "GetObject" output = .ok metadata

/-- A file that holds the beginning of the body. -/
def Partial (object : StoredObject) (file : Option (List UInt8)) : Prop :=
  ∃ written, file = some written ∧ written <+: object.body

/-- A download that has not created its file. -/
def BeforeFile : DownloadState → List UInt8 → Prop
  | .ready, _ => True
  | .requesting input, _ => getRequest bucket key = .ok input
  | .creating metadata, stream => ∃ object, Finds objects bucket key object ∧
      ToldOf dates object metadata ∧ stream = object.body
  | .returned (.error _), _ => True
  | _, _ => False

/-- A download that has: what is on disk, in the queue and still to come is the body. -/
def WithFile (object : StoredObject) (kept : Prop) :
    DownloadState → Option (List UInt8) → List UInt8 → Prop
  | .copying metadata queue ended, file, stream => ToldOf dates object metadata ∧
      (∃ written, file = some written ∧ written ++ (queue ++ stream) = object.body) ∧
      (ended = true → stream = [])
  | .syncing metadata, file, _ => ToldOf dates object metadata ∧ file = some object.body
  | .removing, file, _ => Partial object file
  | .returned (.ok metadata), file, _ => ToldOf dates object metadata ∧ file = some object.body
  | .returned (.error _), file, _ => file = none ∨ kept ∧ Partial object file
  | _, _, _ => False

/-- What a download has done so far: nothing to the file, or all that its object allows. -/
def DownloadHolds (prior : Option (List UInt8))
    (history : History DownloadEvent GetObjectInput) (world : DownloadWorld) : Prop :=
  (.created true ∉ history.events ∧ world.file = prior ∧
    BeforeFile dates objects bucket key world.client world.stream) ∨
  (.created true ∈ history.events ∧ ∃ object, Finds objects bucket key object ∧
    WithFile dates object (.removed false ∈ history.events) world.client world.file world.stream)

variable {dates objects bucket key} {prior : Option (List UInt8)}
  {history : History DownloadEvent GetObjectInput} {world after : DownloadWorld}
  {event : DownloadEvent} {out : List GetObjectInput}

theorem downloadWorld_cases
    (taken : (downloadWorld dates bucket key objects).step world event = some (after, out)) :
    world.Comes dates objects event ∧
      DownloadStep dates bucket key world.client event after.client ∧
      after.file = fileAfter world.client event world.file ∧
      after.stream = world.streamAfter objects event := by
  simp only [downloadWorld] at taken
  split at taken
  · rename_i comes
    split at taken
    · cases taken
    · rename_i client sent moved
      cases taken
      exact ⟨comes, downloadStep_of_step moved, rfl, rfl⟩
  · cases taken

theorem getRequest_eq_ok {input : GetObjectInput} (accepted : getRequest bucket key = .ok input) :
    ∃ valid, key = .ok valid ∧ input.bucket = bucket.value ∧ input.key = valid.value := by
  obtain ⟨valid, given, -, -, rfl⟩ := GetObjectBuilder.send_eq_ok_iff.mp accepted
  exact ⟨valid, given, rfl, rfl⟩

/-- A prefix of the body is a prefix of it after more has been written. -/
theorem partial_of_append {object : StoredObject} {file : Option (List UInt8)}
    {written rest : List UInt8} (is : file = some written)
    (whole : written ++ rest = object.body) : Partial object file :=
  ⟨written, is, rest, whole⟩

/-- A step of a download without a file: either it has none yet, or it creates it. -/
theorem before_step (comes : world.Comes dates objects event)
    (moved : DownloadStep dates bucket key world.client event after.client)
    (file_eq : after.file = fileAfter world.client event world.file)
    (stream_eq : after.stream = world.streamAfter objects event)
    (before : BeforeFile dates objects bucket key world.client world.stream) :
    (event ≠ .created true ∧ after.file = world.file ∧
      BeforeFile dates objects bucket key after.client after.stream) ∨
    (event = .created true ∧ ∃ object, Finds objects bucket key object ∧
      ∀ kept, WithFile dates object kept after.client after.file after.stream) := by
  obtain ⟨client, file, stream⟩ := world
  obtain ⟨client', file', stream'⟩ := after
  dsimp only at moved file_eq stream_eq before ⊢
  cases moved with
  | refused _ => exact Or.inl ⟨by simp, file_eq, trivial⟩
  | asked accepted => exact Or.inl ⟨by simp, file_eq, accepted⟩
  | failed _ => exact Or.inl ⟨by simp, file_eq, trivial⟩
  | @read input answer metadata read =>
      refine Or.inl ⟨by simp, file_eq, ?_⟩
      cases answer with
      | error error => cases read
      | ok output =>
          obtain ⟨object, found, reports⟩ := comes
          obtain ⟨valid, given, in_bucket, at_key⟩ := getRequest_eq_ok before
          have is : objects (input.bucket, input.key) = some object := found
          refine ⟨object, ⟨valid, given, ?_⟩, ⟨output, reports, read⟩, ?_⟩
          · rw [← in_bucket, ← at_key, is]
          · rw [stream_eq]
            simp only [DownloadWorld.streamAfter, is, Option.elim_some]
  | @created metadata =>
      obtain ⟨object, finds, told, body⟩ := before
      refine Or.inr ⟨rfl, object, finds, fun kept => ⟨told, ⟨[], file_eq, ?_⟩, by simp⟩⟩
      rw [stream_eq, List.nil_append, List.nil_append]
      exact body
  | uncreated => exact Or.inl ⟨by simp, file_eq, trivial⟩
  | received => exact before.elim
  | ended => exact before.elim
  | wrote _ => exact before.elim
  | flushed => exact before.elim
  | copyFailed => exact before.elim
  | synced => exact before.elim
  | unsynced => exact before.elim
  | removed => exact before.elim

/-- A step of a download that has its file. -/
theorem withFile_step {object : StoredObject} {kept : Prop}
    (comes : world.Comes dates objects event)
    (moved : DownloadStep dates bucket key world.client event after.client)
    (file_eq : after.file = fileAfter world.client event world.file)
    (stream_eq : after.stream = world.streamAfter objects event)
    (holds : WithFile dates object kept world.client world.file world.stream) :
    WithFile dates object (kept ∨ event = .removed false) after.client after.file
      after.stream := by
  obtain ⟨client, file, stream⟩ := world
  obtain ⟨client', file', stream'⟩ := after
  dsimp only at moved file_eq stream_eq holds ⊢
  cases moved with
  | refused _ => exact holds.elim
  | asked _ => exact holds.elim
  | failed _ => exact holds.elim
  | read _ => exact holds.elim
  | created => exact holds.elim
  | uncreated => exact holds.elim
  | @received metadata queue chunk =>
      obtain ⟨told, ⟨written, is, whole⟩, -⟩ := holds
      refine ⟨told, ⟨written, file_eq.trans is, ?_⟩, by simp⟩
      obtain ⟨rest, split⟩ : chunk <+: stream := comes
      subst split
      have left : stream' = rest := stream_eq.trans (List.drop_left ..)
      rw [left, List.append_assoc]
      exact whole
  | @ended metadata queue =>
      obtain ⟨told, ⟨written, is, whole⟩, -⟩ := holds
      have nothing : stream' = [] := stream_eq.trans comes
      refine ⟨told, ⟨written, file_eq.trans is, ?_⟩, fun _ => nothing⟩
      rw [stream_eq]
      exact whole
  | @wrote metadata queue ended count there =>
      obtain ⟨told, ⟨written, is, whole⟩, finished⟩ := holds
      rw [is] at file_eq
      refine ⟨told, ⟨written ++ queue.take count, file_eq, ?_⟩, fun at_end => ?_⟩
      · rw [stream_eq, List.append_assoc, ← List.append_assoc (queue.take count),
          List.take_append_drop]
        exact whole
      · rw [stream_eq]
        exact finished at_end
  | flushed =>
      obtain ⟨told, ⟨written, is, whole⟩, finished⟩ := holds
      rw [finished rfl, List.append_nil, List.append_nil] at whole
      exact ⟨told, by rw [file_eq, ← whole]; exact is⟩
  | copyFailed =>
      obtain ⟨-, ⟨written, is, whole⟩, -⟩ := holds
      exact partial_of_append (file_eq.trans is) whole
  | synced => exact ⟨holds.1, file_eq.trans holds.2⟩
  | unsynced => exact partial_of_append (file_eq.trans holds.2) (List.append_nil _)
  | @removed succeeded =>
      cases succeeded with
      | true => exact Or.inl file_eq
      | false =>
          obtain ⟨written, is, begins⟩ := holds
          exact Or.inr ⟨Or.inr rfl, written, file_eq.trans is, begins⟩

theorem WithFile.leaves {object : StoredObject} {kept : Prop} {client : DownloadState}
    {file : Option (List UInt8)} {stream : List UInt8}
    (holds : WithFile dates object kept client file stream) :
    Partial object file ∨ file = none ∧ ∃ error, client = .returned (.error error) := by
  cases client with
  | ready => exact holds.elim
  | requesting input => exact holds.elim
  | creating metadata => exact holds.elim
  | copying metadata queue ended =>
      obtain ⟨-, ⟨written, is, whole⟩, -⟩ := holds
      exact Or.inl (partial_of_append is whole)
  | syncing metadata => exact Or.inl (partial_of_append holds.2 (List.append_nil _))
  | removing => exact Or.inl holds
  | returned result =>
      cases result with
      | ok metadata => exact Or.inl (partial_of_append holds.2 (List.append_nil _))
      | error error =>
          rcases holds with gone | ⟨-, begins⟩
          · exact Or.inr ⟨gone, error, rfl⟩
          · exact Or.inl begins

theorem downloadHolds_of_reaches
    (run : (downloadWorld dates bucket key objects).Reaches (.start prior) history world) :
    DownloadHolds dates objects bucket key prior history world := by
  refine run.invariant (P := DownloadHolds dates objects bucket key prior) ?_ ?_
  · exact Or.inl ⟨List.not_mem_nil, rfl, trivial⟩
  · intro history world event after out _ holds taken
    obtain ⟨comes, moved, file_eq, stream_eq⟩ := downloadWorld_cases taken
    unfold DownloadHolds
    simp only [History.mem_events_snoc]
    rcases holds with ⟨uncreated, same, before⟩ | ⟨created, object, finds, holds⟩
    · rcases before_step comes moved file_eq stream_eq before with
        ⟨other, kept, before⟩ | ⟨rfl, object, finds, holds⟩
      · refine Or.inl ⟨?_, kept.trans same, before⟩
        rintro (earlier | now)
        · exact uncreated earlier
        · exact other now.symm
      · exact Or.inr ⟨Or.inr rfl, object, finds, holds _⟩
    · refine Or.inr ⟨Or.inl created, object, finds, ?_⟩
      have later := withFile_step comes moved file_eq stream_eq holds
      simpa only [eq_comm] using later

/-- What a download leaves at its path, in whichever state it is and also if it is dropped there.
    Until it creates the file, what was there; from then on the beginning of the object's body,
    or nothing after a failure; the whole body, and metadata that an answer has told of this
    object, once it has returned a result; and nothing once it has returned an error, unless
    the file could not be removed. -/
theorem download_file_leaves (dates : HttpDates) (objects : String × String → Option StoredObject)
    (bucket : BucketName) (key : Except Error ObjectKey) (prior : Option (List UInt8))
    (history : History DownloadEvent GetObjectInput) (world : DownloadWorld)
    (run : (downloadWorld dates bucket key objects).Reaches (.start prior) history world) :
    (.created true ∉ history.events → world.file = prior) ∧
    (.created true ∈ history.events → ∃ object, Finds objects bucket key object ∧
      (Partial object world.file ∨
        world.file = none ∧ ∃ error, world.client = .returned (.error error))) ∧
    (∀ metadata, world.client = .returned (.ok metadata) → ∃ object,
      Finds objects bucket key object ∧ ToldOf dates object metadata ∧
        world.file = some object.body) ∧
    ∀ error, world.client = .returned (.error error) → .created true ∈ history.events →
      .removed false ∉ history.events → world.file = none := by
  rcases downloadHolds_of_reaches run with ⟨uncreated, same, before⟩ |
    ⟨created, object, finds, holds⟩
  · refine ⟨fun _ => same, fun created => absurd created uncreated, ?_,
      fun _ _ created => absurd created uncreated⟩
    intro metadata returned
    rw [returned] at before
    exact before.elim
  · refine ⟨fun uncreated => absurd created uncreated, fun _ => ⟨object, finds, ?_⟩, ?_, ?_⟩
    · exact holds.leaves
    · intro metadata returned
      rw [returned] at holds
      exact ⟨object, finds, holds.1, holds.2⟩
    · intro error returned _ removed
      rw [returned] at holds
      rcases holds with gone | ⟨kept, -⟩
      · exact gone
      · exact absurd kept removed

theorem downloadWorld_step {client : DownloadState} (comes : world.Comes dates objects event)
    (moved : (downloadFile dates bucket key).step world.client event = some (client, out)) :
    (downloadWorld dates bucket key objects).step world event =
      some (⟨client, fileAfter world.client event world.file, world.streamAfter objects event⟩,
        out) := by
  simp only [downloadWorld, if_pos comes, moved]

/-- From the queue to the end of a download, when the body has arrived. -/
theorem download_written {metadata : ObjectMetadata} {body : List UInt8}
    (run : (downloadWorld dates bucket key objects).Reaches (.start prior) history
      ⟨.copying metadata body false, some [], []⟩) :
    ∃ history, (downloadWorld dates bucket key objects).Reaches (.start prior) history
      ⟨.returned (.ok metadata), some body, []⟩ := by
  have enough : (downloadFile dates bucket key).step (.copying metadata body false)
      (.wrote body.length) = some (.copying metadata [] false, []) := by
    simp only [downloadFile, Nat.le_refl, if_true, List.drop_length]
  have wrote := run.snoc (@downloadWorld_step _ _ _ _ _ (.wrote body.length) _ _ trivial enough)
  simp only [fileAfter, List.take_length, List.nil_append, DownloadWorld.streamAfter] at wrote
  have ended : (downloadWorld dates bucket key objects).Reaches _ _
      ⟨.copying metadata [] true, some body, []⟩ :=
    wrote.snoc (@downloadWorld_step _ _ _ _ _ .ended _ _ rfl rfl)
  have flushed : (downloadWorld dates bucket key objects).Reaches _ _
      ⟨.syncing metadata, some body, []⟩ :=
    ended.snoc (@downloadWorld_step _ _ _ _ _ .flushed _ _ trivial rfl)
  exact ⟨_, flushed.snoc (@downloadWorld_step _ _ _ _ _ (.synced true) _ _ trivial rfl)⟩

/-- An object that stands at the key can be downloaded. -/
theorem download_finishes {object : StoredObject} (finds : Finds objects bucket key object)
    (prior : Option (List UInt8)) :
    ∃ history world metadata,
      (downloadWorld dates bucket key objects).Reaches (.start prior) history world ∧
      world.client = .returned (.ok metadata) ∧ world.file = some object.body := by
  obtain ⟨valid, rfl, found⟩ := finds
  obtain ⟨metadata, read⟩ := readMetadata_output dates "GetObject" object
  let input : GetObjectInput := GetObjectBuilder.input { bucket, key := .ok valid } valid
  have comes : DownloadWorld.Comes dates objects ⟨.requesting input, prior, []⟩
      (.answered (.ok (object.output dates))) := ⟨object, found, object.reports_output dates⟩
  have answered : (downloadFile dates bucket (.ok valid)).step (.requesting input)
      (.answered (.ok (object.output dates))) = some (.creating metadata, []) := by
    have read : GetObjectBuilder.answered dates (.ok (object.output dates)) = .ok metadata := read
    simp only [downloadFile, read]
  have asked : (downloadWorld dates bucket (.ok valid) objects).Reaches (.start prior) _
      ⟨.requesting input, prior, []⟩ :=
    .single (@downloadWorld_step _ _ _ _ (.start prior) .poll _ _ trivial rfl)
  have told := asked.snoc (downloadWorld_step comes answered)
  have body : DownloadWorld.streamAfter objects ⟨.requesting input, prior, []⟩
      (.answered (.ok (object.output dates))) = object.body := by
    have found : objects (input.bucket, input.key) = some object := found
    simp only [DownloadWorld.streamAfter, found, Option.elim_some]
  rw [body] at told
  have created : (downloadWorld dates bucket (.ok valid) objects).Reaches _ _
      ⟨.copying metadata [] false, some [], object.body⟩ :=
    told.snoc (@downloadWorld_step _ _ _ _ _ (.created true) _ _ trivial rfl)
  have arrived : DownloadWorld.Comes dates objects
      ⟨.copying metadata [] false, some [], object.body⟩ (.received object.body) :=
    List.prefix_refl _
  have received := created.snoc (downloadWorld_step arrived rfl)
  simp only [fileAfter, DownloadWorld.streamAfter, List.drop_length] at received
  obtain ⟨history, run⟩ := download_written received
  exact ⟨history, _, metadata, run, rfl, rfl⟩

end Invariant

/-- Dates in the first second. -/
def HttpDates.epoch : HttpDates where
  format time := if 0 ≤ time ∧ time < 1000000000 then some "Thu, 01 Jan 1970 00:00:00 GMT" else none
  parse text := if text = "Thu, 01 Jan 1970 00:00:00 GMT" then some ⟨some 0⟩ else none
  parse_format := by
    intro time text formatted
    split at formatted
    · rename_i first
      cases formatted
      have second : wholeSeconds time = 0 := by
        rw [wholeSeconds, Int.ediv_eq_zero_of_lt first.1 first.2, Int.zero_mul]
      rw [second]
      rfl
    · cases formatted

/-- The metadata that a download has returned. -/
def DownloadState.metadata? : DownloadState → Option ObjectMetadata
  | .returned (.ok metadata) => some metadata
  | _ => none

theorem returned_of_metadata? {state : DownloadState} {metadata : ObjectMetadata}
    (is : state.metadata? = some metadata) : state = .returned (.ok metadata) := by
  unfold DownloadState.metadata? at is
  split at is
  · cases is
    rfl
  · cases is

/-- An answer about three bytes without any headers. -/
def ObjectOutput.bare : ObjectOutput where
  contentLength := some 3
  eTag := none
  contentType := none
  cacheControl := none
  contentDisposition := none
  contentEncoding := none
  contentLanguage := none
  expiresString := none
  lastModified := none
  metadata := none

/-- Three bytes, which replace a longer file. -/
theorem download_file_leaves_clip :
    ∃ (history : History DownloadEvent GetObjectInput) (world : DownloadWorld) (metadata : _),
      (downloadWorld .epoch UploadFileBuilder.clip.bucket (.ok .clip)
        (fun _ => some (UploadFileBuilder.clip.written [1, 2, 3]))).Reaches
          (.start (some [9, 9, 9, 9])) history world ∧
      world.client = .returned (.ok metadata) ∧ world.file = some [1, 2, 3] := by
  let objects : String × String → Option StoredObject :=
    fun _ => some (UploadFileBuilder.clip.written [1, 2, 3])
  let events : List DownloadEvent := [.poll, .answered (.ok .bare), .created true,
    .received [1, 2], .wrote 1, .received [3], .ended, .wrote 2, .flushed, .synced true]
  have executed : (((downloadWorld .epoch UploadFileBuilder.clip.bucket (.ok .clip) objects).exec
      (.start (some [9, 9, 9, 9])) events).bind (fun final => final.2.client.metadata?)).map
        ObjectMetadata.size = some 3 := by decide
  obtain ⟨metadata, returned, -⟩ := Option.map_eq_some_iff.mp executed
  obtain ⟨⟨history, world⟩, reached, is⟩ := Option.bind_eq_some_iff.mp returned
  have run := Machine.reaches_of_exec reached
  have at_end : world.client = .returned (.ok metadata) := returned_of_metadata? is
  obtain ⟨-, -, whole, -⟩ := download_file_leaves .epoch objects _ _ _ history world run
  obtain ⟨object, ⟨valid, given, found⟩, -, file⟩ := whole metadata at_end
  cases found
  exact ⟨history, world, metadata, run, at_end, file⟩

end R2kit
