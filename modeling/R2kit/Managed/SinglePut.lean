import R2kit.Digests
import R2kit.Managed.Preflight
import R2kit.Object.Carried

/-!
# The two single-PUT branches

`UploadFileBuilder::send` uploads an empty file with `put_bytes_with_options` and a small one
with `put_stream_with_options`. The two agree on the options they accept and on what they send,
except that the first computes a requested digest and the second does not.
-/

namespace R2kit

open Misc

section Runs

variable (crates : Crates) (builder : UploadFileBuilder)

/-- Some run of `send` finds a file of this size and sends this PUT. -/
def SendsPut (fileSize : Nat) (input : PutObjectInput) : Prop :=
  ∃ history state cancelled file, (send crates builder).Reaches .ready history state ∧
    .poll cancelled (some file) ∈ history.events ∧ file.len = fileSize ∧
    .put input ∈ history.outputs

/-- `send` accepts its options locally for a file of this size: it comes to a PUT. -/
def AcceptsSize (fileSize : Nat) : Prop := ∃ input, SendsPut crates builder fileSize input

/-- The checks on the way to a single PUT for a file of this size. -/
def singlePut (fileSize : Nat) : Except Error PutObjectInput := do
  builder.validate crates
  let key ← builder.key
  if fileSize = 0 then putBytesWithOptions crates builder.bucket (.ok key) [] builder.options
  else putStreamWithOptions crates builder.bucket (.ok key) fileSize builder.options

/-- What a run of `send` has found and sent. -/
def PutInvariant (history : History SendEvent SendEffect) (state : SendState) : Prop :=
  (state = .ready ∧ history = []) ∨
    ∃ metadata, state ≠ .ready ∧
      (∀ cancelled found, .poll cancelled found ∈ history.events → found = metadata) ∧
      (∀ input, .put input ∈ history.outputs →
        ∃ file, metadata = some file ∧ singlePut crates builder file.len = .ok input) ∧
      ∀ key file, state = .opening key file → metadata = some file ∧
        builder.validate crates = .ok () ∧ builder.key = .ok key ∧ file.len ≠ 0

end Runs

section Invariant

variable {crates : Crates} {builder : UploadFileBuilder}

theorem strategy_eq_streamPut {fileSize : Nat}
    (selected : builder.strategy fileSize = .streamPut) : fileSize ≠ 0 := by
  rintro rfl
  cases selected

/-- The checks that pass before the branch are those of `singlePut`. -/
theorem singlePut_eq {key : ObjectKey} {fileSize : Nat} (valid : builder.validate crates = .ok ())
    (given : builder.key = .ok key) :
    singlePut crates builder fileSize =
      if fileSize = 0 then putBytesWithOptions crates builder.bucket (.ok key) [] builder.options
      else putStreamWithOptions crates builder.bucket (.ok key) fileSize builder.options := by
  rw [singlePut, valid, given]
  rfl

theorem checks_of_singlePut {fileSize : Nat} {input : PutObjectInput}
    (accepted : singlePut crates builder fileSize = .ok input) :
    builder.validate crates = .ok () ∧ ∃ key, builder.key = .ok key := by
  rw [singlePut, bind_unit_eq_ok_iff, bind_eq_ok_iff] at accepted
  obtain ⟨valid, key, given, -⟩ := accepted
  exact ⟨valid, key, given⟩

theorem put_not_mem_ofManaged {input : PutObjectInput} {out : List Effect} :
    SendEffect.put input ∉ out.map SendEffect.ofManaged := by
  intro member
  obtain ⟨effect, -, same⟩ := List.mem_map.mp member
  cases effect <;> cases same

/-- The first poll that leaves the PUT for later, or for good. -/
theorem putInvariant_silent {cancelled : Bool} {metadata : Option Metadata} {state : SendState}
    (going : state ≠ .ready)
    (opening : ∀ key file, state = .opening key file → metadata = some file ∧
      builder.validate crates = .ok () ∧ builder.key = .ok key ∧ file.len ≠ 0) :
    PutInvariant crates builder [(.poll cancelled metadata, [])] state := by
  refine Or.inr ⟨metadata, going, ?_, by simp, opening⟩
  intro again found member
  rw [History.events_singleton, List.mem_singleton] at member
  cases member
  rfl

/-- A later step that opens no file; a PUT of it is the one of the branch. -/
theorem putInvariant_snoc {history : History SendEvent SendEffect} {s' : SendState}
    {event : SendEvent} {out : List SendEffect} {metadata : Option Metadata}
    (polled : ∀ cancelled found, .poll cancelled found ∈ history.events → found = metadata)
    (sent : ∀ input, .put input ∈ history.outputs →
      ∃ file, metadata = some file ∧ singlePut crates builder file.len = .ok input)
    (going : s' ≠ .ready) (other : ∀ cancelled found, event ≠ .poll cancelled found)
    (new : ∀ input, .put input ∈ out →
      ∃ file, metadata = some file ∧ singlePut crates builder file.len = .ok input)
    (closed : ∀ key file, s' ≠ .opening key file) :
    PutInvariant crates builder (history ++ [(event, out)]) s' := by
  refine Or.inr ⟨metadata, going, ?_, ?_, ?_⟩
  · intro cancelled found member
    rcases History.mem_events_snoc.mp member with earlier | now
    · exact polled cancelled found earlier
    · exact absurd now.symm (other cancelled found)
  · intro input member
    rcases History.mem_outputs_snoc.mp member with earlier | now
    · exact sent input earlier
    · exact new input now
  · intro key file opening
    exact absurd opening (closed key file)

theorem putInvariant_begin {cancelled : Bool} {metadata : Option Metadata} {state : SendState}
    {out : List SendEffect} (begun : beginSend crates builder cancelled metadata = (state, out)) :
    PutInvariant crates builder [(.poll cancelled metadata, out)] state := by
  rcases beginSend_cases begun with ⟨error, rfl, rfl⟩ |
    ⟨key, file, rfl, valid, given, dispatched⟩
  · exact putInvariant_silent (by simp [SendState.failed]) (by simp [SendState.failed])
  · unfold dispatch at dispatched
    split at dispatched
    · rename_i selected
      rcases sendPut_cases dispatched with ⟨error, rfl, rfl⟩ | ⟨input, accepted, rfl, rfl⟩
      · exact putInvariant_silent (by simp [SendState.failed]) (by simp [SendState.failed])
      · refine Or.inr ⟨some file, by simp, ?_, ?_, by simp⟩
        · intro again found member
          rw [History.events_singleton, List.mem_singleton] at member
          cases member
          rfl
        · intro other member
          rw [History.outputs_singleton] at member
          cases List.mem_singleton.mp member
          refine ⟨file, rfl, ?_⟩
          rw [singlePut_eq valid given, if_pos (strategy_eq_emptyPut selected), accepted]
    · rename_i selected
      cases dispatched
      refine putInvariant_silent (by simp) ?_
      rintro other found ⟨⟩
      exact ⟨rfl, valid, given, strategy_eq_streamPut selected⟩
    · split at dispatched
      · cases dispatched
        exact putInvariant_silent (by simp [SendState.failed]) (by simp [SendState.failed])
      · cases dispatched
        exact putInvariant_silent (by simp) (by simp)

/-- A step that sends no PUT and opens no file keeps the invariant. -/
theorem PutInvariant.quiet {history : History SendEvent SendEffect} {s s' : SendState}
    {event : SendEvent} {out : List SendEffect} (holds : PutInvariant crates builder history s)
    (started : s ≠ .ready) (going : s' ≠ .ready)
    (other : ∀ cancelled found, event ≠ .poll cancelled found)
    (silent : ∀ input, .put input ∉ out) (closed : ∀ key file, s' ≠ .opening key file) :
    PutInvariant crates builder (history ++ [(event, out)]) s' := by
  rcases holds with ⟨ready, -⟩ | ⟨metadata, -, polled, sent, -⟩
  · exact absurd ready started
  · exact putInvariant_snoc polled sent going other
      (fun input now => absurd now (silent input)) closed

theorem putInvariant_step {history : History SendEvent SendEffect} {s s' : SendState}
    {event : SendEvent} {out : List SendEffect} (holds : PutInvariant crates builder history s)
    (taken : (send crates builder).step s event = some (s', out)) :
    PutInvariant crates builder (history ++ [(event, out)]) s' := by
  cases sendStep_of_step taken with
  | start begun =>
      rcases holds with ⟨-, rfl⟩ | ⟨_, going, -⟩
      · exact putInvariant_begin begun
      · exact absurd rfl going
  | opened sent =>
      rename_i key file
      rcases holds with ⟨ready, -⟩ | ⟨metadata, started, polled, puts, opening⟩
      · cases ready
      · obtain ⟨rfl, valid, given, positive⟩ := opening key file rfl
        rcases sendPut_cases sent with ⟨error, rfl, rfl⟩ | ⟨input, accepted, rfl, rfl⟩
        · exact PutInvariant.quiet (Or.inr ⟨_, started, polled, puts, opening⟩) started
            (by simp [SendState.failed]) (by simp) (by simp) (by simp [SendState.failed])
        · refine putInvariant_snoc polled puts (by simp) (by simp) ?_ (by simp)
          intro other member
          cases List.mem_singleton.mp member
          refine ⟨file, rfl, ?_⟩
          rw [singlePut_eq valid given, if_neg positive, accepted]
  | unopened | putFailed _ | cancelled _ | deleted =>
      exact holds.quiet (by simp) (by simp [SendState.failed]) (by simp) (by simp)
        (by simp [SendState.failed])
  | put _ => exact holds.quiet (by simp) (by simp) (by simp) (by simp) (by simp)
  | checked found =>
      unfold checkSource at found
      split at found
      · cases found
        exact holds.quiet (by simp) (by simp [SendState.failed]) (by simp) (by simp)
          (by simp [SendState.failed])
      · split at found
        · cases found
          exact holds.quiet (by simp) (by simp) (by simp) (by simp) (by simp)
        · cases found
          refine holds.quiet (by simp) (by simp) (by simp) ?_ (by simp)
          intro input
          split <;> simp
  | call moved =>
      rename_i key managed call event next out
      have going : onCall key managed next ≠ .ready ∧
          ∀ other file, onCall key managed next ≠ .opening other file := by
        unfold onCall
        split <;> simp [SendState.failed]
      exact holds.quiet (by simp) going.1 (by simp) (fun _ => put_not_mem_ofManaged) going.2

theorem putInvariant_of_reaches {history : History SendEvent SendEffect} {state : SendState}
    (run : (send crates builder).Reaches .ready history state) :
    PutInvariant crates builder history state :=
  run.invariant (Or.inl ⟨rfl, rfl⟩) (fun _ _ _ _ _ _ holds taken => putInvariant_step holds taken)

/-- A file of this size, found where the path points. -/
def regularFile (fileSize : Nat) : Metadata where
  isFile := true
  len := fileSize
  modified := none
  device := 0
  inode := 0

/-- Below the threshold a PUT is sent exactly when its local checks pass. -/
theorem sendsPut_iff {fileSize : Nat} {input : PutObjectInput}
    (below : fileSize < builder.threshold.bytes) :
    SendsPut crates builder fileSize input ↔ singlePut crates builder fileSize = .ok input := by
  constructor
  · intro sends
    obtain ⟨history, state, cancelled, file, run, polled, size, sent⟩ := sends
    rcases putInvariant_of_reaches run with ⟨-, rfl⟩ | ⟨metadata, -, same, puts, -⟩
    · simp at sent
    · obtain ⟨found, rfl, accepted⟩ := puts input sent
      cases same cancelled _ polled
      rwa [size] at accepted
  · intro accepted
    obtain ⟨valid, key, given⟩ := checks_of_singlePut accepted
    rw [singlePut_eq valid given] at accepted
    have polled : (send crates builder).step .ready
        (.poll false (some (regularFile fileSize))) =
          some (dispatch crates builder key (regularFile fileSize)) := by
      simp [send, beginSend, valid, given, regularFile]
    by_cases empty : fileSize = 0
    · rw [if_pos empty] at accepted
      have dispatched : dispatch crates builder key (regularFile fileSize) =
          (.putting key (regularFile fileSize) input, [.put input]) := by
        rw [dispatch, UploadFileBuilder.strategy, if_pos (show (regularFile fileSize).len = 0 from
          empty)]
        simp only [accepted, sendPut]
      rw [dispatched] at polled
      exact ⟨_, _, false, regularFile fileSize, Machine.Reaches.single polled, by simp, rfl,
        by simp⟩
    · rw [if_neg empty] at accepted
      have dispatched : dispatch crates builder key (regularFile fileSize) =
          (.opening key (regularFile fileSize), []) := by
        rw [dispatch, UploadFileBuilder.strategy, if_neg (show (regularFile fileSize).len ≠ 0 from
          empty), if_pos (show (regularFile fileSize).len < _ from below)]
      have opened : (send crates builder).step (.opening key (regularFile fileSize))
          (.opened true) = some (.putting key (regularFile fileSize) input, [.put input]) := by
        simp only [send, if_true, regularFile, accepted, sendPut]
      rw [dispatched] at polled
      exact ⟨_, _, false, regularFile fileSize, (Machine.Reaches.single polled).snoc opened,
        by simp [History.events], rfl, by simp [History.outputs]⟩

end Invariant

/-- What the options put into a PUT, apart from a digest that is computed from the content. -/
def SameHeaders (options : ObjectUploadOptions) (first second : PutObjectInput) : Prop :=
  first.headers = second.headers ∧ first.metadata = second.metadata ∧
    first.ifMatch = second.ifMatch ∧ first.ifNoneMatch = second.ifNoneMatch ∧
    ((options.checksum.isSome → options.checksumValue.isSome) →
      ∀ algorithm, first.checksums algorithm = second.checksums algorithm)

/-- The options are accepted for both sizes or for neither, and are sent in the same headers. -/
def TreatedAlike (crates : Crates) (builder : UploadFileBuilder) (first second : Nat) : Prop :=
  (AcceptsSize crates builder first ↔ AcceptsSize crates builder second) ∧
    ∀ input other, SendsPut crates builder first input → SendsPut crates builder second other →
      SameHeaders builder.options input other

/-- The digest of an option is computed for an empty file alone: one is requested, none is
    given, and the crate is built to compute it. -/
def ComputesDigest (crates : Crates) (options : ObjectUploadOptions) : Prop :=
  crates.checksumFeature = true ∧ options.checksum.isSome ∧ options.checksumValue = none

section Alike

variable {crates : Crates} {builder : UploadFileBuilder}

/-- What `put_bytes_with_options` goes on with has the headers of the options. -/
theorem sameHeaders_of_resolve {content : List UInt8} {bucket : BucketName} {key : ObjectKey}
    {options resolved : ObjectUploadOptions} (length other : Nat)
    (accepted : resolveChecksum crates content options = .ok resolved) :
    SameHeaders options (putObjectInput bucket key length resolved)
      (putObjectInput bucket key other options) := by
  obtain ⟨-, headers, metadata, ifMatch, ifNoneMatch⟩ :=
    fields_putObjectInput bucket key length resolved
  obtain ⟨-, headers', metadata', ifMatch', ifNoneMatch'⟩ :=
    fields_putObjectInput bucket key other options
  rw [SameHeaders, headers, metadata, ifMatch, ifNoneMatch, headers', metadata', ifMatch',
    ifNoneMatch']
  rcases resolveChecksum_eq_ok accepted with rfl | ⟨algorithm, value, asked, absent, rfl⟩
  · refine ⟨rfl, rfl, rfl, rfl, ?_⟩
    intro _ algorithm
    rw [checksums_putObjectInput, checksums_putObjectInput]
  · refine ⟨rfl, rfl, rfl, rfl, ?_⟩
    intro given
    rw [asked, absent] at given
    exact absurd (given rfl) (by simp)

theorem SameHeaders.symm {options : ObjectUploadOptions} {first second : PutObjectInput}
    (same : SameHeaders options first second) : SameHeaders options second first := by
  obtain ⟨headers, metadata, ifMatch, ifNoneMatch, checksums⟩ := same
  exact ⟨headers.symm, metadata.symm, ifMatch.symm, ifNoneMatch.symm,
    fun given algorithm => (checksums given algorithm).symm⟩

theorem SameHeaders.trans {options : ObjectUploadOptions} {first second third : PutObjectInput}
    (before : SameHeaders options first second) (after : SameHeaders options second third) :
    SameHeaders options first third := by
  obtain ⟨headers, metadata, ifMatch, ifNoneMatch, checksums⟩ := before
  obtain ⟨headers', metadata', ifMatch', ifNoneMatch', checksums'⟩ := after
  exact ⟨headers.trans headers', metadata.trans metadata', ifMatch.trans ifMatch',
    ifNoneMatch.trans ifNoneMatch',
    fun given algorithm => (checksums given algorithm).trans (checksums' given algorithm)⟩

/-- A PUT of either branch has the headers of the options as they are. -/
theorem sameHeaders_of_singlePut {fileSize : Nat} {input : PutObjectInput}
    (accepted : singlePut crates builder fileSize = .ok input) :
    ∃ key, builder.key = .ok key ∧
      SameHeaders builder.options input (putObjectInput builder.bucket key 0 builder.options) := by
  obtain ⟨valid, key, given⟩ := checks_of_singlePut accepted
  rw [singlePut_eq valid given] at accepted
  refine ⟨key, given, ?_⟩
  by_cases empty : fileSize = 0
  · rw [if_pos empty, putBytesWithOptions, bind_eq_ok_iff] at accepted
    obtain ⟨resolved, resolves, sent⟩ := accepted
    obtain ⟨_, same, -, -, -, rfl⟩ := putStreamWithOptions_eq_ok_iff.mp sent
    cases same
    exact sameHeaders_of_resolve _ _ resolves
  · rw [if_neg empty] at accepted
    obtain ⟨_, same, -, given, -, rfl⟩ := putStreamWithOptions_eq_ok_iff.mp accepted
    cases same
    have kept : resolveChecksum crates [] builder.options = .ok builder.options := by
      unfold resolveChecksum
      split
      · rename_i asked absent
        rw [asked, absent] at given
        exact absurd (given rfl) (by simp)
      · rfl
    exact sameHeaders_of_resolve _ _ kept

/-- A computed digest is one that `validate` accepts. -/
theorem validate_computed {content : List UInt8} {options : ObjectUploadOptions}
    {algorithm : ChecksumAlgorithm}
    (length : (crates.digest algorithm content).length = algorithm.digestLength)
    (absent : options.checksumValue = none) (valid : options.validate crates = .ok ()) :
    (options.withChecksumValue algorithm (computeChecksum crates content algorithm)).validate
      crates = .ok () := by
  have unchanged : { options with checksumValue := none } = options := by
    rw [← absent]
  rw [validate_withChecksumValue, unchanged, validateChecksumValue_ok_iff]
  exact ⟨valid, crates.digest algorithm content, length, rfl⟩

variable (lengths : ∀ algorithm content,
  (crates.digest algorithm content).length = algorithm.digestLength)

include lengths in
/-- An empty file takes every valid option, if a requested digest can be computed. -/
theorem putBytes_accepts_iff {bucket : BucketName} {key : ObjectKey}
    {options : ObjectUploadOptions} (valid : options.validate crates = .ok ()) :
    (∃ input, putBytesWithOptions crates bucket (.ok key) [] options = .ok input) ↔
      (options.checksum.isSome → options.checksumValue = none →
        crates.checksumFeature = true) := by
  constructor
  · intro accepted asked absent
    obtain ⟨input, accepted⟩ := accepted
    obtain ⟨algorithm, requested⟩ := Option.isSome_iff_exists.mp asked
    rw [putBytesWithOptions, bind_eq_ok_iff] at accepted
    obtain ⟨resolved, resolves, -⟩ := accepted
    by_contra off
    simp [resolveChecksum, requested, absent, off] at resolves
  · intro computes
    have resolves : ∃ resolved, resolveChecksum crates [] options = .ok resolved ∧
        resolved.validate crates = .ok () ∧
        (resolved.checksum.isSome → resolved.checksumValue.isSome) := by
      cases requested : options.checksum with
      | none =>
          exact ⟨options, by simp [resolveChecksum, requested], valid, by simp [requested]⟩
      | some algorithm =>
          cases given : options.checksumValue with
          | some value =>
              exact ⟨options, by simp [resolveChecksum, requested, given], valid,
                by simp [given]⟩
          | none =>
              have feature := computes (by simp [requested]) given
              refine ⟨_, ?_, validate_computed (lengths algorithm []) given valid, ?_⟩
              · simp [resolveChecksum, requested, given, feature,
                  ObjectUploadOptions.withChecksumValue]
              · simp [ObjectUploadOptions.withChecksumValue]
    obtain ⟨resolved, resolves, passes, present⟩ := resolves
    refine ⟨putObjectInput bucket key 0 resolved, ?_⟩
    rw [putBytesWithOptions, bind_eq_ok_iff]
    exact ⟨resolved, resolves, putStreamWithOptions_eq_ok_iff.mpr
      ⟨key, rfl, passes, present, Nat.zero_le _, rfl⟩⟩

include lengths in
/-- What the checks of a single PUT come to: a digest that would have to be computed is
    accepted for an empty file alone. -/
theorem acceptsSize_iff {fileSize : Nat} (below : fileSize < builder.threshold.bytes)
    (small : fileSize ≤ maxUploadSize) :
    AcceptsSize crates builder fileSize ↔
      builder.validate crates = .ok () ∧ (∃ key, builder.key = .ok key) ∧
        (builder.options.checksum.isSome → builder.options.checksumValue = none →
          fileSize = 0 ∧ crates.checksumFeature = true) := by
  have sends : AcceptsSize crates builder fileSize ↔
      ∃ input, singlePut crates builder fileSize = .ok input :=
    exists_congr fun _ => sendsPut_iff below
  rw [sends]
  by_cases passes : builder.validate crates = .ok () ∧ ∃ key, builder.key = .ok key
  · obtain ⟨valid, key, given⟩ := passes
    have optionsValid := (UploadFileBuilder.validate_ok_iff.mp valid).1
    simp only [singlePut_eq valid given]
    by_cases empty : fileSize = 0
    · simp only [if_pos empty, putBytes_accepts_iff lengths optionsValid]
      simp [valid, given, empty]
    · simp only [if_neg empty, putStreamWithOptions_eq_ok_iff]
      simp only [valid, given, empty, false_and, true_and, imp_false, Except.ok.injEq,
        exists_eq', exists_and_left, optionsValid, small, exists_eq_left', exists_eq, and_true,
        ← Option.ne_none_iff_isSome, ne_eq]
  · have blocked : ¬ ∃ input, singlePut crates builder fileSize = .ok input := by
      rintro ⟨input, accepted⟩
      exact passes (checks_of_singlePut accepted)
    exact iff_of_false blocked (fun all => passes ⟨all.1, all.2.1⟩)

include lengths in
/-- The two single-PUT branches treat the options alike unless one of the files is empty, the
    other is not, and a digest is to be computed for a builder that is valid otherwise. -/
theorem treatedAlike_iff {first second : Nat} (below : first < builder.threshold.bytes)
    (belowToo : second < builder.threshold.bytes) (small : first ≤ maxUploadSize)
    (smallToo : second ≤ maxUploadSize) :
    TreatedAlike crates builder first second ↔
      (first = 0 ↔ second = 0) ∨ ¬ ComputesDigest crates builder.options ∨
        builder.validate crates ≠ .ok () ∨ ∀ key, builder.key ≠ .ok key := by
  have headers : ∀ input other, SendsPut crates builder first input →
      SendsPut crates builder second other → SameHeaders builder.options input other := by
    intro input other sent sentToo
    obtain ⟨key, given, same⟩ := sameHeaders_of_singlePut ((sendsPut_iff below).mp sent)
    obtain ⟨again, givenToo, sameToo⟩ :=
      sameHeaders_of_singlePut ((sendsPut_iff belowToo).mp sentToo)
    rw [given] at givenToo
    cases givenToo
    exact same.trans sameToo.symm
  rw [TreatedAlike, and_iff_left headers, acceptsSize_iff lengths below small,
    acceptsSize_iff lengths belowToo smallToo, ComputesDigest]
  by_cases passes : builder.validate crates = .ok () ∧ ∃ key, builder.key = .ok key
  · obtain ⟨valid, key, given⟩ := passes
    simp only [valid, given, Except.ok.injEq, exists_eq', true_and, ne_eq, not_true_eq_false,
      forall_eq', or_false]
    tauto
  · have blocked : builder.validate crates ≠ .ok () ∨ ∀ key, builder.key ≠ .ok key := by
      rwa [not_and_or, not_exists] at passes
    refine iff_of_true (iff_of_false ?_ ?_) (Or.inr (Or.inr blocked))
    · exact fun accepted => passes ⟨accepted.1, accepted.2.1⟩
    · exact fun accepted => passes ⟨accepted.1, accepted.2.1⟩

end Alike

/-- A build with the `checksum` feature. The digests are those of the empty content, as far as
    CRC-32 and CRC-32C go. -/
def Crates.checksummed : Crates where
  languageTagParses _ := true
  digest algorithm _ := List.replicate algorithm.digestLength 0
  checksumFeature := true

/-- An upload that asks for a CRC-32. -/
def UploadFileBuilder.clipWithChecksum : UploadFileBuilder :=
  { UploadFileBuilder.clip with options := { checksum := some .crc32 } }

theorem Crates.length_checksummed (algorithm : ChecksumAlgorithm) (content : List UInt8) :
    (Crates.checksummed.digest algorithm content).length = algorithm.digestLength :=
  List.length_replicate

theorem treatedAlike_iff_clip :
    TreatedAlike .checksummed .clip 0 1 ↔
      (0 = 0 ↔ 1 = 0) ∨ ¬ ComputesDigest .checksummed UploadFileBuilder.clip.options ∨
        UploadFileBuilder.clip.validate .checksummed ≠ .ok () ∨
        ∀ key, UploadFileBuilder.clip.key ≠ .ok key :=
  treatedAlike_iff Crates.length_checksummed (by decide) (by decide) (by decide) (by decide)

/-- The upload is accepted for an empty file and rejected for a file of one byte. -/
theorem not_treatedAlike_checksum :
    AcceptsSize .checksummed .clipWithChecksum 0 ∧
      ¬ AcceptsSize .checksummed .clipWithChecksum 1 ∧
      ¬ TreatedAlike .checksummed .clipWithChecksum 0 1 := by
  have empty : AcceptsSize .checksummed .clipWithChecksum 0 := by
    rw [acceptsSize_iff Crates.length_checksummed (by decide) (by decide)]
    exact ⟨rfl, ⟨_, rfl⟩, fun _ _ => ⟨rfl, rfl⟩⟩
  have small : ¬ AcceptsSize .checksummed .clipWithChecksum 1 := by
    rw [acceptsSize_iff Crates.length_checksummed (by decide) (by decide)]
    exact fun accepted => absurd (accepted.2.2 rfl rfl).1 (by decide)
  exact ⟨empty, small, fun alike => small (alike.1.mp empty)⟩

end R2kit
