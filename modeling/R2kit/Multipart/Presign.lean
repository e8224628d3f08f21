import Mathlib.Algebra.Order.BigOperators.Group.List
import R2kit.Misc.Machine
import R2kit.Multipart.Session
import R2kit.Object.Requests

/-!
# Presigned part requests

`PresignedMultipart::presign_part` and `presign_part_with_md5` of `src/multipart.rs`, and an
uploader that holds nothing but the requests they return. The signer binds the headers that
are set on the request, and no others; which of the planned values those are decides what
the uploader can store.
-/

namespace R2kit

open Misc

/-- A Base64-encoded 128-bit digest. -/
structure PartMd5 where
  value : String
  valid : ∃ decoded, Base64.decode value = some decoded ∧ decoded.length = 16 ∧
    Base64.encode decoded = value

/-- `PartMd5::try_from`. -/
def PartMd5.tryFrom (value : String) : Except Error PartMd5 :=
  match decodes : Base64.decode value with
  | none =>
      .error (.invalidInput "content_md5" "must be canonical Base64 for a 128-bit MD5 digest")
  | some decoded =>
      if canonical : decoded.length = 16 ∧ Base64.encode decoded = value then
        .ok ⟨value, decoded, decodes, canonical⟩
      else
        .error (.invalidInput "content_md5" "must be canonical Base64 for a 128-bit MD5 digest")

/-- `UploadPart` as the SDK's builder holds it when it is presigned. -/
structure UploadPartInput where
  address : Address
  partNumber : Nat
  contentLength : Option Nat := none
  contentMd5 : Option String := none
  deriving DecidableEq

/-- What `presign_part` returns, with the request that was signed. -/
structure PresignedUploadPart where
  partNumber : PartNumber
  contentLength : Nat
  contentMd5 : Option String
  request : UploadPartInput
  deriving DecidableEq

namespace PresignedMultipart

/-- `presign_part_inner`, with a signer that succeeds. -/
def presignPartInner (session : PresignedMultipart) (number : PartNumber)
    (contentMd5 : Option PartMd5) (expiresIn : Duration) : Except Error PresignedUploadPart := do
  let contentLength ← session.plan.partLength number
  validateExpiry expiresIn
  presigningConfig expiresIn
  let request : UploadPartInput := { address := session.address, partNumber := number.get }
  let request :=
    match contentMd5 with
    | some md5 => { request with contentMd5 := some md5.value }
    | none => request
  .ok { partNumber := number, contentLength, contentMd5 := contentMd5.map PartMd5.value, request }

/-- `presign_part`. -/
def presignPart (session : PresignedMultipart) (number : PartNumber) (expiresIn : Duration) :
    Except Error PresignedUploadPart :=
  session.presignPartInner number none expiresIn

/-- `presign_part_with_md5`. -/
def presignPartWithMd5 (session : PresignedMultipart) (number : PartNumber)
    (contentMd5 : PartMd5) (expiresIn : Duration) : Except Error PresignedUploadPart :=
  session.presignPartInner number (some contentMd5) expiresIn

end PresignedMultipart

/-- One call of `presign_part` or `presign_part_with_md5`. -/
inductive PresignCall where
  | part (number : PartNumber) (expiresIn : Duration)
  | partWithMd5 (number : PartNumber) (contentMd5 : PartMd5) (expiresIn : Duration)

namespace PresignCall

/-- The part that is asked for. -/
def number : PresignCall → PartNumber
  | part number _ => number
  | partWithMd5 number _ _ => number

/-- The digest that is bound, if one is. -/
def contentMd5 : PresignCall → Option PartMd5
  | part _ _ => none
  | partWithMd5 _ contentMd5 _ => some contentMd5

/-- How long the request is to be valid. -/
def expiresIn : PresignCall → Duration
  | part _ expiresIn => expiresIn
  | partWithMd5 _ _ expiresIn => expiresIn

/-- What the call returns. -/
def run (session : PresignedMultipart) : PresignCall → Except Error PresignedUploadPart
  | part number expiresIn => session.presignPart number expiresIn
  | partWithMd5 number contentMd5 expiresIn =>
      session.presignPartWithMd5 number contentMd5 expiresIn

theorem run_eq (session : PresignedMultipart) (call : PresignCall) :
    call.run session =
      session.presignPartInner call.number call.contentMd5 call.expiresIn := by
  cases call <;> rfl

end PresignCall

/-- The headers an uploader sends. -/
structure UploadHeaders where
  contentLength : Nat
  contentMd5 : Option String
  deriving DecidableEq

/-- R2's part of an upload through a presigned request: the signed headers are repeated, the
    body has the length it is sent with, and it has the digest it is sent with. -/
def UploadPartInput.accepts (md5 : List UInt8 → List UInt8) (request : UploadPartInput)
    (headers : UploadHeaders) (body : List UInt8) : Bool :=
  (request.contentLength.isNone || request.contentLength == some headers.contentLength) &&
    (request.contentMd5.isNone || request.contentMd5 == headers.contentMd5) &&
    headers.contentLength == body.length &&
    (headers.contentMd5.isNone || headers.contentMd5 == some (Base64.encode (md5 body)))

/-- The requests handed out and the parts stored. -/
structure UploaderState where
  issued : List UploadPartInput
  parts : Nat → Option (List UInt8)

/-- An uploader has a part presigned, or sends a body to a request it was handed. -/
inductive UploaderEvent where
  | presign (call : PresignCall)
  | upload (index : Nat) (headers : UploadHeaders) (body : List UInt8)

/-- An uploader that gets presigned requests and uses them as it likes. -/
def uploader (md5 : List UInt8 → List UInt8) (session : PresignedMultipart) :
    Machine UploaderState UploaderEvent Unit where
  step state
    | .presign call =>
        match call.run session with
        | .error _ => some (state, [])
        | .ok presigned => some ({ state with issued := state.issued ++ [presigned.request] }, [])
    | .upload index headers body =>
        match state.issued[index]? with
        | none => none
        | some request =>
            if request.accepts md5 headers body then
              some ({ state with
                parts := Function.update state.parts request.partNumber (some body) }, [])
            else none

/-- Every stored part is a planned one of its planned length. -/
def ExactParts (plan : MultipartPlan) (parts : Nat → Option (List UInt8)) : Prop :=
  ∀ number body, parts number = some body →
    ∃ planned : PartNumber, planned.get = number ∧ plan.partLength planned = .ok body.length

/-- The bytes stored under the numbers of the plan. -/
def storedBytes (plan : MultipartPlan) (parts : Nat → Option (List UInt8)) : Nat :=
  (plan.numbers.map (fun number => ((parts number.get).map List.length).getD 0)).sum

/-- Exact parts never hold more than the file. -/
theorem ExactParts.storedBytes_le {plan : MultipartPlan} {parts : Nat → Option (List UInt8)}
    (exact_parts : ExactParts plan parts) : storedBytes plan parts ≤ plan.fileSize := by
  rw [← plan.sum_partLength, storedBytes]
  apply List.sum_le_sum
  intro number member
  cases stored : parts number.get with
  | none => exact Nat.zero_le _
  | some body =>
      obtain ⟨planned, same, length⟩ := exact_parts number.get body stored
      have named : planned = number := PartNumber.ext same
      subst named
      have short := (plan.partLength_eq_ok_iff.mp length).2
      exact Nat.le_of_eq short

/-- What makes a call harmless: it is rejected, or it signs a digest that only bodies of the
    planned length have. -/
def BindsLength (md5 : List UInt8 → List UInt8) (session : PresignedMultipart)
    (call : PresignCall) : Prop :=
  session.plan.partCount < call.number.get ∨
    call.expiresIn < Duration.fromSecs 1 ∨ Duration.fromSecs maxPresignSeconds < call.expiresIn ∨
    ∃ digest, call.contentMd5 = some digest ∧ ∀ body : List UInt8,
      Base64.encode (md5 body) = digest.value →
        session.plan.partLength call.number = .ok body.length

section Uploads

variable {md5 : List UInt8 → List UInt8} {session : PresignedMultipart}

/-- What a presigning call that succeeds returns. -/
theorem presignPartInner_eq_ok_iff {number : PartNumber} {contentMd5 : Option PartMd5}
    {expiresIn : Duration} {presigned : PresignedUploadPart} :
    session.presignPartInner number contentMd5 expiresIn = .ok presigned ↔
      number.get ≤ session.plan.partCount ∧
        (Duration.fromSecs 1 ≤ expiresIn ∧ expiresIn ≤ Duration.fromSecs maxPresignSeconds) ∧
        presigned = {
          partNumber := number
          contentLength :=
            blockLength session.plan.fileSize session.plan.partSize number.index
          contentMd5 := contentMd5.map PartMd5.value
          request := {
            address := session.address, partNumber := number.get
            contentMd5 := contentMd5.map PartMd5.value } } := by
  simp only [PresignedMultipart.presignPartInner, bind_eq_ok_iff]
  constructor
  · rintro ⟨length, planned, ⟨⟩, timely, ⟨⟩, -, accepted⟩
    obtain ⟨inside, rfl⟩ := session.plan.partLength_eq_ok_iff.mp planned
    refine ⟨inside, validateExpiry_ok_iff.mp timely, ?_⟩
    cases accepted
    cases contentMd5 <;> rfl
  · rintro ⟨inside, timely, rfl⟩
    refine ⟨_, session.plan.partLength_eq inside, (), validateExpiry_ok_iff.mpr timely, (), ?_, ?_⟩
    · exact if_neg (Nat.not_lt.mpr timely.2)
    · cases contentMd5 <;> rfl

/-- An upload through the request of a harmless call stores a part of the planned length. -/
theorem length_of_accepts {call : PresignCall} {presigned : PresignedUploadPart}
    {headers : UploadHeaders} {body : List UInt8} (binds : BindsLength md5 session call)
    (signed : call.run session = .ok presigned)
    (accepted : presigned.request.accepts md5 headers body = true) :
    presigned.request.partNumber = call.number.get ∧
      session.plan.partLength call.number = .ok body.length := by
  rw [PresignCall.run_eq] at signed
  obtain ⟨planned, timely, rfl⟩ := presignPartInner_eq_ok_iff.mp signed
  refine ⟨rfl, ?_⟩
  rcases binds with outside | early | late | ⟨digest, carried, preimages⟩
  · omega
  · exact absurd timely.1 (Nat.not_le.mpr early)
  · exact absurd timely.2 (Nat.not_le.mpr late)
  · apply preimages
    simp only [UploadPartInput.accepts, carried, Option.map_some, Option.isNone_some,
      Bool.false_or, Bool.and_eq_true, beq_iff_eq] at accepted
    obtain ⟨⟨⟨-, sent⟩, -⟩, checked⟩ := accepted
    rw [← sent] at checked
    have digest_of_body : digest.value = Base64.encode (md5 body) := by simpa using checked
    exact digest_of_body.symm

/-- A call that is not harmless lets the uploader store a part of another length. -/
theorem exists_wrong_upload {call : PresignCall} (unbound : ¬ BindsLength md5 session call) :
    ∃ presigned headers body, call.run session = .ok presigned ∧
      presigned.request.accepts md5 headers body = true ∧
      presigned.request.partNumber = call.number.get ∧
      session.plan.partLength call.number ≠ .ok body.length := by
  simp only [BindsLength, not_or, not_exists, not_and, Nat.not_lt] at unbound
  obtain ⟨planned, late, early, preimages⟩ := unbound
  have signed : call.run session = .ok {
      partNumber := call.number
      contentLength :=
        blockLength session.plan.fileSize session.plan.partSize call.number.index
      contentMd5 := call.contentMd5.map PartMd5.value
      request := {
        address := session.address, partNumber := call.number.get
        contentMd5 := call.contentMd5.map PartMd5.value } } := by
    rw [PresignCall.run_eq]
    exact presignPartInner_eq_ok_iff.mpr ⟨planned, ⟨late, early⟩, rfl⟩
  cases carried : call.contentMd5 with
  | none =>
      let length := blockLength session.plan.fileSize session.plan.partSize call.number.index
      refine ⟨_, ⟨length + 1, none⟩, List.replicate (length + 1) 0, signed, ?_, rfl, ?_⟩
      · simp [UploadPartInput.accepts, carried]
      · rw [session.plan.partLength_eq planned, List.length_replicate]
        intro same
        exact absurd (Except.ok.inj same) (Nat.ne_of_lt (Nat.lt_succ_self length))
  | some digest =>
      have misses := preimages digest carried
      simp only [not_forall] at misses
      obtain ⟨body, digest_of_body, wrong⟩ := misses
      refine ⟨_, ⟨body.length, some digest.value⟩, body, signed, ?_, rfl, wrong⟩
      simp [UploadPartInput.accepts, carried, digest_of_body]

/-- What every run keeps when only harmless calls are made: each request handed out comes
    from one of them, and the stored parts are exact. -/
theorem uploader_invariant {allowed : PresignCall → Prop} {stored : Nat → Option (List UInt8)}
    {history : History UploaderEvent Unit} {state : UploaderState}
    (binds : ∀ call, allowed call → BindsLength md5 session call)
    (exact_parts : ExactParts session.plan stored)
    (run : (uploader md5 session).Reaches ⟨[], stored⟩ history state)
    (calls : ∀ call, .presign call ∈ history.events → allowed call) :
    (∀ request ∈ state.issued, ∃ call presigned, allowed call ∧
      call.run session = .ok presigned ∧ presigned.request = request) ∧
    ExactParts session.plan state.parts := by
  induction run with
  | refl => exact ⟨List.forall_mem_nil _, exact_parts⟩
  | snoc before taken ih =>
      rename_i earlier event after out
      have earlier_calls := fun call made => calls call (History.mem_events_snoc.mpr (Or.inl made))
      obtain ⟨issued, kept⟩ := ih earlier_calls
      cases event with
      | presign call =>
          have permitted := calls call (History.mem_events_snoc.mpr (Or.inr rfl))
          simp only [uploader] at taken
          split at taken
          · cases taken
            exact ⟨issued, kept⟩
          · rename_i presigned signed
            cases taken
            refine ⟨?_, kept⟩
            intro request member
            rcases List.mem_append.mp member with old | new
            · exact issued request old
            · rw [List.mem_singleton] at new
              exact ⟨call, presigned, permitted, signed, new.symm⟩
      | upload index headers body =>
          simp only [uploader] at taken
          split at taken
          · cases taken
          · rename_i request found
            split at taken
            · rename_i accepted
              cases taken
              refine ⟨issued, ?_⟩
              obtain ⟨call, presigned, permitted, signed, rfl⟩ :=
                issued request (List.mem_of_getElem? found)
              obtain ⟨target, length⟩ :=
                length_of_accepts (binds call permitted) signed accepted
              intro number content at_number
              simp only [Function.update_apply] at at_number
              split at at_number
              · rename_i same
                cases at_number
                exact ⟨call.number, by rw [same, target], length⟩
              · exact kept number content at_number
            · cases taken

/-- The parts an uploader can store have the planned lengths exactly when every presigning
    call it gets an answer to is harmless. -/
theorem uploader_exact_iff (md5 : List UInt8 → List UInt8) (session : PresignedMultipart)
    (allowed : PresignCall → Prop) :
    (∀ stored history state, ExactParts session.plan stored →
        (uploader md5 session).Reaches ⟨[], stored⟩ history state →
        (∀ call, .presign call ∈ history.events → allowed call) →
        ExactParts session.plan state.parts ∧
          storedBytes session.plan state.parts ≤ session.plan.fileSize) ↔
      ∀ call, allowed call → BindsLength md5 session call := by
  constructor
  · intro exact_runs call permitted
    by_contra unbound
    obtain ⟨presigned, headers, body, signed, accepted, target, wrong⟩ :=
      exists_wrong_upload unbound
    have nothing : ExactParts session.plan (fun _ => none) := fun _ _ found => nomatch found
    have presigning : (uploader md5 session).step ⟨[], fun _ => none⟩ (.presign call) =
        some (⟨[presigned.request], fun _ => none⟩, []) := by
      simp [uploader, signed]
    have uploading : (uploader md5 session).step ⟨[presigned.request], fun _ => none⟩
        (.upload 0 headers body) =
        some (⟨[presigned.request], Function.update (fun _ => none) presigned.request.partNumber
          (some body)⟩, []) := by
      simp [uploader, accepted]
    have run := (Machine.Reaches.single presigning).snoc uploading
    have exact_parts := (exact_runs _ _ _ nothing run (by simp [History.events, permitted])).1
    have wrongly_stored : Function.update (fun _ => none) presigned.request.partNumber
        (some body) presigned.request.partNumber = some body := Function.update_self _ _ _
    obtain ⟨planned, same, length⟩ := exact_parts _ _ wrongly_stored
    have named : planned = call.number := PartNumber.ext (same.trans target)
    rw [named] at length
    exact wrong length
  · intro binds stored history state exact_parts run calls
    have kept := (uploader_invariant binds exact_parts run calls).2
    exact ⟨kept, kept.storedBytes_le⟩

/-- Through the request of `presign_part` an uploader stores four bytes where three are
    planned. -/
theorem presignPart_stores_wrong_length :
    ∃ history state,
      (uploader (fun _ => List.replicate 16 0) .tiny).Reaches ⟨[], fun _ => none⟩ history state ∧
        history.events = [.presign (.part ⟨1, by decide⟩ (Duration.fromSecs 3600)),
          .upload 0 ⟨4, none⟩ [1, 2, 3, 4]] ∧
        ¬ ExactParts PresignedMultipart.tiny.plan state.parts := by
  have executed : ((uploader (fun _ => List.replicate 16 0) .tiny).exec ⟨[], fun _ => none⟩
      [.presign (.part ⟨1, by decide⟩ (Duration.fromSecs 3600)),
        .upload 0 ⟨4, none⟩ [1, 2, 3, 4]]).map (fun final => final.2.parts 1) =
      some (some [1, 2, 3, 4]) := by decide
  obtain ⟨⟨history, state⟩, reached, stored⟩ := Option.map_eq_some_iff.mp executed
  refine ⟨history, state, Machine.reaches_of_exec reached, Machine.events_of_exec reached, ?_⟩
  intro exact_parts
  obtain ⟨planned, first, length⟩ := exact_parts 1 _ stored
  have short := (MultipartPlan.partLength_eq_ok_iff _).mp length
  have at_start : planned.index = 0 := by rw [PartNumber.index, first]
  rw [at_start] at short
  exact absurd short.2 (by decide)

end Uploads

end R2kit
