import Mathlib.Data.List.ReduceOption
import R2kit.Multipart.Session

/-!
# Reconciliation with the parts stored remotely

`PresignedMultipart::reconcile` of `src/multipart.rs`: the pages of `ListParts` are read one
after the other into one slot for each planned part. The invariant of the loop is
`Slotted`: slot `i` holds a part with number `i + 1` or nothing. Under it no index is out of
bounds and the `expect` at the end does not fail.
-/

namespace R2kit

/-- `u16::try_from(i32)`. -/
def u16TryFrom (value : Int) : Option Nat :=
  if 0 ≤ value ∧ value < 2 ^ 16 then some value.toNat else none

/-- `u64::try_from(i64)`. -/
def u64TryFrom (value : Int) : Option Nat :=
  if 0 ≤ value then some value.toNat else none

/-- The slots of `reconcile`. -/
abbrev Slots := List (Option UploadedPart)

/-- The loop variables of `reconcile`. -/
structure ReconcileState where
  marker : Option String
  uploaded : Slots
  deriving DecidableEq

/-- What a listing has in common with the plan, and what it lacks. -/
structure MultipartReconciliation where
  uploadedParts : List UploadedPart
  missingParts : List PartNumber
  deriving DecidableEq

/-- `is_complete`. -/
def MultipartReconciliation.isComplete (reconciliation : MultipartReconciliation) : Bool :=
  reconciliation.missingParts.isEmpty

/-- `into_completion_manifest`: nothing may be missing. -/
def MultipartReconciliation.intoCompletionManifest
    (reconciliation : MultipartReconciliation) : Except Error CompletionManifest :=
  if reconciliation.missingParts ≠ [] then
    .error (.invalidInput "remote_parts" "multipart upload is missing planned parts")
  else CompletionManifest.tryFromParts reconciliation.uploadedParts

/-- The checks on one listed part, up to the slot it goes to. -/
def checkRemote (plan : MultipartPlan) (remote : RemotePart) : Except Error UploadedPart :=
  match remote.partNumber with
  | none => .error (.service "ListParts")
  | some rawNumber =>
      match (u16TryFrom rawNumber).bind (fun value => (PartNumber.tryFrom value).toOption) with
      | none => .error (.invalidInput "remote_parts" "contains an invalid part number")
      | some number =>
          match plan.partLength number with
          | .error _ =>
              .error (.invalidInput "remote_parts" "contains a part outside the upload plan")
          | .ok expectedSize =>
              if remote.size.bind u64TryFrom ≠ some expectedSize then
                .error (.invalidInput "remote_parts" "contains a part with an unexpected size")
              else
                match remote.eTag with
                | none => .error (.service "ListParts")
                | some etag => UploadedPart.new number etag

/-- Puts a part into its slot. -/
def fillSlot (uploaded : Slots) (part : UploadedPart) : Outcome Slots :=
  match uploaded[part.partNumber.get - 1]? with
  | none => .error (.panic "uploaded[number - 1]")
  | some (some _) =>
      .error (.error (.invalidInput "remote_parts" "contains a duplicate part number"))
  | some none => .ok (uploaded.set (part.partNumber.get - 1) (some part))

/-- The loop over the parts of one page. -/
def readPage (plan : MultipartPlan) (uploaded : Slots) : List RemotePart → Outcome Slots
  | [] => .ok uploaded
  | remote :: rest =>
      match checkRemote plan remote with
      | .error error => .error (.error error)
      | .ok part =>
          match fillSlot uploaded part with
          | .error fault => .error fault
          | .ok uploaded => readPage plan uploaded rest

/-- The loop that splits the slots into uploaded and missing parts, from a slot index on. -/
def splitSlots (index : Nat) : Slots → Outcome (List UploadedPart × List PartNumber)
  | [] => .ok ([], [])
  | some part :: rest =>
      match splitSlots (index + 1) rest with
      | .error fault => .error fault
      | .ok (uploaded, missing) => .ok (part :: uploaded, missing)
  | none :: rest =>
      match PartNumber.tryFrom (asU16 (asU16 index + 1)) with
      | .error _ => .error (.panic "planned part numbers are valid")
      | .ok number =>
          match splitSlots (index + 1) rest with
          | .error fault => .error fault
          | .ok (uploaded, missing) => .ok (uploaded, number :: missing)

namespace ReconcileState

/-- The reconciliation before its first page. -/
def start (plan : MultipartPlan) : ReconcileState where
  marker := none
  uploaded := List.replicate plan.partCount none

/-- The request for the next page. -/
def request (session : PresignedMultipart) (state : ReconcileState) : Request :=
  session.request (.listParts 1000 state.marker)

/-- What a page leads to: the state to ask for another page in, or the result. -/
inductive Next where
  | listing (state : ReconcileState)
  | done (reconciliation : MultipartReconciliation)
  deriving DecidableEq

/-- One iteration of the loop, from the answer on; after the last page, the split. -/
def onAnswer (plan : MultipartPlan) (state : ReconcileState)
    (answer : Except SdkError ListPartsOutput) : Outcome Next :=
  match answer with
  | .error error => .error (.error (.remoteError "ListParts" error))
  | .ok output =>
      match readPage plan state.uploaded output.parts with
      | .error fault => .error fault
      | .ok uploaded =>
          if output.isTruncated ≠ some true then
            match splitSlots 0 uploaded with
            | .error fault => .error fault
            | .ok (uploadedParts, missingParts) => .ok (.done ⟨uploadedParts, missingParts⟩)
          else
            match output.nextPartNumberMarker with
            | none => .error (.error (.service "ListParts"))
            | some marker => .ok (.listing ⟨some marker, uploaded⟩)

end ReconcileState

section Reading

variable {plan : MultipartPlan}

theorem u16TryFrom_eq_some_iff {raw : Int} {value : Nat} :
    u16TryFrom raw = some value ↔ raw = value ∧ value < 2 ^ 16 := by
  simp only [u16TryFrom]
  split
  · rw [Option.some.injEq]
    omega
  · simp only [reduceCtorEq, false_iff]
    omega

theorem u64TryFrom_eq_some_iff {raw : Int} {value : Nat} :
    u64TryFrom raw = some value ↔ raw = value := by
  simp only [u64TryFrom]
  split
  · rw [Option.some.injEq]
    omega
  · simp only [reduceCtorEq, false_iff]
    omega

/-- A listed part that passes every check, and the part it is recorded as. -/
structure Describes (plan : MultipartPlan) (remote : RemotePart) (part : UploadedPart) :
    Prop where
  number : remote.partNumber = some (part.partNumber.get : Int)
  planned : part.partNumber.get ≤ plan.partCount
  size : ∃ length : Nat, remote.size = some (length : Int) ∧
    plan.partLength part.partNumber = .ok length
  etag : remote.eTag = some part.etag

theorem rawNumber_iff {raw : Int} {number : PartNumber} :
    (u16TryFrom raw).bind (fun value => (PartNumber.tryFrom value).toOption) = some number ↔
      raw = (number.get : Int) := by
  rw [Option.bind_eq_some_iff]
  constructor
  · rintro ⟨value, narrowed, accepted⟩
    obtain ⟨rfl, -⟩ := u16TryFrom_eq_some_iff.mp narrowed
    cases tried : PartNumber.tryFrom value with
    | error _ => rw [tried] at accepted; cases accepted
    | ok found =>
        rw [tried] at accepted
        cases accepted
        rw [PartNumber.tryFrom_eq_ok_iff.mp tried]
  · rintro rfl
    have bound := number.valid.2
    simp only [maxParts] at bound
    refine ⟨number.get, u16TryFrom_eq_some_iff.mpr ⟨rfl, by omega⟩, ?_⟩
    rw [PartNumber.tryFrom_get]
    rfl

theorem checkRemote_eq_ok_iff {remote : RemotePart} {part : UploadedPart} :
    checkRemote plan remote = .ok part ↔ Describes plan remote part := by
  constructor
  · intro accepted
    unfold checkRemote at accepted
    split at accepted
    · cases accepted
    · rename_i raw hraw
      split at accepted
      · cases accepted
      · rename_i number hnumber
        obtain rfl := rawNumber_iff.mp hnumber
        split at accepted
        · cases accepted
        · rename_i expected hexpected
          split at accepted
          · cases accepted
          · rename_i hsize
            rw [not_not, Option.bind_eq_some_iff] at hsize
            obtain ⟨size, listed, hsize⟩ := hsize
            split at accepted
            · cases accepted
            · rename_i etag hetag
              obtain ⟨rfl, rfl⟩ := UploadedPart.new_eq_ok_iff.mp accepted
              have planned := (plan.partLength_eq_ok_iff.mp hexpected).1
              rw [u64TryFrom_eq_some_iff.mp hsize] at listed
              exact ⟨hraw, planned, ⟨expected, listed, hexpected⟩, hetag⟩
  · rintro ⟨hnumber, planned, ⟨length, hsize, hlength⟩, hetag⟩
    have found : (u16TryFrom part.partNumber.get).bind
        (fun value => (PartNumber.tryFrom value).toOption) = some part.partNumber :=
      rawNumber_iff.mpr rfl
    have agrees : (some (length : Int)).bind u64TryFrom = some length := by
      rw [Option.bind_some]
      exact u64TryFrom_eq_some_iff.mpr rfl
    unfold checkRemote
    split
    · rename_i absent
      rw [hnumber] at absent
      cases absent
    · rename_i raw hraw
      rw [hnumber] at hraw
      cases hraw
      split
      · rename_i invalid
        rw [found] at invalid
        cases invalid
      · rename_i number hvalid
        rw [found] at hvalid
        cases hvalid
        rw [hlength, hsize, hetag]
        dsimp only
        rw [agrees, if_neg (by simp)]
        exact UploadedPart.new_eq_ok_iff.mpr ⟨rfl, rfl⟩

/-- The loop invariant: one slot for each planned number, holding that part or nothing. -/
def Slotted (plan : MultipartPlan) (uploaded : Slots) : Prop :=
  uploaded.length = plan.partCount ∧
    ∀ (index : Nat) (part : UploadedPart), uploaded[index]? = some (some part) →
      part.partNumber.index = index

theorem slotted_start : Slotted plan (ReconcileState.start plan).uploaded := by
  refine ⟨List.length_replicate, ?_⟩
  intro index part found
  simp [ReconcileState.start, List.getElem?_replicate] at found

/-- Filling a slot of a planned part does not index out of bounds. -/
theorem fillSlot_not_panic {uploaded : Slots} {part : UploadedPart}
    (slotted : Slotted plan uploaded) (planned : part.partNumber.get ≤ plan.partCount)
    (site : String) : fillSlot uploaded part ≠ .error (.panic site) := by
  have inside : part.partNumber.get - 1 < uploaded.length := by
    rw [slotted.1]
    exact plan.index_lt planned
  unfold fillSlot
  rw [List.getElem?_eq_getElem inside]
  split <;> simp_all

theorem fillSlot_eq_ok_iff {uploaded filled : Slots} {part : UploadedPart} :
    fillSlot uploaded part = .ok filled ↔
      uploaded[part.partNumber.index]? = some none ∧
        filled = uploaded.set part.partNumber.index (some part) := by
  unfold fillSlot PartNumber.index
  split
  · rename_i outside
    simp [outside]
  · rename_i taken
    simp [taken]
  · rename_i free
    simp [free, eq_comm]

theorem Slotted.fill {uploaded filled : Slots} {part : UploadedPart}
    (slotted : Slotted plan uploaded) (accepted : fillSlot uploaded part = .ok filled) :
    Slotted plan filled := by
  obtain ⟨-, rfl⟩ := fillSlot_eq_ok_iff.mp accepted
  refine ⟨by rw [List.length_set, slotted.1], ?_⟩
  intro index other found
  rw [List.getElem?_set] at found
  split at found
  · rename_i same
    split at found
    · simp only [Option.some.injEq] at found
      rw [← found, same]
    · cases found
  · exact slotted.2 index other found

/-- The parts in the slots. -/
def recorded (uploaded : Slots) : List UploadedPart := uploaded.reduceOption

theorem mem_recorded {uploaded : Slots} {part : UploadedPart} :
    part ∈ recorded uploaded ↔ some part ∈ uploaded :=
  List.reduceOption_mem_iff

theorem mem_recorded_fill {uploaded filled : Slots} {part other : UploadedPart}
    (accepted : fillSlot uploaded part = .ok filled) (member : other ∈ recorded filled) :
    other = part ∨ other ∈ recorded uploaded := by
  obtain ⟨-, rfl⟩ := fillSlot_eq_ok_iff.mp accepted
  rw [mem_recorded] at member ⊢
  rcases List.mem_or_eq_of_mem_set member with old | new
  · exact Or.inr old
  · simp only [Option.some.injEq] at new
    exact Or.inl new

/-- A page is accepted entry by entry. -/
theorem readPage_cons_eq_ok_iff {uploaded read : Slots} {remote : RemotePart}
    {rest : List RemotePart} :
    readPage plan uploaded (remote :: rest) = .ok read ↔
      ∃ part filled, checkRemote plan remote = .ok part ∧ fillSlot uploaded part = .ok filled ∧
        readPage plan filled rest = .ok read := by
  rw [readPage]
  cases checked : checkRemote plan remote with
  | error error => simp only [reduceCtorEq, false_and, exists_false]
  | ok part =>
      cases placed : fillSlot uploaded part with
      | error fault => simp [placed]
      | ok filled => simp [placed]

/-- A page that is accepted keeps the invariant, and records nothing but what it lists. -/
theorem readPage_ok {uploaded read : Slots} {parts : List RemotePart}
    (slotted : Slotted plan uploaded) (accepted : readPage plan uploaded parts = .ok read) :
    Slotted plan read ∧ ∀ part ∈ recorded read,
      part ∈ recorded uploaded ∨ ∃ remote ∈ parts, Describes plan remote part := by
  induction parts generalizing uploaded with
  | nil =>
      cases accepted
      exact ⟨slotted, fun part member => Or.inl member⟩
  | cons remote rest ih =>
      obtain ⟨part, filled, checked, placed, later⟩ := readPage_cons_eq_ok_iff.mp accepted
      obtain ⟨kept, sources⟩ := ih (slotted.fill placed) later
      refine ⟨kept, ?_⟩
      intro other member
      rcases sources other member with before | ⟨listed, among, describes⟩
      · rcases mem_recorded_fill placed before with rfl | before
        · exact Or.inr ⟨remote, List.mem_cons_self, checkRemote_eq_ok_iff.mp checked⟩
        · exact Or.inl before
      · exact Or.inr ⟨listed, List.mem_cons_of_mem _ among, describes⟩

theorem mem_recorded_of_fill {uploaded filled : Slots} {part : UploadedPart}
    (accepted : fillSlot uploaded part = .ok filled) :
    part ∈ recorded filled ∧ ∀ other ∈ recorded uploaded, other ∈ recorded filled := by
  obtain ⟨free, rfl⟩ := fillSlot_eq_ok_iff.mp accepted
  obtain ⟨inside, empty⟩ := List.getElem?_eq_some_iff.mp free
  simp only [mem_recorded]
  refine ⟨List.mem_iff_getElem?.mpr ⟨part.partNumber.index, ?_⟩, ?_⟩
  · rw [List.getElem?_set_self inside]
  · intro other member
    obtain ⟨index, found⟩ := List.mem_iff_getElem?.mp member
    refine List.mem_iff_getElem?.mpr ⟨index, ?_⟩
    rw [List.getElem?_set_ne, found]
    rintro rfl
    rw [free] at found
    cases found

/-- A page that is accepted is recorded entirely, and nothing is forgotten. -/
theorem readPage_records {uploaded read : Slots} {parts : List RemotePart}
    (accepted : readPage plan uploaded parts = .ok read) :
    (∀ part ∈ recorded uploaded, part ∈ recorded read) ∧
      ∀ remote ∈ parts, ∃ part ∈ recorded read, Describes plan remote part := by
  induction parts generalizing uploaded with
  | nil =>
      cases accepted
      exact ⟨fun part member => member, by simp⟩
  | cons remote rest ih =>
      obtain ⟨part, filled, checked, placed, after⟩ := readPage_cons_eq_ok_iff.mp accepted
      obtain ⟨kept, listed⟩ := ih after
      obtain ⟨new, old⟩ := mem_recorded_of_fill placed
      refine ⟨fun other member => kept other (old other member), ?_⟩
      intro other member
      rcases List.mem_cons.mp member with rfl | later
      · exact ⟨part, kept part new, checkRemote_eq_ok_iff.mp checked⟩
      · exact listed other later

theorem readPage_not_panic {uploaded : Slots} {parts : List RemotePart} {site : String}
    (slotted : Slotted plan uploaded) :
    readPage plan uploaded parts ≠ .error (.panic site) := by
  induction parts generalizing uploaded with
  | nil => exact fun failed => nomatch failed
  | cons remote rest ih =>
      intro failed
      unfold readPage at failed
      split at failed
      · cases failed
      · rename_i part checked
        have planned := (checkRemote_eq_ok_iff.mp checked).planned
        split at failed
        · rename_i fault hfault
          cases failed
          exact fillSlot_not_panic slotted planned site hfault
        · rename_i filled hfilled
          exact ih (slotted.fill hfilled) failed

/-- The slots from `base` on hold parts with the numbers of their positions. -/
theorem splitSlots_eq {base : Nat} {slots : Slots} (bound : base + slots.length ≤ maxParts)
    (placed : ∀ (index : Nat) (part : UploadedPart), slots[index]? = some (some part) →
      part.partNumber.index = base + index) :
    ∃ missing, splitSlots base slots = .ok (recorded slots, missing) ∧
      missing.map PartNumber.index =
        ((slots.zipIdx base).filter (fun slot => slot.1.isNone)).map Prod.snd ∧
      (recorded slots).map (fun part => part.partNumber.index) =
        ((slots.zipIdx base).filter (fun slot => slot.1.isSome)).map Prod.snd := by
  induction slots generalizing base with
  | nil => exact ⟨[], rfl, rfl, rfl⟩
  | cons slot rest ih =>
      rw [List.length_cons] at bound
      have later : ∀ (index : Nat) (part : UploadedPart), rest[index]? = some (some part) →
          part.partNumber.index = base + 1 + index := by
        intro index part found
        have := placed (index + 1) part found
        omega
      have inside : base + 1 + rest.length ≤ maxParts := by omega
      obtain ⟨missing, split, lost, kept⟩ := ih inside later
      cases slot with
      | some part =>
          refine ⟨missing, ?_, ?_, ?_⟩
          · simp [splitSlots, split, recorded, List.reduceOption_cons_of_some]
          · simpa using lost
          · have first := placed 0 part rfl
            have shape : recorded (some part :: rest) = part :: recorded rest :=
              List.reduceOption_cons_of_some part rest
            rw [shape, List.map_cons, kept, first, Nat.add_zero]
            simp
      | none =>
          have small : base < 2 ^ 16 - 1 := by
            simp only [maxParts] at bound
            omega
          have narrow : asU16 (asU16 base + 1) = base + 1 := by
            have first : asU16 base = base := asU16_eq (by omega)
            rw [first, asU16_eq (by omega)]
          have valid : 1 ≤ base + 1 ∧ base + 1 ≤ maxParts := by omega
          refine ⟨⟨base + 1, valid⟩ :: missing, ?_, ?_, ?_⟩
          · simp [splitSlots, narrow, PartNumber.tryFrom, valid.2, split, recorded,
              List.reduceOption_cons_of_none]
          · rw [List.map_cons, lost]
            simp [PartNumber.index]
          · have shape : recorded (none :: rest) = recorded rest :=
              List.reduceOption_cons_of_none rest
            rw [shape, kept]
            simp

/-- What the split makes of the slots: the recorded parts ascend, and the missing numbers
    are the others. -/
theorem Slotted.split {uploaded : Slots} (slotted : Slotted plan uploaded) :
    ∃ missing, splitSlots 0 uploaded = .ok (recorded uploaded, missing) ∧
      missing.map PartNumber.index =
        (uploaded.zipIdx.filter (fun slot => slot.1.isNone)).map Prod.snd ∧
      (recorded uploaded).map (fun part => part.partNumber.index) =
        (uploaded.zipIdx.filter (fun slot => slot.1.isSome)).map Prod.snd := by
  apply splitSlots_eq
  · rw [slotted.1, Nat.zero_add]
    exact plan.partCount_le
  · intro index part found
    rw [slotted.2 index part found, Nat.zero_add]

end Reading

section Answers

variable {plan : MultipartPlan} {P : UploadedPart → Prop} {state : ReconcileState}

/-- The loop invariant together with a property of everything recorded so far. -/
structure ReconcileState.Sound (plan : MultipartPlan) (P : UploadedPart → Prop)
    (state : ReconcileState) : Prop where
  slotted : Slotted plan state.uploaded
  holds : ∀ part ∈ recorded state.uploaded, P part

/-- What a result says of the plan, with a property of everything it lists as uploaded. -/
structure Reconciled (plan : MultipartPlan) (P : UploadedPart → Prop)
    (reconciliation : MultipartReconciliation) : Prop where
  holds : ∀ part ∈ reconciliation.uploadedParts, P part
  planned : ∀ part ∈ reconciliation.uploadedParts, part.partNumber.get ≤ plan.partCount
  distinct : (reconciliation.uploadedParts.map UploadedPart.partNumber).Nodup
  complete : reconciliation.missingParts = [] →
    reconciliation.uploadedParts.map UploadedPart.partNumber = plan.numbers

/-- What holds after an accepted answer. -/
def ReconcileState.Next.Sound (plan : MultipartPlan) (P : UploadedPart → Prop) :
    ReconcileState.Next → Prop
  | .listing state => state.Sound plan P
  | .done reconciliation => Reconciled plan P reconciliation

theorem sound_start : (ReconcileState.start plan).Sound plan P := by
  refine ⟨slotted_start, ?_⟩
  intro part member
  simp [recorded, ReconcileState.start, List.reduceOption_replicate_none] at member

/-- The result of splitting the slots. -/
theorem Slotted.reconciled {uploaded : Slots} {parts : List UploadedPart}
    {missing : List PartNumber} (slotted : Slotted plan uploaded)
    (holds : ∀ part ∈ recorded uploaded, P part)
    (split : splitSlots 0 uploaded = .ok (parts, missing)) :
    Reconciled plan P ⟨parts, missing⟩ := by
  obtain ⟨others, result, lost, kept⟩ := slotted.split
  rw [result] at split
  cases split
  have positions : uploaded.zipIdx.map Prod.snd = List.range plan.partCount := by
    rw [List.zipIdx_map_snd, slotted.1, List.range_eq_range']
  have indices : (recorded uploaded).map (fun part => part.partNumber.index) =
      ((recorded uploaded).map UploadedPart.partNumber).map PartNumber.index := by
    rw [List.map_map]
    rfl
  have within : ((recorded uploaded).map (fun part => part.partNumber.index)).Sublist
      (List.range plan.partCount) := by
    rw [kept, ← positions]
    exact List.filter_sublist.map Prod.snd
  refine ⟨holds, ?_, ?_, ?_⟩
  · intro part member
    have small := List.mem_range.mp (within.subset (List.mem_map_of_mem member))
    have := part.partNumber.index_add_one
    omega
  · apply List.Nodup.of_map PartNumber.index
    rw [← indices]
    exact within.nodup List.nodup_range
  · rintro rfl
    have all_filled : uploaded.zipIdx.filter (fun slot => slot.1.isSome) = uploaded.zipIdx := by
      rw [List.filter_eq_self]
      intro slot member
      by_contra empty
      have among : slot ∈ uploaded.zipIdx.filter (fun slot => slot.1.isNone) := by
        rw [List.mem_filter]
        exact ⟨member, by simpa using empty⟩
      have found := List.mem_map_of_mem (f := Prod.snd) among
      rw [← lost] at found
      simp at found
    rw [all_filled, positions, ← plan.map_index_numbers, indices] at kept
    exact List.map_injective_iff.mpr (fun _ _ => PartNumber.index_inj) kept

/-- What an accepted answer leads to. -/
theorem onAnswer_ok {answer : Except SdkError ListPartsOutput} {next : ReconcileState.Next}
    (sound : state.Sound plan P)
    (listed : ∀ output, answer = .ok output → ∀ remote ∈ output.parts, ∀ part,
      Describes plan remote part → P part)
    (accepted : state.onAnswer plan answer = .ok next) : next.Sound plan P := by
  unfold ReconcileState.onAnswer at accepted
  cases answer with
  | error error => cases accepted
  | ok output =>
    dsimp only at accepted
    split at accepted
    · cases accepted
    · rename_i read page
      obtain ⟨slotted, sources⟩ := readPage_ok sound.slotted page
      have holds : ∀ part ∈ recorded read, P part := by
        intro part member
        rcases sources part member with before | ⟨remote, among, describes⟩
        · exact sound.holds part before
        · exact listed output rfl remote among part describes
      split at accepted
      · split at accepted
        · cases accepted
        · rename_i parts missing split
          cases accepted
          exact slotted.reconciled holds split
      · split at accepted
        · cases accepted
        · cases accepted
          exact ⟨slotted, holds⟩

/-- The parts known after an answer. -/
def ReconcileState.Next.recorded : ReconcileState.Next → List UploadedPart
  | .listing state => R2kit.recorded state.uploaded
  | .done reconciliation => reconciliation.uploadedParts

/-- An accepted answer forgets nothing and records every part it lists. -/
theorem onAnswer_records {output : ListPartsOutput} {next : ReconcileState.Next}
    (slotted : Slotted plan state.uploaded)
    (accepted : state.onAnswer plan (.ok output) = .ok next) :
    (∀ part ∈ recorded state.uploaded, part ∈ next.recorded) ∧
      ∀ remote ∈ output.parts, ∃ part ∈ next.recorded, Describes plan remote part := by
  unfold ReconcileState.onAnswer at accepted
  dsimp only at accepted
  split at accepted
  · cases accepted
  · rename_i read page
    have records := readPage_records page
    obtain ⟨missing, result, -⟩ := (readPage_ok slotted page).1.split
    split at accepted
    · rw [result] at accepted
      cases accepted
      exact records
    · split at accepted
      · cases accepted
      · cases accepted
        exact records

/-- `reconcile` never indexes out of bounds and never fails an `expect`. -/
theorem onAnswer_not_panic {answer : Except SdkError ListPartsOutput} {site : String}
    (slotted : Slotted plan state.uploaded) :
    state.onAnswer plan answer ≠ .error (.panic site) := by
  intro failed
  unfold ReconcileState.onAnswer at failed
  split at failed
  · cases failed
  · split at failed
    · rename_i fault hfault
      cases failed
      exact readPage_not_panic slotted hfault
    · rename_i read page
      obtain ⟨missing, result, -⟩ := (readPage_ok slotted page).1.split
      split at failed
      · split at failed
        · rename_i fault hfault
          rw [result] at hfault
          cases hfault
        · cases failed
      · split at failed
        · cases failed
        · cases failed

end Answers

end R2kit
