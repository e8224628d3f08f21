import Mathlib.Data.List.Sort
import R2kit.Multipart.Reconcile

/-!
# The loop of `reconcile` against a server

`PresignedMultipart::reconcile` of `src/multipart.rs`, with everything the server answers. The
pages matter only through the list of their entries: the loop is one `readPage` over it, then
the split. Whether it ends is another matter: a page without entries that asks to go on makes
no progress.
-/

namespace R2kit

/-- A server: what it answers, given the requests sent so far with the current one last. -/
abbrev ListServer := List Request → Except SdkError ListPartsOutput

/-- A run of `reconcile` that has returned, with what it sent. -/
structure ReconcileRun where
  result : Outcome MultipartReconciliation
  requests : List Request
  deriving DecidableEq

namespace PresignedMultipart

/-- The loop of `reconcile` from a state on, for at most `fuel` requests. -/
def reconcileLoop (session : PresignedMultipart) (server : ListServer) :
    (fuel : Nat) → (sent : List Request) → ReconcileState → Option ReconcileRun
  | 0, _, _ => none
  | fuel + 1, sent, state =>
      let sent := sent ++ [state.request session]
      match state.onAnswer session.plan (server sent) with
      | .error fault => some ⟨.error fault, sent⟩
      | .ok (.done reconciliation) => some ⟨.ok reconciliation, sent⟩
      | .ok (.listing next) => session.reconcileLoop server fuel sent next

/-- `reconcile`, for at most `fuel` requests. -/
def reconcile (session : PresignedMultipart) (server : ListServer) (fuel : Nat) :
    Option ReconcileRun :=
  session.reconcileLoop server fuel [] (ReconcileState.start session.plan)

end PresignedMultipart

section Records

variable {plan : MultipartPlan}

theorem recorded_start : recorded (ReconcileState.start plan).uploaded = [] := by
  simp [recorded, ReconcileState.start, List.reduceOption_replicate_none]

theorem recorded_fill {uploaded filled : Slots} {part : UploadedPart}
    (accepted : fillSlot uploaded part = .ok filled) :
    (recorded filled).Perm (part :: recorded uploaded) := by
  obtain ⟨free, rfl⟩ := fillSlot_eq_ok_iff.mp accepted
  obtain ⟨inside, empty⟩ := List.getElem?_eq_some_iff.mp free
  have before : uploaded = uploaded.take part.partNumber.index ++
      none :: uploaded.drop (part.partNumber.index + 1) := by
    rw [← empty, List.getElem_cons_drop, List.take_append_drop]
  have after : uploaded.set part.partNumber.index (some part) =
      uploaded.take part.partNumber.index ++
        some part :: uploaded.drop (part.partNumber.index + 1) :=
    List.set_eq_take_append_cons_drop.trans (if_pos inside)
  have old : recorded uploaded = recorded (uploaded.take part.partNumber.index) ++
      recorded (uploaded.drop (part.partNumber.index + 1)) := by
    conv_lhs => rw [before]
    simp [recorded, List.reduceOption_append, List.reduceOption_cons_of_none]
  rw [after, old]
  simp only [recorded, List.reduceOption_append, List.reduceOption_cons_of_some]
  exact List.perm_middle

/-- An accepted page records, next to what was there, one part for each of its entries. -/
theorem readPage_perm {uploaded read : Slots} {parts : List RemotePart}
    (accepted : readPage plan uploaded parts = .ok read) :
    ∃ listed, List.Forall₂ (Describes plan) parts listed ∧
      (recorded read).Perm (listed ++ recorded uploaded) := by
  induction parts generalizing uploaded with
  | nil =>
      cases accepted
      exact ⟨[], .nil, .rfl⟩
  | cons remote rest ih =>
      obtain ⟨part, filled, checked, placed, later⟩ := readPage_cons_eq_ok_iff.mp accepted
      obtain ⟨listed, describes, same⟩ := ih later
      refine ⟨part :: listed, .cons (checkRemote_eq_ok_iff.mp checked) describes, ?_⟩
      calc List.Perm (recorded read) (listed ++ recorded filled) := same
        List.Perm _ (listed ++ part :: recorded uploaded) :=
          (recorded_fill placed).append_left listed
        List.Perm _ (part :: listed ++ recorded uploaded) := List.perm_middle

/-- The numbers in the slots are distinct. -/
theorem Slotted.nodup {uploaded : Slots} (slotted : Slotted plan uploaded) :
    ((recorded uploaded).map UploadedPart.partNumber).Nodup := by
  obtain ⟨missing, split, -⟩ := slotted.split
  exact (slotted.reconciled (P := fun _ => True) (fun _ _ => trivial) split).distinct

/-- Every entry of the list describes a planned part, and no two the same one. -/
def Acceptable (plan : MultipartPlan) (entries : List RemotePart) : Prop :=
  (∀ remote ∈ entries, ∃ part, Describes plan remote part) ∧
    (entries.map RemotePart.partNumber).Nodup

theorem Acceptable.perm {first second : List RemotePart} (same : first.Perm second)
    (acceptable : Acceptable plan first) : Acceptable plan second :=
  ⟨fun remote member => acceptable.1 remote (same.mem_iff.mpr member),
    (same.map _).nodup_iff.mp acceptable.2⟩

theorem exists_describes {entries : List RemotePart}
    (described : ∀ remote ∈ entries, ∃ part, Describes plan remote part) :
    ∃ listed, List.Forall₂ (Describes plan) entries listed := by
  induction entries with
  | nil => exact ⟨[], .nil⟩
  | cons remote rest ih =>
      obtain ⟨part, head⟩ := described remote List.mem_cons_self
      obtain ⟨listed, tail⟩ := ih (fun other member =>
        described other (List.mem_cons_of_mem _ member))
      exact ⟨part :: listed, .cons head tail⟩

/-- The number of an entry is that of the part it describes. -/
theorem map_partNumber_eq {entries : List RemotePart} {listed : List UploadedPart}
    (describes : List.Forall₂ (Describes plan) entries listed) :
    entries.map RemotePart.partNumber =
      listed.map (fun part => some (part.partNumber.get : Int)) := by
  induction describes with
  | nil => rfl
  | cons head _ ih => rw [List.map_cons, List.map_cons, ih, head.number]

theorem nodup_partNumber_iff {entries : List RemotePart} {listed : List UploadedPart}
    (describes : List.Forall₂ (Describes plan) entries listed) :
    (entries.map RemotePart.partNumber).Nodup ↔
      (listed.map UploadedPart.partNumber).Nodup := by
  have injective : Function.Injective (fun number : PartNumber => some (number.get : Int)) := by
    intro first second same
    apply PartNumber.ext
    simpa using same
  have through : listed.map (fun part => some (part.partNumber.get : Int)) =
      (listed.map UploadedPart.partNumber).map (fun number => some (number.get : Int)) := by
    rw [List.map_map]
    rfl
  rw [map_partNumber_eq describes, through, List.nodup_map_iff injective]

/-- A planned part whose number is not recorded goes to a free slot. -/
theorem Slotted.fillSlot_ok {uploaded : Slots} {part : UploadedPart}
    (slotted : Slotted plan uploaded) (planned : part.partNumber.get ≤ plan.partCount)
    (fresh : part.partNumber ∉ (recorded uploaded).map UploadedPart.partNumber) :
    ∃ filled, fillSlot uploaded part = .ok filled := by
  have inside : part.partNumber.index < uploaded.length := by
    rw [slotted.1]
    exact plan.index_lt planned
  refine ⟨_, fillSlot_eq_ok_iff.mpr ⟨?_, rfl⟩⟩
  rw [List.getElem?_eq_getElem inside]
  cases found : uploaded[part.partNumber.index] with
  | none => rfl
  | some other =>
      have taken : uploaded[part.partNumber.index]? = some (some other) := by
        rw [List.getElem?_eq_getElem inside, found]
      have same := PartNumber.index_inj (slotted.2 _ other taken)
      exact absurd (List.mem_map.mpr
        ⟨other, mem_recorded.mpr (List.mem_of_getElem? taken), same⟩) fresh

/-- A page is accepted as soon as its entries describe parts whose numbers are distinct and
    not recorded yet. -/
theorem Slotted.readPage_ok {uploaded : Slots} {parts : List RemotePart}
    {listed : List UploadedPart} (slotted : Slotted plan uploaded)
    (describes : List.Forall₂ (Describes plan) parts listed)
    (distinct : ((listed ++ recorded uploaded).map UploadedPart.partNumber).Nodup) :
    ∃ read, readPage plan uploaded parts = .ok read := by
  induction describes generalizing uploaded with
  | nil => exact ⟨uploaded, rfl⟩
  | @cons remote part rest others head _ ih =>
      rw [List.cons_append, List.map_cons, List.nodup_cons] at distinct
      have fresh : part.partNumber ∉ (recorded uploaded).map UploadedPart.partNumber := by
        intro taken
        rw [List.map_append, List.mem_append] at distinct
        exact distinct.1 (Or.inr taken)
      obtain ⟨filled, hfilled⟩ := slotted.fillSlot_ok head.planned fresh
      have shape : (others ++ recorded filled).Perm (part :: (others ++ recorded uploaded)) :=
        ((recorded_fill hfilled).append_left others).trans List.perm_middle
      have still : ((others ++ recorded filled).map UploadedPart.partNumber).Nodup := by
        rw [(shape.map _).nodup_iff, List.map_cons, List.nodup_cons]
        exact distinct
      obtain ⟨read, later⟩ := ih (slotted.fill hfilled) still
      refine ⟨read, readPage_cons_eq_ok_iff.mpr ?_⟩
      exact ⟨part, filled, checkRemote_eq_ok_iff.mpr head, hfilled, later⟩

/-- The whole list is read exactly when it is acceptable. -/
theorem readPage_start_ok_iff {entries : List RemotePart} :
    (∃ read, readPage plan (ReconcileState.start plan).uploaded entries = .ok read) ↔
      Acceptable plan entries := by
  constructor
  · intro ⟨read, accepted⟩
    obtain ⟨listed, describes, same⟩ := readPage_perm accepted
    rw [recorded_start, List.append_nil] at same
    refine ⟨?_, ?_⟩
    · intro remote member
      obtain ⟨part, _, found⟩ := (readPage_records accepted).2 remote member
      exact ⟨part, found⟩
    · rw [nodup_partNumber_iff describes, ← (same.map _).nodup_iff]
      exact (R2kit.readPage_ok slotted_start accepted).1.nodup
  · intro ⟨described, distinct⟩
    obtain ⟨listed, describes⟩ := exists_describes described
    apply slotted_start.readPage_ok describes
    rw [recorded_start, List.append_nil]
    exact (nodup_partNumber_iff describes).mp distinct

end Records

section Pages

variable {plan : MultipartPlan}

theorem readPage_append (uploaded : Slots) (first second : List RemotePart) :
    readPage plan uploaded (first ++ second) =
      (readPage plan uploaded first).bind (fun read => readPage plan read second) := by
  induction first generalizing uploaded with
  | nil => rfl
  | cons remote rest ih =>
      simp only [List.cons_append, readPage]
      cases checkRemote plan remote with
      | error error => rfl
      | ok part =>
          dsimp only
          cases fillSlot uploaded part with
          | error fault => rfl
          | ok filled => exact ih filled

/-- Pages that go on with a marker, up to one that does not. -/
inductive PageSequence : List ListPartsOutput → Prop
  | last {page} (ends : page.isTruncated ≠ some true) : PageSequence [page]
  | more {page marker rest} (truncated : page.isTruncated = some true)
      (next : page.nextPartNumberMarker = some marker) (later : PageSequence rest) :
      PageSequence (page :: rest)

/-- The server answers the requests with these pages, one after the other. -/
def Delivers (server : ListServer) (pages : List ListPartsOutput) : Prop :=
  ∀ (index : Nat) (page : ListPartsOutput) (sent : List Request), pages[index]? = some page →
    sent.length = index + 1 → server sent = .ok page

/-- All the entries of the pages. -/
def entriesOf (pages : List ListPartsOutput) : List RemotePart :=
  pages.flatMap ListPartsOutput.parts

/-- What `reconcile` makes of the slots after the last page. -/
def settleSlots (read : Outcome Slots) : Outcome MultipartReconciliation :=
  read.bind (fun uploaded =>
    (splitSlots 0 uploaded).map (fun split => ⟨split.1, split.2⟩))

/-- Over a sequence of pages the loop reads the list of their entries, wherever it is cut. -/
theorem reconcileLoop_pages {session : PresignedMultipart} {server : ListServer}
    {pages : List ListPartsOutput} (paged : PageSequence pages) {fuel : Nat}
    {sent : List Request} {state : ReconcileState} (enough : pages.length ≤ fuel)
    (delivers : ∀ (index : Nat) (page : ListPartsOutput) (requests : List Request),
      pages[index]? = some page → requests.length = sent.length + index + 1 →
        server requests = .ok page) :
    ∃ requests, session.reconcileLoop server fuel sent state =
      some ⟨settleSlots (readPage session.plan state.uploaded (entriesOf pages)), requests⟩ := by
  induction paged generalizing fuel sent state with
  | @last page ends =>
      obtain ⟨fuel, rfl⟩ := Nat.exists_eq_succ_of_ne_zero (Nat.ne_of_gt enough)
      have answer := delivers 0 page (sent ++ [state.request session]) rfl (by simp)
      refine ⟨sent ++ [state.request session], ?_⟩
      simp only [PresignedMultipart.reconcileLoop, answer, ReconcileState.onAnswer, entriesOf,
        List.flatMap_cons, List.flatMap_nil, List.append_nil, if_pos ends, settleSlots]
      cases readPage session.plan state.uploaded page.parts with
      | error fault => rfl
      | ok read =>
          simp only [Except.bind]
          cases splitSlots 0 read <;> rfl
  | @more page marker rest truncated next _ ih =>
      obtain ⟨fuel, rfl⟩ := Nat.exists_eq_succ_of_ne_zero
        (Nat.ne_of_gt (Nat.zero_lt_of_lt enough))
      have answer := delivers 0 page (sent ++ [state.request session]) rfl (by simp)
      have onward : ¬ page.isTruncated ≠ some true := not_not.mpr truncated
      simp only [PresignedMultipart.reconcileLoop, answer, ReconcileState.onAnswer, entriesOf,
        List.flatMap_cons, readPage_append, if_neg onward, next]
      cases readPage session.plan state.uploaded page.parts with
      | error fault => exact ⟨_, rfl⟩
      | ok read =>
          apply @ih fuel (sent ++ [state.request session]) ⟨some marker, read⟩
          · simpa using enough
          · intro index other requests found length
            apply delivers (index + 1) other requests found
            rw [List.length_append, List.length_singleton] at length
            omega

/-- What the reconciliation of these entries is: the parts they describe in ascending order,
    and the planned numbers that none of them has. -/
structure Specified (plan : MultipartPlan) (entries : List RemotePart)
    (reconciliation : MultipartReconciliation) : Prop where
  listed : ∃ parts, List.Forall₂ (Describes plan) entries parts ∧
    reconciliation.uploadedParts.Perm parts
  ascending : reconciliation.uploadedParts.Pairwise (fun first second =>
    compare first.partNumber second.partNumber = .lt)
  missing : reconciliation.missingParts = plan.numbers.filter (fun number =>
    number ∉ reconciliation.uploadedParts.map UploadedPart.partNumber)

/-- The recorded numbers are those whose slot is taken. -/
theorem Slotted.recorded_iff {uploaded : Slots} (slotted : Slotted plan uploaded)
    {number : PartNumber} (planned : number.get ≤ plan.partCount) :
    number ∈ (recorded uploaded).map UploadedPart.partNumber ↔
      uploaded[number.index]? ≠ some none := by
  have inside : number.index < uploaded.length := by
    rw [slotted.1]
    exact plan.index_lt planned
  rw [List.mem_map]
  constructor
  · rintro ⟨part, member, rfl⟩ free
    obtain ⟨index, found⟩ := List.mem_iff_getElem?.mp (mem_recorded.mp member)
    rw [slotted.2 index part found, found] at free
    cases free
  · intro taken
    cases slot : uploaded[number.index] with
    | none =>
        rw [List.getElem?_eq_getElem inside, slot] at taken
        exact absurd rfl taken
    | some part =>
        have found : uploaded[number.index]? = some (some part) := by
          rw [List.getElem?_eq_getElem inside, slot]
        exact ⟨part, mem_recorded.mpr (List.mem_of_getElem? found),
          PartNumber.index_inj (slotted.2 _ part found)⟩

/-- The indices of some of the slots ascend. -/
theorem pairwise_slots (uploaded : Slots) (keep : Option UploadedPart × Nat → Bool) :
    ((uploaded.zipIdx.filter keep).map Prod.snd).Pairwise (· < ·) := by
  have increasing : (uploaded.zipIdx.map Prod.snd).Pairwise (· < ·) := by
    rw [List.zipIdx_map_snd, ← List.range_eq_range']
    exact List.pairwise_lt_range
  exact increasing.sublist (List.filter_sublist.map Prod.snd)

/-- The vacant slots are those of the planned numbers that are not recorded. -/
theorem Slotted.vacant_iff {uploaded : Slots} (slotted : Slotted plan uploaded) (index : Nat) :
    uploaded[index]? = some none ↔
      index ∈ (plan.numbers.filter (fun number =>
        number ∉ (recorded uploaded).map UploadedPart.partNumber)).map PartNumber.index := by
  rw [List.mem_map]
  constructor
  · intro vacant
    have small : index < plan.partCount := by
      rw [← slotted.1]
      exact (List.getElem?_eq_some_iff.mp vacant).1
    have valid : 1 ≤ index + 1 ∧ index + 1 ≤ maxParts :=
      ⟨Nat.le_add_left 1 index, Nat.le_trans small plan.partCount_le⟩
    let number : PartNumber := ⟨index + 1, valid⟩
    have planned : number.get ≤ plan.partCount := small
    refine ⟨number, ?_, rfl⟩
    rw [List.mem_filter, decide_eq_true_iff, slotted.recorded_iff planned, not_not]
    exact ⟨plan.mem_numbers.mpr planned, vacant⟩
  · rintro ⟨number, member, rfl⟩
    rw [List.mem_filter, decide_eq_true_iff] at member
    have planned := plan.mem_numbers.mp member.1
    rw [slotted.recorded_iff planned, not_not] at member
    exact member.2

/-- The recorded parts ascend, and the missing numbers are the other planned ones. -/
theorem Slotted.specified {uploaded : Slots} (slotted : Slotted plan uploaded) :
    ∃ missing, splitSlots 0 uploaded = .ok (recorded uploaded, missing) ∧
      (recorded uploaded).Pairwise (fun first second =>
        compare first.partNumber second.partNumber = .lt) ∧
      missing = plan.numbers.filter (fun number =>
        number ∉ (recorded uploaded).map UploadedPart.partNumber) := by
  obtain ⟨missing, split, lost, kept⟩ := slotted.split
  refine ⟨missing, split, ?_, ?_⟩
  · have indices : ((recorded uploaded).map (fun part => part.partNumber.index)).Pairwise
        (· < ·) := by
      rw [kept]
      exact pairwise_slots uploaded _
    rw [List.pairwise_map] at indices
    apply indices.imp
    intro first second less
    have := first.partNumber.index_add_one
    have := second.partNumber.index_add_one
    rw [PartNumber.compare_eq, Nat.compare_eq_lt]
    omega
  · apply List.map_injective_iff.mpr (fun _ _ => PartNumber.index_inj)
    rw [lost]
    -- two ascending lists with the same members
    apply List.Pairwise.eq_of_mem_iff (r := (· < ·))
    · exact pairwise_slots uploaded _
    · have ordered : (plan.numbers.map PartNumber.index).Pairwise (· < ·) := by
        rw [plan.map_index_numbers]
        exact List.pairwise_lt_range
      exact ordered.sublist (List.filter_sublist.map PartNumber.index)
    · intro index
      have free : index ∈ (uploaded.zipIdx.filter (fun slot => slot.1.isNone)).map Prod.snd ↔
          uploaded[index]? = some none := by
        simp [List.mem_zipIdx_iff_getElem?]
      rw [free]
      exact slotted.vacant_iff index

/-- What `reconcile` makes of a list of entries. -/
def reconciled (plan : MultipartPlan) (entries : List RemotePart) :
    Outcome MultipartReconciliation :=
  settleSlots (readPage plan (ReconcileState.start plan).uploaded entries)

theorem reconciled_not_panic (entries : List RemotePart) (site : String) :
    reconciled plan entries ≠ .error (.panic site) := by
  rw [reconciled, settleSlots]
  cases page : readPage plan (ReconcileState.start plan).uploaded entries with
  | error fault =>
      intro failed
      cases failed
      exact readPage_not_panic slotted_start page
  | ok read =>
      obtain ⟨missing, split, -⟩ := (readPage_ok slotted_start page).1.split
      simp [Except.bind, split, Except.map]

/-- The parts that entries describe follow the order of the entries. -/
theorem describes_perm {first second : List RemotePart} {parts others : List UploadedPart}
    (describes : List.Forall₂ (Describes plan) first parts)
    (again : List.Forall₂ (Describes plan) second others) (same : first.Perm second) :
    parts.Perm others := by
  let key (part : UploadedPart) : Option Int × Option String :=
    (some (part.partNumber.get : Int), some part.etag)
  have injective : Function.Injective key := by
    rintro ⟨number, etag, _⟩ ⟨other, tag, _⟩ keys
    obtain ⟨numbers, rfl⟩ : (number.get : Int) = other.get ∧ etag = tag := by
      simpa [key] using keys
    obtain rfl := PartNumber.ext (Int.ofNat.inj numbers)
    rfl
  have keyed : ∀ {entries : List RemotePart} {listed : List UploadedPart},
      List.Forall₂ (Describes plan) entries listed →
        listed.map key = entries.map (fun remote => (remote.partNumber, remote.eTag)) := by
    intro entries listed described
    induction described with
    | nil => rfl
    | cons head _ ih => simp only [List.map_cons, ih, key, head.number, head.etag]
  rw [← List.map_perm_map_iff injective, keyed describes, keyed again]
  exact same.map _

/-- The specification leaves one reconciliation, whatever the order of the entries. -/
theorem Specified.unique {first second : List RemotePart}
    {reconciliation other : MultipartReconciliation} (same : first.Perm second)
    (specified : Specified plan first reconciliation) (again : Specified plan second other) :
    reconciliation = other := by
  obtain ⟨parts, describes, listed⟩ := specified.listed
  obtain ⟨others, redescribes, relisted⟩ := again.listed
  have uploaded : reconciliation.uploadedParts = other.uploadedParts :=
    Misc.eq_of_perm_of_ascending specified.ascending again.ascending
      (listed.trans ((describes_perm describes redescribes same).trans relisted.symm))
  have missing : reconciliation.missingParts = other.missingParts := by
    rw [specified.missing, again.missing, uploaded]
  cases reconciliation
  cases other
  simp_all

theorem Specified.perm {first second : List RemotePart}
    {reconciliation : MultipartReconciliation} (same : first.Perm second)
    (specified : Specified plan first reconciliation) :
    Specified plan second reconciliation := by
  obtain ⟨parts, describes, listed⟩ := specified.listed
  obtain ⟨others, redescribes, reordered⟩ := List.perm_comp_forall₂ same.symm describes
  exact ⟨⟨others, redescribes, listed.trans reordered.symm⟩, specified.ascending,
    specified.missing⟩

/-- What is read is reconciled as specified. -/
theorem reconciled_of_read {entries : List RemotePart} {read : Slots}
    (page : readPage plan (ReconcileState.start plan).uploaded entries = .ok read) :
    ∃ reconciliation, reconciled plan entries = .ok reconciliation ∧
      Specified plan entries reconciliation := by
  obtain ⟨missing, split, ascending, others⟩ := (readPage_ok slotted_start page).1.specified
  obtain ⟨listed, describes, same⟩ := readPage_perm page
  rw [recorded_start, List.append_nil] at same
  refine ⟨⟨recorded read, missing⟩, ?_, ⟨listed, describes, same⟩, ascending, others⟩
  simp [reconciled, settleSlots, page, Except.bind, split, Except.map]

theorem reconciled_specified {entries : List RemotePart}
    {reconciliation : MultipartReconciliation}
    (accepted : reconciled plan entries = .ok reconciliation) :
    Specified plan entries reconciliation := by
  cases page : readPage plan (ReconcileState.start plan).uploaded entries with
  | error fault =>
      rw [reconciled, settleSlots, page] at accepted
      cases accepted
  | ok read =>
      obtain ⟨found, same, specified⟩ := reconciled_of_read page
      rw [accepted] at same
      cases same
      exact specified

theorem reconciled_ok_iff {entries : List RemotePart} :
    (∃ reconciliation, reconciled plan entries = .ok reconciliation) ↔
      Acceptable plan entries := by
  rw [← readPage_start_ok_iff]
  constructor
  · intro ⟨reconciliation, accepted⟩
    cases page : readPage plan (ReconcileState.start plan).uploaded entries with
    | error fault =>
        rw [reconciled, settleSlots, page] at accepted
        cases accepted
    | ok read => exact ⟨read, rfl⟩
  · intro ⟨read, page⟩
    obtain ⟨reconciliation, accepted, -⟩ := reconciled_of_read page
    exact ⟨reconciliation, accepted⟩

/-- The error an entry is rejected with after these ones: that of its own checks, or that its
    number is there already. -/
def Rejects (plan : MultipartPlan) (before : List RemotePart) (remote : RemotePart)
    (error : Error) : Prop :=
  checkRemote plan remote = .error error ∨
    (∃ part, Describes plan remote part) ∧
      remote.partNumber ∈ before.map RemotePart.partNumber ∧
      error = .invalidInput "remote_parts" "contains a duplicate part number"

/-- Reading stops at an entry that is rejected, and the entries before it have been read. -/
theorem readPage_eq_error {uploaded : Slots} {parts : List RemotePart} {fault : Fault}
    (failed : readPage plan uploaded parts = .error fault) :
    ∃ before remote after read, parts = before ++ remote :: after ∧
      readPage plan uploaded before = .ok read ∧
      ((∃ error, checkRemote plan remote = .error error ∧ fault = .error error) ∨
        ∃ part, checkRemote plan remote = .ok part ∧ fillSlot read part = .error fault) := by
  induction parts generalizing uploaded with
  | nil => cases failed
  | cons remote rest ih =>
      rw [readPage] at failed
      split at failed
      · rename_i error rejected
        cases failed
        exact ⟨[], remote, rest, uploaded, rfl, rfl, Or.inl ⟨error, rejected, rfl⟩⟩
      · rename_i part checked
        split at failed
        · rename_i other taken
          cases failed
          exact ⟨[], remote, rest, uploaded, rfl, rfl, Or.inr ⟨part, checked, taken⟩⟩
        · rename_i filled placed
          obtain ⟨before, entry, after, read, rfl, accepted, stops⟩ := ih failed
          refine ⟨remote :: before, entry, after, read, rfl, ?_, stops⟩
          exact readPage_cons_eq_ok_iff.mpr ⟨part, filled, checked, placed, accepted⟩

/-- A planned part that does not go to its slot has a number that is recorded already. -/
theorem Slotted.fillSlot_error {uploaded : Slots} {part : UploadedPart} {fault : Fault}
    (slotted : Slotted plan uploaded) (planned : part.partNumber.get ≤ plan.partCount)
    (failed : fillSlot uploaded part = .error fault) :
    part.partNumber ∈ (recorded uploaded).map UploadedPart.partNumber ∧
      fault = .error (.invalidInput "remote_parts" "contains a duplicate part number") := by
  constructor
  · by_contra fresh
    obtain ⟨filled, placed⟩ := slotted.fillSlot_ok planned fresh
    rw [failed] at placed
    cases placed
  · have safe := fillSlot_not_panic slotted planned
    rw [failed] at safe
    unfold fillSlot at failed
    split at failed
    · cases failed
      exact absurd rfl (safe _)
    · cases failed
      rfl
    · cases failed

/-- An error of the loop is that of the first entry that is rejected. -/
theorem reconciled_error {entries : List RemotePart} {fault : Fault}
    (failed : reconciled plan entries = .error fault) :
    ∃ before remote after error, entries = before ++ remote :: after ∧ Acceptable plan before ∧
      Rejects plan before remote error ∧ fault = .error error := by
  cases page : readPage plan (ReconcileState.start plan).uploaded entries with
  | ok read =>
      obtain ⟨reconciliation, accepted, -⟩ := reconciled_of_read page
      rw [accepted] at failed
      cases failed
  | error other =>
      rw [reconciled, settleSlots, page] at failed
      cases failed
      obtain ⟨before, remote, after, read, rfl, accepted, stops⟩ := readPage_eq_error page
      have acceptable := readPage_start_ok_iff.mp ⟨read, accepted⟩
      rcases stops with ⟨error, rejected, rfl⟩ | ⟨part, checked, taken⟩
      · exact ⟨before, remote, after, error, rfl, acceptable, Or.inl rejected, rfl⟩
      · have describes := checkRemote_eq_ok_iff.mp checked
        obtain ⟨there, rfl⟩ :=
          (readPage_ok slotted_start accepted).1.fillSlot_error describes.planned taken
        refine ⟨before, remote, after, _, rfl, acceptable, Or.inr ⟨⟨part, describes⟩, ?_, rfl⟩, rfl⟩
        obtain ⟨listed, described, same⟩ := readPage_perm accepted
        rw [recorded_start, List.append_nil] at same
        obtain ⟨earlier, member, numbered⟩ := List.mem_map.mp ((same.map _).subset there)
        rw [map_partNumber_eq described, describes.number, ← numbered]
        exact List.mem_map_of_mem member

/-- The order of the entries makes no difference to the reconciliation. -/
theorem reconciled_perm {first second : List RemotePart} (same : first.Perm second) :
    (reconciled plan first).toOption = (reconciled plan second).toOption := by
  by_cases acceptable : Acceptable plan first
  · obtain ⟨reconciliation, accepted⟩ := reconciled_ok_iff.mpr acceptable
    obtain ⟨other, again⟩ := reconciled_ok_iff.mpr (acceptable.perm same)
    rw [accepted, again,
      (reconciled_specified accepted).unique same (reconciled_specified again)]
  · have rejected : ¬ Acceptable plan second := fun accepted =>
      acceptable (accepted.perm same.symm)
    rw [← reconciled_ok_iff] at acceptable rejected
    cases before : reconciled plan first with
    | ok reconciliation => exact absurd ⟨reconciliation, before⟩ acceptable
    | error fault =>
        cases after : reconciled plan second with
        | ok reconciliation => exact absurd ⟨reconciliation, after⟩ rejected
        | error other => rfl

/-- Nothing is missing exactly when every planned number is there. -/
theorem Specified.isComplete_iff {entries : List RemotePart}
    {reconciliation : MultipartReconciliation} (specified : Specified plan entries reconciliation) :
    reconciliation.isComplete = true ↔ ∀ number ∈ plan.numbers,
      number ∈ reconciliation.uploadedParts.map UploadedPart.partNumber := by
  rw [MultipartReconciliation.isComplete, List.isEmpty_iff, specified.missing,
    List.filter_eq_nil_iff]
  simp only [decide_eq_true_eq, not_not]

/-- A complete reconciliation makes a manifest, and no other does. -/
theorem Specified.manifest_iff {entries : List RemotePart}
    {reconciliation : MultipartReconciliation} (specified : Specified plan entries reconciliation) :
    (∃ manifest, reconciliation.intoCompletionManifest = .ok manifest) ↔
      reconciliation.isComplete = true := by
  rw [MultipartReconciliation.intoCompletionManifest, MultipartReconciliation.isComplete,
    List.isEmpty_iff]
  by_cases complete : reconciliation.missingParts = []
  · rw [if_neg (not_not.mpr complete)]
    refine iff_of_true ?_ complete
    have all_there := specified.isComplete_iff.mp (List.isEmpty_iff.mpr complete)
    have nonempty : reconciliation.uploadedParts ≠ [] := by
      intro none_there
      have first : plan.numbers ≠ [] := by
        intro none_planned
        have positive := plan.partCount_pos
        rw [← plan.length_numbers, none_planned] at positive
        cases positive
      obtain ⟨number, planned⟩ := List.exists_mem_of_ne_nil _ first
      have found := all_there number planned
      rw [none_there] at found
      cases found
    have distinct : (reconciliation.uploadedParts.map UploadedPart.partNumber).Nodup := by
      rw [List.Nodup, List.pairwise_map]
      apply specified.ascending.imp
      intro first second less same
      rw [same, Std.compare_self] at less
      cases less
    exact ⟨⟨reconciliation.uploadedParts, nonempty, specified.ascending⟩,
      CompletionManifest.tryFromParts_eq_ok_iff.mpr ⟨distinct, .rfl⟩⟩
  · rw [if_pos complete]
    exact iff_of_false (by simp) complete

end Pages

/-- Over any sequence of pages `reconcile` comes to what is specified for the entries, if they
    are acceptable, and otherwise to the error of the first one delivered that is rejected. Where
    the pages end makes no difference, nor does the order of the entries to the
    reconciliation. -/
theorem reconcile_specified (session : PresignedMultipart) (server : ListServer)
    (pages : List ListPartsOutput) (entries : List RemotePart) (paged : PageSequence pages)
    (delivers : Delivers server pages) (order : entries.Perm (entriesOf pages)) :
    ∃ result : Outcome MultipartReconciliation,
      (∀ fuel, pages.length ≤ fuel →
        ∃ requests, session.reconcile server fuel = some ⟨result, requests⟩) ∧
      (∀ site, result ≠ .error (.panic site)) ∧
      ((∃ reconciliation, result = .ok reconciliation) ↔ Acceptable session.plan entries) ∧
      (∀ reconciliation, result = .ok reconciliation →
        Specified session.plan entries reconciliation ∧
          (reconciliation.isComplete = true ↔ ∀ number ∈ session.plan.numbers,
            number ∈ reconciliation.uploadedParts.map UploadedPart.partNumber) ∧
          ((∃ manifest, reconciliation.intoCompletionManifest = .ok manifest) ↔
            reconciliation.isComplete = true)) ∧
      (∀ fault, result = .error fault → ∃ before remote after error,
        entriesOf pages = before ++ remote :: after ∧ Acceptable session.plan before ∧
          Rejects session.plan before remote error ∧ fault = .error error) ∧
      ∀ (other : ListServer) (others : List ListPartsOutput) (fuel : Nat) (run : ReconcileRun),
        PageSequence others → Delivers other others → others.length ≤ fuel →
        session.reconcile other fuel = some run →
          (entriesOf others = entriesOf pages → run.result = result) ∧
          (entries.Perm (entriesOf others) → run.result.toOption = result.toOption) := by
  have comes_to : ∀ {server : ListServer} {pages : List ListPartsOutput} {fuel : Nat},
      PageSequence pages → Delivers server pages → pages.length ≤ fuel →
      ∃ requests, session.reconcile server fuel =
        some ⟨reconciled session.plan (entriesOf pages), requests⟩ := by
    intro server pages fuel paged delivers enough
    apply reconcileLoop_pages paged enough
    intro index page requests found length
    exact delivers index page requests found (by simpa using length)
  refine ⟨reconciled session.plan (entriesOf pages), fun fuel enough => comes_to paged delivers
    enough, reconciled_not_panic _, ?_, ?_, ?_, ?_⟩
  · rw [reconciled_ok_iff]
    exact ⟨Acceptable.perm order.symm, Acceptable.perm order⟩
  · intro reconciliation accepted
    have specified := (reconciled_specified accepted).perm order.symm
    exact ⟨specified, specified.isComplete_iff, specified.manifest_iff⟩
  · intro fault failed
    exact reconciled_error failed
  · intro other others fuel run paged delivers enough returned
    obtain ⟨requests, came⟩ := comes_to paged delivers enough
    rw [came] at returned
    cases returned
    refine ⟨fun same => by rw [same], ?_⟩
    intro reordered
    exact reconciled_perm (reordered.symm.trans order)

/-- A page with these entries that goes on. -/
def ListPartsOutput.onward (parts : List RemotePart) : ListPartsOutput where
  parts := parts
  isTruncated := some true
  nextPartNumberMarker := some "next"

/-- A last page with these entries. -/
def ListPartsOutput.lastPage (parts : List RemotePart) : ListPartsOutput where
  parts := parts
  isTruncated := some false
  nextPartNumberMarker := none

/-- A server that answers with these pages, one after the other. -/
def ListServer.ofPages (pages : List ListPartsOutput) : ListServer := fun sent =>
  .ok (pages.getD (sent.length - 1) (.lastPage []))

/-- A server that answers every request with one last page. -/
def ListServer.onePage (parts : List RemotePart) : ListServer := fun _ =>
  .ok (.lastPage parts)

theorem delivers_ofPages (pages : List ListPartsOutput) : Delivers (.ofPages pages) pages := by
  intro index page sent found length
  have last : sent.length - 1 = index := by omega
  rw [ListServer.ofPages, last, List.getD_eq_getElem?_getD, found]
  rfl

/-- The first part of a listing of `PresignedMultipart.three`. -/
def RemotePart.first : RemotePart := ⟨some 1, some 5242880, some "\"a\""⟩

/-- The third part of such a listing. -/
def RemotePart.third : RemotePart := ⟨some 3, some 3, some "\"c\""⟩

/-- The last part is listed on a page before the first one, and the second is not listed. -/
theorem reconcile_specified_gap :
    ∃ reconciliation requests,
      PresignedMultipart.three.reconcile
          (.ofPages [.onward [.third], .onward [], .lastPage [.first]]) 3 =
        some ⟨.ok reconciliation, requests⟩ ∧
      Specified PresignedMultipart.three.plan [.first, .third] reconciliation ∧
      reconciliation.missingParts = [⟨2, by decide⟩] ∧ reconciliation.isComplete = false := by
  have paged : PageSequence [.onward [.third], .onward [], .lastPage [.first]] :=
    .more rfl rfl (.more rfl rfl (.last (by decide)))
  obtain ⟨result, returns, -, -, specified, -, -⟩ := reconcile_specified .three _ _
    [.first, .third] paged (delivers_ofPages _) (.swap _ _ _)
  obtain ⟨requests, returned⟩ := returns 3 (Nat.le_refl 3)
  have evaluated : (PresignedMultipart.three.reconcile
      (.ofPages [.onward [.third], .onward [], .lastPage [.first]]) 3).map ReconcileRun.result =
        some (.ok ⟨[⟨⟨1, by decide⟩, "\"a\"", by decide⟩, ⟨⟨3, by decide⟩, "\"c\"", by decide⟩],
          [⟨2, by decide⟩]⟩) := by decide
  rw [returned] at evaluated
  obtain rfl := Option.some.inj evaluated
  exact ⟨_, requests, returned, (specified _ rfl).1, rfl, rfl⟩

/-- Two entries that are both rejected, in either order: the error is that of the first. -/
theorem reconcile_error_by_order :
    ([⟨none, none, none⟩, ⟨some 0, none, none⟩] : List RemotePart).Perm
        [⟨some 0, none, none⟩, ⟨none, none, none⟩] ∧
      (PresignedMultipart.tiny.reconcile
          (.onePage [⟨none, none, none⟩, ⟨some 0, none, none⟩]) 1).map ReconcileRun.result =
        some (.error (.error (.service "ListParts"))) ∧
      (PresignedMultipart.tiny.reconcile
          (.onePage [⟨some 0, none, none⟩, ⟨none, none, none⟩]) 1).map ReconcileRun.result =
        some (.error (.error
          (.invalidInput "remote_parts" "contains an invalid part number"))) :=
  ⟨.swap _ _ _, by decide, by decide⟩

end R2kit
