import R2kit.Multipart.Create
import Mathlib.Logic.Function.Basic

/-!
# Multipart sessions on R2

What is assumed of R2, not translated from the crate: a session is live, committed or
aborted, and every request acts on it at once. `UploadPart` and `CompleteMultipartUpload` need
a live session, completion also that every listed part has the ETag stored for it, and an
abort needs a session that is not committed. A page of `ListParts` lists parts as they are
stored when the page is served; which ones, and in how many pages, is open.
-/

namespace R2kit

/-- ETags that tell different part contents apart. -/
structure EtagScheme where
  etag : List UInt8 → String
  distinct : ∀ first second, etag first = etag second → first = second

theorem toNat_ofNat_byte (byte : UInt8) : (Char.ofNat byte.toNat).toNat = byte.toNat := by
  have small := byte.toNat_lt
  have valid : byte.toNat.isValidChar := Or.inl (by omega)
  rw [Char.ofNat, dif_pos valid]
  rfl

/-- The scheme whose ETag is the content itself behind a letter. -/
def EtagScheme.plain : EtagScheme where
  etag body := String.ofList ('e' :: body.map (fun byte => Char.ofNat byte.toNat))
  distinct := by
    intro first second same
    have chars := String.ofList_injective same
    rw [List.cons.injEq] at chars
    refine List.map_injective_iff.mpr ?_ chars.2
    intro a b equal
    have codes := congrArg Char.toNat equal
    rw [toNat_ofNat_byte, toNat_ofNat_byte] at codes
    exact UInt8.toNat_inj.mp codes

theorem EtagScheme.plain_ne (body : List UInt8) : EtagScheme.plain.etag body ≠ "" := by
  intro empty
  simpa [EtagScheme.plain] using congrArg String.toList empty

/-- The parts a committed object consists of, in order. -/
abbrev CommittedObject := List (Nat × List UInt8)

/-- How far a session is. -/
inductive Status where
  | live
  | committed (object : CommittedObject)
  | aborted
  deriving DecidableEq

/-- A session on R2: its status and the body of each part. -/
structure RemoteSession where
  status : Status
  parts : Nat → Option (List UInt8)

/-- What the server is free to choose in an answer. -/
inductive Choice where
  | page (output : ListPartsOutput)
  | etag (eTag : Option String)
  | created (uploadId : Option String)
  | done

namespace RemoteSession

variable (scheme : EtagScheme)

/-- Whether a listed part is one the session has stored. -/
def lists (session : RemoteSession) (remote : RemotePart) : Bool :=
  match remote.partNumber with
  | none => false
  | some number =>
      match session.parts number.toNat with
      | none => false
      | some body =>
          number == (number.toNat : Int) && remote.size == some (body.length : Int) &&
            remote.eTag == some (scheme.etag body)

/-- The stored content of a part, if it has the given ETag. -/
def partWithEtag (session : RemoteSession) (part : CompletedPart) :
    Option (Nat × List UInt8) :=
  match session.parts part.partNumber with
  | none => none
  | some body => if scheme.etag body = part.eTag then some (part.partNumber, body) else none

/-- A part is stored; it replaces what was there. -/
def put (session : RemoteSession) (number : Nat) (body : List UInt8) : RemoteSession :=
  { session with parts := Function.update session.parts number (some body) }

/-- One request acting on a session. `none` is an error answer that changes nothing. -/
def serve (session : RemoteSession) : Operation → Choice → Option (RemoteSession × Response)
  | .listParts _ _, .page output =>
      if session.status = .live ∧ output.parts.all (session.lists scheme) = true then
        some (session, .listParts output)
      else none
  | .uploadPart number contentLength body, .etag eTag =>
      if session.status = .live ∧ contentLength = body.length ∧
          (eTag = none ∨ eTag = some (scheme.etag body)) then
        some (session.put number body, .uploadPart eTag)
      else none
  | .completeMultipartUpload parts, .etag eTag =>
      if session.status = .live then
        match parts.mapM (session.partWithEtag scheme) with
        | none => none
        | some object =>
            some ({ session with status := .committed object }, .completeMultipartUpload eTag)
      else none
  | .abortMultipartUpload, .done =>
      match session.status with
      | .committed _ => none
      | _ => some ({ session with status := .aborted }, .abortMultipartUpload)
  | _, _ => none

variable {scheme}

/-- What serving a request can come to, for a session that takes it. -/
inductive Serves (scheme : EtagScheme) (session : RemoteSession) :
    Operation → RemoteSession → Response → Prop
  | page {most marker output} (live : session.status = .live)
      (listed : ∀ part ∈ output.parts, session.lists scheme part = true) :
      Serves scheme session (.listParts most marker) session (.listParts output)
  | stored {number length body eTag} (live : session.status = .live)
      (sized : length = body.length) (told : eTag = none ∨ eTag = some (scheme.etag body)) :
      Serves scheme session (.uploadPart number length body) (session.put number body)
        (.uploadPart eTag)
  | committed {parts object eTag} (live : session.status = .live)
      (found : parts.mapM (session.partWithEtag scheme) = some object) :
      Serves scheme session (.completeMultipartUpload parts)
        { session with status := .committed object } (.completeMultipartUpload eTag)
  | aborted (uncommitted : ∀ object, session.status ≠ .committed object) :
      Serves scheme session .abortMultipartUpload { session with status := .aborted }
        .abortMultipartUpload

theorem serves_of_serve {session after : RemoteSession} {operation : Operation}
    {choice : Choice} {response : Response}
    (served : session.serve scheme operation choice = some (after, response)) :
    Serves scheme session operation after response := by
  unfold serve at served
  split at served
  · split at served
    · rename_i allowed
      cases served
      exact .page allowed.1 (List.all_eq_true.mp allowed.2)
    · cases served
  · split at served
    · rename_i allowed
      cases served
      exact .stored allowed.1 allowed.2.1 allowed.2.2
    · cases served
  · split at served
    · rename_i live
      split at served
      · cases served
      · rename_i object found
        cases served
        exact .committed live found
    · cases served
  · split at served
    · cases served
    · rename_i uncommitted
      cases served
      exact .aborted uncommitted
  · cases served

/-- An operation on a session keeps every stored part, but for the one it writes. -/
theorem Serves.parts {session after : RemoteSession} {operation : Operation}
    {response : Response} (serves : Serves scheme session operation after response)
    (number : Nat) :
    after.parts number = session.parts number ∨
      ∃ length body, operation = .uploadPart number length body ∧
        after.parts number = some body := by
  cases serves with
  | page live listed => exact Or.inl rfl
  | stored live sized told =>
      rename_i written length body eTag
      by_cases same : number = written
      · subst same
        exact Or.inr ⟨length, body, rfl, Function.update_self _ _ _⟩
      · exact Or.inl (Function.update_of_ne same _ _)
  | committed live found => exact Or.inl rfl
  | aborted uncommitted => exact Or.inl rfl

end RemoteSession

/-- All sessions of the account. -/
abbrev Remote := Address → Option RemoteSession

namespace Remote

variable (scheme : EtagScheme)

/-- A new live session under an upload ID that is not in use. -/
def create (remote : Remote) (input : CreateMultipartUploadInput) :
    Option String → Option (Remote × Response)
  | none => some (remote, .createMultipartUpload none)
  | some uploadId =>
      let address : Address := ⟨input.bucket, input.key, uploadId⟩
      if (remote address).isNone then
        some (Function.update remote address (some ⟨.live, fun _ => none⟩),
          .createMultipartUpload (some uploadId))
      else none

/-- A request about a session acting on the account. -/
def serveRequest (remote : Remote) (request : Request) (choice : Choice) :
    Option (Remote × Response) :=
  match remote request.address with
  | none => none
  | some session =>
      match session.serve scheme request.operation choice with
      | none => none
      | some (session, response) =>
          some (Function.update remote request.address (some session), response)

/-- A message acting on the account; a progress report is not one. -/
def serve (remote : Remote) : Effect → Choice → Option (Remote × Response)
  | .create input, .created uploadId => remote.create input uploadId
  | .send request, choice => remote.serveRequest scheme request choice
  | _, _ => none

/-- A part written by somebody who holds a presigned request. -/
structure UploaderPut where
  address : Address
  number : Nat
  body : List UInt8

/-- Somebody else's `UploadPart`. -/
def uploaderPut (remote : Remote) (put : UploaderPut) : Option Remote :=
  match remote put.address with
  | none => none
  | some session =>
      if session.status = .live then
        some (Function.update remote put.address (some (session.put put.number put.body)))
      else none

/-- The status of the session at an address. -/
def status (remote : Remote) (address : Address) : Option Status :=
  (remote address).map RemoteSession.status

/-- The statuses a session can still come to. -/
def Leads (before after : Option Status) : Prop :=
  after = before ∨ before = none ∨ before = some .live

variable {scheme}

/-- What serving a message can come to. -/
inductive Serves (scheme : EtagScheme) (remote : Remote) : Effect → Remote → Response → Prop
  | unnamed {input} : Serves scheme remote (.create input) remote (.createMultipartUpload none)
  | created {input uploadId} (fresh : remote ⟨input.bucket, input.key, uploadId⟩ = none) :
      Serves scheme remote (.create input)
        (Function.update remote ⟨input.bucket, input.key, uploadId⟩
          (some ⟨.live, fun _ => none⟩))
        (.createMultipartUpload (some uploadId))
  | acted {address operation session next response} (found : remote address = some session)
      (serves : session.Serves scheme operation next response) :
      Serves scheme remote (.send ⟨address, operation⟩)
        (Function.update remote address (some next)) response

theorem serves_of_serve {remote after : Remote} {effect : Effect} {choice : Choice}
    {response : Response}
    (served : remote.serve scheme effect choice = some (after, response)) :
    Serves scheme remote effect after response := by
  unfold serve at served
  split at served
  · unfold create at served
    split at served
    · cases served
      exact .unnamed
    · dsimp only at served
      split at served
      · rename_i fresh
        cases served
        exact .created (Option.isNone_iff_eq_none.mp fresh)
      · cases served
  · rename_i request
    obtain ⟨address, operation⟩ := request
    unfold serveRequest at served
    split at served
    · cases served
    · rename_i session found
      split at served
      · cases served
      · rename_i next answer acted
        cases served
        exact .acted found (RemoteSession.serves_of_serve acted)
  · cases served

/-- An operation on a session moves its status on, if at all. -/
theorem leads_of_serves {session after : RemoteSession} {operation : Operation}
    {response : Response} (serves : session.Serves scheme operation after response) :
    Leads (some session.status) (some after.status) := by
  cases serves with
  | page live listed => exact Or.inl rfl
  | stored live sized told => exact Or.inl rfl
  | committed live found => exact Or.inr (Or.inr (congrArg some live))
  | aborted uncommitted =>
      cases was : session.status with
      | live => exact Or.inr (Or.inr rfl)
      | committed object => exact absurd was (uncommitted object)
      | aborted => exact Or.inl rfl

/-- A message leaves other sessions alone and moves its own on. -/
theorem serve_leads {remote after : Remote} {effect : Effect} {choice : Choice}
    {response : Response} (served : remote.serve scheme effect choice = some (after, response))
    (address : Address) : Leads (remote.status address) (after.status address) := by
  cases serves_of_serve served with
  | unnamed => exact Or.inl rfl
  | created fresh =>
      rename_i input uploadId
      by_cases same : address = ⟨input.bucket, input.key, uploadId⟩
      · subst same
        refine Or.inr (Or.inl ?_)
        rw [status, fresh]
        rfl
      · simp only [status, Function.update_of_ne same]
        exact Or.inl rfl
  | acted found serves =>
      rename_i target operation session next
      by_cases same : address = target
      · subst same
        simp only [status, Function.update_self, found, Option.map_some]
        exact leads_of_serves serves
      · simp only [status, Function.update_of_ne same]
        exact Or.inl rfl

theorem uploaderPut_leads {remote after : Remote} {put : UploaderPut}
    (acted : remote.uploaderPut put = some after) (address : Address) :
    Leads (remote.status address) (after.status address) := by
  unfold uploaderPut at acted
  split at acted
  · cases acted
  · rename_i session found
    split at acted
    · rename_i live
      cases acted
      by_cases same : address = put.address
      · subst same
        refine Or.inr (Or.inr ?_)
        rw [status, found, Option.map_some, live]
      · simp only [status, Function.update_of_ne same]
        exact Or.inl rfl
    · cases acted

/-- What a committed object was checked against: numbers and ETags, one by one. -/
def Matches (scheme : EtagScheme) (object : CommittedObject) (parts : List CompletedPart) : Prop :=
  object.map (fun part => (part.1, scheme.etag part.2)) =
    parts.map (fun part => (part.partNumber, part.eTag))

/-- What an answer says for good: a listed part had some content of the listed size and ETag,
    a completion committed matching parts, an abort left the session aborted. -/
def Answered (scheme : EtagScheme) (remote : Remote) : Effect × Response → Prop
  | (_, .listParts output) => ∀ part ∈ output.parts, ∃ body : List UInt8,
      part.size = some (body.length : Int) ∧ part.eTag = some (scheme.etag body)
  | (.send ⟨address, .completeMultipartUpload parts⟩, .completeMultipartUpload _) =>
      ∃ object, remote.status address = some (.committed object) ∧ Matches scheme object parts
  | (.send ⟨address, .abortMultipartUpload⟩, .abortMultipartUpload) =>
      remote.status address = some .aborted
  | _ => True

theorem Answered.leads {before after : Remote} {answer : Effect × Response}
    (holds : Answered scheme before answer)
    (leads : ∀ address, Leads (before.status address) (after.status address)) :
    Answered scheme after answer := by
  unfold Answered at holds ⊢
  split
  · exact holds
  · obtain ⟨object, committed, matched⟩ := holds
    refine ⟨object, ?_, matched⟩
    rcases leads _ with same | absent | live
    · rw [same, committed]
    · rw [absent] at committed
      cases committed
    · rw [live] at committed
      cases committed
  · rename_i address
    have aborted : before.status address = some .aborted := holds
    rcases leads address with same | absent | live
    · rw [same, aborted]
    · rw [absent] at aborted
      cases aborted
    · rw [live] at aborted
      cases aborted
  · trivial

theorem partWithEtag_eq_some {session : RemoteSession} {part : CompletedPart}
    {stored : Nat × List UInt8} (found : session.partWithEtag scheme part = some stored) :
    (stored.1, scheme.etag stored.2) = (part.partNumber, part.eTag) := by
  unfold RemoteSession.partWithEtag at found
  split at found
  · cases found
  · split at found
    · rename_i same
      cases found
      rw [same]
    · cases found

/-- The parts found for a completion have the listed numbers and ETags. -/
theorem matches_of_mapM {session : RemoteSession} {parts : List CompletedPart}
    {object : CommittedObject}
    (found : parts.mapM (session.partWithEtag scheme) = some object) :
    Matches scheme object parts := by
  induction parts generalizing object with
  | nil =>
      cases found
      rfl
  | cons part rest ih =>
      rw [List.mapM_cons] at found
      obtain ⟨stored, head, found⟩ := Option.bind_eq_some_iff.mp found
      obtain ⟨others, later, found⟩ := Option.bind_eq_some_iff.mp found
      cases found
      have first := partWithEtag_eq_some head
      unfold Matches at ih ⊢
      rw [List.map_cons, List.map_cons, first, ih later]

/-- A listed part is stored. -/
theorem lists_eq_true {session : RemoteSession} {remote : RemotePart}
    (listed : session.lists scheme remote = true) :
    ∃ (number : Nat) (body : List UInt8), remote.partNumber = some (number : Int) ∧
      session.parts number = some body ∧ remote.size = some (body.length : Int) ∧
      remote.eTag = some (scheme.etag body) := by
  unfold RemoteSession.lists at listed
  split at listed
  · cases listed
  · rename_i number named
    split at listed
    · cases listed
    · rename_i body stored
      simp only [Bool.and_eq_true, beq_iff_eq] at listed
      exact ⟨number.toNat, body, by rw [named, ← listed.1.1], stored, listed.1.2, listed.2⟩

theorem serve_answered {remote after : Remote} {effect : Effect} {choice : Choice}
    {response : Response}
    (served : remote.serve scheme effect choice = some (after, response)) :
    Answered scheme after (effect, response) := by
  cases serves_of_serve served with
  | unnamed => trivial
  | created fresh => trivial
  | acted found serves =>
      cases serves with
      | page live listed =>
          intro part member
          obtain ⟨-, body, -, -, size, etag⟩ := lists_eq_true (listed part member)
          exact ⟨body, size, etag⟩
      | stored live sized told => trivial
      | committed live matched =>
          rename_i parts object eTag
          exact ⟨object, by simp [status], matches_of_mapM matched⟩
      | aborted uncommitted => simp [Answered, status]

/-- A session that appears is new. -/
theorem serve_fresh {remote after : Remote} {effect : Effect} {choice : Choice}
    {response : Response} (served : remote.serve scheme effect choice = some (after, response))
    {address : Address} (absent : remote address = none) {session : RemoteSession}
    (appears : after address = some session) : session = ⟨.live, fun _ => none⟩ := by
  cases serves_of_serve served with
  | unnamed =>
      rw [absent] at appears
      cases appears
  | created fresh =>
      rename_i input uploadId
      by_cases same : address = ⟨input.bucket, input.key, uploadId⟩
      · rw [same, Function.update_self] at appears
        exact (Option.some.inj appears).symm
      · rw [Function.update_of_ne same, absent] at appears
        cases appears
  | acted found serves =>
      rename_i target operation before next
      by_cases same : address = target
      · rw [← same, absent] at found
        cases found
      · rw [Function.update_of_ne same, absent] at appears
        cases appears

/-- A session that is committed was so before, or is by this completion. -/
theorem committed_of_serve {remote after : Remote} {effect : Effect} {choice : Choice}
    {response : Response} (served : remote.serve scheme effect choice = some (after, response))
    {address : Address} {object : CommittedObject}
    (committed : after.status address = some (.committed object)) :
    remote.status address = some (.committed object) ∨
      ∃ parts, effect = .send ⟨address, .completeMultipartUpload parts⟩ ∧
        Matches scheme object parts := by
  cases serves_of_serve served with
  | unnamed => exact Or.inl committed
  | created fresh =>
      rename_i input uploadId
      by_cases same : address = ⟨input.bucket, input.key, uploadId⟩
      · rw [status, same, Function.update_self] at committed
        cases committed
      · rw [status, Function.update_of_ne same] at committed
        exact Or.inl committed
  | acted found serves =>
      rename_i target operation session next
      by_cases same : address = target
      · subst same
        rw [status, Function.update_self, Option.map_some, Option.some.injEq] at committed
        rw [status, found, Option.map_some, Option.some.injEq]
        cases serves with
        | page live listed => exact Or.inl committed
        | stored live sized told => exact Or.inl committed
        | committed live matched =>
            obtain rfl := Status.committed.inj committed
            exact Or.inr ⟨_, rfl, matches_of_mapM matched⟩
        | aborted uncommitted => cases committed
      · rw [status, Function.update_of_ne same] at committed
        exact Or.inl committed

/-- A message keeps the stored parts of every session, but for the one it writes. -/
theorem serve_parts {remote after : Remote} {effect : Effect} {choice : Choice}
    {response : Response} (served : remote.serve scheme effect choice = some (after, response))
    {address : Address} {session : RemoteSession} (found : remote address = some session) :
    ∃ next, after address = some next ∧ ∀ number, next.parts number = session.parts number ∨
      ∃ length body, effect = .send ⟨address, .uploadPart number length body⟩ ∧
        next.parts number = some body := by
  cases serves_of_serve served with
  | unnamed => exact ⟨session, found, fun number => Or.inl rfl⟩
  | created fresh =>
      refine ⟨session, ?_, fun number => Or.inl rfl⟩
      rw [Function.update_of_ne, found]
      rintro rfl
      rw [found] at fresh
      cases fresh
  | acted at_target serves =>
      rename_i target operation before next
      by_cases same : address = target
      · subst same
        rw [found, Option.some.injEq] at at_target
        subst at_target
        refine ⟨next, Function.update_self _ _ _, fun number => ?_⟩
        rcases serves.parts number with kept | ⟨length, body, put, stored⟩
        · exact Or.inl kept
        · exact Or.inr ⟨length, body, by rw [put], stored⟩
      · exact ⟨session, by rw [Function.update_of_ne same, found], fun number => Or.inl rfl⟩

/-- An answer with an ETag to `UploadPart` means that the part is stored, with that ETag. -/
theorem serve_uploaded {remote after : Remote} {address : Address} {number length : Nat}
    {body : List UInt8} {choice : Choice} {etag : String}
    (served : remote.serve scheme (.send ⟨address, .uploadPart number length body⟩) choice =
      some (after, .uploadPart (some etag))) :
    etag = scheme.etag body ∧ ∃ session, after address = some session ∧
      session.parts number = some body := by
  cases serves_of_serve served with
  | acted found serves =>
      cases serves with
      | stored live sized told =>
          refine ⟨?_, _, Function.update_self _ _ _, Function.update_self _ _ _⟩
          rcases told with silent | told
          · cases silent
          · exact Option.some.inj told

/-- A part in a served page is stored, with the ETag in the page. -/
theorem serve_listed {remote after : Remote} {request : Request} {choice : Choice}
    {output : ListPartsOutput}
    (served : remote.serve scheme (.send request) choice = some (after, .listParts output)) :
    ∃ session, after request.address = some session ∧ ∀ listed ∈ output.parts,
      ∃ (number : Nat) (body : List UInt8), listed.partNumber = some (number : Int) ∧
        session.parts number = some body ∧ listed.eTag = some (scheme.etag body) := by
  cases serves_of_serve served with
  | acted found serves =>
      cases serves with
      | page live lists =>
          refine ⟨_, Function.update_self _ _ _, ?_⟩
          intro listed member
          obtain ⟨number, body, named, stored, -, etag⟩ := lists_eq_true (lists listed member)
          exact ⟨number, body, named, stored, etag⟩

end Remote

end R2kit
