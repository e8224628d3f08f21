import R2kit.Managed.SourceCheck
import R2kit.Managed.TeamContent

/-!
# Objects and sessions of an account

R2 with what stands at its keys. A `PutObject` replaces the object at once, a session that
is completed leaves its parts as one object, with the headers and the metadata that the
session was created with.
-/

namespace R2kit

open Misc

/-- What an account holds: its objects by bucket and key, its sessions, and the request that
    each session was created with. -/
structure Account where
  objects : String × String → Option StoredObject
  remote : Remote
  inputs : Address → CreateMultipartUploadInput

/-- What R2 is free to choose in an answer. The body of a PUT is what was read of the file while
    it was sent. -/
inductive StoreChoice where
  | put (body : List UInt8) (etag : Option String)
  | deleted
  | managed (choice : Choice)

/-- What the account answers to a message of `send`. -/
inductive StoreAnswer where
  | put (body : List UInt8) (etag : Option String)
  | deleted
  | managed (response : Response)
  deriving DecidableEq

/-- The object that a completed session leaves. -/
def CreateMultipartUploadInput.stored (input : CreateMultipartUploadInput)
    (object : CommittedObject) : StoredObject where
  body := object.flatMap Prod.snd
  headers := input.headers
  metadata := input.metadata

/-- Where the object of a session will stand. -/
def Address.place (address : Address) : String × String := (address.bucket, address.key)

/-- Where the object of a PUT will stand. -/
def PutObjectInput.place (input : PutObjectInput) : String × String := (input.bucket, input.key)

/-- The address of the session that `CreateMultipartUpload` has created. -/
def CreateMultipartUploadInput.address (input : CreateMultipartUploadInput) (uploadId : String) :
    Address :=
  ⟨input.bucket, input.key, uploadId⟩

namespace Account

/-- The requests of the sessions after a message about them. -/
def inputsAfter (account : Account) : Effect → Response → Address → CreateMultipartUploadInput
  | .create input, .createMultipartUpload (some uploadId) =>
      Function.update account.inputs (input.address uploadId) input
  | _, _ => account.inputs

/-- The objects after a message about sessions, which are then `remote`. -/
def objectsAfter (account : Account) (remote : Remote) :
    Effect → Response → String × String → Option StoredObject
  | .send ⟨address, .completeMultipartUpload _⟩, .completeMultipartUpload _ =>
      match remote.status address with
      | some (.committed object) =>
          Function.update account.objects address.place
            (some ((account.inputs address).stored object))
      | _ => account.objects
  | _, _ => account.objects

/-- A message about sessions acting on the account. -/
def serveManaged (scheme : EtagScheme) (account : Account) (effect : Effect) (choice : Choice) :
    Option (Account × Response) :=
  match account.remote.serve scheme effect choice with
  | none => none
  | some (remote, response) =>
      some ({
        objects := account.objectsAfter remote effect response
        remote
        inputs := account.inputsAfter effect response }, response)

/-- A message of `send` acting on the account. -/
def serve (scheme : EtagScheme) (account : Account) :
    SendEffect → StoreChoice → Option (Account × StoreAnswer)
  | .put input, .put body etag =>
      if body.length = input.contentLength then
        some ({ account with
          objects := Function.update account.objects input.place (some (input.stored body)) },
          .put body etag)
      else none
  | .delete bucket key, .deleted =>
      some ({ account with objects := Function.update account.objects (bucket, key) none },
        .deleted)
  | .create input, .managed choice =>
      (account.serveManaged scheme (.create input) choice).map (Prod.map id .managed)
  | .send request, .managed choice =>
      (account.serveManaged scheme (.send request) choice).map (Prod.map id .managed)
  | _, _ => none

variable {scheme : EtagScheme} {account after : Account}

/-- What serving a message of `send` can come to. -/
inductive Serves (scheme : EtagScheme) (account : Account) :
    SendEffect → StoreChoice → Account → StoreAnswer → Prop
  | put {input body etag} (length : body.length = input.contentLength) :
      Serves scheme account (.put input) (.put body etag)
        { account with
          objects := Function.update account.objects input.place (some (input.stored body)) }
        (.put body etag)
  | deleted {bucket key} :
      Serves scheme account (.delete bucket key) .deleted
        { account with objects := Function.update account.objects (bucket, key) none } .deleted
  | managed {effect choice response next}
      (served : account.serveManaged scheme effect choice = some (next, response)) :
      Serves scheme account (.ofManaged effect) (.managed choice) next (.managed response)

theorem serves_of_serve {msg : SendEffect} {choice : StoreChoice} {answer : StoreAnswer}
    (served : account.serve scheme msg choice = some (after, answer)) :
    Serves scheme account msg choice after answer := by
  unfold serve at served
  split at served
  · split at served
    · rename_i length
      cases served
      exact .put length
    · cases served
  · cases served
    exact .deleted
  · rename_i input choice
    obtain ⟨⟨next, response⟩, acted, same⟩ := Option.map_eq_some_iff.mp served
    cases same
    have managed : Serves scheme account (.ofManaged (.create input)) (.managed choice) next
        (.managed response) := .managed acted
    exact managed
  · rename_i request choice
    obtain ⟨⟨next, response⟩, acted, same⟩ := Option.map_eq_some_iff.mp served
    cases same
    have managed : Serves scheme account (.ofManaged (.send request)) (.managed choice) next
        (.managed response) := .managed acted
    exact managed
  · cases served

/-- A session that exists keeps the request it was created with. -/
theorem inputsAfter_of_exists {effect : Effect} {choice : Choice} {remote : Remote}
    {response : Response}
    (served : account.remote.serve scheme effect choice = some (remote, response))
    {address : Address} (found : account.remote address ≠ none) :
    account.inputsAfter effect response address = account.inputs address := by
  cases Remote.serves_of_serve served with
  | unnamed => rfl
  | @created input uploadId fresh =>
      refine Function.update_of_ne ?_ _ _
      rintro rfl
      exact found fresh
  | acted at_target serves => rfl

/-- What becomes of the objects when a message about sessions is served. -/
theorem objectsAfter_cases {effect : Effect} {choice : Choice} {remote : Remote}
    {response : Response}
    (served : account.remote.serve scheme effect choice = some (remote, response)) :
    (account.objectsAfter remote effect response = account.objects ∧
      ∀ request etag, (effect, response) ≠ (.send request, .completeMultipartUpload etag)) ∨
    ∃ address parts etag object, effect = .send ⟨address, .completeMultipartUpload parts⟩ ∧
      response = .completeMultipartUpload etag ∧
      account.remote address ≠ none ∧ remote.status address = some (.committed object) ∧
      account.objectsAfter remote effect response = Function.update account.objects address.place
        (some ((account.inputs address).stored object)) := by
  cases Remote.serves_of_serve served with
  | unnamed => exact Or.inl ⟨rfl, by simp⟩
  | created fresh => exact Or.inl ⟨rfl, by simp⟩
  | acted found serves =>
      rename_i address operation session next
      cases serves with
      | page live listed => exact Or.inl ⟨rfl, by simp⟩
      | stored live sized told => exact Or.inl ⟨rfl, by simp⟩
      | @committed parts object etag live matched =>
          have now : Remote.status (Function.update account.remote address
              (some { session with status := .committed object })) address =
                some (.committed object) := by
            simp [Remote.status]
          refine Or.inr ⟨address, parts, etag, object, rfl, rfl, by simp [found], now, ?_⟩
          simp only [objectsAfter, now]
      | aborted uncommitted => exact Or.inl ⟨rfl, by simp⟩

end Account

section Ledger

/-- The object at a place is what one of the answered completions has left. -/
def Account.LeftBy (account : Account) (answers : List (Effect × Response))
    (place : String × String) : Prop :=
  ∃ address parts etag object, (.send ⟨address, .completeMultipartUpload parts⟩,
      .completeMultipartUpload etag) ∈ answers ∧ address.place = place ∧
    account.remote.status address = some (.committed object) ∧
    account.objects place = some ((account.inputs address).stored object)

/-- What the answers about sessions say of an account that was `start` before them. -/
structure Ledger (start account : Account) (answers : List (Effect × Response)) : Prop where
  stays : ∀ address, start.remote address ≠ none → account.remote address ≠ none
  served : ∀ answer ∈ answers, ∀ progress, answer.1 ≠ .report progress
  created : ∀ input uploadId,
    (.create input, .createMultipartUpload (some uploadId)) ∈ answers →
    start.remote (input.address uploadId) = none ∧
      account.remote (input.address uploadId) ≠ none ∧
      account.inputs (input.address uploadId) = input
  completed : ∀ address parts etag, (.send ⟨address, .completeMultipartUpload parts⟩,
    .completeMultipartUpload etag) ∈ answers → account.LeftBy answers address.place
  objects : ∀ place, account.objects place = start.objects place ∨
    account.LeftBy answers place

variable {scheme : EtagScheme} {start account after : Account} {answers : List (Effect × Response)}

theorem ledger_start : Ledger start start [] :=
  ⟨fun _ found => found, List.forall_mem_nil _, fun _ _ => nofun, fun _ _ _ => nofun,
    fun _ => Or.inl rfl⟩

/-- No session disappears. -/
theorem Remote.exists_of_serve {remote next : Remote} {effect : Effect} {choice : Choice}
    {response : Response} (served : remote.serve scheme effect choice = some (next, response))
    {address : Address} (found : remote address ≠ none) : next address ≠ none := by
  obtain ⟨session, is⟩ := Option.ne_none_iff_exists'.mp found
  obtain ⟨later, found', -⟩ := Remote.serve_parts served is
  rw [found']
  exact Option.some_ne_none later

/-- An object that a completion has left stands until the next completion at its place. -/
theorem Account.LeftBy.serve {effect : Effect} {choice : Choice} {response : Response}
    {remote : Remote} {place : String × String} (left : account.LeftBy answers place)
    (served : account.remote.serve scheme effect choice = some (remote, response))
    (kept : account.objectsAfter remote effect response place = account.objects place) :
    Account.LeftBy ⟨account.objectsAfter remote effect response, remote,
      account.inputsAfter effect response⟩ (answers ++ [(effect, response)]) place := by
  obtain ⟨address, parts, etag, object, member, at_place, committed, is⟩ := left
  have found : account.remote address ≠ none := by
    intro absent
    rw [Remote.status, absent] at committed
    cases committed
  refine ⟨address, parts, etag, object, List.mem_append_left _ member, at_place, ?_, ?_⟩
  · rcases Remote.serve_leads served address with same | absent | live
    · rw [same, committed]
    · rw [absent] at committed
      cases committed
    · rw [live] at committed
      cases committed
  · dsimp only
    rw [kept, is, Account.inputsAfter_of_exists served found]

/-- A completion that is answered now has left what stands at its place. -/
theorem Account.leftBy_now {address : Address} {parts : List CompletedPart}
    {etag : Option String} {object : CommittedObject} {remote : Remote}
    (committed : remote.status address = some (.committed object))
    (now : account.objectsAfter remote (.send ⟨address, .completeMultipartUpload parts⟩)
        (.completeMultipartUpload etag) = Function.update account.objects address.place
      (some ((account.inputs address).stored object))) :
    Account.LeftBy ⟨account.objectsAfter remote (.send ⟨address, .completeMultipartUpload parts⟩)
        (.completeMultipartUpload etag), remote, account.inputs⟩
      (answers ++ [(.send ⟨address, .completeMultipartUpload parts⟩,
        .completeMultipartUpload etag)]) address.place := by
  refine ⟨address, parts, etag, object, by simp, rfl, committed, ?_⟩
  dsimp only
  rw [now, Function.update_self]

theorem Ledger.serve {effect : Effect} {choice : Choice} {response : Response}
    (ledger : Ledger start account answers)
    (acted : account.serveManaged scheme effect choice = some (after, response)) :
    Ledger start after (answers ++ [(effect, response)]) := by
  unfold Account.serveManaged at acted
  split at acted
  · cases acted
  · rename_i remote response served
    cases acted
    -- what stood at a place stands, or this very completion has left what stands there now
    have stands : ∀ place, account.objectsAfter remote effect response place =
        account.objects place ∨ Account.LeftBy ⟨account.objectsAfter remote effect response,
          remote, account.inputsAfter effect response⟩ (answers ++ [(effect, response)]) place := by
      intro place
      rcases Account.objectsAfter_cases served with ⟨same, -⟩ |
        ⟨address, parts, etag, object, rfl, rfl, found, committed, now⟩
      · exact Or.inl (congrFun same place)
      · by_cases here : place = address.place
        · subst here
          exact Or.inr (Account.leftBy_now committed now)
        · exact Or.inl (by rw [now, Function.update_of_ne here])
    have left : ∀ place, account.LeftBy answers place → Account.LeftBy
        ⟨account.objectsAfter remote effect response, remote,
          account.inputsAfter effect response⟩ (answers ++ [(effect, response)]) place := by
      intro place was
      rcases stands place with kept | now
      · exact was.serve served kept
      · exact now
    constructor
    · exact fun address found => Remote.exists_of_serve served (ledger.stays address found)
    · refine List.forall_mem_append.mpr ⟨ledger.served, List.forall_mem_singleton.mpr ?_⟩
      rintro progress rfl
      cases served
    · intro input uploadId member
      rcases List.mem_append.mp member with earlier | now
      · obtain ⟨fresh, found, is⟩ := ledger.created input uploadId earlier
        refine ⟨fresh, Remote.exists_of_serve served found, ?_⟩
        dsimp only
        rw [Account.inputsAfter_of_exists served found, is]
      · rw [List.mem_singleton, Prod.mk.injEq] at now
        obtain ⟨rfl, rfl⟩ := now
        cases Remote.serves_of_serve served with
        | created fresh =>
            refine ⟨?_, by simp [CreateMultipartUploadInput.address], ?_⟩
            · by_contra found
              exact ledger.stays _ found fresh
            · exact Function.update_self _ _ _
    · intro address parts etag member
      rcases List.mem_append.mp member with earlier | now
      · exact left _ (ledger.completed address parts etag earlier)
      · rw [List.mem_singleton, Prod.mk.injEq] at now
        obtain ⟨rfl, rfl⟩ := now
        rcases Account.objectsAfter_cases served with ⟨-, other⟩ |
          ⟨address', parts', etag', object, same, -, found, committed, now⟩
        · exact absurd rfl (other _ _)
        · cases same
          exact Account.leftBy_now committed now
    · intro place
      rcases stands place with kept | now
      · rcases ledger.objects place with same | was
        · exact Or.inl (kept.trans same)
        · exact Or.inr (left place was)
      · exact Or.inr now

end Ledger

end R2kit
