import R2kit.Managed.Delivered
import R2kit.Managed.Preflight
import R2kit.Object.DownloadFile

/-!
# What is uploaded is downloaded

`UploadFileBuilder::send` and `Bucket::download_file` one after the other on the same account: the
file that comes back is the file that went up, whichever way it took.
-/

namespace R2kit

open Misc

section RoundTrip

variable {dates : HttpDates} {crates : Crates} {options : ObjectUploadOptions}
  {content : List UInt8} {bucket : BucketName} {key : ObjectKey}
  {objects : String × String → Option StoredObject}

/-- A file and its metadata, once an object with these options stands at the key. -/
theorem downloaded_of_stored (valid : options.validate crates = .ok ())
    (stands : objects (bucket.value, key.value) =
      some ⟨content, options.applyTo, options.customMetadataValues⟩)
    {prior : Option (List UInt8)} {history : History DownloadEvent GetObjectInput}
    {world : DownloadWorld} {metadata : ObjectMetadata}
    (run : (downloadWorld dates bucket (.ok key) objects).Reaches (.start prior) history world)
    (done : world.client = .returned (.ok metadata)) :
    world.file = some content ∧ metadata.ReadsBack dates options content := by
  rcases downloadHolds_of_reaches run with ⟨-, -, before⟩ | ⟨-, object, finds, holds⟩
  · rw [done] at before
    exact before.elim
  · rw [done] at holds
    obtain ⟨⟨output, reports, read⟩, file⟩ := holds
    obtain ⟨same, given, found⟩ := finds
    cases given
    obtain rfl := Option.some.inj (found.symm.trans stands)
    exact ⟨file, readsBack_of_reports valid reports read⟩

/-- The options of an upload that has returned a result are valid. -/
theorem valid_of_returned {builder : UploadFileBuilder} {scheme : EtagScheme} {account : Account}
    {uploaded : History (NetEvent SendEvent StoreChoice Empty) SendEffect}
    {net : Net SendState SendEffect StoreAnswer Account} {result : TransferResult}
    (up : (sendProtocol crates builder scheme).net.Reaches (Net.start .ready account) uploaded
      net) (returned : net.client = .returned (.ok result)) :
    builder.options.validate crates = .ok () := by
  rcases valid_of_reaches up with ready | valid | ⟨error, failed⟩
  · rw [ready] at returned
    cases returned
  · exact (UploadFileBuilder.validate_ok_iff.mp valid).1
  · rw [failed] at returned
    cases returned

end RoundTrip

/-- An upload that has returned a result, and any download of its key after it, to any path and
    with any course of its own: if that returns a result too, the file holds the very bytes of
    the file that was uploaded, and the metadata say again what the options said. The same
    metadata come with every answer to `head` about the key. -/
theorem upload_comes_back (dates : HttpDates) (crates : Crates) (builder : UploadFileBuilder)
    (scheme : EtagScheme) (content : List UInt8) (key : ObjectKey) (account : Account)
    (uploaded : History (NetEvent SendEvent StoreChoice Empty) SendEffect)
    (net : Net SendState SendEffect StoreAnswer Account) (result : TransferResult)
    (prior : Option (List UInt8)) (downloaded : History DownloadEvent GetObjectInput)
    (world : DownloadWorld) (given : builder.key = .ok key)
    (steady : ∀ event ∈ uploaded.events, Steady content event)
    (up : (sendProtocol crates builder scheme).net.Reaches (Net.start .ready account) uploaded
      net) (returned : net.client = .returned (.ok result))
    (down : (downloadWorld dates builder.bucket (.ok key) net.server.objects).Reaches
      (.start prior) downloaded world) :
    (∀ metadata, world.client = .returned (.ok metadata) →
      world.file = some content ∧ metadata.size = result.size ∧
        metadata.ReadsBack dates builder.options content) ∧
    ∀ object output metadata, net.server.objects (builder.place key) = some object →
      object.Reports dates output →
      HeadObjectBuilder.answered dates (.ok output) = .ok metadata →
      metadata.ReadsBack dates builder.options content := by
  obtain ⟨-, size, stands⟩ := (sending_of_reaches given steady up).delivers returned
  have valid := valid_of_returned up returned
  refine ⟨fun metadata done => ?_, fun object output metadata found reports read => ?_⟩
  · obtain ⟨file, reads⟩ := downloaded_of_stored valid stands down done
    exact ⟨file, reads.size.trans size.symm, reads⟩
  · obtain rfl : object = builder.written content := Option.some.inj (found.symm.trans stands)
    exact readsBack_of_reports valid reports read

/-- A file of three parts, up and down, and what a download and `head` say of it. -/
theorem upload_comes_back_labelled :
    ∃ (uploaded : History (NetEvent SendEvent StoreChoice Empty) SendEffect)
      (net : Net SendState SendEffect StoreAnswer Account)
      (downloaded : History DownloadEvent GetObjectInput) (world : DownloadWorld)
      (metadata told : ObjectMetadata) (object : StoredObject),
      (sendProtocol .minimal .labelled .plain).net.Reaches (Net.start .ready .empty) uploaded
        net ∧
      (downloadWorld .epoch UploadFileBuilder.labelled.bucket (.ok .clip)
        net.server.objects).Reaches (.start none) downloaded world ∧
      world.client = .returned (.ok metadata) ∧ world.file = some threeContent ∧
      metadata.size = 2 * minMultipartPartSize + 3 ∧ metadata.contentType = some "text/plain" ∧
      metadata.expires = some 0 ∧ metadata.custom["owner"]? = some "ada" ∧
      net.server.objects (UploadFileBuilder.labelled.place .clip) = some object ∧
      HeadObjectBuilder.answered .epoch (.ok (object.output .epoch)) = .ok told ∧
      told.contentDisposition = some "inline" ∧ told.custom["owner"]? = some "ada" := by
  obtain ⟨uploaded, net, up, returned, steady⟩ := reaches_labelled length_threeContent
  have stands := ((sending_of_reaches rfl steady up).delivers returned).2.2
  obtain ⟨downloaded, world, metadata, down, done, -⟩ :=
    @download_finishes .epoch net.server.objects UploadFileBuilder.labelled.bucket (.ok .clip) _
      ⟨.clip, rfl, stands⟩ none
  obtain ⟨told, read⟩ := readMetadata_output .epoch "HeadObject"
    (UploadFileBuilder.labelled.written threeContent)
  obtain ⟨comes_back, heads⟩ := upload_comes_back .epoch .minimal .labelled .plain threeContent
    .clip .empty uploaded net _ none downloaded world rfl steady up returned down
  obtain ⟨file, size, reads⟩ := comes_back metadata done
  have headed := heads _ _ told stands (StoredObject.reports_output _ _) read
  exact ⟨uploaded, net, downloaded, world, metadata, told, _, up, down, done, file, size,
    reads.labels.1, reads.expires 0 _ rfl rfl, reads.labels.2, stands, read,
    headed.contentDisposition "inline" rfl, headed.labels.2⟩

end R2kit
