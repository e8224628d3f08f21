import R2kit.Object.ListObjects
import R2kit.Multipart.ListUploads

/-!
# What the listing streams yield, and when they end

The streams of both listings follow every chain of distinct cursors, with the builder's own
filters in each request. Their guard sees a cursor that names itself and no longer cycle: on a
server with finitely many cursors this is the only way not to end.
-/

namespace R2kit

open Misc

section Chains

/-- The streams of a listing lose and repeat nothing along a chain of distinct cursors. -/
theorem listings_follow_chains :
    (∀ (server : ObjectServer) (builder : ListObjectsBuilder),
      ListObjectsBuilder.paged.FollowsChains server builder
          (ListObjectsBuilder.intoPages server) (some (some builder)) (fun page => [page]) ∧
        ListObjectsBuilder.paged.FollowsChains server builder
          (ListObjectsBuilder.intoStream server) ([], some (some builder)) ObjectPage.objects ∧
        ListObjectsBuilder.paged.FollowsChains server builder
          (ListObjectsBuilder.intoObjects server) ([], some (some builder)) ObjectPage.objects ∧
        ∀ token, ListObjectsBuilder.paged.requestAt builder token =
          { bucket := builder.bucket.value, keyPrefix := builder.keyPrefix,
            delimiter := builder.delimiter, maxKeys := builder.limit,
            continuationToken := token }) ∧
      ∀ (server : UploadServer) (builder : ListMultipartUploadsBuilder),
        ListMultipartUploadsBuilder.paged.FollowsChains server builder
            (ListMultipartUploadsBuilder.intoPages server) (some (some builder))
            (fun page => [page]) ∧
          ∀ markers : Markers, ListMultipartUploadsBuilder.paged.requestAt builder markers =
            { bucket := builder.bucket.value, keyPrefix := builder.keyPrefix,
              delimiter := builder.delimiter, maxUploads := builder.limit,
              keyMarker := markers.1, uploadIdMarker := markers.2 } := by
  refine ⟨?_, ?_⟩
  · intro server builder
    exact ⟨ListObjectsBuilder.intoPages_followChains builder,
      ListObjectsBuilder.intoStream_followChains builder,
      ListObjectsBuilder.intoStream_followChains builder, fun _ => rfl⟩
  · intro server builder
    exact ⟨ListMultipartUploadsBuilder.intoPages_followChains, fun _ => rfl⟩

end Chains

section Cycle

/-- A bucket to list. -/
def photosBucket : BucketName := ⟨"photos", by decide, by decide⟩

/-- A server whose token "a" leads to "b", and every other one to "a". -/
def alternatingTokens : ObjectServer := fun input =>
  .ok { contents := [], commonPrefixes := [], isTruncated := some true,
        nextContinuationToken := some (if input.continuationToken = some "a" then "b" else "a") }

/-- A server whose key marker "a" leads to the upload ID marker "b", and every other pair to
    the key marker "a". -/
def alternatingMarkers : UploadServer := fun input =>
  if input.keyMarker = some "a" then
    .ok { uploads := [], commonPrefixes := [], isTruncated := some true,
          nextKeyMarker := none, nextUploadIdMarker := some "b" }
  else
    .ok { uploads := [], commonPrefixes := [], isTruncated := some true,
          nextKeyMarker := some "a", nextUploadIdMarker := none }

theorem alternatingTokens_finite :
    (ListObjectsBuilder.tokens alternatingTokens).Finite := by
  refine (Set.toFinite {"a", "b"}).subset ?_
  rintro token ⟨input, output, answer, named⟩
  cases answer
  cases named
  split
  · exact Or.inr rfl
  · exact Or.inl rfl

theorem alternatingMarkers_finite :
    (ListMultipartUploadsBuilder.markers alternatingMarkers).Finite := by
  refine (Set.toFinite {(some "a", none), (none, some "b")}).subset ?_
  rintro pair ⟨input, output, answer, rfl⟩
  unfold alternatingMarkers at answer
  split at answer
  · cases answer
    exact Or.inr rfl
  · cases answer
    exact Or.inl rfl

theorem alternatingTokens_cycle :
    ListObjectsBuilder.paged.LeadsIntoCycle alternatingTokens { bucket := photosBucket } := by
  refine ⟨some "a", .single ⟨by decide, _, ⟨_, rfl, rfl⟩, rfl⟩, ?_⟩
  exact .head (b := some "b") ⟨by decide, _, ⟨_, rfl, rfl⟩, rfl⟩
    (.single ⟨by decide, _, ⟨_, rfl, rfl⟩, rfl⟩)

theorem alternatingMarkers_cycle :
    ListMultipartUploadsBuilder.paged.LeadsIntoCycle alternatingMarkers
      { bucket := photosBucket } := by
  refine ⟨(some "a", none), .single ⟨by decide, _, ⟨_, rfl, rfl⟩, rfl⟩, ?_⟩
  exact .head (b := (none, some "b")) ⟨by decide, _, ⟨_, rfl, rfl⟩, rfl⟩
    (.single ⟨by decide, _, ⟨_, rfl, rfl⟩, rfl⟩)

end Cycle

section Ends

variable (objects : ObjectServer) (listing : ListObjectsBuilder)
  (uploads : UploadServer) (uploadListing : ListMultipartUploadsBuilder)

/-- On finitely many tokens and pairs of markers the streams end unless they are led into a
    cycle, and a stream that ends requests none of them twice and fails at most once. -/
theorem listings_end_iff (finiteTokens : (ListObjectsBuilder.tokens objects).Finite)
    (finiteMarkers : (ListMultipartUploadsBuilder.markers uploads).Finite) :
    (((ListObjectsBuilder.intoPages objects).Ends (some (some listing)) ↔
          (listing.check = .ok () →
            ¬ ListObjectsBuilder.paged.LeadsIntoCycle objects listing)) ∧
        ∀ requests items,
          (ListObjectsBuilder.intoPages objects).Gives (some (some listing)) requests items →
          (requests.map ListObjectsV2Input.continuationToken).Nodup ∧
            Pager.EndsOnce items) ∧
      ((ListMultipartUploadsBuilder.intoPages uploads).Ends (some (some uploadListing)) ↔
          (uploadListing.check = .ok () →
            ¬ ListMultipartUploadsBuilder.paged.LeadsIntoCycle uploads uploadListing)) ∧
        ∀ requests items,
          (ListMultipartUploadsBuilder.intoPages uploads).Gives (some (some uploadListing))
            requests items →
          (requests.map (fun input => (input.keyMarker, input.uploadIdMarker))).Nodup ∧
            Pager.EndsOnce items := by
  refine ⟨⟨ListObjectsBuilder.intoPages_ends_iff finiteTokens, ?_⟩,
    ListMultipartUploadsBuilder.intoPages_ends_iff finiteMarkers, ?_⟩
  · intro requests items given
    rw [ListObjectsBuilder.intoPages_eq] at given
    exact ⟨PagedOperation.requested_nodup given, Pager.endsOnce_of_gives given⟩
  · intro requests items given
    rw [ListMultipartUploadsBuilder.intoPages_eq] at given
    exact ⟨PagedOperation.requested_nodup given, Pager.endsOnce_of_gives given⟩

/-- A listing with a limit that is out of range ends where another one goes on for ever. -/
theorem listings_end_iff_alternating :
    ¬ (ListObjectsBuilder.intoPages alternatingTokens).Ends
        (some (some { bucket := photosBucket })) ∧
      (ListMultipartUploadsBuilder.intoPages alternatingMarkers).Ends
        (some (some { bucket := photosBucket, limit := 0 })) := by
  have both := listings_end_iff alternatingTokens { bucket := photosBucket } alternatingMarkers
    { bucket := photosBucket, limit := 0 } alternatingTokens_finite alternatingMarkers_finite
  refine ⟨?_, both.2.1.mpr (fun checked => by cases checked)⟩
  intro ends
  exact both.1.1.mp ends rfl alternatingTokens_cycle

/-- Both servers use finitely many cursors, and neither listing ends. -/
theorem listings_do_not_end :
    ((ListObjectsBuilder.tokens alternatingTokens).Finite ∧
        ¬ (ListObjectsBuilder.intoPages alternatingTokens).Ends
          (some (some { bucket := photosBucket }))) ∧
      (ListMultipartUploadsBuilder.markers alternatingMarkers).Finite ∧
        ¬ (ListMultipartUploadsBuilder.intoPages alternatingMarkers).Ends
          (some (some { bucket := photosBucket })) := by
  refine ⟨⟨alternatingTokens_finite, ?_⟩, alternatingMarkers_finite, ?_⟩
  · intro ends
    have path := (ListObjectsBuilder.intoPages_ends_iff alternatingTokens_finite).mp ends
    exact path rfl alternatingTokens_cycle
  · intro ends
    have path := (ListMultipartUploadsBuilder.intoPages_ends_iff alternatingMarkers_finite).mp ends
    exact path rfl alternatingMarkers_cycle

end Ends

end R2kit
