import TagSync.Proofs.Deletion
import TagSync.Proofs.Synced

/-!
# Why an image is imported

Every import of a pass is of the newest image, on a cluster that had an older one, or one as old
but later in name order, or none, and it goes by a public reference (`import_is_justified`).
-/

set_option autoImplicit false

namespace TagSync

open Api
open Plan (Exchange)

/-! ## The pass of an import -/

/-- Only a pass that copies imports, and only on its targets and by the source's reference. -/
theorem PassRun.copying_of_import {fleet : Fleet} {ns name : String} {exchanges : List Exchange}
    {outcome : Except SyncError Unit} (h : PassRun fleet ns name exchanges outcome)
    {e : Exchange} (he : e ∈ exchanges) {ns' : String} {request : ImageStreamImport}
    (hcall : e.call = .importImages ns' request) :
    ∃ parts source reads holding copies errors reference,
      Copying fleet ns name parts source reads holding copies errors ∧
      exchanges = reads ++ source.streamRead ns parts :: (holding ++ copies) ∧
      e.cluster ∈ fleet.targets source (observed reads) ∧
      source.reference parts.tag = .ok reference ∧
      request = .importTo ns' source.stream.name parts.tag reference := by
  -- An import is none of the reads, so the pass has come to copying.
  have noRead : ∀ {x : Exchange}, x.call = .getTag ns name → x.call ≠ .importImages ns' request := by
    intro x hx himport
    cases hx.symm.trans himport
  cases h with
  | misnamed hname => cases he
  | unread hlook => exact absurd hcall (noRead (observe_only _ _ _ hlook e he))
  | absent hlook => exact absurd hcall (noRead (observe_only _ _ _ hlook e he))
  | streamless found hasking =>
      rcases List.mem_append.mp he with he | he
      · exact absurd hcall (noRead (found.looks e he).call_eq)
      · obtain ⟨cause, rfl⟩ := hasking e he
        cases hcall
  | unmanaged found hterm hm =>
      rcases List.mem_append.mp he with he | he
      · exact absurd hcall (noRead (found.looks e he).call_eq)
      · obtain rfl := List.mem_singleton.mp he
        cases hcall
  | retiring found hterm hm hretire =>
      rcases List.mem_append.mp he with he | he
      · exact absurd hcall (noRead (found.looks e he).call_eq)
      rcases List.mem_cons.mp he with rfl | he
      · cases hcall
      · have hkind := retire_only _ _ _ hretire e he
        rw [hcall] at hkind
        cases hkind
  | unheld found hlive hhold =>
      rcases List.mem_append.mp he with he | he
      · exact absurd hcall (noRead (found.looks e he).call_eq)
      rcases List.mem_cons.mp he with rfl | he
      · cases hcall
      · obtain ⟨-, _, _, _, _, hset⟩ := hold_only _ _ hhold e he
        cases hset.symm.trans hcall
  | @copying parts source reads holding copies errors hcopying =>
      rcases List.mem_append.mp he with he | he
      · exact absurd hcall (noRead (hcopying.found.looks e he).call_eq)
      rcases List.mem_cons.mp he with rfl | he
      · cases hcall
      rcases List.mem_append.mp he with he | he
      · obtain ⟨-, _, _, _, _, hset⟩ := hcopying.holding_call e he
        cases hset.symm.trans hcall
      obtain ⟨cluster, htarget, ⟨-, hprep⟩ | ⟨reference, href, hcluster, himport⟩⟩ :=
        hcopying.belongs e he
      · rw [hcall] at hprep
        cases hprep
      · obtain ⟨hns, hrequest⟩ := Call.importImages.inj (himport.symm.trans hcall)
        rw [hns] at hrequest
        exact ⟨parts, source, reads, holding, copies, errors, reference, hcopying, rfl,
          hcluster ▸ htarget, href, hrequest.symm⟩

/-! ## The age of the copies -/

/-- Another copy is not newer than the source's, and one that is as new comes later in name
order. -/
theorem Found.le_newest {fleet : Fleet} {ns name : String} {parts : TagName} {source : Source}
    {reads : List Exchange} (h : Found fleet ns name parts source reads) {cluster : String}
    {own : ImageStreamTag} (hne : cluster ≠ source.cluster)
    (hread : ⟨cluster, .getTag ns name, .ok own⟩ ∈ reads) :
    moment own.image.created ≤ moment source.tag.image.created ∧
      (moment own.image.created = moment source.tag.image.created → source.cluster < cluster) := by
  obtain ⟨front, back, hsplit, hfront, hback⟩ := newest?_split h.newest
  have hmem : (cluster, own) ∈ front ++ (source.cluster, source.tag) :: back := by
    rw [← hsplit]
    exact mem_observed.mpr ⟨ns, name, hread⟩
  rcases List.mem_append.mp hmem with hmem | hmem
  · have hlt : moment own.image.created < moment source.tag.image.created := hfront _ hmem
    exact ⟨le_of_lt hlt, fun heq => absurd heq (ne_of_lt hlt)⟩
  rcases List.mem_cons.mp hmem with heq | hmem
  · exact absurd (Prod.mk.inj heq).1 hne
  refine ⟨hback _ hmem, fun _ => ?_⟩
  -- The clusters were asked in name order, so one behind the source has a later name.
  have hascending : ((observed reads).map (·.1)).Pairwise (· < ·) := by
    have hreads : (reads.map (·.cluster)).Pairwise (· < ·) := by
      rw [h.map_cluster]
      exact fleet.clusters.pairwise_toList
    exact hreads.sublist (map_fst_observed_sublist reads)
  rw [hsplit, List.map_append, List.map_cons] at hascending
  obtain ⟨-, hpair, -⟩ := List.pairwise_append.mp hascending
  exact (List.pairwise_cons.mp hpair).1 cluster (List.mem_map_of_mem hmem)

/-! ## Imports -/

/-- What an import to `target` from `source` leaves behind there is nothing worth keeping: the
target has no copy, or it has one that is not newer than the source's, that comes later in name
order if it is as new, and that is not known to be the same image. -/
def MayBeReplaced (source : String) (tag : ImageStreamTag) (target : String) :
    Except CallError ImageStreamTag → Prop
  | .error cause => cause.isNotFound = true
  | .ok own => moment own.image.created ≤ moment tag.image.created ∧
      (moment own.image.created = moment tag.image.created → source < target) ∧
      ¬ ∃ digest, own.image.digest = some digest ∧ tag.image.digest = some digest

/-- **Every import has its reason.** The image is that of the newest copy that was read, which is
on another cluster; the target has been asked for its own copy, and that one may be replaced; and
the reference is the public form of the source's, which is not at the source's inner host. -/
theorem import_is_justified {fleet : Fleet} {ns name : String} {exchanges : List Exchange}
    {outcome : Except SyncError Unit} (run : (syncTag fleet ns name).Run exchanges outcome)
    {target ns' : String} {request : ImageStreamImport}
    {reply : Except CallError ImageStreamImport}
    (asked : ⟨target, .importImages ns' request, reply⟩ ∈ exchanges) :
    ∃ source tag hosts own,
      newest? (observed exchanges) = some (source, tag) ∧
      ⟨source, .getTag ns name, .ok tag⟩ ∈ exchanges ∧ target ≠ source ∧
      (∃ seen, ⟨target, .getTag ns name, seen⟩ ∈ exchanges) ∧
      (∀ seen, ⟨target, .getTag ns name, seen⟩ ∈ exchanges →
        MayBeReplaced source tag target seen) ∧
      RegistryHosts.of? source = some hosts ∧ tag.image.dockerImageReference = some own ∧
      request.spec.images.map (·.from.name) = [some (hosts.publicReference own)] ∧
      ¬ IsAt hosts.inner (hosts.publicReference own) := by
  obtain ⟨parts, source, reads, holding, copies, errors, reference, h, rfl, htarget, href, rfl⟩ :=
    (PassRun.of_run run).copying_of_import asked rfl
  obtain ⟨hosts, own, hhosts, hown, rfl⟩ := Source.reference_eq_ok_iff.mp href
  obtain ⟨hnames, hne, -, hunseen⟩ := h.mem_targets_iff.mp htarget
  refine ⟨source.cluster, source.tag, hosts, own, h.underWay.newest,
    List.mem_append_left _ h.found.read_source, hne, ?_, ?_, hhosts, hown, rfl,
    RegistryHosts.not_isAt_publicReference hhosts own⟩
  · obtain ⟨seen, hseen⟩ := h.found.filter_eq hnames
    have hmem : ⟨target, .getTag ns name, seen⟩ ∈ reads :=
      List.mem_of_mem_filter (hseen ▸ List.mem_singleton_self _)
    exact ⟨seen, List.mem_append_left _ hmem⟩
  · intro seen hseen
    rcases List.mem_append.mp hseen with hread | hread
    · cases seen with
      | error cause =>
          obtain ⟨cluster, reply', heq, hmissing⟩ := h.found.looks _ hread
          cases heq
          exact hmissing cause rfl
      | ok seen =>
          -- The source is the newest of all that was seen.
          obtain ⟨hle, htie⟩ := h.found.le_newest hne hread
          refine ⟨hle, htie, ?_⟩
          rintro ⟨digest, hseenDigest, hsource⟩
          exact hunseen ⟨seen, digest, hread, hseenDigest, hsource⟩
    · exact absurd rfl (h.later_call _ hread ns name)

theorem import_over_older_copy :
    ⟨"build02", .importImages "ci" imageImport, .ok imageReport⟩ ∈ onePassExchanges ∧
      newest? (observed onePassExchanges) = some ("app.ci", importedTag) ∧
      MayBeReplaced "app.ci" importedTag "build02" (.ok olderTag) := by
  have asked : ⟨"build02", .importImages "ci" imageImport, .ok imageReport⟩ ∈ onePassExchanges := by
    simp [onePassExchanges]
  have newest : newest? (observed onePassExchanges) = some ("app.ci", importedTag) := rfl
  obtain ⟨source, tag, hosts, own, hnewest, -, -, -, hreplaced, -⟩ :=
    import_is_justified run_onePass asked
  obtain ⟨rfl, rfl⟩ := Prod.mk.inj (Option.some.inj (newest.symm.trans hnewest))
  exact ⟨asked, newest, hreplaced _ (by simp [onePassExchanges])⟩

end TagSync
