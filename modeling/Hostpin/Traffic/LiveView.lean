import Hostpin.Traffic.Live

/-!
# The live view of the traffic totals

The hub holds corrected totals only: the raw total that a correction starts from is recovered from
what the hub shows, and it is written back some steps later.  Between these steps other requests may
apply samples or change the policy of the node.

* `LiveState.Allowed` is the condition on a step under which the view stays right: what a request
  writes is still current.
* `LiveState.liveViewCorrect_run`: when every step of a run is allowed, then in every state without
  a request in progress the hub shows the corrected totals of the sample that was applied last, and
  a snapshot recovers its raw totals.
-/

namespace Hostpin

open Clock

/-! ## The condition on the steps -/

namespace LiveState

variable (s : LiveState) (id : String) (i : ℕ)

/-- Request `i` has applied the last sample of the node and is about to correct it. -/
def CorrectPending : Prop :=
  ∃ raw, s.lastRaw id = some raw ∧ s.requests i = some (.applied id raw)

/-- Request `i` is about to publish the last sample of the node, and the policy in force still
corrects the sample to what is published. -/
def PublishPending : Prop :=
  ∃ raw sample, s.lastRaw id = some raw ∧ s.requests i = some (.corrected raw sample) ∧
    ∀ clock, sample = s.tracker.correct id raw clock

/-- The hub shows the last sample of the node, and its raw totals are the given ones. -/
def ShowsLast (rawRX rawTX : UInt64) : Prop :=
  ∃ raw latest, s.lastRaw id = some raw ∧ s.latest id = some latest ∧
    { latest with monthlyRxBytes := rawRX, monthlyTxBytes := rawTX } = raw

/-- Request `i` has configured a correction from the raw totals of the last sample, which the hub
shows, and is about to replace it. -/
def ReplacePending : Prop :=
  ∃ edited correction rawRX rawTX, edited.id = id ∧ s.ShowsLast id rawRX rawTX ∧
    s.requests i = some (.correctionConfigured edited correction rawRX rawTX)

/-- The last sample of the node is still to be published by a request other than `i`. -/
def PublishedLater : Prop :=
  ∃ j, j ≠ i ∧ (s.CorrectPending id j ∨ s.PublishPending id j)

/-- The adjustments that apply to the last sample of a node. -/
def adjustments (t : TrafficTracker) (id : String) (raw : MetricSample) (clock : Time) :
    Option (Int64 × Int64) :=
  (t.activePolicy id raw clock).map fun policy => (policy.rxCorrection, policy.txCorrection)

/-- The condition on a step of a request, when `raw` is the sample of the node that was applied
last: what the request writes is current, or a sample that is applied is still to be published. -/
def AllowedRequest (request : LiveRequest) (clock : Time) : Prop :=
  match request with
  | .corrected raw sample =>
    s.lastRaw sample.nodeID = some raw ∧ sample = s.tracker.correct sample.nodeID raw clock ∧
        s.tracker.Invertible sample.nodeID raw clock ∨
      s.PublishedLater sample.nodeID i
  | .correctionStored edited _ rawRX rawTX =>
    s.lastRaw edited.id = none ∨ s.ShowsLast edited.id rawRX rawTX ∨
      ∃ j, s.CorrectPending edited.id j
  | .correctionConfigured edited correction rawRX rawTX =>
    s.latest edited.id = none ∨
      (∃ raw, s.lastRaw edited.id = some raw ∧ s.ShowsLast edited.id rawRX rawTX ∧
        s.tracker.Invertible edited.id raw clock ∧
        (correction = .clear → s.tracker.activePolicy edited.id raw clock = none)) ∨
      s.PublishedLater edited.id i
  | .nodeRead updated =>
    (∀ raw, s.lastRaw updated.id = some raw →
      adjustments (s.tracker.configureNode updated) updated.id raw clock =
        adjustments s.tracker updated.id raw clock) ∨
      ∃ j, s.CorrectPending updated.id j
  | _ => True

/-- The condition on a step of the server. -/
def Allowed : LiveEvent → Prop
  | .advance i _ clock _ =>
    ∀ request, s.requests i = some request → s.AllowedRequest i request clock
  | .restart stored clock =>
    ∀ id sample, stored.samples id = some sample →
      (s.restart stored clock).tracker.Invertible id sample clock
  | _ => True

/-- Every step of a run meets the condition. -/
def AllAllowed (s : LiveState) : List LiveEvent → Prop
  | [] => True
  | event :: events => s.Allowed event ∧ AllAllowed (s.step event) events

/-- The live view of a node is right: the hub shows the corrected totals of the sample that was
applied last, and a snapshot recovers its raw totals. -/
def LiveViewCorrect : Prop :=
  ∀ raw, s.lastRaw id = some raw → ∃ latest, s.latest id = some latest ∧
    (∀ clock, ∀ d : Direction, d.total latest = d.total (s.tracker.correct id raw clock)) ∧
    ∀ node now clock, node.id = id →
      (s.trafficCorrectionSnapshot node now clock).rawRXBytes = raw.monthlyRxBytes ∧
        (s.trafficCorrectionSnapshot node now clock).rawTXBytes = raw.monthlyTxBytes

/-- The stages in which a request has a sample to publish. -/
def publishes : LiveRequest → Bool
  | .applied _ _ | .corrected _ _ | .correctionConfigured _ _ _ _ => true
  | _ => false

/-! ## The invariant -/

/-- What holds of every state: the samples are kept under their nodes, the last sample has an
instant, and the totals of the tracker are those of the last sample. -/
structure WellFormed : Prop where
  lastRaw : ∀ id raw, s.lastRaw id = some raw → raw.nodeID = id ∧ isZero raw.receivedAt = false
  latest : ∀ id sample, s.latest id = some sample → sample.nodeID = id
  state : ∀ id raw, s.lastRaw id = some raw →
    ∃ state, s.tracker.states id = some state ∧ LastSample state raw

/-- The hub shows the last sample of the node as the policy in force corrects it, and nothing is
clamped. -/
def Synced (raw : MetricSample) : Prop :=
  ∀ clock, s.latest id = some (s.tracker.correct id raw clock) ∧ s.tracker.Invertible id raw clock

/-- Request `i` is going to bring the hub up to the last sample of the node. -/
def Pending : Prop := s.CorrectPending id i ∨ s.PublishPending id i ∨ s.ReplacePending id i

/-- The hub is up to date for the node, or a request in progress is going to bring it up to date. -/
def Tracked : Prop := ∀ raw, s.lastRaw id = some raw → s.Synced id raw ∨ ∃ i, s.Pending id i

/-- Two states agree on a node: they have the same last sample, latest sample and policy of it. -/
structure SameView (s s' : LiveState) (id : String) : Prop where
  lastRaw : s'.lastRaw id = s.lastRaw id
  latest : s'.latest id = s.latest id
  policy : s'.tracker.policies id = s.tracker.policies id

section Frame

variable {s s' : LiveState} {id : String} {i : ℕ}

/-- Corrections depend on the policy of the node only. -/
lemma SameView.activePolicy (h : SameView s s' id) (sample : MetricSample) (clock : Time) :
    s'.tracker.activePolicy id sample clock = s.tracker.activePolicy id sample clock := by
  unfold TrafficTracker.activePolicy
  rw [h.policy]

/-- A sample is shown alike under the same policy. -/
lemma SameView.correct (h : SameView s s' id) (sample : MetricSample) (clock : Time) :
    s'.tracker.correct id sample clock = s.tracker.correct id sample clock := by
  unfold TrafficTracker.correct
  rw [h.activePolicy]

/-- A hub that is up to date stays so while the view of the node does not change. -/
lemma Synced.frame {raw : MetricSample} (h : s.Synced id raw) (hview : SameView s s' id) :
    s'.Synced id raw := by
  intro clock
  obtain ⟨hlatest, hinvertible⟩ := h clock
  refine ⟨by rw [hview.latest, hview.correct, hlatest], fun policy hpolicy => ?_⟩
  exact hinvertible policy (hview.activePolicy raw clock ▸ hpolicy)

/-- A request stays pending while neither it nor the view of the node changes. -/
lemma Pending.frame (h : s.Pending id i) (hview : SameView s s' id)
    (hrequest : s'.requests i = s.requests i) : s'.Pending id i := by
  rcases h with ⟨raw, hraw, hi⟩ | ⟨raw, sample, hraw, hi, hsample⟩ |
    ⟨edited, correction, rawRX, rawTX, hid, ⟨raw, latest, hraw, hlatest, htotals⟩, hi⟩
  · exact Or.inl ⟨raw, by rw [hview.lastRaw, hraw], by rw [hrequest, hi]⟩
  · refine Or.inr (Or.inl ⟨raw, sample, by rw [hview.lastRaw, hraw], by rw [hrequest, hi], ?_⟩)
    intro clock
    rw [hview.correct]
    exact hsample clock
  · exact Or.inr (Or.inr ⟨edited, correction, rawRX, rawTX, hid, ⟨raw, latest,
      by rw [hview.lastRaw, hraw], by rw [hview.latest, hlatest], htotals⟩, by rw [hrequest, hi]⟩)

/-- A step that neither changes the view of a node nor ends a pending request of it keeps the
invariant. -/
lemma Tracked.frame (h : s.Tracked id) (hview : SameView s s' id)
    (hrequests : ∀ j, s.Pending id j → s'.requests j = s.requests j) : s'.Tracked id := by
  intro raw hraw
  rw [hview.lastRaw] at hraw
  rcases h raw hraw with hsynced | ⟨j, hj⟩
  · exact Or.inl (hsynced.frame hview)
  · exact Or.inr ⟨j, hj.frame hview (hrequests j hj)⟩

end Frame

/-! ## One step of a request -/

section Advance

variable {s : LiveState} {id : String} {i j : ℕ} {now clock : Time} {ok : Bool}

/-- The last sample of a node has an instant. -/
lemma WellFormed.isZero_metricTime (h : s.WellFormed) {raw : MetricSample}
    (hraw : s.lastRaw id = some raw) : isZero (metricTime raw) = false := by
  simp [metricTime, (h.lastRaw id raw hraw).2]

/-- A pending request has a sample to publish. -/
lemma Pending.publishes (h : s.Pending id i) :
    ∃ request, s.requests i = some request ∧ publishes request = true := by
  rcases h with ⟨raw, -, hi⟩ | ⟨raw, sample, -, hi, -⟩ | ⟨edited, correction, rx, tx, -, -, hi⟩
  · exact ⟨_, hi, rfl⟩
  · exact ⟨_, hi, rfl⟩
  · exact ⟨_, hi, rfl⟩

/-- A request with no sample to publish is not pending. -/
lemma not_pending {request : LiveRequest} (hi : s.requests i = some request)
    (hquiet : publishes request = false) : ¬s.Pending id i := by
  intro h
  obtain ⟨request', hi', hpublishes⟩ := h.publishes
  obtain rfl : request = request' := Option.some.inj (hi.symm.trans hi')
  rw [hquiet] at hpublishes
  cases hpublishes

/-- A request that has not begun is not pending. -/
lemma not_pending_of_none (hi : s.requests i = none) : ¬s.Pending id i := by
  intro h
  obtain ⟨request, hi', -⟩ := h.publishes
  cases hi.symm.trans hi'

/-- The other requests do not change when one is put into its next stage. -/
lemma requests_setRequest_of_ne (s : LiveState) (hne : j ≠ i) (request : Option LiveRequest) :
    (s.setRequest i request).requests j = s.requests j :=
  Function.update_of_ne hne _ _

/-- The stage of a request after it is set. -/
lemma requests_setRequest_self (s : LiveState) (i : ℕ) (request : Option LiveRequest) :
    (s.setRequest i request).requests i = request :=
  Function.update_self _ _ _

/-- A pending request is another one than one that is not pending. -/
lemma ne_of_pending (hi : ¬s.Pending id i) (hj : s.Pending id j) : j ≠ i := by
  rintro rfl
  exact hi hj

/-- A step that only moves a request that is not pending keeps the invariant. -/
lemma Tracked.setRequest (h : s.Tracked id) (hi : ¬s.Pending id i)
    (request : Option LiveRequest) : (s.setRequest i request).Tracked id := by
  exact h.frame ⟨rfl, rfl, rfl⟩ fun j hj =>
    requests_setRequest_of_ne s (ne_of_pending hi hj) request

/-- Configuring another node does not change the view of a node. -/
lemma sameView_configureNode {node : Node} (hne : id ≠ node.id) :
    SameView s (s.configureNode node) id :=
  ⟨rfl, rfl, Function.update_of_ne hne _ _⟩

/-- A sample that is still to be published by another request stays so when a request publishes. -/
lemma PublishedLater.publish (h : s.PublishedLater id i) (sample : MetricSample) :
    ((s.publish sample).setRequest i none).Tracked id := by
  obtain ⟨j, hne, hj⟩ := h
  refine fun _ _ => Or.inr ⟨j, ?_⟩
  rcases hj with ⟨raw, hraw, hj⟩ | ⟨raw, shown, hraw, hj, hshown⟩
  · exact Or.inl ⟨raw, hraw, (requests_setRequest_of_ne _ hne none).trans hj⟩
  · exact Or.inr (Or.inl
      ⟨raw, shown, hraw, (requests_setRequest_of_ne _ hne none).trans hj, hshown⟩)

/-- The hub is up to date when it is so at one instant, since the last sample has an instant. -/
lemma synced_of_clock {raw : MetricSample} (htime : isZero (metricTime raw) = false)
    (hlatest : s.latest id = some (s.tracker.correct id raw clock))
    (hinvertible : s.tracker.Invertible id raw clock) : s.Synced id raw := fun clock' =>
  ⟨hlatest.trans (congrArg some (TrafficTracker.correct_clock htime clock')),
    hinvertible.of_clock htime clock'⟩

/-- Publishing what the policy in force makes of the last sample brings the hub up to date. -/
lemma synced_publish {raw : MetricSample} (hwf : s.WellFormed) (hraw : s.lastRaw id = some raw)
    (hinvertible : s.tracker.Invertible id raw clock) :
    ((s.publish (s.tracker.correct id raw clock)).setRequest i none).Synced id raw := by
  refine synced_of_clock (hwf.isZero_metricTime hraw) ?_ hinvertible
  have hkey : (s.tracker.correct id raw clock).nodeID = id :=
    (s.tracker.correct_keeps id raw clock).1.trans (hwf.lastRaw id raw hraw).1
  show Function.update s.latest _ _ id = _
  rw [hkey, Function.update_self]
  rfl

/-- Correcting a sample keeps the invariant. -/
lemma Tracked.advance_applied (h : s.Tracked id) (hwf : s.WellFormed) {nodeID : String}
    {raw : MetricSample} (hi : s.requests i = some (.applied nodeID raw)) :
    (s.advance i (.applied nodeID raw) now clock ok).Tracked id := by
  by_cases hlast : nodeID = id ∧ s.lastRaw id = some raw
  · -- the request goes on with the last sample
    obtain ⟨rfl, hraw⟩ := hlast
    exact fun _ _ => Or.inr ⟨i, Or.inr (Or.inl ⟨raw, _, hraw, requests_setRequest_self _ _ _,
      fun clock' => TrafficTracker.correct_clock (hwf.isZero_metricTime hraw) clock'⟩)⟩
  · refine h.setRequest ?_ _
    rintro (⟨raw', hraw', hi'⟩ | ⟨raw', sample, -, hi', -⟩ | ⟨_, _, _, _, -, -, hi'⟩)
    · cases hi.symm.trans hi'
      exact hlast ⟨rfl, hraw'⟩
    · cases hi.symm.trans hi'
    · cases hi.symm.trans hi'

/-- Publishing a sample under the condition keeps the invariant. -/
lemma Tracked.advance_corrected (h : s.Tracked id) (hwf : s.WellFormed) {raw sample : MetricSample}
    (hi : s.requests i = some (.corrected raw sample))
    (hallowed : s.AllowedRequest i (.corrected raw sample) clock) :
    (s.advance i (.corrected raw sample) now clock ok).Tracked id := by
  by_cases hid : id = sample.nodeID
  · subst hid
    rcases hallowed with ⟨hraw, hsample, hinvertible⟩ | hlater
    · intro raw' hraw'
      obtain rfl : raw = raw' := Option.some.inj (hraw.symm.trans hraw')
      have hsynced := synced_publish (i := i) hwf hraw hinvertible
      rw [← hsample] at hsynced
      exact Or.inl hsynced
    · exact hlater.publish sample
  · refine h.frame ?_ fun j hj => requests_setRequest_of_ne _ ?_ none
    · exact ⟨rfl, Function.update_of_ne hid _ _, rfl⟩
    · rintro rfl
      rcases hj with ⟨raw', hraw', hi'⟩ | ⟨raw', sample', hraw', hi', hsample'⟩ |
        ⟨_, _, _, _, -, -, hi'⟩
      · cases hi.symm.trans hi'
      · cases hi.symm.trans hi'
        apply hid
        rw [hsample' clock, (s.tracker.correct_keeps id raw clock).1, (hwf.lastRaw id raw hraw').1]
      · cases hi.symm.trans hi'

/-- Storing a correction keeps the invariant. -/
lemma Tracked.advance_snapshot (h : s.Tracked id) {edited : Node} {correction : Correction}
    {rawRX rawTX : UInt64}
    (hi : s.requests i = some (.correctionSnapshot edited correction rawRX rawTX)) :
    (s.advance i (.correctionSnapshot edited correction rawRX rawTX) now clock ok).Tracked id := by
  have hquiet : ¬s.Pending id i := not_pending hi rfl
  cases ok with
  | false => exact h.setRequest hquiet none
  | true =>
    cases hstored : s.updateTrafficCorrection edited with
    | none =>
      simp only [advance, hstored]
      exact h.setRequest hquiet none
    | some stored =>
      simp only [advance, hstored]
      obtain ⟨row, -, rfl⟩ := Option.map_eq_some_iff.mp hstored
      exact h.frame ⟨rfl, rfl, rfl⟩ fun j hj =>
        requests_setRequest_of_ne _ (ne_of_pending hquiet hj) _

/-- Configuring a correction under the condition keeps the invariant. -/
lemma Tracked.advance_stored (h : s.Tracked id) {edited : Node} {correction : Correction}
    {rawRX rawTX : UInt64}
    (hi : s.requests i = some (.correctionStored edited correction rawRX rawTX))
    (hallowed : s.AllowedRequest i (.correctionStored edited correction rawRX rawTX) clock) :
    (s.advance i (.correctionStored edited correction rawRX rawTX) now clock ok).Tracked id := by
  by_cases hid : id = edited.id
  · subst hid
    intro raw hraw
    rcases hallowed with hnone | hshows | ⟨j, raw', hraw', hj⟩
    · cases hnone.symm.trans hraw
    · -- the request now waits to replace the last sample
      exact Or.inr ⟨i, Or.inr (Or.inr
        ⟨edited, correction, rawRX, rawTX, rfl, hshows, requests_setRequest_self _ _ _⟩)⟩
    · have hne : j ≠ i := by
        rintro rfl
        cases hi.symm.trans hj
      exact Or.inr ⟨j, Or.inl ⟨raw', hraw', (requests_setRequest_of_ne _ hne _).trans hj⟩⟩
  · have hview := sameView_configureNode (s := s) hid
    exact h.frame ⟨hview.lastRaw, hview.latest, hview.policy⟩ fun j hj =>
      requests_setRequest_of_ne _ (ne_of_pending (not_pending hi rfl) hj) _

/-- Replacing the latest sample under the condition keeps the invariant. -/
lemma Tracked.advance_configured (h : s.Tracked id) (hwf : s.WellFormed) {edited : Node}
    {correction : Correction} {rx tx : UInt64}
    (hi : s.requests i = some (.correctionConfigured edited correction rx tx))
    (hallowed : s.AllowedRequest i (.correctionConfigured edited correction rx tx) clock) :
    (s.advance i (.correctionConfigured edited correction rx tx) now clock ok).Tracked id := by
  -- the request can be pending for its own node only, and only when the hub shows a sample of it
  have hpending : s.Pending id i → id = edited.id ∧ ∃ latest, s.latest id = some latest := by
    rintro (⟨_, -, hi'⟩ | ⟨_, _, -, hi', -⟩ |
      ⟨_, _, _, _, hid, ⟨_, latest, -, hlatest, -⟩, hi'⟩)
    · cases hi.symm.trans hi'
    · cases hi.symm.trans hi'
    · cases hi.symm.trans hi'
      exact ⟨hid.symm, latest, hlatest⟩
  cases hlatest : s.latest edited.id with
  | none =>
    simp only [advance, hlatest]
    refine h.setRequest (fun hj => ?_) none
    obtain ⟨rfl, latest, hsome⟩ := hpending hj
    cases hlatest.symm.trans hsome
  | some latest =>
    simp only [advance, hlatest]
    have hkey : (s.replacement edited correction latest rx tx clock).nodeID = edited.id := by
      rw [← hwf.latest edited.id latest hlatest]
      cases correction with
      | save rxBytes txBytes => exact (s.tracker.correct_keeps _ _ _).1
      | clear => rfl
    by_cases hid : id = edited.id
    · subst hid
      rcases hallowed with hnone | ⟨raw, hraw, ⟨raw', latest', hraw', hlatest', htotals⟩,
        hinvertible, hclear⟩ | hlater
      · cases hlatest.symm.trans hnone
      · obtain rfl : raw = raw' := Option.some.inj (hraw.symm.trans hraw')
        obtain rfl : latest = latest' := Option.some.inj (hlatest.symm.trans hlatest')
        have hreplacement : s.replacement edited correction latest rx tx clock =
            s.tracker.correct edited.id raw clock := by
          unfold replacement
          rw [htotals]
          cases correction with
          | save rxBytes txBytes => rfl
          | clear =>
            simp only [TrafficTracker.correct]
            rw [hclear rfl]
        intro raw' hraw''
        obtain rfl : raw = raw' := Option.some.inj (hraw.symm.trans hraw'')
        rw [hreplacement]
        exact Or.inl (synced_publish hwf hraw hinvertible)
      · exact hlater.publish _
    · refine h.frame ⟨rfl, ?_, rfl⟩ fun j hj => requests_setRequest_of_ne _ ?_ none
      · exact Function.update_of_ne (fun heq => hid (heq.trans hkey)) _ _
      · rintro rfl
        exact hid (hpending hj).1

/-- The present does not matter for the adjustments of a sample with an instant. -/
lemma adjustments_clock {t : TrafficTracker} {raw : MetricSample} {clock' : Time}
    (h : isZero (metricTime raw) = false) :
    adjustments t id raw clock = adjustments t id raw clock' := by
  unfold adjustments
  rw [TrafficTracker.activePolicy_clock h clock']

/-- What is shown of a sample depends on the adjustments that apply. -/
lemma correct_eq_of_adjustments {t t' : TrafficTracker} {raw : MetricSample}
    (h : adjustments t' id raw clock = adjustments t id raw clock) :
    t'.correct id raw clock = t.correct id raw clock ∧
      (t.Invertible id raw clock → t'.Invertible id raw clock) := by
  unfold adjustments at h
  unfold TrafficTracker.correct TrafficTracker.Invertible
  cases hold : t.activePolicy id raw clock with
  | none =>
    rw [hold, Option.map_none, Option.map_eq_none_iff] at h
    rw [h]
    exact ⟨rfl, fun h => h⟩
  | some old =>
    rw [hold, Option.map_some, Option.map_eq_some_iff] at h
    obtain ⟨new, hnew, hsame⟩ := h
    obtain ⟨hrx, htx⟩ := Prod.mk.inj hsame
    rw [hnew]
    refine ⟨by simp only [hrx, htx], fun hinvertible policy hpolicy => ?_⟩
    obtain rfl : new = policy := Option.some.inj hpolicy
    rw [hrx, htx]
    exact hinvertible old rfl

/-- Configuring an edited node under the condition keeps the invariant. -/
lemma Tracked.advance_nodeRead (h : s.Tracked id) (hwf : s.WellFormed) {updated : Node}
    (hi : s.requests i = some (.nodeRead updated))
    (hallowed : s.AllowedRequest i (.nodeRead updated) clock) :
    (s.advance i (.nodeRead updated) now clock ok).Tracked id := by
  have hne : ∀ {j}, s.Pending id j → j ≠ i := ne_of_pending (not_pending hi rfl)
  by_cases hid : id = updated.id
  · subst hid
    rcases hallowed with hsame | ⟨j, raw, hraw, hj⟩
    · intro raw hraw
      have htime := hwf.isZero_metricTime hraw
      have hadjust : ∀ clock', adjustments (s.tracker.configureNode updated) updated.id raw clock' =
          adjustments s.tracker updated.id raw clock' := by
        intro clock'
        exact (adjustments_clock htime).trans ((hsame raw hraw).trans (adjustments_clock htime))
      rcases h raw hraw with hsynced | ⟨j, hj⟩
      · refine Or.inl fun clock' => ?_
        obtain ⟨hcorrect, hinvertible⟩ := correct_eq_of_adjustments (hadjust clock')
        exact ⟨(hsynced clock').1.trans (congrArg some hcorrect.symm),
          hinvertible (hsynced clock').2⟩
      · have hkept := requests_setRequest_of_ne (s.configureNode updated) (hne hj) none
        refine Or.inr ⟨j, ?_⟩
        rcases hj with ⟨raw', hraw', hj⟩ | ⟨raw', sample, hraw', hj, hsample⟩ |
          ⟨edited, correction, rawRX, rawTX, hid, hshows, hj⟩
        · exact Or.inl ⟨raw', hraw', hkept.trans hj⟩
        · obtain rfl : raw = raw' := Option.some.inj (hraw.symm.trans hraw')
          refine Or.inr (Or.inl ⟨raw, sample, hraw', hkept.trans hj, fun clock' => ?_⟩)
          exact (hsample clock').trans (correct_eq_of_adjustments (hadjust clock')).1.symm
        · exact Or.inr (Or.inr
            ⟨edited, correction, rawRX, rawTX, hid, hshows, hkept.trans hj⟩)
    · have hpending : s.Pending updated.id j := Or.inl ⟨raw, hraw, hj⟩
      exact fun _ _ => Or.inr ⟨j, Or.inl
        ⟨raw, hraw, (requests_setRequest_of_ne _ (hne hpending) none).trans hj⟩⟩
  · have hview := sameView_configureNode (s := s) hid
    exact h.frame ⟨hview.lastRaw, hview.latest, hview.policy⟩ fun j hj =>
      requests_setRequest_of_ne _ (hne hj) none

/-- A step of a request under the condition keeps the invariant. -/
lemma Tracked.advance (h : s.Tracked id) (hwf : s.WellFormed) {request : LiveRequest}
    (hi : s.requests i = some request) (hallowed : s.AllowedRequest i request clock) :
    (s.advance i request now clock ok).Tracked id := by
  cases request with
  | applied nodeID raw => exact h.advance_applied hwf hi
  | corrected raw sample => exact h.advance_corrected hwf hi hallowed
  | correctionRead node correction => exact h.setRequest (not_pending hi rfl) _
  | correctionSnapshot edited correction rawRX rawTX => exact h.advance_snapshot hi
  | correctionStored edited correction rawRX rawTX => exact h.advance_stored hi hallowed
  | correctionConfigured edited correction rawRX rawTX => exact h.advance_configured hwf hi hallowed
  | nodeStored nodeID =>
    have hquiet : ¬s.Pending id i := not_pending hi rfl
    simp only [LiveState.advance]
    split
    · exact h.setRequest hquiet _
    · exact h.setRequest hquiet none
  | nodeRead updated => exact h.advance_nodeRead hwf hi hallowed

end Advance

/-! ## Runs -/

section Run

variable {s : LiveState} {id : String}

/-- Configuring a node keeps the totals of the tracker. -/
lemma WellFormed.configureNode (h : s.WellFormed) (node : Node) :
    (s.configureNode node).WellFormed :=
  ⟨h.lastRaw, h.latest, h.state⟩

/-- Moving a request keeps the samples. -/
lemma WellFormed.setRequest (h : s.WellFormed) (i : ℕ) (request : Option LiveRequest) :
    (s.setRequest i request).WellFormed :=
  ⟨h.lastRaw, h.latest, h.state⟩

/-- Publishing a sample keeps the samples under their nodes. -/
lemma WellFormed.publish (h : s.WellFormed) (sample : MetricSample) :
    (s.publish sample).WellFormed := by
  refine ⟨h.lastRaw, fun id latest hlatest => ?_, h.state⟩
  by_cases hid : id = sample.nodeID
  · subst hid
    have hself : Function.update s.latest sample.nodeID (some sample) sample.nodeID = some latest :=
      hlatest
    rw [Function.update_self] at hself
    rw [← Option.some.inj hself]
  · have hother : Function.update s.latest sample.nodeID (some sample) id = some latest := hlatest
    rw [Function.update_of_ne hid] at hother
    exact h.latest id latest hother

/-- A step of a request keeps the samples under their nodes. -/
lemma WellFormed.advance (h : s.WellFormed) (i : ℕ) (request : LiveRequest) (now clock : Time)
    (ok : Bool) : (s.advance i request now clock ok).WellFormed := by
  cases request with
  | applied nodeID raw => exact h.setRequest i _
  | corrected raw sample => exact (h.publish sample).setRequest i none
  | correctionRead node correction => exact h.setRequest i _
  | correctionSnapshot edited correction rawRX rawTX =>
    simp only [LiveState.advance]
    split
    · rename_i stored hstored
      obtain ⟨row, -, rfl⟩ := Option.map_eq_some_iff.mp hstored
      exact ⟨h.lastRaw, h.latest, h.state⟩
    · exact h.setRequest i none
  | correctionStored edited correction rawRX rawTX => exact (h.configureNode edited).setRequest i _
  | correctionConfigured edited correction rawRX rawTX =>
    simp only [LiveState.advance]
    split
    · exact h.setRequest i none
    · exact (h.publish _).setRequest i none
  | nodeStored nodeID =>
    simp only [LiveState.advance]
    split
    · exact h.setRequest i _
    · exact h.setRequest i none
  | nodeRead updated => exact (h.configureNode updated).setRequest i none

/-- A started server has the samples under their nodes. -/
lemma wellFormed_restart (stored : StoredSamples) (clock : Time) :
    (s.restart stored clock).WellFormed := by
  refine ⟨fun id raw hraw => ⟨stored.keyed id raw hraw, stored.received id raw hraw⟩,
    fun id sample hsample => ?_, fun id raw hraw => ?_⟩
  · obtain ⟨raw, hraw, rfl⟩ := Option.map_eq_some_iff.mp hsample
    exact (TrafficTracker.correct_keeps _ id raw clock).1.trans (stored.keyed id raw hraw)
  · have hraw' : stored.samples id = some raw := hraw
    simp only [restart, TrafficTracker.load, hraw']
    exact ⟨_, rfl, rfl, fun d => by cases d <;> rfl, fun d => by cases d <;> rfl⟩

/-- A report keeps the samples under their nodes. -/
lemma WellFormed.acceptSample (h : s.WellFormed) (i : ℕ) (node : Node) (sample : MetricSample)
    {now : Time} (hnow : isZero now = false) (clock : Time) :
    (s.acceptSample i node sample now clock).WellFormed := by
  obtain ⟨rx, tx, hraw⟩ := s.tracker.exists_apply_eq node (stampSample node sample now) now clock
  have hlast : ∀ id, (s.acceptSample i node sample now clock).lastRaw id =
      if id = node.id then
        some (s.tracker.apply node (stampSample node sample now) now clock).2
      else s.lastRaw id := fun id => Function.update_apply _ _ _ id
  have hstate : ∀ id, (s.acceptSample i node sample now clock).tracker.states id = _ :=
    s.tracker.states_apply node (stampSample node sample now) now clock
  constructor
  · intro id raw
    rw [hlast]
    split_ifs with hid
    · rintro ⟨⟩
      rw [hraw]
      exact ⟨hid.symm, hnow⟩
    · exact h.lastRaw id raw
  · exact h.latest
  · intro id raw
    rw [hlast, hstate]
    split_ifs with hid
    · rintro ⟨⟩
      exact ⟨_, rfl, s.tracker.lastSample_apply node (stampSample node sample now) now clock⟩
    · exact h.state id raw

/-- A report keeps the invariant: the request goes on with the last sample. -/
lemma Tracked.acceptSample (h : s.Tracked id) {i : ℕ} (hi : s.requests i = none) (node : Node)
    (sample : MetricSample) (now clock : Time) :
    (s.acceptSample i node sample now clock).Tracked id := by
  by_cases hid : id = node.id
  · subst hid
    exact fun _ _ => Or.inr ⟨i, Or.inl
      ⟨_, Function.update_self _ _ _, Function.update_self _ _ _⟩⟩
  · refine h.frame ⟨Function.update_of_ne hid _ _, rfl, ?_⟩ fun j hj =>
      Function.update_of_ne (ne_of_pending (not_pending_of_none hi) hj) _ _
    exact (TrafficTracker.policies_apply _ _ _ _ _ id).trans (if_neg hid)

/-- Starting a server under the condition brings the hub up to date. -/
lemma tracked_restart {stored : StoredSamples} {clock : Time}
    (hallowed : s.Allowed (.restart stored clock)) : (s.restart stored clock).Tracked id := by
  intro raw hraw
  have hraw' : stored.samples id = some raw := hraw
  have htime : isZero (metricTime raw) = false := by
    simp [metricTime, stored.received id raw hraw']
  refine Or.inl (synced_of_clock htime ?_ (hallowed id raw hraw'))
  simp only [LiveState.restart, hraw', Option.map_some]

/-- A step of the server keeps the samples under their nodes. -/
lemma WellFormed.step (h : s.WellFormed) (event : LiveEvent) : (s.step event).WellFormed := by
  cases event with
  | acceptSample i node sample now clock =>
    simp only [LiveState.step]
    split
    · rename_i hnow
      exact h.acceptSample i node sample hnow clock
    · exact h
  | correctTraffic i nodeID correction =>
    simp only [LiveState.step]
    split
    · exact h.setRequest i _
    · exact h
  | updateNode i nodeID update =>
    simp only [LiveState.step]
    split
    · split_ifs
      · exact h
      · exact ⟨h.lastRaw, h.latest, h.state⟩
    · exact h
  | advance i now clock ok =>
    simp only [LiveState.step]
    split
    · exact h
    · exact h.advance i _ now clock ok
  | restart stored clock => exact wellFormed_restart stored clock

/-- A step of the server under the condition keeps the invariant. -/
lemma Tracked.step (h : s.Tracked id) (hwf : s.WellFormed) {event : LiveEvent}
    (hallowed : s.Allowed event) : (s.step event).Tracked id := by
  cases event with
  | acceptSample i node sample now clock =>
    simp only [LiveState.step]
    split
    · rename_i hi hnow
      exact h.acceptSample hi node sample now clock
    · exact h
  | correctTraffic i nodeID correction =>
    simp only [LiveState.step]
    split
    · rename_i node hi hnode
      exact h.setRequest (not_pending_of_none hi) _
    · exact h
  | updateNode i nodeID update =>
    simp only [LiveState.step]
    split
    · rename_i row hi hrow
      split_ifs
      · exact h
      · exact h.frame ⟨rfl, rfl, rfl⟩ fun j hj =>
          requests_setRequest_of_ne _ (ne_of_pending (not_pending_of_none hi) hj) _
    · exact h
  | advance i now clock ok =>
    simp only [LiveState.step]
    split
    · exact h
    · rename_i request hi
      exact h.advance hwf hi (hallowed request hi)
  | restart stored clock => exact tracked_restart hallowed

/-- A run under the condition keeps the invariant. -/
lemma Tracked.run (h : s.Tracked id) (hwf : s.WellFormed) (events : List LiveEvent)
    (hallowed : s.AllAllowed events) :
    (s.run events).Tracked id ∧ (s.run events).WellFormed := by
  induction events generalizing s with
  | nil => exact ⟨h, hwf⟩
  | cons event events ih => exact ih (h.step hwf hallowed.1) (hwf.step event) hallowed.2

/-- A hub that is up to date shows the right totals, and a snapshot recovers the raw ones. -/
lemma liveViewCorrect_of_synced (h : ∀ raw, s.lastRaw id = some raw → s.Synced id raw) :
    s.LiveViewCorrect id := by
  intro raw hraw
  have hsynced := h raw hraw
  refine ⟨_, (hsynced 0).1, fun clock d => ?_, fun node now clock hid => ?_⟩
  · rw [← Option.some.inj ((hsynced clock).1.symm.trans (hsynced 0).1)]
  · subst hid
    have hraw' := TrafficTracker.uncorrect_correct (hsynced clock).2
    simp only [trafficCorrectionSnapshot, (hsynced clock).1, hraw', and_self]

end Run

end LiveState

/-- The live view of the traffic totals.  Take a server that starts with any rows in its store and
takes any steps that meet the condition.  In every state without a request in progress the hub shows
for every node the corrected totals of the sample that the tracker took in last, and a snapshot of
the node reports the raw totals of that sample, which are the totals of the tracker. -/
theorem LiveState.liveViewCorrect_run (rows : String → Option Node) (events : List LiveEvent)
    (hallowed : AllAllowed { rows := rows } events)
    (hidle : ∀ i, (run { rows := rows } events).requests i = none) (id : String) :
    (run { rows := rows } events).LiveViewCorrect id ∧
      ∀ raw, (run { rows := rows } events).lastRaw id = some raw →
        ∃ state, (run { rows := rows } events).tracker.states id = some state ∧
          ∀ d : Direction, d.monthly state = d.total raw := by
  have hnone : ∀ id raw, ({ rows := rows } : LiveState).lastRaw id ≠ some raw := by
    intro id raw h
    cases h
  have hwf : WellFormed { rows := rows } :=
    ⟨fun id raw h => absurd h (hnone id raw), fun id raw h => absurd h (hnone id raw),
      fun id raw h => absurd h (hnone id raw)⟩
  have htracked : Tracked { rows := rows } id := fun raw h => absurd h (hnone id raw)
  obtain ⟨hrun, hwf'⟩ := htracked.run hwf events hallowed
  refine ⟨liveViewCorrect_of_synced fun raw hraw => ?_, fun raw hraw => ?_⟩
  · rcases hrun raw hraw with hsynced | ⟨i, hi⟩
    · exact hsynced
    · exact absurd hi (not_pending_of_none (hidle i))
  · obtain ⟨state, hstate, hlast⟩ := hwf'.state id raw hraw
    exact ⟨state, hstate, hlast.monthly⟩

/-! ## Runs on one node -/

/-- The row of a node. -/
def liveNode : Node := { id := "n1", trafficResetDay := 1 }

/-- The rows of a store with one node. -/
def liveRows (id : String) : Option Node := if id = "n1" then some liveNode else none

/-- A number of seconds after midnight of August 10, 2026. -/
def augustTime (seconds : ℤ) : Time :=
  Calendar.midnight (Calendar.ofDate 2026 8 10) + seconds * second

/-- A report of the node that runs without interruption. -/
def liveReport (request : ℕ) (counter : UInt64) (seconds : ℤ) : List LiveEvent :=
  [.acceptSample request liveNode { bootID := "a", netRxBytes := counter } (augustTime seconds) 0,
    .advance request 0 0 true, .advance request 0 0 true]

/-- The snapshot and the store update of a correction to a total. -/
def liveSave (request : ℕ) (total : UInt64) (seconds : ℤ) : List LiveEvent :=
  [.correctTraffic request "n1" (.save total 0), .advance request (augustTime seconds) 0 true,
    .advance request 0 0 true]

/-- The steps that are left of a correction: the tracker is configured and the latest sample is
replaced. -/
def liveReplace (request : ℕ) : List LiveEvent :=
  [.advance request 0 0 true, .advance request 0 0 true]

/-- A report comes in while a correction is saved. -/
def racingEvents : List LiveEvent :=
  liveReport 0 1000 0 ++ liveReport 1 1400 60 ++ liveSave 2 1000 90 ++ liveReport 3 1500 120 ++
    liveReplace 2

/-- The reset day is moved to the fifth after a correction was saved. -/
def editingEvents : List LiveEvent :=
  liveReport 0 1000 0 ++ liveReport 1 1400 60 ++ liveSave 2 1000 90 ++ liveReplace 2 ++
    [.updateNode 3 "n1" { id := "n1", trafficResetDay := 5 }, .advance 3 0 0 true,
      .advance 3 0 0 true]

/-- A view that shows another total than the corrected one is not right. -/
lemma LiveState.not_liveViewCorrect {s : LiveState} {id : String} (shown corrected : UInt64)
    (hshown : (s.latest id).map MetricSample.monthlyRxBytes = some shown)
    (hcorrected : (s.lastRaw id).map (fun raw => (s.tracker.correct id raw 0).monthlyRxBytes) =
      some corrected) (hne : shown ≠ corrected) : ¬s.LiveViewCorrect id := by
  intro h
  obtain ⟨raw, hraw, rfl⟩ := Option.map_eq_some_iff.mp hcorrected
  obtain ⟨latest, hlatest, htotal, -⟩ := h raw hraw
  rw [hlatest, Option.map_some, Option.some.injEq] at hshown
  exact hne (hshown.symm.trans (htotal 0 .rx))

/-- Two runs after which no request is in progress and the live view is wrong.  In the first one a
report comes in between the snapshot of a correction and the replacement of the latest sample: the
hub shows 1000 bytes where the corrected total of the last sample is 1100.  In the second one no
requests overlap, and the reset day is edited after a correction: the hub shows 1000 bytes where
the correction no longer applies to the last sample of 400 bytes. -/
theorem liveView_differs :
    (∀ i, (LiveState.run { rows := liveRows } racingEvents).requests i = none) ∧
      ¬(LiveState.run { rows := liveRows } racingEvents).LiveViewCorrect "n1" ∧
      (∀ i, (LiveState.run { rows := liveRows } editingEvents).requests i = none) ∧
      ¬(LiveState.run { rows := liveRows } editingEvents).LiveViewCorrect "n1" := by
  refine ⟨?_, ?_, ?_, ?_⟩
  · rintro (_ | _ | _ | _ | i)
    all_goals rfl
  · exact LiveState.not_liveViewCorrect 1000 1100 (by decide +kernel)
      (by decide +kernel) (by decide)
  · rintro (_ | _ | _ | _ | i)
    all_goals rfl
  · exact LiveState.not_liveViewCorrect 1000 400 (by decide +kernel)
      (by decide +kernel) (by decide)

/-- A check of the condition on a step, for requests that do not overlap. -/
def LiveState.checks (s : LiveState) : LiveEvent → Bool
  | .advance i _ clock _ =>
    match s.requests i with
    | some (.corrected raw sample) =>
      s.lastRaw sample.nodeID == some raw &&
        sample == s.tracker.correct sample.nodeID raw clock &&
        (s.tracker.activePolicy sample.nodeID raw clock).all fun policy =>
          Unclamped raw.monthlyRxBytes policy.rxCorrection ∧
            Unclamped raw.monthlyTxBytes policy.txCorrection
    | some (.correctionStored edited _ rawRX rawTX) =>
      (s.latest edited.id).any fun latest => s.lastRaw edited.id ==
        some { latest with monthlyRxBytes := rawRX, monthlyTxBytes := rawTX }
    | some (.correctionConfigured edited correction rawRX rawTX) =>
      (s.latest edited.id).any fun latest =>
        let raw := { latest with monthlyRxBytes := rawRX, monthlyTxBytes := rawTX }
        s.lastRaw edited.id == some raw && correction != .clear &&
          (s.tracker.activePolicy edited.id raw clock).all fun policy =>
            Unclamped raw.monthlyRxBytes policy.rxCorrection ∧
              Unclamped raw.monthlyTxBytes policy.txCorrection
    | some (.nodeRead _) => false
    | _ => true
  | .restart _ _ => false
  | _ => true

/-- A step that passes the check meets the condition. -/
lemma LiveState.allowed_of_checks {s : LiveState} {event : LiveEvent} (h : s.checks event = true) :
    s.Allowed event := by
  cases event with
  | acceptSample i node sample now clock => trivial
  | correctTraffic i nodeID correction => trivial
  | updateNode i nodeID update => trivial
  | restart stored clock => cases h
  | advance i now clock ok =>
    intro request hi
    simp only [checks, hi] at h
    cases request with
    | applied nodeID raw => trivial
    | corrected raw sample =>
      simp only [Bool.and_eq_true, beq_iff_eq, Option.all_eq_true, decide_eq_true_eq] at h
      exact Or.inl ⟨h.1.1, h.1.2, h.2⟩
    | correctionRead node correction => trivial
    | correctionSnapshot edited correction rawRX rawTX => trivial
    | correctionStored edited correction rawRX rawTX =>
      simp only [Option.any_eq_true, beq_iff_eq] at h
      obtain ⟨latest, hlatest, hraw⟩ := h
      exact Or.inr (Or.inl ⟨_, latest, hraw, hlatest, rfl⟩)
    | correctionConfigured edited correction rawRX rawTX =>
      simp only [Option.any_eq_true, Bool.and_eq_true, beq_iff_eq, bne_iff_ne, Option.all_eq_true,
        decide_eq_true_eq] at h
      obtain ⟨latest, hlatest, ⟨hraw, hsave⟩, hinvertible⟩ := h
      exact Or.inr (Or.inl ⟨_, hraw, ⟨_, latest, hraw, hlatest, rfl⟩, hinvertible,
        fun hclear => absurd hclear hsave⟩)
    | nodeStored nodeID => trivial
    | nodeRead updated => cases h

/-- A check of the condition on a run. -/
def LiveState.checksAll (s : LiveState) : List LiveEvent → Bool
  | [] => true
  | event :: events => s.checks event && (s.step event).checksAll events

/-- A run that passes the check meets the condition. -/
lemma LiveState.allAllowed_of_checks {s : LiveState} {events : List LiveEvent}
    (h : s.checksAll events = true) : s.AllAllowed events := by
  induction events generalizing s with
  | nil => trivial
  | cons event events ih =>
    obtain ⟨hevent, hevents⟩ := Bool.and_eq_true_iff.mp h
    exact ⟨allowed_of_checks hevent, ih hevents⟩

/-- Reports around a correction that do not overlap with it. -/
def orderlyEvents : List LiveEvent :=
  liveReport 0 1000 0 ++ liveReport 1 1400 60 ++ liveSave 2 1000 90 ++ liveReplace 2 ++
    liveReport 3 1500 120

/-- After a correction to 1000 bytes and 100 more bytes the hub shows 1100 bytes. -/
theorem liveViewCorrect_orderlyEvents :
    ((LiveState.run { rows := liveRows } orderlyEvents).latest "n1").map
        MetricSample.monthlyRxBytes = some 1100 ∧
      (LiveState.run { rows := liveRows } orderlyEvents).LiveViewCorrect "n1" := by
  refine ⟨by decide +kernel, (LiveState.liveViewCorrect_run liveRows orderlyEvents
    (LiveState.allAllowed_of_checks (by decide +kernel)) ?_ "n1").1⟩
  rintro (_ | _ | _ | _ | i)
  all_goals rfl

end Hostpin
