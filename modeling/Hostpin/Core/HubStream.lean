import Hostpin.Core.Hub

/-!
# What a subscriber gets

When one publish ends before the next begins, a subscriber gets the messages of its nodes in the
order in which they were published, the newest one reaches it, and the only ones that it misses were
the oldest of a queue that a publish had found full (`Hub.streams`).

The subscriber may take messages between the attempts of a publish.  So the queue need not be full
any more when its oldest message is taken out (`Hub.discards_from_room`).
-/

namespace Hostpin

open Clock Runs

/-! ## Subscriptions -/

/-- The messages published for the nodes of a subscription since it was made. -/
def Subscription.due (sub : Subscription) : List HubMessage := sub.announced.filter sub.wants

/-- The message was the oldest of a queue that was found full, up to those that the subscriber has
taken. -/
def Discard.FromFull (d : Discard) (received : List HubMessage) : Prop :=
  d.found.length = feedCapacity ∧
    ∃ taken rest, d.found = taken ++ d.entry :: rest ∧ taken ⊆ received

/-- The subscriber gets what it should: what it has or will have together with what a publish under
way is about to send. -/
structure Subscription.Sound (sub : Subscription) (awaited : List HubMessage) : Prop where
  inOrder : (sub.mailbox.seen ++ awaited).Sublist sub.due
  newest : (sub.mailbox.seen ++ awaited).getLast? = sub.due.getLast?
  bounded : sub.mailbox.queue.length ≤ feedCapacity
  accounted : (sub.discarded.map Discard.entry ++ (sub.mailbox.seen ++ awaited)).Perm sub.due
  oldest : ∀ d ∈ sub.discarded, d.FromFull sub.mailbox.received
  refused : sub.refused = []

/-- What a publish knows about the subscription that it serves. -/
def Subscription.AtPhase (sub : Subscription) (found : List HubMessage) : SendPhase → Prop
  | .send => True
  | .evict => found.length = feedCapacity ∧
      ∃ taken, found = taken ++ sub.mailbox.queue ∧ taken ⊆ sub.mailbox.received
  | .resend => sub.mailbox.queue.length < feedCapacity

lemma Discard.FromFull.mono {d : Discard} {received received' : List HubMessage}
    (h : d.FromFull received) (subset : received ⊆ received') : d.FromFull received' := by
  obtain ⟨full, taken, rest, found, mem⟩ := h
  exact ⟨full, taken, rest, found, List.Subset.trans mem subset⟩

namespace Subscription

variable {sub : Subscription} {entry : HubMessage} {awaited found : List HubMessage}
  {phase : SendPhase}

@[simp] lemma mailbox_receive : sub.receive.mailbox = sub.mailbox.receive := rfl

@[simp] lemma due_receive : sub.receive.due = sub.due := rfl

@[simp] lemma discarded_receive : sub.receive.discarded = sub.discarded := rfl

@[simp] lemma mailbox_push : (sub.push entry).mailbox = sub.mailbox.push entry := rfl

@[simp] lemma due_push : (sub.push entry).due = sub.due := rfl

@[simp] lemma discarded_push : (sub.push entry).discarded = sub.discarded := rfl

@[simp] lemma mailbox_announce : (sub.announce entry).mailbox = sub.mailbox := by
  unfold announce
  split <;> rfl

@[simp] lemma discarded_announce : (sub.announce entry).discarded = sub.discarded := by
  unfold announce
  split <;> rfl

@[simp] lemma refused_announce : (sub.announce entry).refused = sub.refused := by
  unfold announce
  split <;> rfl

@[simp] lemma wants_announce : (sub.announce entry).wants = sub.wants := by
  unfold announce
  split <;> rfl

/-- A new message is due to the subscriptions that are registered and allow its node. -/
lemma due_announce : (sub.announce entry).due =
    sub.due ++ if sub.registered ∧ sub.wants entry then [entry] else [] := by
  rw [due, wants_announce, announce]
  by_cases registered : sub.registered
  · rw [if_pos registered, List.filter_append, List.filter_singleton, Bool.cond_eq_ite]
    simp [due, registered]
  · simp [due, registered]

lemma trySend_eq_some {sent : Subscription} (h : sub.trySend entry = some sent) :
    sub.mailbox.queue.length < feedCapacity ∧
      sent = sub.push entry := by
  unfold trySend at h
  split_ifs at h with room
  exact ⟨room, (Option.some.inj h).symm⟩

lemma trySend_eq_none : sub.trySend entry = none ↔ feedCapacity ≤ sub.mailbox.queue.length := by
  simp [trySend]

namespace Sound

/-- The subscriber takes a message. -/
lemma receive (h : sub.Sound awaited) : sub.receive.Sound awaited where
  inOrder := by simpa using h.inOrder
  newest := by simpa using h.newest
  bounded := by
    have := h.bounded
    simp only [mailbox_receive, Mailbox.queue_receive, List.length_tail]
    omega
  accounted := by simpa using h.accounted
  oldest := fun d mem => (h.oldest d mem).mono (Mailbox.received_subset_receive _)
  refused := h.refused

/-- The client leaves; it keeps its queue. -/
lemma leave (h : sub.Sound awaited) : sub.leave.Sound awaited :=
  ⟨h.inOrder, h.newest, h.bounded, h.accounted, h.oldest, h.refused⟩

/-- A new message is announced, and awaited when it is about a node of the subscription. -/
lemma announce (h : sub.Sound []) (entry : HubMessage) :
    (sub.announce entry).Sound (if sub.registered ∧ sub.wants entry then [entry] else []) := by
  refine ⟨?_, ?_, by simpa using h.bounded, ?_, ?_, by simpa using h.refused⟩
  · rw [due_announce, mailbox_announce]
    have := h.inOrder
    rw [List.append_nil] at this
    exact this.append_right _
  · rw [due_announce, mailbox_announce, List.getLast?_append, List.getLast?_append, ← h.newest,
      List.append_nil]
  · rw [due_announce, mailbox_announce, discarded_announce, ← List.append_assoc]
    simpa using h.accounted.append_right _
  · simpa using h.oldest

/-- A message that is awaited is put in. -/
lemma push (h : sub.Sound [entry]) (room : sub.mailbox.queue.length < feedCapacity) :
    (sub.push entry).Sound [] where
  inOrder := by simpa using h.inOrder
  newest := by simpa using h.newest
  bounded := by
    simp only [mailbox_push, Mailbox.queue_push, List.length_append, List.length_singleton]
    exact room
  accounted := by simpa using h.accounted
  oldest := by simpa using h.oldest
  refused := h.refused

/-- The oldest message is taken out for one that is awaited. -/
lemma evict (h : sub.Sound [entry]) (full : found.length = feedCapacity)
    (shrunk : ∃ taken, found = taken ++ sub.mailbox.queue ∧ taken ⊆ sub.mailbox.received) :
    (sub.evict found).Sound [entry] ∧ (sub.evict found).AtPhase found .resend := by
  unfold Subscription.evict
  split
  next hqueue => exact ⟨h, by simp [AtPhase, hqueue, feedCapacity]⟩
  next oldest rest hqueue =>
    have shorter : rest.length < feedCapacity := by
      have := h.bounded
      rw [hqueue, List.length_cons] at this
      omega
    refine ⟨⟨?_, ?_, ?_, ?_, ?_, h.refused⟩, ?_⟩
    · exact ((Mailbox.seen_dropOldest_sublist _).append_right _).trans h.inOrder
    · show _ = sub.due.getLast?
      simpa using h.newest
    · simpa [hqueue] using shorter.le
    · refine List.Perm.trans ?_ h.accounted
      rw [Mailbox.seen_dropOldest hqueue, Mailbox.seen_of_queue hqueue, List.map_append,
        List.append_assoc]
      refine List.Perm.append_left _ ?_
      simp only [List.map_cons, List.map_nil, List.append_assoc, List.cons_append, List.nil_append]
      exact List.perm_middle.symm
    · intro d mem
      rcases List.mem_append.mp mem with mem | mem
      · exact h.oldest d mem
      · obtain rfl := List.mem_singleton.mp mem
        obtain ⟨taken, same, subset⟩ := shrunk
        exact ⟨full, taken, rest, by rw [same, hqueue], subset⟩
    · simpa [AtPhase, hqueue] using shorter

/-- One operation of a publish on a subscription that awaits its message. -/
lemma offer (h : sub.Sound [entry]) (wants : sub.wants entry = true)
    (hphase : sub.AtPhase found phase) :
    match sub.offer entry phase found with
    | (served, none) => served.Sound []
    | (served, some (phase, found)) => served.Sound [entry] ∧ served.AtPhase found phase := by
  unfold Subscription.offer
  rw [wants]
  cases phase with
  | send =>
    cases hsend : sub.trySend entry with
    | some sent =>
      obtain ⟨room, rfl⟩ := trySend_eq_some hsend
      exact h.push room
    | none =>
      have full := le_antisymm (trySend_eq_none.mp hsend) h.bounded
      exact ⟨h, full.symm, [], rfl, List.nil_subset _⟩
  | evict => exact h.evict hphase.1 hphase.2
  | resend =>
    cases hsend : sub.trySend entry with
    | some sent =>
      obtain ⟨room, rfl⟩ := trySend_eq_some hsend
      exact h.push room
    | none => exact absurd (trySend_eq_none.mp hsend) (not_le.mpr hphase)

end Sound

/-- The subscriber takes a message while a publish serves it. -/
lemma AtPhase.receive (h : sub.AtPhase found phase) : sub.receive.AtPhase found phase := by
  cases phase with
  | send => trivial
  | evict =>
    obtain ⟨full, taken, same, subset⟩ := h
    refine ⟨full, ?_⟩
    cases hqueue : sub.mailbox.queue with
    | nil =>
      refine ⟨taken, ?_, List.Subset.trans subset (Mailbox.received_subset_receive _)⟩
      simpa [Subscription.receive, hqueue] using same
    | cons a rest =>
      refine ⟨taken ++ [a], ?_, ?_⟩
      · simp [Subscription.receive, same, hqueue]
      · rw [Subscription.receive, Mailbox.received_receive hqueue]
        exact List.append_subset.mpr
          ⟨List.Subset.trans subset (List.subset_append_left _ _), List.subset_append_right _ _⟩
  | resend =>
    have : sub.mailbox.queue.length < feedCapacity := h
    simp only [AtPhase, Subscription.receive, Mailbox.queue_receive, List.length_tail]
    omega

/-- An operation of a publish leaves the nodes of a subscription as they are. -/
lemma wants_offer (sub : Subscription) (entry : HubMessage) (phase : SendPhase)
    (found : List HubMessage) : (sub.offer entry phase found).1.wants = sub.wants := by
  funext other
  simp [wants, allows, (sub.offer_frame entry phase found).1]

end Subscription

/-! ## The hub -/

/-- What the publishes under way are about to send to a subscription. -/
def Hub.awaited (h : Hub) (i : ℕ) (sub : Subscription) : List HubMessage :=
  (h.calls.filter fun call => i ∈ call.waiting && sub.wants call.entry).map PublishCall.entry

/-- At most one publish is under way, and every subscriber gets what it should. -/
structure Hub.Orderly (h : Hub) : Prop where
  alone : h.calls.length ≤ 1
  nodup : ∀ call ∈ h.calls, call.waiting.Nodup
  known : ∀ call ∈ h.calls, ∀ i ∈ call.waiting, i < h.subscriptions.length
  sound : ∀ (i : ℕ) (sub : Subscription), h.subscriptions[i]? = some sub →
    sub.Sound (h.awaited i sub)
  atPhase : ∀ call ∈ h.calls, ∀ (i : ℕ) rest (sub : Subscription), call.waiting = i :: rest →
    h.subscriptions[i]? = some sub → sub.AtPhase call.found call.phase

/-- A publish starts only when no other one is under way. -/
def Hub.OneAtATime (h : Hub) : HubEvent → Prop
  | .publish .. | .replaceLatest .. => h.calls = []
  | _ => True

instance Hub.OneAtATime.decidable (h : Hub) : ∀ event, Decidable (h.OneAtATime event)
  | .publish .. | .replaceLatest .. => inferInstanceAs (Decidable (h.calls = []))
  | .proceed _ | .subscribe _ | .unsubscribe _ | .receive _ | .load _ | .delete _
  | .resetPersistence => instDecidableTrue

namespace Hub

variable {h h' : Hub} {i : ℕ} {sub : Subscription} {call : PublishCall}

lemma awaited_of_nil (hcalls : h.calls = []) : h.awaited i sub = [] := by
  simp [awaited, hcalls]

lemma awaited_of_singleton (hcalls : h.calls = [call]) :
    h.awaited i sub = if i ∈ call.waiting ∧ sub.wants call.entry then [call.entry] else [] := by
  rw [awaited, hcalls, List.filter_singleton]
  by_cases mem : i ∈ call.waiting <;> by_cases wants : sub.wants call.entry <;>
    simp [mem, wants]

/-- A list with at most one element is that element. -/
lemma eq_singleton_of_getElem? {α : Type} {l : List α} {k : ℕ} {a : α} (hlength : l.length ≤ 1)
    (h : l[k]? = some a) : k = 0 ∧ l = [a] := by
  obtain ⟨hlt, rfl⟩ := List.getElem?_eq_some_iff.mp h
  obtain rfl : k = 0 := by omega
  obtain ⟨b, rfl⟩ := List.length_eq_one_iff.mp (by omega : l.length = 1)
  exact ⟨rfl, rfl⟩

/-- The subscriptions that a publish serves. -/
lemma mem_registered : i ∈ h.registered ↔ ∃ sub, h.subscriptions[i]? = some sub ∧
    sub.registered = true := by
  simp only [registered, List.mem_filter, List.mem_range, Option.any_eq_true]
  constructor
  · exact fun ⟨_, sub, found, reg⟩ => ⟨sub, found, reg⟩
  · exact fun ⟨sub, found, reg⟩ => ⟨(List.getElem?_eq_some_iff.mp found).1, sub, found, reg⟩

namespace Orderly

/-- Only the subscriptions and the publishes under way matter. -/
lemma congr (horderly : h.Orderly) (hsubs : h'.subscriptions = h.subscriptions)
    (hcalls : h'.calls = h.calls) : h'.Orderly where
  alone := hcalls ▸ horderly.alone
  nodup := hcalls ▸ horderly.nodup
  known := by
    rw [hcalls, hsubs]
    exact horderly.known
  sound := by
    simp only [awaited, hcalls, hsubs]
    exact horderly.sound
  atPhase := by
    rw [hcalls, hsubs]
    exact horderly.atPhase

/-- A new publish. -/
lemma announce (horderly : h.Orderly) (hcalls : h.calls = []) (sample : MetricSample)
    (sentAt : Time) {order : List ℕ} (perm : order.Perm h.registered) :
    (h.announce sample sentAt order).Orderly := by
  have calls : (h.announce sample sentAt order).calls =
      [⟨h.entry sample sentAt, order, .send, []⟩] := by
    simp [Hub.announce, hcalls]
  refine ⟨by simp [calls], ?_, ?_, ?_, ?_⟩
  · rw [calls]
    rintro call (_ | ⟨_, ⟨⟩⟩)
    exact perm.nodup_iff.mpr (List.nodup_range.filter _)
  · rw [calls]
    rintro call (_ | ⟨_, ⟨⟩⟩) i mem
    obtain ⟨sub, found, -⟩ := mem_registered.mp (perm.mem_iff.mp mem)
    simpa [Hub.announce] using (List.getElem?_eq_some_iff.mp found).1
  · intro i sub found
    obtain ⟨old, hold, rfl⟩ : ∃ old, h.subscriptions[i]? = some old ∧
        old.announce (h.entry sample sentAt) = sub := by
      simpa [Hub.announce] using found
    have sound := horderly.sound i old hold
    rw [awaited_of_nil hcalls] at sound
    have hmem : i ∈ order ↔ old.registered = true := by
      rw [perm.mem_iff, mem_registered]
      simp [hold]
    have wants : (old.announce (h.entry sample sentAt)).wants = old.wants := by
      unfold Subscription.announce
      split <;> rfl
    rw [awaited_of_singleton calls, wants]
    simp only [hmem]
    exact sound.announce _
  · rw [calls]
    rintro call (_ | ⟨_, ⟨⟩⟩) i rest sub - -
    trivial

/-- The publish under way has served a subscription, in part or as a whole. -/
lemma goOn (horderly : h.Orderly) (hcalls : h.calls = [call]) {rest : List ℕ}
    (hwaiting : call.waiting = i :: rest) (hsub : h.subscriptions[i]? = some sub)
    {served : Subscription} {next : PublishCall} (hentry : next.entry = call.entry)
    (hnext : next.waiting = rest ∨ next.waiting = i :: rest)
    (hserved : served.Sound
      (if i ∈ next.waiting ∧ served.wants next.entry then [next.entry] else []))
    (hphase : next.waiting = i :: rest → served.AtPhase next.found next.phase)
    (hstart : next.waiting = rest → next.phase = .send) :
    Orderly { h with subscriptions := h.subscriptions.set i served, calls := [next] } := by
  have hlt : i < h.subscriptions.length := (List.getElem?_eq_some_iff.mp hsub).1
  have hmem : call ∈ h.calls := by simp [hcalls]
  have hnodup := horderly.nodup call hmem
  have hknown := horderly.known call hmem
  rw [hwaiting] at hnodup hknown
  have hsubset : ∀ j ∈ next.waiting, j ∈ i :: rest := by
    rcases hnext with heq | heq <;> rw [heq]
    · exact fun j mem => List.mem_cons_of_mem _ mem
    · exact fun j mem => mem
  refine ⟨le_rfl, ?_, ?_, ?_, ?_⟩
  · rintro call (_ | ⟨_, ⟨⟩⟩)
    rcases hnext with heq | heq <;> rw [heq]
    · exact (List.nodup_cons.mp hnodup).2
    · exact hnodup
  · rintro call (_ | ⟨_, ⟨⟩⟩) j mem
    rw [List.length_set]
    exact hknown j (hsubset j mem)
  · intro j s found
    rw [awaited_of_singleton rfl]
    rw [List.getElem?_set] at found
    by_cases hij : i = j
    · subst hij
      rw [if_pos rfl, if_pos hlt, Option.some.injEq] at found
      exact found ▸ hserved
    · rw [if_neg hij] at found
      have sound := horderly.sound j s found
      rw [awaited_of_singleton hcalls, hwaiting] at sound
      have same : j ∈ next.waiting ↔ j ∈ i :: rest := by
        rcases hnext with heq | heq <;> simp [heq, Ne.symm hij]
      simpa only [same, hentry] using sound
  · rintro call (_ | ⟨_, ⟨⟩⟩) j rest' s heq found
    rcases hnext with hrest | hsame
    · rw [hstart hrest]
      trivial
    · obtain ⟨rfl, rfl⟩ := List.cons.inj (heq.symm.trans hsame)
      rw [List.getElem?_set_self hlt, Option.some.injEq] at found
      exact found ▸ hphase heq

/-- The next step of the publish under way. -/
lemma proceed (horderly : h.Orderly) (k : ℕ) : (h.step (.proceed k)).Orderly := by
  simp only [Hub.step]
  cases hcall : h.calls[k]? with
  | none => exact horderly
  | some call =>
    obtain ⟨rfl, hcalls⟩ := eq_singleton_of_getElem? horderly.alone hcall
    have hmem : call ∈ h.calls := List.mem_of_getElem? hcall
    cases hwaiting : call.waiting with
    | nil =>
      simp only [Hub.proceed, hwaiting, hcalls, List.eraseIdx_cons_zero]
      refine ⟨by simp, by simp, by simp, fun i sub found => ?_, by simp⟩
      have sound := horderly.sound i sub found
      rw [awaited_of_singleton hcalls, hwaiting] at sound
      rw [awaited_of_nil rfl]
      simpa using sound
    | cons i rest =>
      have hlt := horderly.known call hmem i (by simp [hwaiting])
      obtain ⟨sub, hsub⟩ : ∃ sub, h.subscriptions[i]? = some sub :=
        ⟨_, List.getElem?_eq_getElem hlt⟩
      have hnotMem : i ∉ rest := by
        have := horderly.nodup call hmem
        rw [hwaiting] at this
        exact (List.nodup_cons.mp this).1
      have sound := horderly.sound i sub hsub
      rw [awaited_of_singleton hcalls, hwaiting] at sound
      have hwants := sub.wants_offer call.entry call.phase call.found
      simp only [Hub.proceed, hwaiting, hsub, hcalls, List.set_cons_zero]
      by_cases wants : sub.wants call.entry
      · rw [if_pos ⟨List.mem_cons_self, wants⟩] at sound
        have offered := sound.offer wants (horderly.atPhase call hmem i rest sub hwaiting hsub)
        cases hoffer : sub.offer call.entry call.phase call.found with
        | mk served stage =>
          rw [hoffer] at offered hwants
          cases stage with
          | none =>
            refine horderly.goOn hcalls hwaiting hsub rfl (Or.inl rfl) ?_ ?_ fun _ => rfl
            · rw [if_neg fun contra => hnotMem contra.1]
              exact offered
            · intro heq
              exact absurd (congrArg List.length heq) (by simp)
          | some stage =>
            refine horderly.goOn hcalls hwaiting hsub rfl (Or.inr rfl) ?_ (fun _ => offered.2) ?_
            · rw [if_pos ⟨List.mem_cons_self, by rw [hwants]; exact wants⟩]
              exact offered.1
            · intro heq
              exact absurd (congrArg List.length heq) (by simp)
      · rw [if_neg fun contra => wants contra.2] at sound
        have hoffer : sub.offer call.entry call.phase call.found = (sub, none) := by
          simp [Subscription.offer, wants]
        rw [hoffer]
        refine horderly.goOn hcalls hwaiting hsub rfl (Or.inl rfl) ?_ ?_ fun _ => rfl
        · rw [if_neg fun contra => hnotMem contra.1]
          exact sound
        · intro heq
          exact absurd (congrArg List.length heq) (by simp)

/-- A subscriber takes a message or leaves. -/
lemma modify (horderly : h.Orderly) (i : ℕ) {f : Subscription → Subscription}
    (hwants : ∀ sub, (f sub).wants = sub.wants)
    (hsound : ∀ sub awaited, sub.Sound awaited → (f sub).Sound awaited)
    (hphase : ∀ (sub : Subscription) found phase, sub.AtPhase found phase →
      (f sub).AtPhase found phase) : (h.modify i f).Orderly := by
  have changed {j : ℕ} {sub : Subscription} (found : (h.modify i f).subscriptions[j]? = some sub) :
      ∃ old, h.subscriptions[j]? = some old ∧ (sub = old ∨ sub = f old) := by
    simp only [Hub.modify, List.getElem?_modify] at found
    obtain ⟨old, hold, rfl⟩ := Option.map_eq_some_iff.mp found
    refine ⟨old, hold, ?_⟩
    split
    · exact Or.inr rfl
    · exact Or.inl rfl
  refine ⟨horderly.alone, horderly.nodup, ?_, ?_, ?_⟩
  · simpa [Hub.modify] using horderly.known
  · intro j sub found
    obtain ⟨old, hold, rfl | rfl⟩ := changed found
    · exact horderly.sound j sub hold
    · have same : (h.modify i f).awaited j (f old) = h.awaited j old := by
        simp only [awaited, hwants]
        rfl
      rw [same]
      exact hsound _ _ (horderly.sound j old hold)
  · intro call mem j rest sub hwaiting found
    obtain ⟨old, hold, rfl | rfl⟩ := changed found
    · exact horderly.atPhase call mem j rest sub hwaiting hold
    · exact hphase _ _ _ (horderly.atPhase call mem j rest old hwaiting hold)

/-- A new subscriber waits for nothing yet. -/
lemma subscribe (horderly : h.Orderly) (allowed : Option (List String)) :
    (h.subscribe allowed).Orderly := by
  have old {j : ℕ} (hlt : j < h.subscriptions.length) :
      (h.subscribe allowed).subscriptions[j]? = h.subscriptions[j]? :=
    List.getElem?_append_left hlt
  have hknown {call : PublishCall} (mem : call ∈ h.calls) {j : ℕ} (hj : j ∈ call.waiting) :=
    horderly.known call mem j hj
  refine ⟨horderly.alone, horderly.nodup, ?_, ?_, ?_⟩
  · intro call mem j hj
    have := hknown mem hj
    simp only [Hub.subscribe, List.length_append, List.length_singleton]
    omega
  · intro j sub found
    by_cases hlt : j < h.subscriptions.length
    · rw [old hlt] at found
      exact horderly.sound j sub found
    · simp only [Hub.subscribe] at found
      rw [List.getElem?_append_right (not_lt.mp hlt)] at found
      obtain rfl := List.mem_singleton.mp (List.mem_of_getElem? found)
      have hnone : (h.subscribe allowed).awaited j { allowed } = [] := by
        refine List.map_eq_nil_iff.mpr (List.filter_eq_nil_iff.mpr fun call mem contra => ?_)
        rw [Bool.and_eq_true, decide_eq_true_iff] at contra
        exact hlt (hknown mem contra.1)
      rw [hnone]
      exact ⟨List.Sublist.refl _, rfl, Nat.zero_le _, List.Perm.refl _, by simp, rfl⟩
  · intro call mem j rest sub hwaiting found
    rw [old (hknown mem (by simp [hwaiting]))] at found
    exact horderly.atPhase call mem j rest sub hwaiting found

/-- A step keeps the hub in order when one publish ends before the next begins. -/
lemma step (horderly : h.Orderly) (event : HubEvent) (alone : h.OneAtATime event) :
    (h.step event).Orderly := by
  cases event with
  | publish sample persistEvery sentAt order =>
    simp only [Hub.step]
    split_ifs with perm
    · have announced := horderly.announce alone sample sentAt perm
      unfold Hub.publish
      simp only
      split_ifs
      · exact announced.congr rfl rfl
      · exact announced
    · exact horderly
  | replaceLatest sample sentAt order =>
    simp only [Hub.step]
    split_ifs with perm
    · exact horderly.announce alone sample sentAt perm
    · exact horderly
  | proceed k => exact horderly.proceed k
  | subscribe allowed => exact horderly.subscribe allowed
  | unsubscribe i =>
    exact horderly.modify i (fun _ => rfl) (fun _ _ sound => sound.leave) fun _ _ phase hphase => by
      cases phase <;> exact hphase
  | receive i =>
    exact horderly.modify i (fun _ => rfl) (fun _ _ sound => sound.receive)
      fun _ _ _ hphase => hphase.receive
  | load samples => exact horderly.congr rfl rfl
  | delete nodeID => exact horderly.congr rfl rfl
  | resetPersistence => exact horderly.congr rfl rfl

end Orderly

/-- A new hub has no subscriptions. -/
lemma orderly_start : Orderly {} :=
  ⟨Nat.zero_le _, by simp, by simp, by simp, by simp⟩

/-- The hub is in order after every run in which one publish ends before the next begins. -/
lemma orderly_run {events : List HubEvent} (alone : Along Hub.step OneAtATime {} events) :
    (run Hub.step {} events).Orderly :=
  run_keeps_along (I := Orderly) (fun _ event horderly alone => horderly.step event alone)
    orderly_start alone

/-! ## The stream of a subscriber -/

/-- Publishes and replacements happen one at a time, and everything else at any moment.  A
subscriber has received and has in its queue, in order, messages that were published for its nodes
since it subscribed.  The queue is never longer than 32, the newest message of its nodes is received
or the last in the queue once its publish is through with the subscriber, and of the others each was
discarded as the oldest one of a queue that a publish had found full, apart from messages that the
subscriber took before. -/
theorem streams {events : List HubEvent} (alone : Along Hub.step OneAtATime {} events) {i : ℕ}
    {sub : Subscription} (hsub : (run Hub.step {} events).subscriptions[i]? = some sub) :
    let received := sub.mailbox.received
    let queue := sub.mailbox.queue
    let awaited := (run Hub.step {} events).awaited i sub
    (received ++ queue).Sublist (sub.announced.filter sub.wants) ∧
      (∀ entry ∈ received ++ queue, ∀ nodes, sub.allowed = some nodes →
        entry.message.nodeID ∈ nodes) ∧
      queue.length ≤ 32 ∧
      (awaited = [] → ∀ entry, (sub.announced.filter sub.wants).getLast? = some entry →
        entry ∈ received ∨ queue.getLast? = some entry) ∧
      (sub.discarded.map Discard.entry ++ (received ++ queue ++ awaited)).Perm
        (sub.announced.filter sub.wants) ∧
      ∀ d ∈ sub.discarded, d.found.length = 32 ∧
        ∃ taken rest, d.found = taken ++ d.entry :: rest ∧ taken ⊆ received := by
  have sound := (orderly_run alone).sound i sub hsub
  have inOrder := (List.sublist_append_left _ _).trans sound.inOrder
  refine ⟨inOrder, fun entry mem nodes hnodes => ?_, sound.bounded, fun none entry last => ?_,
    sound.accounted, sound.oldest⟩
  · have := (List.mem_filter.mp (inOrder.subset mem)).2
    simpa [Subscription.wants, Subscription.allows, hnodes] using this
  · have newest := sound.newest.trans last
    rw [none, List.append_nil, Mailbox.seen] at newest
    cases hqueue : sub.mailbox.queue with
    | nil =>
      rw [hqueue, List.append_nil] at newest
      exact Or.inl (List.mem_of_getLast? newest)
    | cons a rest =>
      rw [hqueue, List.getLast?_append_of_ne_nil _ (by simp)] at newest
      exact Or.inr newest

/-- A subscriber to one of two nodes. -/
def twoNodesRun : List HubEvent :=
  [.subscribe (some ["a"]), .replaceLatest { nodeID := "b" } 0 [0], .proceed 0, .proceed 0,
    .replaceLatest { nodeID := "a" } 0 [0], .proceed 0, .receive 0]

theorem streams_twoNodes :
    Along Hub.step OneAtATime {} twoNodesRun ∧
      ∃ sub, (run Hub.step {} twoNodesRun).subscriptions[0]? = some sub ∧
        (sub.mailbox.received ++ sub.mailbox.queue).Sublist (sub.announced.filter sub.wants) ∧
        sub.mailbox.received.length = 1 :=
  ⟨by decide, _, rfl, (streams (i := 0) (by decide : Along _ _ _ twoNodesRun) rfl).1, rfl⟩

/-! ## A discard from a queue with room -/

/-- A publish to one subscriber starts, and the subscriber takes a message after the first send has
found the queue full. -/
def overflowRun : List HubEvent :=
  let publish : HubEvent := .replaceLatest { nodeID := "a" } 0 [0]
  .subscribe none :: (List.replicate 32 [publish, .proceed 0, .proceed 0]).flatten ++
    [publish, .proceed 0, .receive 0]

/-- The queue need not be full when its oldest message is discarded. -/
theorem discards_from_room :
    ¬ ∀ (events : List HubEvent) (event : HubEvent),
      Along Hub.step OneAtATime {} (events ++ [event]) →
      ∀ (i : ℕ) (before after : Subscription),
        (run Hub.step {} events).subscriptions[i]? = some before →
        (run Hub.step {} (events ++ [event])).subscriptions[i]? = some after →
        after.discarded ≠ before.discarded → before.mailbox.queue.length = 32 := by
  intro claim
  have hbefore : ((run Hub.step {} overflowRun).subscriptions[0]?).map
      (fun sub => (sub.mailbox.queue.length, sub.discarded.length)) = some (31, 0) := by
    decide +kernel
  have hafter : ((run Hub.step {} (overflowRun ++ [.proceed 0])).subscriptions[0]?).map
      (fun sub => sub.discarded.length) = some 1 := by
    decide +kernel
  obtain ⟨before, hfound, hlengths⟩ := Option.map_eq_some_iff.mp hbefore
  obtain ⟨after, hfound', hlength⟩ := Option.map_eq_some_iff.mp hafter
  rw [Prod.mk.injEq] at hlengths
  have full := claim overflowRun (.proceed 0) (by decide +kernel) 0 before after hfound hfound'
    fun same => by simp [same, hlengths.2] at hlength
  omega

end Hub

end Hostpin
