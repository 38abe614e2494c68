import Hostpin.Core.HubStream
import Hostpin.Httpapi.Public

/-!
# Live connections

A live connection sends a snapshot of the latest samples, subscribes to the hub and then forwards
the messages that it gets.  The hub goes on publishing meanwhile, and publishes run at the same
time, so the samples are written in one order and sent in another.

`LiveFeed.view_eq_latest` says when a client shows the latest samples in the end.
`LiveFeed.view_misses_sample` is a run in which it does not.
-/

namespace Hostpin

open Clock Runs

/-! ## State and steps -/

/-- A client of a live connection, with the snapshot that it was sent, and its subscription once
there is one. -/
structure LiveClient where
  allowed : Option (List String)
  snapshot : String → Option MetricSample
  subscription : Option ℕ := none

/-- The hub and the clients. -/
structure LiveFeed where
  hub : Hub := {}
  clients : List LiveClient := []

/-- The latest samples of the allowed nodes; all nodes are allowed when no list is given. -/
def Hub.snapshot (h : Hub) (allowed : Option (List String)) : String → Option MetricSample :=
  fun nodeID => if allowed.all fun ids => nodeID ∈ ids then h.latest nodeID else none

/-- What can happen: a publish or a replacement starts or takes its next step, or a connection sends
the snapshot, subscribes or forwards a message. -/
inductive LiveFeedEvent where
  | publish (sample : MetricSample) (persistEvery : Duration) (sentAt : Time) (order : List ℕ)
  | replaceLatest (sample : MetricSample) (sentAt : Time) (order : List ℕ)
  | proceed (i : ℕ)
  | connect (allowed : Option (List String))
  | subscribe (c : ℕ)
  | forward (c : ℕ)

/-- A step of the hub. -/
def LiveFeed.hubStep (feed : LiveFeed) (event : HubEvent) : LiveFeed :=
  { feed with hub := feed.hub.step event }

/-- The state after an event. -/
def LiveFeed.step (feed : LiveFeed) : LiveFeedEvent → LiveFeed
  | .publish sample persistEvery sentAt order =>
    feed.hubStep (.publish sample persistEvery sentAt order)
  | .replaceLatest sample sentAt order => feed.hubStep (.replaceLatest sample sentAt order)
  | .proceed i => feed.hubStep (.proceed i)
  | .connect allowed =>
    { feed with clients := feed.clients ++ [{ allowed, snapshot := feed.hub.snapshot allowed }] }
  | .subscribe c =>
    match feed.clients[c]? with
    | some ⟨allowed, snapshot, none⟩ =>
      { hub := feed.hub.subscribe allowed
        clients := feed.clients.set c ⟨allowed, snapshot, some feed.hub.subscriptions.length⟩ }
    | _ => feed
  | .forward c =>
    match (feed.clients[c]?).bind LiveClient.subscription with
    | some i => feed.hubStep (.receive i)
    | none => feed

/-- What a client shows: the snapshot, overwritten by the messages in the order in which they
came. -/
def LiveClient.view (client : LiveClient) (received : List HubMessage) :
    String → Option MetricSample :=
  received.foldl (fun view entry =>
    Function.update view entry.message.nodeID (some entry.message.sample)) client.snapshot

/-! ## A publish that nobody interrupts -/

/-- All operations of a publish on the channel of a subscription. -/
def Subscription.offerAll (sub : Subscription) (entry : HubMessage) : Subscription :=
  match sub.offer entry .send [] with
  | (served, none) => served
  | (waiting, some (phase, found)) =>
    ((waiting.offer entry phase found).1.offer entry .resend found).1

/-- When nobody takes a message in between, the operations do what `offerMessage` does at once. -/
lemma Subscription.queue_offerAll {sub : Subscription} {entry : HubMessage}
    (wants : sub.wants entry = true) (bounded : sub.mailbox.queue.length ≤ feedCapacity) :
    (sub.offerAll entry).mailbox.queue.map HubMessage.message =
      offerMessage (sub.mailbox.queue.map HubMessage.message) entry.message := by
  by_cases room : sub.mailbox.queue.length < feedCapacity
  · simp [offerAll, offer, wants, trySend, room, push, offerMessage]
  · have full : sub.mailbox.queue.length = feedCapacity := le_antisymm bounded (not_lt.mp room)
    cases hqueue : sub.mailbox.queue with
    | nil => simp [hqueue, feedCapacity] at full
    | cons oldest rest =>
      rw [hqueue, List.length_cons] at full
      have wants' : Subscription.wants { sub with
          mailbox := sub.mailbox.dropOldest
          discarded := sub.discarded ++ [⟨oldest, oldest :: rest⟩] } entry = true := wants
      simp [offerAll, offer, wants, trySend, hqueue, full, evict, wants', push, offerMessage,
        (by omega : rest.length < feedCapacity)]

/-! ## When a client is not left behind -/

/-- The last message about a node in a list. -/
def lastAbout (nodeID : String) (entries : List HubMessage) : Option HubMessage :=
  (entries.filter (·.message.nodeID = nodeID)).getLast?

/-- The newest message about a node that was published since a subscription was made. -/
def Subscription.newest (sub : Subscription) (nodeID : String) : Option HubMessage :=
  lastAbout nodeID sub.announced

/-- A message that a publish sends comes before the newest one of its node, or is that one. -/
def Subscription.InTurn (sub : Subscription) (entry : HubMessage) : Prop :=
  ∀ newest, sub.newest entry.message.nodeID = some newest →
    entry = newest ∨ newest ∉ sub.mailbox.seen

/-- A message that is not the newest one of its node can be spared. -/
def Subscription.Superseded (sub : Subscription) (entry : HubMessage) : Prop :=
  sub.newest entry.message.nodeID ≠ some entry

/-- The next operation of a publish on a subscription does not leave the client behind. -/
def Subscription.Keeps (sub : Subscription) (entry : HubMessage) : SendPhase → Prop
  | .send => sub.mailbox.queue.length < feedCapacity → sub.InTurn entry
  | .evict => ∀ oldest ∈ sub.mailbox.queue.head?, sub.Superseded oldest
  | .resend =>
    if sub.mailbox.queue.length < feedCapacity then sub.InTurn entry else sub.Superseded entry

/-- The condition of a step.  Between its snapshot and its subscription a client misses no sample of
its nodes; a message is not sent after a newer one of its node; and the newest message of a node is
not discarded. -/
def LiveFeed.KeepsUp (feed : LiveFeed) : LiveFeedEvent → Prop
  | .subscribe c => ∀ client ∈ feed.clients[c]?, client.subscription = none →
      ∀ nodeID, (client.allowed.all fun ids => nodeID ∈ ids) = true →
        client.snapshot nodeID = feed.hub.latest nodeID
  | .proceed k => ∀ call ∈ feed.hub.calls[k]?, ∀ i ∈ call.waiting.head?,
      ∀ sub ∈ feed.hub.subscriptions[i]?, sub.wants call.entry = true →
        sub.Keeps call.entry call.phase
  | _ => True

/-! ## Subscriptions -/

/-- A publish under way is about to send a message to a subscription. -/
def Hub.OnItsWay (h : Hub) (i : ℕ) (entry : HubMessage) : Prop :=
  ∃ call ∈ h.calls, i ∈ call.waiting ∧ call.entry = entry

/-- What the client of a subscription shows in the end: for each of its nodes the newest message is
the last one that it gets or still on its way, and while there is none the snapshot is right. -/
structure Subscription.Follows (sub : Subscription) (h : Hub) (i : ℕ)
    (snapshot : String → Option MetricSample) : Prop where
  announced : ∀ entry ∈ sub.mailbox.seen, entry ∈ sub.announced
  shown : ∀ nodeID, sub.allows nodeID = true → sub.newest nodeID = none →
    snapshot nodeID = h.latest nodeID
  latest : ∀ nodeID entry, sub.newest nodeID = some entry →
    h.latest nodeID = some entry.message.sample
  reaches : ∀ nodeID entry, sub.allows nodeID = true → sub.newest nodeID = some entry →
    h.OnItsWay i entry ∨ lastAbout nodeID sub.mailbox.seen = some entry

/-- Every publish under way serves subscriptions that there are, each of them once, with a message
that has been announced to them. -/
structure Hub.Serving (h : Hub) : Prop where
  nodup : ∀ call ∈ h.calls, call.waiting.Nodup
  announced : ∀ call ∈ h.calls, ∀ i ∈ call.waiting, ∃ sub, h.subscriptions[i]? = some sub ∧
    call.entry ∈ sub.announced

/-- The clients are not left behind. -/
structure LiveFeed.Following (feed : LiveFeed) : Prop where
  serving : feed.hub.Serving
  follows : ∀ client ∈ feed.clients, ∀ i, client.subscription = some i →
    ∃ sub, feed.hub.subscriptions[i]? = some sub ∧ sub.registered = true ∧
      sub.allowed = client.allowed ∧ sub.Follows feed.hub i client.snapshot

lemma lastAbout_append_singleton (nodeID : String) (entries : List HubMessage)
    (entry : HubMessage) : lastAbout nodeID (entries ++ [entry]) =
      if entry.message.nodeID = nodeID then some entry else lastAbout nodeID entries := by
  rw [lastAbout, List.filter_append, List.filter_singleton]
  split_ifs with h <;> simp [h, lastAbout]

lemma mem_of_lastAbout {nodeID : String} {entries : List HubMessage} {entry : HubMessage}
    (h : lastAbout nodeID entries = some entry) :
    entry ∈ entries ∧ entry.message.nodeID = nodeID := by
  have := List.mem_filter.mp (List.mem_of_getLast? h)
  exact ⟨this.1, by simpa using this.2⟩

/-- A view shows the last message about a node, or the snapshot when there is none. -/
lemma LiveClient.view_eq (client : LiveClient) (received : List HubMessage) (nodeID : String) :
    client.view received nodeID =
      ((lastAbout nodeID received).map (·.message.sample)).or (client.snapshot nodeID) := by
  induction received using List.reverseRecOn with
  | nil => rfl
  | append_singleton received entry ih =>
    rw [lastAbout_append_singleton]
    simp only [view, List.foldl_append, List.foldl_cons, List.foldl_nil] at ih ⊢
    by_cases h : entry.message.nodeID = nodeID
    · subst h
      simp
    · rw [Function.update_of_ne (Ne.symm h), if_neg h]
      exact ih

/-! ## Steps -/

namespace Subscription.Follows

variable {sub : Subscription} {h h' : Hub} {i : ℕ} {snapshot : String → Option MetricSample}

/-- Another subscription is served. -/
lemma congr (hfollows : sub.Follows h i snapshot) (hlatest : h'.latest = h.latest)
    (onItsWay : ∀ entry, h.OnItsWay i entry → h'.OnItsWay i entry) :
    sub.Follows h' i snapshot where
  announced := hfollows.announced
  shown := hlatest ▸ hfollows.shown
  latest := hlatest ▸ hfollows.latest
  reaches := fun nodeID entry allows newest =>
    (hfollows.reaches nodeID entry allows newest).imp_left (onItsWay entry)

/-- A client that subscribes with the right snapshot. -/
lemma start {allowed : Option (List String)}
    (hshown : ∀ nodeID, (allowed.all fun ids => nodeID ∈ ids) = true →
      snapshot nodeID = h.latest nodeID) :
    Subscription.Follows { allowed } h i snapshot where
  announced := by simp [Mailbox.seen]
  shown := fun nodeID allows _ => hshown nodeID allows
  latest := fun nodeID entry newest => by cases newest
  reaches := fun nodeID entry _ newest => by cases newest

/-- The client takes a message. -/
lemma receive (hfollows : sub.Follows h i snapshot) : sub.receive.Follows h i snapshot where
  announced := by
    rw [Subscription.receive, Mailbox.seen_receive]
    exact hfollows.announced
  shown := hfollows.shown
  latest := hfollows.latest
  reaches := by
    rw [Subscription.receive, Mailbox.seen_receive]
    exact hfollows.reaches

/-- A sample is written. -/
lemma announce (hfollows : sub.Follows h i snapshot) (registered : sub.registered = true)
    {sample : MetricSample} {sentAt : Time} {order : List ℕ} (mem : i ∈ order) :
    (sub.announce (h.entry sample sentAt)).Follows (h.announce sample sentAt order) i
      snapshot := by
  have hannounce : sub.announce (h.entry sample sentAt) =
      { sub with announced := sub.announced ++ [h.entry sample sentAt] } := if_pos registered
  rw [hannounce]
  have hnewest (nodeID : String) :
      lastAbout nodeID (sub.announced ++ [h.entry sample sentAt]) =
        if sample.nodeID = nodeID then some (h.entry sample sentAt) else sub.newest nodeID :=
    lastAbout_append_singleton _ _ _
  have hold {nodeID : String} (ne : sample.nodeID ≠ nodeID) :
      (h.announce sample sentAt order).latest nodeID = h.latest nodeID :=
    Function.update_of_ne ne.symm _ _
  refine ⟨fun entry mem => List.mem_append_left _ (hfollows.announced entry mem), ?_, ?_, ?_⟩
  · intro nodeID allows hnone
    rw [Subscription.newest, hnewest] at hnone
    split_ifs at hnone with hnode
    rw [hold hnode]
    exact hfollows.shown nodeID allows hnone
  · intro nodeID entry hsome
    rw [Subscription.newest, hnewest] at hsome
    split_ifs at hsome with hnode
    · obtain rfl := Option.some.inj hsome
      subst hnode
      exact Function.update_self _ _ _
    · rw [hold hnode]
      exact hfollows.latest nodeID entry hsome
  · intro nodeID entry allows hsome
    rw [Subscription.newest, hnewest] at hsome
    split_ifs at hsome with hnode
    · obtain rfl := Option.some.inj hsome
      exact Or.inl ⟨⟨h.entry sample sentAt, order, .send, []⟩,
        List.mem_append_right _ (List.mem_singleton_self _), mem, rfl⟩
    · refine (hfollows.reaches nodeID entry allows hsome).imp_left ?_
      rintro ⟨call, hcall, waits⟩
      exact ⟨call, List.mem_append_left _ hcall, waits⟩

/-- A message joins the queue in its turn. -/
lemma push (hfollows : sub.Follows h i snapshot) {entry : HubMessage}
    (announced : entry ∈ sub.announced) (inTurn : sub.InTurn entry)
    (hlatest : h'.latest = h.latest)
    (onItsWay : ∀ other, h.OnItsWay i other → h'.OnItsWay i other ∨ other = entry) :
    (sub.push entry).Follows h' i snapshot := by
  have seen : (sub.push entry).mailbox.seen = sub.mailbox.seen ++ [entry] :=
    Mailbox.seen_push _ _
  refine ⟨?_, hlatest ▸ hfollows.shown, hlatest ▸ hfollows.latest, ?_⟩
  · intro other mem
    rw [seen, List.mem_append, List.mem_singleton] at mem
    rcases mem with mem | rfl
    · exact hfollows.announced other mem
    · exact announced
  · intro nodeID newest allows hnewest
    rw [seen, lastAbout_append_singleton]
    have hnode := (mem_of_lastAbout hnewest).2
    rcases hfollows.reaches nodeID newest allows hnewest with way | last
    · rcases onItsWay newest way with way | rfl
      · exact Or.inl way
      · exact Or.inr (if_pos hnode)
    · right
      split_ifs with same
      · rcases inTurn newest (by rw [same]; exact hnewest) with rfl | notMem
        · rfl
        · exact absurd (mem_of_lastAbout last).1 notMem
      · exact last

/-- The oldest message is taken out, which is not the newest of its node. -/
lemma evict (hfollows : sub.Follows h i snapshot) (found : List HubMessage)
    (superseded : ∀ oldest ∈ sub.mailbox.queue.head?, sub.Superseded oldest) :
    (sub.evict found).Follows h i snapshot := by
  unfold Subscription.evict
  split
  · exact hfollows
  next oldest rest hqueue =>
    refine ⟨?_, hfollows.shown, hfollows.latest, ?_⟩
    · intro entry mem
      exact hfollows.announced entry ((Mailbox.seen_dropOldest_sublist _).subset mem)
    · intro nodeID newest allows hnewest
      refine (hfollows.reaches nodeID newest allows hnewest).imp_right fun last => ?_
      refine Mailbox.getLast?_filter_dropOldest _ hqueue last ?_
      rintro rfl
      have hnode := (mem_of_lastAbout last).2
      refine superseded newest (by simp [hqueue]) ?_
      rw [hnode]
      exact hnewest

/-- The client does not get a message, which is not the newest of a node that it shows. -/
lemma pass (hfollows : sub.Follows h i snapshot) {entry : HubMessage}
    (spared : ∀ nodeID, sub.allows nodeID = true → sub.newest nodeID ≠ some entry)
    (hlatest : h'.latest = h.latest)
    (onItsWay : ∀ other, h.OnItsWay i other → h'.OnItsWay i other ∨ other = entry) :
    sub.Follows h' i snapshot := by
  refine ⟨hfollows.announced, hlatest ▸ hfollows.shown, hlatest ▸ hfollows.latest, ?_⟩
  intro nodeID newest allows hnewest
  refine (hfollows.reaches nodeID newest allows hnewest).imp_left fun way => ?_
  rcases onItsWay newest way with way | rfl
  · exact way
  · exact absurd hnewest (spared nodeID allows)

/-- A publish works on the channel of the subscription. -/
lemma offer (hfollows : sub.Follows h i snapshot) {entry : HubMessage} {phase : SendPhase}
    {found : List HubMessage} (announced : entry ∈ sub.announced)
    (keeps : sub.wants entry = true → sub.Keeps entry phase) (hlatest : h'.latest = h.latest)
    (onItsWay : ∀ other, h.OnItsWay i other → h'.OnItsWay i other ∨
      (sub.offer entry phase found).2 = none ∧ other = entry) :
    (sub.offer entry phase found).1.Follows h' i snapshot := by
  have onItsWay' : ∀ other, h.OnItsWay i other → h'.OnItsWay i other ∨ other = entry :=
    fun other way => (onItsWay other way).imp_right And.right
  have goesOn (some : (sub.offer entry phase found).2 ≠ none) :
      ∀ other, h.OnItsWay i other → h'.OnItsWay i other :=
    fun other way => (onItsWay other way).resolve_right fun contra => some contra.1
  have spared (superseded : sub.Superseded entry) (nodeID : String)
      (_ : sub.allows nodeID = true) : sub.newest nodeID ≠ some entry := by
    intro hnewest
    refine superseded ?_
    rwa [(mem_of_lastAbout hnewest).2]
  by_cases wants : sub.wants entry
  · have hkeeps := keeps wants
    simp only [Subscription.offer, wants, Bool.not_true, Bool.false_eq_true, if_false] at goesOn ⊢
    cases phase with
    | send =>
      cases hsend : sub.trySend entry with
      | some sent =>
        obtain ⟨room, rfl⟩ := Subscription.trySend_eq_some hsend
        exact hfollows.push announced (hkeeps room) hlatest onItsWay'
      | none =>
        rw [hsend] at goesOn
        exact hfollows.congr hlatest (goesOn (by simp))
    | evict => exact (hfollows.evict found hkeeps).congr hlatest (goesOn (by simp))
    | resend =>
      cases hsend : sub.trySend entry with
      | some sent =>
        obtain ⟨room, rfl⟩ := Subscription.trySend_eq_some hsend
        simp only [Subscription.Keeps, if_pos room] at hkeeps
        exact hfollows.push announced hkeeps hlatest onItsWay'
      | none =>
        have full := Subscription.trySend_eq_none.mp hsend
        simp only [Subscription.Keeps, if_neg (not_lt.mpr full)] at hkeeps
        have passed := hfollows.pass (spared hkeeps) hlatest onItsWay'
        exact ⟨passed.announced, passed.shown, passed.latest, passed.reaches⟩
  · have hoffer : sub.offer entry phase found = (sub, none) := by
      simp [Subscription.offer, wants]
    rw [hoffer]
    refine hfollows.pass (fun nodeID allows hnewest => wants ?_) hlatest onItsWay'
    rw [Subscription.wants, (mem_of_lastAbout hnewest).2]
    exact allows

end Subscription.Follows

namespace Hub

variable {h : Hub} {k i : ℕ} {call next : PublishCall} {rest : List ℕ} {entry : HubMessage}

/-- What is on its way stays so when a publish goes on, apart from its own message to the
subscription that it is through with. -/
lemma OnItsWay.goOn (way : h.OnItsWay i entry) (hcall : h.calls[k]? = some call) {j : ℕ}
    (hwaiting : call.waiting = j :: rest) (hentry : next.entry = call.entry)
    (hnext : next.waiting = rest ∨ next.waiting = j :: rest) (subs : List Subscription) :
    OnItsWay { h with subscriptions := subs, calls := h.calls.set k next } i entry ∨
      i = j ∧ next.waiting = rest ∧ entry = call.entry := by
  obtain ⟨other, mem, waits, rfl⟩ := way
  obtain ⟨m, hother⟩ := List.mem_iff_getElem?.mp mem
  by_cases hm : k = m
  · subst hm
    obtain rfl : call = other := by rw [hcall] at hother; exact Option.some.inj hother
    have hlt := (List.getElem?_eq_some_iff.mp hcall).1
    have hset : next ∈ h.calls.set k next := List.mem_set hlt next
    rw [hwaiting, List.mem_cons] at waits
    rcases hnext with hrest | hsame
    · rcases waits with rfl | waits
      · exact Or.inr ⟨rfl, hrest, rfl⟩
      · exact Or.inl ⟨next, hset, hrest ▸ waits, hentry⟩
    · exact Or.inl ⟨next, hset, by rw [hsame]; exact List.mem_cons.mpr waits, hentry⟩
  · refine Or.inl ⟨other, List.mem_of_getElem? (i := m) ?_, waits, rfl⟩
    rw [List.getElem?_set_ne hm]
    exact hother

/-- A publish that returns has nothing on its way. -/
lemma OnItsWay.eraseIdx (way : h.OnItsWay i entry) (hcall : h.calls[k]? = some call)
    (hwaiting : call.waiting = []) :
    OnItsWay { h with calls := h.calls.eraseIdx k } i entry := by
  obtain ⟨other, mem, waits, rfl⟩ := way
  obtain ⟨m, hother⟩ := List.mem_iff_getElem?.mp mem
  refine ⟨other, List.mem_eraseIdx_iff_getElem?.mpr ⟨m, ?_, hother⟩, waits, rfl⟩
  rintro rfl
  obtain rfl : call = other := by rw [hcall] at hother; exact Option.some.inj hother
  simp [hwaiting] at waits

/-- What one step of a publish does: it returns, or it works on the channel of the first
subscription that it has to serve. -/
lemma step_proceed (hserving : h.Serving) (hcall : h.calls[k]? = some call) :
    (call.waiting = [] ∧ h.step (.proceed k) = { h with calls := h.calls.eraseIdx k }) ∨
    ∃ j rest sub next, call.waiting = j :: rest ∧ h.subscriptions[j]? = some sub ∧
      next.entry = call.entry ∧ (next.waiting = rest ∨ next.waiting = j :: rest) ∧
      (next.waiting = rest → (sub.offer call.entry call.phase call.found).2 = none) ∧
      h.step (.proceed k) =
        { h with
          subscriptions := h.subscriptions.set j (sub.offer call.entry call.phase call.found).1
          calls := h.calls.set k next } := by
  have hmem := List.mem_of_getElem? hcall
  cases hwaiting : call.waiting with
  | nil =>
    left
    simp [Hub.step, hcall, Hub.proceed, hwaiting]
  | cons j rest =>
    right
    obtain ⟨sub, hsub, -⟩ := hserving.announced call hmem j (by simp [hwaiting])
    have hne : rest ≠ j :: rest := fun contra => absurd (congrArg List.length contra) (by simp)
    cases hoffer : sub.offer call.entry call.phase call.found with
    | mk served stage =>
      cases stage with
      | none =>
        refine ⟨j, rest, sub, ⟨call.entry, rest, .send, []⟩, rfl, hsub, rfl, Or.inl rfl,
          fun _ => by rw [hoffer], ?_⟩
        simp [Hub.step, hcall, Hub.proceed, hwaiting, hsub, hoffer]
      | some stage =>
        refine ⟨j, rest, sub, ⟨call.entry, j :: rest, stage.1, stage.2⟩, rfl, hsub, rfl,
          Or.inr rfl, fun contra => absurd contra.symm hne, ?_⟩
        simp [Hub.step, hcall, Hub.proceed, hwaiting, hsub, hoffer]

/-- The publishes under way stay as they are while a subscription changes otherwise. -/
lemma Serving.congr {h' : Hub} (hserving : h.Serving) (hcalls : h'.calls = h.calls)
    (hsubs : ∀ (j : ℕ) (sub : Subscription), h.subscriptions[j]? = some sub →
      ∃ sub', h'.subscriptions[j]? = some sub' ∧ sub.announced ⊆ sub'.announced) :
    h'.Serving where
  nodup := hcalls ▸ hserving.nodup
  announced := by
    rw [hcalls]
    intro call mem j waits
    obtain ⟨sub, hsub, announced⟩ := hserving.announced call mem j waits
    obtain ⟨sub', hsub', subset⟩ := hsubs j sub hsub
    exact ⟨sub', hsub', subset announced⟩

/-- A new publish. -/
lemma Serving.announce (hserving : h.Serving) (sample : MetricSample) (sentAt : Time)
    {order : List ℕ} (perm : order.Perm h.registered) :
    (h.announce sample sentAt order).Serving where
  nodup := by
    intro call mem
    rcases List.mem_append.mp mem with mem | mem
    · exact hserving.nodup call mem
    · obtain rfl := List.mem_singleton.mp mem
      exact perm.nodup_iff.mpr (List.nodup_range.filter _)
  announced := by
    intro call mem j waits
    rcases List.mem_append.mp mem with mem | mem
    · obtain ⟨sub, hsub, announced⟩ := hserving.announced call mem j waits
      refine ⟨sub.announce (h.entry sample sentAt), by simp [Hub.announce, hsub], ?_⟩
      unfold Subscription.announce
      split
      · exact List.mem_append_left _ announced
      · exact announced
    · obtain rfl := List.mem_singleton.mp mem
      obtain ⟨sub, hsub, registered⟩ := mem_registered.mp (perm.mem_iff.mp waits)
      refine ⟨sub.announce (h.entry sample sentAt), by simp [Hub.announce, hsub], ?_⟩
      simp [Subscription.announce, registered]

/-- A publish that goes on. -/
lemma Serving.proceed (hserving : h.Serving) (k : ℕ) : (h.step (.proceed k)).Serving := by
  cases hcall : h.calls[k]? with
  | none => simpa [Hub.step, hcall] using hserving
  | some call =>
    have hmem := List.mem_of_getElem? hcall
    rcases step_proceed hserving hcall with ⟨-, hstep⟩ |
      ⟨j, rest, sub, next, hwaiting, hsub, hentry, hnext, -, hstep⟩
    · rw [hstep]
      exact ⟨fun call mem => hserving.nodup call (List.mem_of_mem_eraseIdx mem),
        fun call mem => hserving.announced call (List.mem_of_mem_eraseIdx mem)⟩
    · rw [hstep]
      have hsubset : ∀ i ∈ next.waiting, i ∈ call.waiting := by
        rw [hwaiting]
        rcases hnext with heq | heq <;> rw [heq]
        · exact fun i mem => List.mem_cons_of_mem _ mem
        · exact fun i mem => mem
      have hnodup := hserving.nodup call hmem
      have hannounced (other : PublishCall) (i : ℕ)
          (h' : ∃ sub, h.subscriptions[i]? = some sub ∧ other.entry ∈ sub.announced) :
          ∃ sub', (h.subscriptions.set j
            (sub.offer call.entry call.phase call.found).1)[i]? = some sub' ∧
            other.entry ∈ sub'.announced := by
        obtain ⟨s, hs, announced⟩ := h'
        by_cases hij : j = i
        · subst hij
          obtain rfl : sub = s := by rw [hsub] at hs; exact Option.some.inj hs
          refine ⟨_, List.getElem?_set_self (List.getElem?_eq_some_iff.mp hsub).1, ?_⟩
          rw [(sub.offer_frame _ _ _).2.2]
          exact announced
        · exact ⟨s, by rw [List.getElem?_set_ne hij]; exact hs, announced⟩
      refine ⟨fun other mem => ?_, fun other mem i waits => ?_⟩
      · rcases List.mem_or_eq_of_mem_set mem with mem | rfl
        · exact hserving.nodup other mem
        · rcases hnext with heq | heq <;> rw [heq]
          · rw [hwaiting] at hnodup
            exact (List.nodup_cons.mp hnodup).2
          · rwa [← hwaiting]
      · rcases List.mem_or_eq_of_mem_set mem with mem | rfl
        · exact hannounced other i (hserving.announced other mem i waits)
        · rw [hentry]
          exact hannounced call i (hserving.announced call hmem i (hsubset i waits))

end Hub

namespace LiveFeed.Following

variable {feed : LiveFeed}

/-- A sample is written. -/
lemma announce (hfollowing : feed.Following) (sample : MetricSample) (sentAt : Time)
    {order : List ℕ} (perm : order.Perm feed.hub.registered) :
    LiveFeed.Following { feed with hub := feed.hub.announce sample sentAt order } where
  serving := hfollowing.serving.announce sample sentAt perm
  follows := by
    intro client mem i subscribed
    obtain ⟨sub, hsub, registered, allowed, hfollows⟩ :=
      hfollowing.follows client mem i subscribed
    refine ⟨sub.announce (feed.hub.entry sample sentAt), by simp [Hub.announce, hsub], ?_, ?_, ?_⟩
    · unfold Subscription.announce
      split <;> exact registered
    · unfold Subscription.announce
      split <;> exact allowed
    · exact hfollows.announce registered
        (perm.mem_iff.mpr (Hub.mem_registered.mpr ⟨sub, hsub, registered⟩))

/-- A publish goes on. -/
lemma proceed (hfollowing : feed.Following) {k : ℕ} (keeps : feed.KeepsUp (.proceed k)) :
    (feed.hubStep (.proceed k)).Following := by
  refine ⟨hfollowing.serving.proceed k, fun client mem i subscribed => ?_⟩
  obtain ⟨sub, hsub, registered, allowed, hfollows⟩ := hfollowing.follows client mem i subscribed
  simp only [LiveFeed.hubStep]
  cases hcall : feed.hub.calls[k]? with
  | none =>
    have same : feed.hub.step (.proceed k) = feed.hub := by simp [Hub.step, hcall]
    rw [same]
    exact ⟨sub, hsub, registered, allowed, hfollows⟩
  | some call =>
    have hmem := List.mem_of_getElem? hcall
    rcases Hub.step_proceed hfollowing.serving hcall with ⟨hwaiting, hstep⟩ |
      ⟨j, rest, served, next, hwaiting, hserved, hentry, hnext, hthrough, hstep⟩
    · rw [hstep]
      exact ⟨sub, hsub, registered, allowed,
        hfollows.congr rfl fun entry way => way.eraseIdx hcall hwaiting⟩
    · rw [hstep]
      have hway (entry : HubMessage) (way : feed.hub.OnItsWay i entry) :=
        way.goOn hcall hwaiting hentry hnext (feed.hub.subscriptions.set j
          (served.offer call.entry call.phase call.found).1)
      by_cases hij : j = i
      · subst hij
        obtain rfl : sub = served := by rw [hsub] at hserved; exact Option.some.inj hserved
        obtain ⟨hallowed, hregistered, -⟩ := sub.offer_frame call.entry call.phase call.found
        obtain ⟨s, hs, announced⟩ :=
          hfollowing.serving.announced call hmem j (by simp [hwaiting])
        obtain rfl : sub = s := by rw [hsub] at hs; exact Option.some.inj hs
        refine ⟨_, List.getElem?_set_self (List.getElem?_eq_some_iff.mp hsub).1,
          hregistered.trans registered, hallowed.trans allowed, ?_⟩
        refine hfollows.offer announced (fun wants => ?_) rfl fun entry way =>
          (hway entry way).imp_right fun after => ⟨hthrough after.2.1, after.2.2⟩
        exact keeps call (by simp [hcall]) j (by simp [hwaiting]) sub (by simp [hsub]) wants
      · refine ⟨sub, by rw [List.getElem?_set_ne hij]; exact hsub, registered, allowed, ?_⟩
        exact hfollows.congr rfl fun entry way =>
          (hway entry way).resolve_right fun contra => hij contra.1.symm

/-- A client that has its snapshot subscribes. -/
lemma subscribe (hfollowing : feed.Following) {c : ℕ} (keeps : feed.KeepsUp (.subscribe c)) :
    (feed.step (.subscribe c)).Following := by
  simp only [LiveFeed.step]
  split
  next allowed snapshot hclient =>
    have hold {j : ℕ} {sub : Subscription} (hsub : feed.hub.subscriptions[j]? = some sub) :
        (feed.hub.subscribe allowed).subscriptions[j]? = some sub := by
      rw [← hsub]
      exact List.getElem?_append_left (List.getElem?_eq_some_iff.mp hsub).1
    refine ⟨hfollowing.serving.congr rfl fun j sub hsub =>
      ⟨sub, hold hsub, List.Subset.refl _⟩, fun client mem i subscribed => ?_⟩
    rcases List.mem_or_eq_of_mem_set mem with mem | rfl
    · obtain ⟨sub, hsub, registered, same, hfollows⟩ :=
        hfollowing.follows client mem i subscribed
      exact ⟨sub, hold hsub, registered, same, hfollows.congr rfl fun entry way => way⟩
    · obtain rfl := Option.some.inj subscribed
      refine ⟨{ allowed }, by simp [Hub.subscribe], rfl, rfl, ?_⟩
      exact Subscription.Follows.start
        (keeps ⟨allowed, snapshot, none⟩ (by simp [hclient]) rfl)
  next => exact hfollowing

/-- A client forwards a message. -/
lemma forward (hfollowing : feed.Following) (c : ℕ) : (feed.step (.forward c)).Following := by
  simp only [LiveFeed.step]
  split
  next i _ =>
    have hget (j : ℕ) : (feed.hub.step (.receive i)).subscriptions[j]? =
        (feed.hub.subscriptions[j]?).map fun sub => if i = j then sub.receive else sub := by
      simp [Hub.step, Hub.modify, List.getElem?_modify]
    refine ⟨hfollowing.serving.congr rfl fun j sub hsub => ?_, fun client mem j subscribed => ?_⟩
    · refine ⟨_, (hget j).trans (by rw [hsub]; rfl), ?_⟩
      split_ifs <;> exact List.Subset.refl _
    · obtain ⟨sub, hsub, registered, same, hfollows⟩ := hfollowing.follows client mem j subscribed
      refine ⟨_, (hget j).trans (by rw [hsub]; rfl), ?_⟩
      split_ifs
      · exact ⟨registered, same, hfollows.receive.congr rfl fun entry way => way⟩
      · exact ⟨registered, same, hfollows.congr rfl fun entry way => way⟩
  next => exact hfollowing

/-- A step that meets the condition leaves no client behind. -/
lemma step (hfollowing : feed.Following) (event : LiveFeedEvent) (keeps : feed.KeepsUp event) :
    (feed.step event).Following := by
  cases event with
  | publish sample persistEvery sentAt order =>
    simp only [LiveFeed.step, LiveFeed.hubStep, Hub.step]
    split_ifs with perm
    · have announced := hfollowing.announce sample sentAt perm
      unfold Hub.publish
      simp only
      split_ifs
      · exact ⟨⟨announced.serving.nodup, announced.serving.announced⟩,
          fun client mem i subscribed => by
            obtain ⟨sub, hsub, registered, same, hfollows⟩ :=
              announced.follows client mem i subscribed
            exact ⟨sub, hsub, registered, same, hfollows.congr rfl fun entry way => way⟩⟩
      · exact announced
    · exact hfollowing
  | replaceLatest sample sentAt order =>
    simp only [LiveFeed.step, LiveFeed.hubStep, Hub.step]
    split_ifs with perm
    · exact hfollowing.announce sample sentAt perm
    · exact hfollowing
  | proceed k => exact hfollowing.proceed keeps
  | connect allowed =>
    refine ⟨hfollowing.serving, fun client mem i subscribed => ?_⟩
    rcases List.mem_append.mp mem with mem | mem
    · exact hfollowing.follows client mem i subscribed
    · obtain rfl := List.mem_singleton.mp mem
      cases subscribed
  | subscribe c => exact hfollowing.subscribe keeps
  | forward c => exact hfollowing.forward c

end LiveFeed.Following

/-! ## Where the clients end up -/

/-- A hub that has samples and no subscribers. -/
def LiveFeed.start (latest : String → Option MetricSample) : LiveFeed := { hub := { latest } }

/-- As long as no sample of its nodes is published between the snapshot and the subscription of a
client, no message is sent after a newer one of its node and the newest message of a node is not
discarded, each client that has taken all its messages shows the latest sample of each of its nodes
whenever no publish is under way. -/
theorem LiveFeed.view_eq_latest (latest : String → Option MetricSample)
    {events : List LiveFeedEvent}
    (keepsUp : Along LiveFeed.step LiveFeed.KeepsUp (LiveFeed.start latest) events)
    {client : LiveClient} {i : ℕ} {sub : Subscription}
    (hclient : client ∈ (run LiveFeed.step (LiveFeed.start latest) events).clients)
    (hsubscribed : client.subscription = some i)
    (hsub : (run LiveFeed.step (LiveFeed.start latest) events).hub.subscriptions[i]? = some sub)
    (hcalls : (run LiveFeed.step (LiveFeed.start latest) events).hub.calls = [])
    (hqueue : sub.mailbox.queue = []) {nodeID : String}
    (hallowed : (client.allowed.all fun ids => nodeID ∈ ids) = true) :
    client.view sub.mailbox.received nodeID =
      (run LiveFeed.step (LiveFeed.start latest) events).hub.latest nodeID := by
  have hfollowing : (run LiveFeed.step (LiveFeed.start latest) events).Following :=
    run_keeps_along (I := LiveFeed.Following) (fun _ event h keeps => h.step event keeps)
      ⟨⟨by simp [LiveFeed.start], by simp [LiveFeed.start]⟩, by simp [LiveFeed.start]⟩ keepsUp
  obtain ⟨s, hs, -, same, hfollows⟩ := hfollowing.follows client hclient i hsubscribed
  obtain rfl : sub = s := by rw [hsub] at hs; exact Option.some.inj hs
  have hseen : sub.mailbox.seen = sub.mailbox.received := by simp [Mailbox.seen, hqueue]
  have hallows : sub.allows nodeID = true := by rw [Subscription.allows, same, hallowed]
  rw [client.view_eq]
  cases hnewest : sub.newest nodeID with
  | none =>
    have hnone : lastAbout nodeID sub.mailbox.received = none := by
      refine Option.eq_none_iff_forall_ne_some.mpr fun entry last => ?_
      obtain ⟨mem, hnode⟩ := mem_of_lastAbout last
      have hannounced := hfollows.announced entry (hseen ▸ mem)
      have := List.getLast?_eq_none_iff.mp hnewest
      exact absurd (List.filter_eq_nil_iff.mp this entry hannounced) (by simp [hnode])
    rw [hnone]
    exact hfollows.shown nodeID hallows hnewest
  | some entry =>
    have hlast : lastAbout nodeID sub.mailbox.received = some entry := by
      rw [← hseen]
      refine (hfollows.reaches nodeID entry hallows hnewest).resolve_left ?_
      rintro ⟨call, mem, -⟩
      rw [hcalls] at mem
      cases mem
    rw [hlast, hfollows.latest nodeID entry hnewest]
    rfl

/-- The sample of the examples. -/
def exampleSample : MetricSample := { nodeID := "a" }

/-- A client connects, and a sample is published after it has subscribed. -/
def forwardedRun : List LiveFeedEvent :=
  [.connect none, .subscribe 0, .replaceLatest exampleSample 0 [0], .proceed 0, .proceed 0,
    .forward 0]

theorem LiveFeed.view_eq_latest_forwardedRun :
    Along LiveFeed.step LiveFeed.KeepsUp (LiveFeed.start fun _ => none) forwardedRun ∧
      ∃ client ∈ (run LiveFeed.step (LiveFeed.start fun _ => none) forwardedRun).clients,
        ∃ sub, (run LiveFeed.step (LiveFeed.start fun _ => none)
            forwardedRun).hub.subscriptions[0]? = some sub ∧
          client.view sub.mailbox.received "a" =
            (run LiveFeed.step (LiveFeed.start fun _ => none) forwardedRun).hub.latest "a" := by
  have keepsUp :
      Along LiveFeed.step LiveFeed.KeepsUp (LiveFeed.start fun _ => none) forwardedRun := by
    refine ⟨trivial, ?_, trivial, ?_, ?_, trivial, trivial⟩
    · rintro _ ⟨⟩ - nodeID -
      rfl
    · rintro _ ⟨⟩ _ ⟨⟩ _ ⟨⟩ - - newest hnewest
      exact Or.inl (Option.some.inj hnewest)
    · rintro _ ⟨⟩ _ ⟨⟩
  exact ⟨keepsUp, _, List.mem_cons_self, _, rfl,
    LiveFeed.view_eq_latest _ keepsUp List.mem_cons_self rfl rfl rfl rfl rfl⟩

/-! ## A client that is left behind -/

/-- A sample is published between the snapshot and the subscription of a client. -/
def missedRun : List LiveFeedEvent :=
  [.connect none, .replaceLatest exampleSample 0 [], .proceed 0, .subscribe 0]

/-- A client does not show the latest sample. -/
theorem LiveFeed.view_misses_sample :
    ¬ ∀ (latest : String → Option MetricSample) (events : List LiveFeedEvent)
      (client : LiveClient) (i : ℕ) (sub : Subscription),
      client ∈ (run LiveFeed.step (LiveFeed.start latest) events).clients →
      client.subscription = some i →
      (run LiveFeed.step (LiveFeed.start latest) events).hub.subscriptions[i]? = some sub →
      (run LiveFeed.step (LiveFeed.start latest) events).hub.calls = [] →
      sub.mailbox.queue = [] →
      ∀ nodeID, (client.allowed.all fun ids => nodeID ∈ ids) = true →
        client.view sub.mailbox.received nodeID =
          (run LiveFeed.step (LiveFeed.start latest) events).hub.latest nodeID := by
  intro claim
  have shown := claim (fun _ => none) missedRun _ 0 _ List.mem_cons_self rfl rfl rfl rfl "a" rfl
  cases shown

end Hostpin
