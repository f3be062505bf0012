import Mathlib.Data.List.Forall2
import StateRelay.Proofs.Replay.Emission
import StateRelay.Proofs.Staging

/-!
This module contains what a replay over HTTP posts. Each batch that is committed has its own posts,
the last of which is acknowledged; a batch below the least height has none. A run that fails ends in
the posts of one more batch, none of which is acknowledged.
-/

namespace StateRelay

namespace Sink

structure Post where
  url : String
  body : Bytes
  answer : Except Error UInt16

/-- The sink has taken the batch: no other status says so. -/
def Post.acknowledged (post : Post) : Bool :=
  match post.answer with
  | .ok status => status = Dispatcher.accepted
  | .error _ => false

/-- The batch is not dropped: its first entry is at the least height or above it. -/
def Config.wants (config : Config) (batch : List Entry) : Bool :=
  batch.head?.any fun first => config.minHeight ≤ first.height

theorem Config.wants_cons (config : Config) (first : Entry) (rest : List Entry)
    : config.wants (first :: rest) = decide (config.minHeight ≤ first.height) := by
  rfl

structure Config.Posted (config : Config) (batch : List Entry) (acknowledged : Bool) (post : Post)
    : Prop where
  wanted : config.wants batch = true
  url : post.url = config.endpointUrl
  body : post.body = encodeBatch batch
  answer : post.acknowledged = acknowledged

end Sink

def Request.post? : Request → Option Sink.Post
  | .post url body answer => some ⟨url, body, answer⟩
  | _ => none

def posts (requests : List Request) : List Sink.Post :=
  requests.filterMap Request.post?

/-- The batch has gone out once to the endpoint, and `acknowledged` tells how it was answered. -/
def Sink.Config.Requested (config : Config) (batch : List Entry) (acknowledged : Bool)
    (before after : List Request) : Prop :=
  ∃ answer, Post.acknowledged ⟨config.endpointUrl, encodeBatch batch, answer⟩ = acknowledged ∧
    after = before ++ [.post config.endpointUrl (encodeBatch batch) answer]

/-! ### One batch -/

namespace Dispatcher

variable (d : Dispatcher σ) {batch : List Entry}

theorem meets_dispatch_of_dropped (hbatch : batch ≠ []) (hdropped : d.config.wants batch = false)
    {i : Session.State σ} {ok : Unit → Session.State σ → Prop}
    {error : Sink.Error → Session.State σ → Prop}
    : (d.dispatch batch).Meets i ok error ↔ ok () i := by
  cases batch with
  | nil => contradiction
  | cons first rest =>
    have hlow : first.height < d.config.minHeight := by
      simpa [Sink.Config.wants_cons] using hdropped
    unfold dispatch
    dsimp only
    rw [if_pos hlow, Action.meets_report]

theorem dispatch_of_wants (hwants : d.config.wants batch = true)
    : ∃ height,
        (d.config.kind? = some .http → d.dispatch batch = d.post batch height) ∧
        (d.config.kind? = some .webSocket → d.dispatch batch = d.stream batch height) ∧
        (d.config.kind? = none → d.dispatch batch = Action.fail .noSink) := by
  cases batch with
  | nil => contradiction
  | cons first rest =>
    have hhigh : ¬first.height < d.config.minHeight := by
      simpa [Sink.Config.wants_cons] using hwants
    refine ⟨first.height, ?_, ?_, ?_⟩
    all_goals
      intro hkind
      unfold dispatch
      dsimp only
      rw [if_neg hhigh, hkind]

theorem meets_post_of_taped (d : Dispatcher (Taped Request σ)) {poster : Sink.Poster σ}
    (hposter : d.poster? = some poster.taped) (batch : List Entry) (height : UInt64)
    (i : Session.State (Taped Request σ))
    : (d.post batch height).Meets i
        (fun _ i' => d.config.Requested batch true i.outside.calls i'.outside.calls)
        (fun _ i' => d.config.Requested batch false i.outside.calls i'.outside.calls) := by
  unfold Dispatcher.post
  rw [hposter]
  simp only [Sink.Poster.taped, Session.onOutside, Action.meets_bind, Action.meets_zoom,
    Action.meets_taped]
  apply Action.meets_of_forall
  . intro status outside
    split
    . next haccepted =>
      rw [Action.meets_report]
      refine ⟨.ok status, ?_, Taped.calls_push ..⟩
      simpa [Sink.Post.acknowledged] using haccepted
    . next hother =>
      rw [Action.meets_fail]
      refine ⟨.ok status, ?_, Taped.calls_push ..⟩
      simpa [Sink.Post.acknowledged] using hother
  . intro e outside
    exact ⟨.error e, rfl, Taped.calls_push ..⟩

end Dispatcher

/-! ### The posts of a replay -/

namespace Replay

/-- The transactions of a replay post their batches. No other call does, and no other call fails. -/
structure Posts (r : Replay σ) (posted : σ → List Sink.Post) (config : Sink.Config) : Prop where
  transact : ∀ batch s, batch ≠ [] → (r.handler.transact batch).Meets s
    (fun _ s' =>
      (config.wants batch = false ∧ posted s' = posted s) ∨
      ∃ post, config.Posted batch true post ∧ posted s' = posted s ++ [post])
    (fun _ s' => ∃ post, config.Posted batch false post ∧ posted s' = posted s ++ [post])
  rollback : ∀ s s' answer, r.handler.rollback.Ends s answer s' → posted s' = posted s
  notify : ∀ event s s' answer, (r.handler.notify event).Ends s answer s' →
    answer = .ok () ∧ posted s' = posted s
  load : ∀ s s' answer, (r.store.load r.consumer).Ends s answer s' →
    (∃ stored, answer = .ok stored) ∧ posted s' = posted s
  save : ∀ c s s' answer, (r.store.save c).Ends s answer s' →
    answer = .ok () ∧ posted s' = posted s
  pause : ∀ ms s, posted (r.clock.pause ms s) = posted s

/-- The posts of a batch that was committed: as many as it took, the last of them acknowledged. A
batch that is dropped is not posted. -/
def Acknowledged (r : Replay σ) (config : Sink.Config) (batch : List Entry)
    (group : List Sink.Post) : Prop :=
  (config.wants batch = false ∧ group = []) ∨
  ∃ failures post, group = failures ++ [post] ∧
    failures.length ≤ r.backoff.maxRetries.toNat ∧
    (∀ failure ∈ failures, config.Posted batch false failure) ∧
    config.Posted batch true post

/-- What a run ends in behind the posts of the batches that were committed: nothing, or the posts of
the batch that it gave up. -/
def Ended (r : Replay σ) (config : Sink.Config) (batches committed : List (List Entry))
    (last : List Sink.Post) : Except Error Summary → Prop
  | .ok _ => committed = batches ∧ last = []
  | .error _ => ∃ batch, committed ++ [batch] <+: batches ∧
    last.length = r.backoff.maxRetries.toNat + 1 ∧ ∀ post ∈ last, config.Posted batch false post

theorem Ended.cons {r : Replay σ} {config : Sink.Config} {batches committed : List (List Entry)}
    {last : List Sink.Post} {result : Except Error Summary}
    (h : r.Ended config batches committed last result) (batch : List Entry)
    : r.Ended config (batch :: batches) (batch :: committed) last result := by
  cases result with
  | ok _ => exact ⟨congrArg (batch :: ·) h.1, h.2⟩
  | error _ =>
    have ⟨failing, hinitial, hlast⟩ := h
    refine ⟨failing, ?_, hlast⟩
    rw [List.cons_append, List.prefix_cons_inj]
    exact hinitial

/-- A batch that is dropped is not posted; each other one is acknowledged in the end. -/
def Accepted (config : Sink.Config) (batch : List Entry) (list : List Sink.Post) : Prop :=
  (config.wants batch = false ∧ list = []) ∨ ∃ post, config.Posted batch true post ∧ list = [post]

def Rejected (config : Sink.Config) (batch : List Entry) (_ : Sink.Error) (list : List Sink.Post)
    : Prop :=
  ∃ post, config.Posted batch false post ∧ list = [post]

section

variable {r : Replay σ} {config : Sink.Config} {batch : List Entry}

theorem Posts.emits {posted : σ → List Sink.Post} (h : r.Posts posted config)
    : r.Emits posted (Accepted config) (Rejected config) where
  transact batch s hbatch := by
    apply (h.transact batch s hbatch).mono
    . rintro _ s' (⟨hlow, hsame⟩ | ⟨post, hpost, hmore⟩)
      . refine ⟨[], .inl ⟨hlow, rfl⟩, ?_⟩
        rw [hsame, List.append_nil]
      . exact ⟨[post], .inr ⟨post, hpost, rfl⟩, hmore⟩
    . rintro _ s' ⟨post, hpost, hmore⟩
      exact ⟨[post], ⟨post, hpost, rfl⟩, hmore⟩
  rollback := h.rollback
  notify := h.notify
  load s s' answer hends := (h.load s s' answer hends).2
  save c s s' answer hends := (h.save c s s' answer hends).2
  pause := h.pause

theorem Wasted.rejected {n : Nat} {failures : List Sink.Post}
    (h : Wasted (Rejected config) batch n failures)
    : failures.length = n ∧ ∀ post ∈ failures, config.Posted batch false post := by
  induction h with
  | none => simp
  | more _ hlast ih =>
    obtain ⟨post, hpost, rfl⟩ := hlast
    refine ⟨by simp [ih.1], ?_⟩
    rw [List.forall_mem_append, List.forall_mem_singleton]
    exact ⟨ih.2, hpost⟩

theorem Wasted.acknowledged {n : Nat} {failures last : List Sink.Post}
    (h : Wasted (Rejected config) batch n failures) (hle : n ≤ r.backoff.maxRetries.toNat)
    (hlast : Accepted config batch last)
    : r.Acknowledged config batch (failures ++ last) := by
  obtain ⟨hlength, hfailures⟩ := h.rejected
  rcases hlast with ⟨hlow, rfl⟩ | ⟨post, hpost, rfl⟩
  . -- A batch that is dropped cannot fail, so that its first transaction was this one.
    have hnone : failures = [] := by
      rw [List.eq_nil_iff_forall_not_mem]
      intro failure hfailure
      have := (hfailures failure hfailure).wanted
      rw [hlow] at this
      contradiction
    exact .inl ⟨hlow, by rw [hnone, List.append_nil]⟩
  . refine .inr ⟨failures, post, rfl, ?_, hfailures, hpost⟩
    rw [hlength]
    exact hle

theorem Emitted.posts {index : Nat} {batches committed settled : List (List Entry)}
    {list : List Sink.Post} {result : Except Error Summary}
    (h : Emitted r.backoff (Accepted config) (Rejected config) index batches committed settled list
      result)
    (hmax : r.backoff.maxRetries.toNat < UInt32.size - 1)
    (hsize : index + batches.flatten.length < UInt64.size)
    (hanswered : ∀ e, result ≠ .error (.checkpoint e))
    : ∃ groups last, List.Forall₂ (r.Acknowledged config) committed groups ∧
        r.Ended config batches committed last result ∧ list = groups.flatten ++ last := by
  induction h with
  | done => exact ⟨[], [], .nil, ⟨rfl, rfl⟩, rfl⟩
  | unloaded | unsaved => exact absurd rfl (hanswered _)
  | @stopped _ _ batch rest wasted _ _ hwasted hlast _ =>
    obtain ⟨hlength, hfailures⟩ := hwasted.rejected
    obtain ⟨post, hpost, rfl⟩ := hlast
    refine ⟨[], wasted ++ [post], .nil, ⟨batch, ?_, by simp [hlength], ?_⟩, rfl⟩
    . exact List.prefix_append [batch] rest
    . rw [List.forall_mem_append, List.forall_mem_singleton]
      exact ⟨hfailures, hpost⟩
  | exhausted _ hfull => omega
  | full _ _ _ hfull =>
    rw [List.flatten_cons, List.length_append] at hsize
    omega
  | @saved _ _ batch _ _ _ wasted last _ _ hwasted hle hlast _ ih =>
    rw [List.flatten_cons, List.length_append] at hsize
    obtain ⟨groups, ending, hgroups, hended, hlist⟩ := ih (by omega) hanswered
    refine ⟨(wasted ++ last) :: groups, ending, .cons (hwasted.acknowledged hle hlast) hgroups,
      hended.cons batch, ?_⟩
    rw [hlist, List.flatten_cons, ← List.append_assoc]

variable {posted : σ → List Sink.Post} (h : r.Posts posted config) {calls : List Call} {s s' : σ}
include h

theorem Posts.resumes (hleads : Leads r.Does s calls s')
    : ∃ stored, ((r.store.load r.consumer).run s).result = .ok stored ∧
        r.Resumes stored calls := by
  have ⟨⟨stored, hstored⟩, _⟩ := h.load s _ _ ⟨rfl, rfl⟩
  refine ⟨stored, hstored, ?_⟩
  rintro answer rest rfl
  have ⟨m, hload, _⟩ := hleads
  have hanswer := hload.1
  rw [hstored] at hanswer
  injection hanswer with hanswer
  exact hanswer.symm

/-- The store answers each call. -/
theorem Posts.not_unanswered (hleads : Leads r.Does s calls s') (e : Checkpoint.Error)
    : ¬r.Unanswered e calls := by
  rintro (hmem | ⟨c, hmem⟩)
  . have ⟨m, m', hload⟩ := hleads.exists_of_mem hmem
    have := h.load m m' _ hload
    simp at this
  . have ⟨m, m', hsave⟩ := hleads.exists_of_mem hmem
    have := h.save c m m' _ hsave
    simp at this

theorem Course.posts {log : List Entry} {result : Except Error Summary}
    (hcourse : Course r log calls result)
    (hmax : r.backoff.maxRetries.toNat < UInt32.size - 1) (hlog : log.length < UInt64.size)
    (hleads : Leads r.Does s calls s')
    : ∃ stored groups last,
        ((r.store.load r.consumer).run s).result = .ok stored ∧
        List.Forall₂ (r.Acknowledged config) (account calls).committed groups ∧
        r.Ended config (r.pending log stored) (account calls).committed last result ∧
        posted s' = posted s ++ groups.flatten ++ last := by
  have ⟨stored, hload, hresumes⟩ := h.resumes hleads
  have ⟨list, hemitted, hposted⟩ := hcourse.emits h.emits hresumes hleads
  have ⟨groups, last, hgroups, hended, hlist⟩ :=
    hemitted.posts hmax (r.fits_pending hlog stored) fun e hresult =>
      h.not_unanswered hleads e (hcourse.unanswered hresult)
  refine ⟨stored, groups, last, hload, hgroups, hended, ?_⟩
  rw [hposted, hlist, List.append_assoc]

end

/-! ### The posts that were acknowledged -/

variable {r : Replay σ} {config : Sink.Config} {batch : List Entry}

theorem filter_acknowledged_of_posted {list : List Sink.Post}
    (hlist : ∀ post ∈ list, config.Posted batch false post)
    : list.filter (·.acknowledged) = [] := by
  rw [List.filter_eq_nil_iff]
  intro post hpost
  rw [(hlist post hpost).answer]
  simp

theorem Acknowledged.bodies {group : List Sink.Post} (hgroup : r.Acknowledged config batch group)
    : (group.filter (·.acknowledged)).map (·.body) =
        if config.wants batch then [encodeBatch batch] else [] := by
  rcases hgroup with ⟨hlow, hgroup⟩ | ⟨failures, post, hgroup, _, hfailures, hpost⟩
  . rw [hlow, hgroup]
    rfl
  . rw [hgroup, List.filter_append, filter_acknowledged_of_posted hfailures, if_pos hpost.wanted,
      List.filter_cons_of_pos hpost.answer, ← hpost.body]
    rfl

theorem Acknowledged.url {group : List Sink.Post} (hgroup : r.Acknowledged config batch group)
    : ∀ post ∈ group, post.url = config.endpointUrl := by
  rcases hgroup with ⟨_, hgroup⟩ | ⟨failures, last, hgroup, _, hfailures, hlast⟩
  . rw [hgroup]
    simp
  . rw [hgroup, List.forall_mem_append, List.forall_mem_singleton]
    exact ⟨fun failure hfailure => (hfailures failure hfailure).url, hlast.url⟩

theorem bodies_flatten {committed : List (List Entry)} {groups : List (List Sink.Post)}
    (hgroups : List.Forall₂ (r.Acknowledged config) committed groups)
    : (groups.flatten.filter (·.acknowledged)).map (·.body) =
        (committed.filter config.wants).map encodeBatch := by
  induction hgroups with
  | nil => rfl
  | @cons batch group committed groups hgroup _ ih =>
    rw [List.flatten_cons, List.filter_append, List.map_append, hgroup.bodies, ih]
    cases hwants : config.wants batch with
    | false => rw [List.filter_cons_of_neg (by simp [hwants])]; rfl
    | true => rw [List.filter_cons_of_pos hwants]; rfl

theorem url_of_mem_flatten {committed : List (List Entry)} {groups : List (List Sink.Post)}
    (hgroups : List.Forall₂ (r.Acknowledged config) committed groups)
    : ∀ post ∈ groups.flatten, post.url = config.endpointUrl := by
  induction hgroups with
  | nil => simp
  | cons hgroup _ ih =>
    rw [List.flatten_cons, List.forall_mem_append]
    exact ⟨hgroup.url, ih⟩

theorem Ended.unacknowledged {batches committed : List (List Entry)} {last : List Sink.Post}
    {result : Except Error Summary} (hended : r.Ended config batches committed last result)
    : ∃ batch, ∀ post ∈ last, config.Posted batch false post := by
  cases result with
  | ok _ =>
    refine ⟨[], ?_⟩
    rw [hended.2]
    simp
  | error _ =>
    have ⟨failing, _, _, hlast⟩ := hended
    exact ⟨failing, hlast⟩

end Replay

theorem Sink.Config.Requested.posted {config : Config} {batch : List Entry} {acknowledged : Bool}
    {before after : List Request} (h : config.Requested batch acknowledged before after)
    (hwants : config.wants batch = true)
    : ∃ post, config.Posted batch acknowledged post ∧ posts after = posts before ++ [post] := by
  obtain ⟨answer, hanswer, hafter⟩ := h
  refine ⟨⟨config.endpointUrl, encodeBatch batch, answer⟩, ⟨hwants, rfl, rfl, hanswer⟩, ?_⟩
  simp [hafter, posts, Request.post?]

namespace Outside

variable (o : Outside σ) (config : Sink.Config) (params : Network.Params)

def posted (i : Session.State (Taped Request σ)) : List Sink.Post :=
  posts i.outside.calls

theorem posted_push {request : Request} (hrequest : request.post? = none)
    (i : Session.State (Taped Request σ)) (outside : σ)
    : posted { i with outside := i.outside.push request outside } = posted i := by
  simp [posted, posts, hrequest]

theorem meets_dispatch {poster : Sink.Poster σ} (hposter : o.poster? = some poster)
    (hurl : config.endpointUrl ≠ "") {batch : List Entry} (hbatch : batch ≠ [])
    (i : Session.State (Taped Request σ))
    : ((o.taped.dispatcher config params).dispatch batch).Meets i
        (fun _ i' =>
          (config.wants batch = false ∧ posted i' = posted i) ∨
          ∃ post, config.Posted batch true post ∧ posted i' = posted i ++ [post])
        (fun _ i' => ∃ post, config.Posted batch false post ∧ posted i' = posted i ++ [post]) := by
  let d := o.taped.dispatcher config params
  cases hwants : config.wants batch with
  | false =>
    rw [d.meets_dispatch_of_dropped hbatch hwants]
    exact .inl ⟨rfl, rfl⟩
  | true =>
    have hkind : config.kind? = some .http := by
      unfold Sink.Config.kind?
      rw [if_pos hurl]
    have htaped : d.poster? = some poster.taped := congrArg (Option.map _) hposter
    obtain ⟨height, hpost, _⟩ := d.dispatch_of_wants hwants
    rw [hpost hkind]
    apply (d.meets_post_of_taped htaped batch height i).mono
    . intro _ i' hrequested
      exact .inr (hrequested.posted hwants)
    . intro _ i' hrequested
      exact hrequested.posted hwants

theorem posts_replay {poster : Sink.Poster σ} (hposter : o.poster? = some poster)
    (hurl : config.endpointUrl ≠ "") (hstore : o.store.Reliable) (consumer : String)
    (batchBytes : UInt64) (backoff : Backoff)
    : (o.taped.replay config params consumer batchBytes backoff).Posts (fun s => posted s.inner)
        config where
  transact batch s hbatch := by
    have hdispatch := o.meets_dispatch config params hposter hurl hbatch s.inner
    rw [← Dispatcher.meets_transact_immediate] at hdispatch
    apply ((Dispatcher.sim_transact _ hbatch).meets rfl hdispatch).mono
    . rintro _ s' ⟨i, hi, hposted⟩
      rw [hi]
      exact hposted
    . rintro _ s' ⟨i, hi, hposted⟩
      rw [hi]
      exact hposted
  rollback s s' answer hends := by
    have hsim := (o.taped.dispatcher config params).sim_rollback s s.inner rfl
    have hinner : s'.inner = s.inner := by
      rw [← hends.2]
      exact hsim.2
    rw [hinner]
  notify event s s' answer hends := by
    have hsim := (o.taped.dispatcher config params).sim_notify event s s.inner rfl
    have hinner : s'.inner = s.inner := by
      rw [← hends.2]
      exact hsim.2
    rw [hinner, ← hends.1]
    exact ⟨hsim.1, rfl⟩
  load s s' answer hends := by
    have ⟨stored, hstored⟩ := hstore.load consumer s.outside.state
    refine ⟨⟨stored, ?_⟩, ?_⟩
    . rw [← hends.1]
      exact hstored
    . rw [← hends.2]
      exact posted_push rfl _ _
  save c s s' answer hends := by
    refine ⟨?_, ?_⟩
    . rw [← hends.1]
      exact hstore.save c s.outside.state
    . rw [← hends.2]
      exact posted_push rfl _ _
  pause ms s := by
    exact posted_push rfl _ _

/--
What is acknowledged is what is committed: over HTTP, the acknowledged posts of a run are those of
the committed batches, in order, except for the batches below the least height. All posts go to one
URL, and the posts of a batch follow on those of the batch before it. A run that fails has posted
one more batch as often as its retries allow, and nothing behind it. The log is held in memory, so
that a word can count its entries.
-/
theorem acknowledged_posts_are_committed {poster : Sink.Poster σ}
    (hposter : o.poster? = some poster) (hurl : config.endpointUrl ≠ "")
    (hstore : o.store.Reliable) (consumer : String) (batchBytes : UInt64) {backoff : Backoff}
    (hmax : backoff.maxRetries.toNat < UInt32.size - 1) {log : List Entry}
    (hlog : log.length < UInt64.size) (s : σ)
    : let r := o.taped.replay config params consumer batchBytes backoff
      let done := (r.run log).run (.init ⟨s, []⟩)
      let committed := (Replay.account (r.record log (.init ⟨s, []⟩)).state.calls).committed
      let made := posts done.state.outside.calls
      (made.filter (·.acknowledged)).map (·.body) =
        (committed.filter config.wants).map encodeBatch ∧
      (∀ post ∈ made, post.url = config.endpointUrl) ∧
      ∃ stored groups last,
        ((o.store.load consumer).run s).result = .ok stored ∧
        made = groups.flatten ++ last ∧
        List.Forall₂ (r.Acknowledged config) committed groups ∧
        r.Ended config (r.pending log stored) committed last done.result := by
  intro r done committed made
  have hcourse := r.record_course log (.init ⟨s, []⟩)
  have hleads := r.record_leads log (.init ⟨s, []⟩)
  rw [Replay.result_record] at hcourse
  rw [Replay.state_record] at hleads
  have ⟨stored, groups, last, hload, hgroups, hended, hposted⟩ :=
    hcourse.posts (o.posts_replay config params hposter hurl hstore consumer batchBytes backoff)
      hmax hlog hleads
  replace hposted : made = groups.flatten ++ last := hposted
  replace hended : r.Ended config (r.pending log stored) committed last done.result := hended
  have ⟨failing, hlast⟩ := hended.unacknowledged
  refine ⟨?_, ?_, stored, groups, last, hload, hposted, hgroups, hended⟩
  . rw [hposted, List.filter_append, List.map_append, Replay.bodies_flatten hgroups,
      Replay.filter_acknowledged_of_posted hlast, List.map_nil, List.append_nil]
  . rw [hposted, List.forall_mem_append]
    exact ⟨Replay.url_of_mem_flatten hgroups, fun post hpost => (hlast post hpost).url⟩

end Outside

def Sink.Poster.scripted : Sink.Poster (List UInt16 × Checkpoint.Table) where
  post url _ := do
    match (← Action.read).1 with
    | [] => Action.fail (.send url "no answer")
    | status :: rest =>
      Action.update fun s => (rest, s.2)
      return status

def Outside.scripted : Outside (List UInt16 × Checkpoint.Table) where
  poster? := some .scripted
  connector? := none
  store := Checkpoint.Table.store.zoom (·.2) fun t s => (s.1, t)
  clock := .still

/-- The first batch is dropped, the second one goes out at the second attempt, the third one never
does. -/
theorem acknowledged_posts_are_committed_scripted
    : let config : Sink.Config :=
        { endpointUrl := "http://sink", minHeight := 5, mode := .staged }
      let log := [Entry.upsert 3 [], Entry.upsert 7 [], Entry.upsert 9 []]
      let r := Outside.scripted.taped.replay config .mainnet "a" 1 (.immediate 1)
      let made := posts ((r.run log).run (.init ⟨([500, 200, 503], []), []⟩)).state.outside.calls
      Outside.scripted.poster? = some .scripted ∧ config.endpointUrl ≠ "" ∧
      Outside.scripted.store.Reliable ∧
      (Backoff.immediate 1).maxRetries.toNat < UInt32.size - 1 ∧ log.length < UInt64.size ∧
      (made.filter (·.acknowledged)).map (·.body) = [encodeBatch [Entry.upsert 7 []]] ∧
      made.length = 4 := by
  intro config log r made
  have hurl : config.endpointUrl ≠ "" := by decide
  have hstore : Outside.scripted.store.Reliable := {
    load := fun consumer s => ⟨s.2.lookup consumer, rfl⟩
    save := fun _ _ => rfl
  }
  have hmax : (Backoff.immediate 1).maxRetries.toNat < UInt32.size - 1 := by decide
  have hlog : log.length < UInt64.size := by decide
  have ⟨hbodies, _⟩ := Outside.scripted.acknowledged_posts_are_committed config .mainnet rfl hurl
    hstore "a" 1 hmax hlog ([500, 200, 503], [])
  refine ⟨rfl, hurl, hstore, hmax, hlog, ?_, by decide +kernel⟩
  rw [hbodies]
  decide +kernel

end StateRelay
