import StateRelay.Proofs.ChangeLog.Lines
import StateRelay.Proofs.Sink.Routing

/-!
This module contains what a run of the command does when its log cannot be read: nothing. Neither
the transports nor the checkpoints are touched, and the files stay as they are.
-/

namespace StateRelay

namespace Outside

/-- The requests that are noted do not change what a replay does. -/
theorem sim_taped (o : Outside σ) (config : Sink.Config) (params : Network.Params)
    (consumer : String) (batchBytes : UInt64) (backoff : Backoff)
    : Replay.Sim Staging.Shows (o.taped.replay config params consumer batchBytes backoff)
        (o.replay config params consumer batchBytes backoff) where
  transact batch _ := by
    have hcall := (o.dispatcher config params).sim_taped
    apply Action.Sim.bind
    . exact hcall (.hook .initiate)
    . intro _
      apply Action.Sim.bind
      . exact hcall (.hook (.handle batch))
      . intro _
        exact hcall (.hook .commit)
  rollback := (o.dispatcher config params).sim_taped (.hook .rollback)
  notify event := (o.dispatcher config params).sim_taped (.notify event)
  load := Staging.sim_outside _ (o.store.load consumer)
  save checkpoint := Staging.sim_outside _ (o.store.save checkpoint)
  pause ms := by
    intro t s hshows
    show Staging.Shows _ (s.setOutside (o.clock.pause ms s.outside))
    rw [← hshows.outside]
    exact hshows.setOutside
  now t s hshows := by
    show o.clock.now t.outside.state = o.clock.now s.outside
    rw [hshows.outside]
  consumer := rfl
  batchBytes := rfl
  backoff := rfl

end Outside

namespace Command.Run

open CommandLine (RunOptions)

/-! ### The requests of a run -/

section

variable (w : World σ) (o : RunOptions) (params : Network.Params)

theorem dispatcher_of_ok {w : World σ} {poster : Sink.Poster σ} (hposter : w.poster = .ok poster)
    : dispatcher w o params =
        .ok { config := o.sink, params, poster? := poster, connector? := w.connector } := by
  unfold dispatcher Dispatcher.build
  rw [hposter]
  -- Whatever the configuration names is supplied, since both transports are there.
  cases o.sink.kind? with
  | none => rfl
  | some kind =>
    cases kind with
    | http | webSocket => rfl

theorem dispatcher_of_error {w : World σ} {e : Sink.Error} (hposter : w.poster = .error e)
    : dispatcher w o params = .error (.context "building HTTP client" e.message) := by
  unfold dispatcher
  rw [hposter]
  rfl

theorem dispatcher_taped
    : dispatcher w.taped o params = (dispatcher w o params).map Dispatcher.taped := by
  cases hposter : w.poster with
  | error e =>
    have htaped : w.taped.poster = .error e := congrArg (Except.map _) hposter
    rw [dispatcher_of_error o params hposter, dispatcher_of_error o params htaped]
    rfl
  | ok poster =>
    rw [dispatcher_of_ok o params hposter, dispatcher_of_ok o params (World.poster_taped hposter)]
    rfl

theorem sim_replay (d : Dispatcher σ)
    : Replay.Sim Staging.Shows (replay w.taped o d.taped) (replay w o d) := by
  rw [← Outside.replay_ofWorld]
  exact (Outside.ofWorld w o.progressDir d).sim_taped d.config d.params o.consumer o.batchBytes
    o.backoff

theorem sim_noSink {R : σ → τ → Prop} {x : Action σ ε α} {y : Action τ ε α}
    (h : Action.Sim R x y)
    : Action.Sim R (if o.sink.kind?.isNone then (do Action.report noSink; x) else x)
        (if o.sink.kind?.isNone then (do Action.report noSink; y) else y) := by
  split
  . apply Action.Sim.bind
    . apply Action.Sim.report
    . intro _
      exact h
  . exact h

theorem sim_openLog
    : Action.Sim (fun t s => t.state = s) (openLog w.taped o) (openLog w o) := by
  unfold openLog World.taped
  apply Action.Sim.read
  rintro t _ rfl
  dsimp only
  cases ChangeLog.load (w.files t.state) (ChangeLog.pathIn o.stateChangeDir) with
  | ok log => apply Action.Sim.pure
  | error fault => apply Action.Sim.fail

theorem sim_openCheckpoints
    : Action.Sim (fun t s => t.state = s) (openCheckpoints w.taped o) (openCheckpoints w o) := by
  apply Action.Sim.mapError
  apply (Action.Sim.refl (Checkpoint.Directory.make o.progressDir)).zoom
  . rintro t _ rfl
    rfl
  . rintro files _ t _ rfl rfl
    rfl

/-- The requests that are noted do not change what a run does. -/
theorem sim_taped
    : Action.Sim (fun t s => t.state = s) (runIn w.taped o params) (runIn w o params) := by
  unfold runIn
  apply Action.Sim.bind
  . apply Action.Sim.report
  . intro _
    apply sim_noSink
    rw [dispatcher_taped]
    cases dispatcher w o params with
    | error failure => apply Action.Sim.ofExcept
    | ok d =>
      show Action.Sim _ (Action.ofExcept (.ok d.taped) >>= _) (Action.ofExcept (.ok d) >>= _)
      rw [Action.ofExcept_ok_bind, Action.ofExcept_ok_bind]
      apply Action.Sim.bind
      . apply sim_openLog
      . intro log
        apply Action.Sim.bind
        . apply sim_openCheckpoints
        . intro _
          apply Action.Sim.bind
          . apply Action.Sim.mapError
            apply ((sim_replay w o d).run log.entries).zoom
            . rintro t _ rfl
              exact ⟨⟨rfl, rfl⟩, rfl⟩
            . intro t s _ _ hshows _
              exact hshows.outside
          . intro _
            apply Action.Sim.pure

end

/-! ### A log that cannot be read -/

section

variable {w : World σ} {o : RunOptions} {s : σ}

theorem ends_openLog {fault : ChangeLog.Fault}
    (hload : ChangeLog.load (w.files s) (ChangeLog.pathIn o.stateChangeDir) = .error fault)
    : (openLog w o).Ends s (.error (.context ("reading change log in " ++ o.stateChangeDir)
        (Replay.Error.changeLog (ChangeLog.pathIn o.stateChangeDir) fault).message)) s := by
  unfold openLog
  apply Action.Ends.bind_ok (a := s) ⟨rfl, rfl⟩
  rw [hload]
  exact ⟨rfl, rfl⟩

theorem ends_noSink {x : Action σ ε α} {s' : σ} {result : Except ε α} (h : x.Ends s result s')
    : (if o.sink.kind?.isNone then (do Action.report noSink; x) else x).Ends s result s' := by
  split
  . exact Action.Ends.bind_ok ⟨rfl, rfl⟩ h
  . exact h

/-- Before the log is read, nothing is asked for and nothing is changed. -/
theorem ends_runIn {poster : Sink.Poster σ} (hposter : w.poster = .ok poster) {failure : Failure}
    (hlog : (openLog w o).Ends s (.error failure) s) (params : Network.Params)
    : (runIn w o params).Ends s (.error failure) s := by
  unfold runIn
  apply Action.Ends.bind_ok ⟨rfl, rfl⟩
  apply ends_noSink
  rw [dispatcher_of_ok o params hposter]
  apply Action.Ends.bind_ok ⟨rfl, rfl⟩
  exact Action.Ends.bind_error hlog

theorem ends_runIn_of_firstBad {text : String} {ls : List String}
    (hlines : ChangeLog.Splits text ls) {number : Nat} {e : Json.Error}
    (hfirst : ChangeLog.FirstBad ls number e) {poster : Sink.Poster σ}
    (hposter : w.poster = .ok poster)
    (hfile : (w.files s).contentOf (ChangeLog.pathIn o.stateChangeDir) =
      .ok (Bytes.ofString text))
    (params : Network.Params)
    : (runIn w o params).Ends s (.error (.context ("reading change log in " ++ o.stateChangeDir)
        (ChangeLog.badLineMessage (ChangeLog.pathIn o.stateChangeDir) number e))) s := by
  have hlog := ends_openLog (ChangeLog.load_of_firstBad hlines hfirst hfile)
  rw [ChangeLog.message_badLine] at hlog
  exact ends_runIn hposter hlog params

end

theorem poster_world : System.world.poster = .ok Sink.Http.poster := by
  unfold System.world Sink.Http.make
  rw [if_pos (by decide)]

/--
One bad line stops everything. A log is refused for its first bad line, by the number of the line
with the blank ones counted, and a log without a bad line holds the entries of its lines in order.
A run over a log with a bad line fails for it, whatever its transports and its checkpoints are: it
asks nothing of them, and leaves the files as they were.
-/
theorem stops_at_bad_line {text : String} {ls : List String}
    (hlines : ChangeLog.Splits text ls)
    : ((∃ line ∈ ls, ChangeLog.IsBad line) → ∃ number e, ChangeLog.FirstBad ls number e) ∧
      (∀ number e, ChangeLog.FirstBad ls number e →
        (∀ (t : FileTree) path, t.contentOf path = .ok (Bytes.ofString text) →
          ∃ fault, ChangeLog.load t path = .error fault ∧
            (Replay.Error.changeLog path fault).message =
              ChangeLog.badLineMessage path number e) ∧
        ∀ (o : RunOptions) params,
          let path := ChangeLog.pathIn o.stateChangeDir
          let failure := Failure.context ("reading change log in " ++ o.stateChangeDir)
            (ChangeLog.badLineMessage path number e)
          (∀ {σ : Type} (w : World σ) (s : σ) poster, w.poster = .ok poster →
            (w.files s).contentOf path = .ok (Bytes.ofString text) →
              (runIn w o params).Ends s (.error failure) s ∧
                (runIn w.taped o params).Ends ⟨s, []⟩ (.error failure) ⟨s, []⟩) ∧
          ∀ s : System, s.files.contentOf path = .ok (Bytes.ofString text) →
            (run o params).Ends s (.error failure) s ∧
              (runIn System.world.taped o params).Ends ⟨s, []⟩ (.error failure) ⟨s, []⟩) ∧
      (∀ {σ : Type} (w : World σ) (o : RunOptions) params,
        Action.Sim (fun t s => t.state = s) (runIn w.taped o params) (runIn w o params)) ∧
      ((∀ line ∈ ls, ¬ChangeLog.IsBad line) → ∃ entries, ChangeLog.Holds ls entries ∧
        ∀ (t : FileTree) path, t.contentOf path = .ok (Bytes.ofString text) →
          ChangeLog.load t path = .ok ⟨path, entries⟩) := by
  refine ⟨ChangeLog.exists_firstBad, ?_, sim_taped, ChangeLog.exists_load_of_not_bad hlines⟩
  intro number e hfirst
  constructor
  . intro t path hfile
    exact ⟨_, ChangeLog.load_of_firstBad hlines hfirst hfile, ChangeLog.message_badLine ..⟩
  . intro o params path failure
    have hworld {σ : Type} (w : World σ) (s : σ) (poster : Sink.Poster σ)
        (hposter : w.poster = .ok poster)
        (hfile : (w.files s).contentOf path = .ok (Bytes.ofString text))
        : (runIn w o params).Ends s (.error failure) s ∧
            (runIn w.taped o params).Ends ⟨s, []⟩ (.error failure) ⟨s, []⟩ := by
      refine ⟨ends_runIn_of_firstBad hlines hfirst hposter hfile params, ?_⟩
      have htaped : (w.taped.files ⟨s, []⟩).contentOf path = .ok (Bytes.ofString text) := hfile
      exact ends_runIn_of_firstBad hlines hfirst (World.poster_taped hposter) htaped params
    exact ⟨hworld, fun s hfile => hworld System.world s _ poster_world hfile⟩

theorem pathIn_log : ChangeLog.pathIn "log" = "log/state_changes.jsonl" := by
  decide +kernel

theorem contentOf_logIn (content : Bytes)
    : FileTree.contentOf
        ⟨[(["log"], .directory), (["log", ChangeLog.fileName], .file content)]⟩
        (ChangeLog.pathIn "log") = .ok content := by
  have hcheck : FileTree.checkPath "log/state_changes.jsonl" = .ok () := by
    rw [FileTree.checkPath_eq_ok_iff]
    decide
  have hnames : FileTree.names "log/state_changes.jsonl" = ["log", ChangeLog.fileName] := by
    decide +kernel
  have hresolve : FileTree.resolve
      ⟨[(["log"], .directory), (["log", ChangeLog.fileName], .file content)]⟩
      "log/state_changes.jsonl" = .ok ["log", ChangeLog.fileName] := by
    rw [FileTree.resolve, hcheck, hnames]
    rfl
  rw [pathIn_log, FileTree.contentOf_of_resolve hresolve]
  rfl

/-- An entry and a blank line stand before the first bad line, and another bad line after it. -/
theorem stops_at_third_line
    : let entry := "\x7b\"OperationType\":\"Upsert\",\"EncoderType\":0,\"KeyBytes\":\"0x\"," ++
        "\"Encoder\":null,\"IsReverted\":false,\"BlockHeight\":7\x7d"
      let text := entry ++ "\r\n" ++ ("\u2003" ++ "\n" ++ ("\x7b\x7d" ++ "\n" ++ "["))
      let ls := [entry, "\u2003", "\x7b\x7d", "["]
      let o : RunOptions := { endpointUrl := "http://sink", stateChangeDir := "log" }
      let s : System := {
        files := ⟨[(["log"], .directory),
          (["log", ChangeLog.fileName], .file (Bytes.ofString text))]⟩
        now := 0
      }
      ∃ e, ChangeLog.Splits text ls ∧ ChangeLog.FirstBad ls 3 e ∧
        s.files.contentOf (ChangeLog.pathIn o.stateChangeDir) = .ok (Bytes.ofString text) ∧
        (runIn System.world.taped o default).Ends ⟨s, []⟩
          (.error (.context "reading change log in log"
            (ChangeLog.badLineMessage "log/state_changes.jsonl" 3 e))) ⟨s, []⟩ := by
  intro entry text ls o s
  have hlines : ChangeLog.Splits text ls := by
    apply ChangeLog.Splits.more entry .returnNewline
    . decide
    . intro h
      contradiction
    . apply ChangeLog.Splits.more "\u2003" .newline
      . decide
      . intro _
        decide
      . apply ChangeLog.Splits.more "\x7b\x7d" .newline
        . decide
        . intro _
          decide
        . apply ChangeLog.Splits.last
          decide
  have hentry : Entry.decode (Bytes.ofString entry) = .ok (Entry.upsert 7 []) := by
    have hencode : Bytes.ofString entry = (Entry.upsert 7 []).encode := by decide +kernel
    have hplain : (Entry.upsert 7 []).Plain 126 := ⟨.null, by decide, by simp [Entry.upsert]⟩
    rw [hencode, hplain.decode_encode]
  obtain ⟨e, hdecode⟩ : ∃ e, Entry.decode (Bytes.ofString "\x7b\x7d") = .error e := ⟨_, rfl⟩
  have hfirst : ChangeLog.FirstBad ls 3 e := by
    refine ⟨[entry, "\u2003"], "\x7b\x7d", ["["], rfl, rfl, by decide, hdecode, ?_⟩
    rw [List.forall_mem_cons, List.forall_mem_singleton]
    constructor
    . rintro ⟨_, _, herror⟩
      rw [hentry] at herror
      contradiction
    . rintro ⟨hblank, _⟩
      contradiction
  have hfile := contentOf_logIn (Bytes.ofString text)
  obtain ⟨_, hrun⟩ :=
    (((stops_at_bad_line hlines).2.1 3 e hfirst).2 o default).1 System.world s _ poster_world hfile
  rw [pathIn_log] at hrun
  exact ⟨e, hlines, hfirst, hfile, hrun⟩

end Command.Run

end StateRelay
