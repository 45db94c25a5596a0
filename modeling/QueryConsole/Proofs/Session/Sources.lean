import QueryConsole.Proofs.Session.Happenings

/-!
# Every panel has one source

The updates of a panel are those of the happenings that concern it, one for each, in the order in
which they happen. A graph and the list of its databases always change together.

## Main definitions

- `Session.Run.contents`, `Session.Run.outcomes`: what a poller shows, and what arrives for it
- `Session.Run.Sources`: where all updates of all panels come from

## Main results

- `Session.Run.current_databases`: while a graph is shown, the list of databases fits it
- `every_panel_one_source`: every panel has one source
-/

namespace QueryConsole

namespace Session

namespace Run

variable {renderer : Renderer} {period : Nat}

/-- What a panel shows in a run, happening by happening. -/
theorem history_shown (panel : Panel) (run : List Move) :
    history panel (shown renderer period run) =
      (happenings renderer period [] run).filterMap (Happening.content? renderer · panel) := by
  rw [shown_eq, List.filterMap_eq_flatMap_toList, history, List.filterMap_flatMap]
  exact congrArg (List.flatMap · _) (funext fun what => what.history_updates renderer panel)

theorem history_answers {panel : Panel} {content? : Answered → Option Presentation}
    (h : ∀ what : Happening, what.content? renderer panel = what.answered?.bind content?)
    (run : List Move) : history panel (shown renderer period run) =
      (answers renderer period run).filterMap content? := by
  rw [history_shown, answers, List.filterMap_filterMap]
  exact congrArg (List.filterMap · _) (funext h)

/-! ## The graph and the list of databases -/

/-- An element of a list of parts is in one of them, with the elements of that part around it. -/
theorem exists_of_flatMap {α β : Type} {f : α → List β} {l : List α} {x y : List β} {b : β}
    (h : l.flatMap f = x ++ b :: y) :
    ∃ a, ∃ before after x' y' : List β,
      f a = x' ++ b :: y' ∧ x = before ++ x' ∧ y = y' ++ after := by
  induction l generalizing x with
  | nil => simp at h
  | cons a l ih =>
    rw [List.flatMap_cons] at h
    obtain ⟨z, hx, hrest⟩ | ⟨z, ha, hy⟩ := List.append_eq_append_iff.1 h
    · obtain ⟨a', before, after, x', y', hf, rfl, rfl⟩ := ih hrest
      exact ⟨a', f a ++ before, after, x', y', hf, by rw [hx, List.append_assoc], rfl⟩
    · cases z with
      | nil =>
        -- the element is the first of the parts that follow
        obtain ⟨a', before, after, x', y', hf, hnil, rfl⟩ := ih (x := []) hy.symm
        refine ⟨a', f a ++ before, after, x', y', hf, ?_, rfl⟩
        rw [List.append_assoc, ← hnil, ha, List.append_nil, List.append_nil]
      | cons b' z =>
        obtain ⟨rfl, rfl⟩ := List.cons_eq_cons.1 hy
        exact ⟨a, [], l.flatMap f, x, z, ha, rfl, rfl⟩

/-- An update of the graph or of the list of databases is an error in place of the graph, or a part
of a drawing that is shown all at once. -/
theorem drawing_of_shown {run : List Move} {earlier later : List Update} {u : Update}
    (h : shown renderer period run = earlier ++ u :: later)
    (hpanel : u.1 = .graph ∨ u.1 = .databases) :
    (∃ message, u = (.graph, .error message)) ∨
      ∃ (listing : List Database) (before after x y : List Update),
        drawing listing = x ++ u :: y ∧ earlier = before ++ x ∧ later = y ++ after := by
  rw [shown_eq] at h
  obtain ⟨what, before, after, x, y, hwhat, rfl, rfl⟩ := exists_of_flatMap h
  obtain ⟨listing, hdrawn⟩ | ⟨message, herror⟩ | hnone := what.drawing_cases renderer
  · exact .inr ⟨listing, before, after, x, y, hdrawn.symm.trans hwhat, rfl, rfl⟩
  · rw [herror] at hwhat
    cases x with
    | nil => exact .inl ⟨message, (List.cons.inj hwhat).1.symm⟩
    | cons => simp at hwhat
  · obtain ⟨hgraph, hdatabases⟩ := hnone u (by simp [hwhat])
    exact absurd hpanel (not_or.2 ⟨hgraph, hdatabases⟩)

/-- The list of databases changes right after the graph, to the names of the same listing. -/
theorem graph_of_databases {run : List Move} {earlier later : List Update} {content : Presentation}
    (h : shown renderer period run = earlier ++ (.databases, content) :: later) :
    ∃ (listing : List Database) (before : List Update),
      earlier = before ++ [(.graph, .graph (Graph.ofDatabases listing))] ∧
        content = .list (listing.map Database.name) := by
  obtain ⟨message, herror⟩ | ⟨listing, before, after, x, y, hdrawn, rfl, rfl⟩ :=
    drawing_of_shown h (.inr rfl)
  · cases herror
  · match x, hdrawn with
    | [_], hdrawn =>
      cases hdrawn
      exact ⟨listing, before, rfl, rfl⟩
    | [], hdrawn => cases hdrawn
    | _ :: _ :: _, hdrawn => simp [drawing] at hdrawn

/-- No graph is drawn without the list of databases changing right after it, to the names of the
same listing. -/
theorem databases_of_graph {run : List Move} {earlier later : List Update} {g : Graph}
    (h : shown renderer period run = earlier ++ (.graph, .graph g) :: later) :
    ∃ (listing : List Database) (rest : List Update), g = Graph.ofDatabases listing ∧
      later = (.databases, .list (listing.map Database.name)) :: rest := by
  obtain ⟨message, herror⟩ | ⟨listing, before, after, x, y, hdrawn, rfl, rfl⟩ :=
    drawing_of_shown h (.inl rfl)
  · cases herror
  · match x, hdrawn with
    | [], hdrawn =>
      cases hdrawn
      exact ⟨listing, after, rfl, rfl⟩
    | [_], hdrawn => cases hdrawn
    | _ :: _ :: _, hdrawn => simp [drawing] at hdrawn

/-- While the graph panel shows a graph, the list of databases holds the names of the same listing.
The induction is on what has happened, the latest last. -/
theorem current_databases {happened : List Happening} {g : Graph}
    (h : current .graph (happened.flatMap (Happening.updates renderer)) = some (.graph g)) :
    ∃ listing, g = Graph.ofDatabases listing ∧
      current .databases (happened.flatMap (Happening.updates renderer)) =
        some (.list (listing.map Database.name)) := by
  induction happened using List.reverseRecOn with
  | nil => cases h
  | append_singleton happened what ih =>
    simp only [List.flatMap_append, List.flatMap_singleton, current, history_append] at h ⊢
    obtain ⟨listing, hdrawn⟩ | ⟨message, herror⟩ | hnone := what.drawing_cases renderer
    · rw [hdrawn] at h ⊢
      simp [drawing, history] at h ⊢
      exact ⟨listing, h.symm, rfl⟩
    · rw [herror] at h
      simp [history] at h
    · rw [history_eq_nil fun u hu => (hnone u hu).1, List.append_nil] at h
      rw [history_eq_nil fun u hu => (hnone u hu).2, List.append_nil]
      exact ih h

/-! ## Who writes where -/

theorem writer_of_shown_step {r : Run} {m : Move} {origin : Origin} {panel : Panel}
    {content : Presentation} (h : .shown origin panel content ∈ (r.step m).2) :
    panel = .live ↔ ∃ id, origin = .poller id := by
  obtain ⟨t, call, hlive, he, _⟩ | he := r.events_cases m
  · -- a call shows nothing in the live panel
    have hof := t.isOf_of_mem_events call (he ▸ h) call
    have horigin : origin = .call call := by simpa [Event.isOf] using hof
    refine iff_of_false ?_ (by simp [horigin])
    rintro rfl
    exact hlive content (Turn.live_of_shown (he ▸ h))
  · rw [he] at h
    obtain ⟨e, _, hof⟩ := List.mem_map.1 h
    cases e <;> cases hof
    exact iff_of_true rfl ⟨_, rfl⟩

/-- The live panel is written by pollers, and they write nowhere else. -/
theorem writer_of_shown {r : Run} {moves : List Move} {origin : Origin} {panel : Panel}
    {content : Presentation} (h : .shown origin panel content ∈ (r.exec moves).2) :
    panel = .live ↔ ∃ id, origin = .poller id := by
  induction moves generalizing r with
  | nil => cases h
  | cons m moves ih =>
    obtain hfirst | hlater := List.mem_append.1 h
    · exact writer_of_shown_step hfirst
    · exact ih hlater

/-! ## Polls -/

/-- What the poller of a subscription shows, by the events of a session. -/
def contents (id : Nat) (events : List Event) : List Presentation :=
  events.filterMap fun
    | .shown origin _ content => if origin = .poller id then some content else none
    | _ => none

/-- The outcomes that arrive for the poller of a subscription. -/
def outcomes (id : Nat) (moves : List Move) : List Outcome :=
  moves.filterMap fun
    | .receive i outcome => if i = id then some outcome else none
    | _ => none

theorem contents_step (r : Run) (m : Move) (id : Nat) : contents id (r.step m).2 =
    Live.contents id (r.session.live.exec r.session.renderer (r.deed m).toList).2 := by
  obtain ⟨t, call, _, he, hnone⟩ | he := r.events_cases m
  · rw [he, hnone]
    refine List.filterMap_eq_nil_iff.2 fun e hmem => ?_
    have hof := t.isOf_of_mem_events call hmem call
    cases e <;> simp_all [Event.isOf]
  · rw [he, contents, List.filterMap_map, Live.contents]
    refine List.filterMap_congr fun e _ => ?_
    cases e <;> simp [Event.ofLive, Live.Event.content?]

theorem outcomes_deed (r : Run) (m : Move) (id : Nat) :
    Live.outcomes id (r.deed m).toList = outcomes id [m] := by
  cases m with
  | begin now action =>
    cases hd : r.deed (.begin now action) with
    | none => rfl
    | some d => obtain ⟨_, _, _, rfl⟩ | rfl := beginDeed_cases hd <;> rfl
  | answer call outcome =>
    cases hd : r.deed (.answer call outcome) with
    | none => rfl
    | some d =>
      obtain ⟨p, _, hp⟩ := Option.bind_eq_some_iff.1 hd
      cases Stage.deed_eq hp
      rfl
  | ask now i => rfl
  | receive i outcome => rfl
  | look i => rfl
  | drop => rfl

/-- What pollers show in a run of a session and what arrives for them is that of the run of its live
view. -/
theorem contents_exec (r : Run) (moves : List Move) (id : Nat) :
    contents id (r.exec moves).2 =
        Live.contents id (r.session.live.exec r.session.renderer (r.deeds moves)).2 ∧
      Live.outcomes id (r.deeds moves) = outcomes id moves := by
  induction moves generalizing r with
  | nil => exact ⟨rfl, rfl⟩
  | cons m moves ih =>
    obtain ⟨hlive, hrenderer⟩ := r.step_session m
    obtain ⟨hcontents, houtcomes⟩ := ih (r.step m).1
    constructor
    · simp only [Run.exec, deeds, Live.exec_append, Live.contents_append]
      rw [← contents_step, ← hlive, ← hrenderer, ← hcontents]
      exact List.filterMap_append
    · have happend : Live.outcomes id (r.deeds (m :: moves)) =
          Live.outcomes id (r.deed m).toList ++ Live.outcomes id ((r.step m).1.deeds moves) :=
        List.filterMap_append
      rw [happend, houtcomes, outcomes_deed]
      exact (List.filterMap_append (l := [m])).symm

/-- In a run from the beginning a poller shows some of the outcomes that arrive for it, each of them
once and in the same order. -/
theorem contents_sublist (run : List Move) (id : Nat) :
    (contents id (seen renderer period run)).Sublist
      ((outcomes id run).filterMap (Outcome.shown renderer)) := by
  obtain ⟨hlive, hrenderer⟩ := start_session renderer period
  obtain ⟨hcontents, houtcomes⟩ := (start renderer period).contents_exec run id
  rw [hlive, hrenderer] at hcontents
  have hsublist := Live.Sound.start.contents_exec renderer id ((start renderer period).deeds run)
  rw [houtcomes, ← hcontents] at hsublist
  exact (List.sublist_append_left _ _).trans hsublist

/-! ## The panels of a run -/

theorem map_some_filterMap {α β : Type} {f : α → Option β} {l : List α}
    (h : ∀ a ∈ l, (f a).isSome = true) : (l.filterMap f).map some = l.map f := by
  induction l with
  | nil => rfl
  | cons a l ih =>
    obtain ⟨hfirst, hrest⟩ := List.forall_mem_cons.1 h
    obtain ⟨b, hb⟩ := Option.isSome_iff_exists.1 hfirst
    rw [List.filterMap_cons_some hb, List.map_cons, ih hrest, List.map_cons, hb]

/-- Where the updates of the panels come from in a run. -/
structure Sources (renderer : Renderer) (period : Nat) (run : List Move) : Prop where
  /-- all updates, in order -/
  all : shown renderer period run =
    (happenings renderer period [] run).flatMap (Happening.updates renderer)
  results : history .results (shown renderer period run) =
    (answers renderer period run).filterMap (Answered.result? renderer)
  /-- there is exactly one for each answer to an operator's own query, where the renderer returns -/
  resulting : (∀ a ∈ answers renderer period run, a.isQuery = true →
      (renderer.render a.reply).isSome = true) →
    (history .results (shown renderer period run)).map some =
      ((answers renderer period run).filter Answered.isQuery).map fun a => renderer.render a.reply
  graph : history .graph (shown renderer period run) =
    (answers renderer period run).filterMap Answered.graph?
  databases : history .databases (shown renderer period run) =
    (answers renderer period run).filterMap Answered.databases?
  tables : history .tables (shown renderer period run) =
    (answers renderer period run).filterMap Answered.tables?
  live : history .live (shown renderer period run) =
    (polls renderer period run).filterMap (Outcome.shown renderer)
  /-- there is exactly one for each outcome, where the renderer returns -/
  polling : (∀ outcome ∈ polls renderer period run, (outcome.shown renderer).isSome = true) →
    (history .live (shown renderer period run)).map some =
      (polls renderer period run).map (Outcome.shown renderer)
  notice : history .notice (shown renderer period run) =
    (happenings renderer period [] run).filterMap Happening.notice?
  messages : ∀ content ∈ history .notice (shown renderer period run), content.isError = true
  writer : ∀ origin panel content, .shown origin panel content ∈ seen renderer period run →
    (panel = .live ↔ ∃ id, origin = .poller id)
  /-- the list of databases changes right after the graph only -/
  together : ∀ earlier later content,
    shown renderer period run = earlier ++ (.databases, content) :: later →
      ∃ (listing : List Database) (before : List Update),
        earlier = before ++ [(.graph, .graph (Graph.ofDatabases listing))] ∧
          content = .list (listing.map Database.name)
  /-- and it does so whenever a graph is drawn -/
  followed : ∀ earlier later g,
    shown renderer period run = earlier ++ (.graph, .graph g) :: later →
      ∃ (listing : List Database) (rest : List Update), g = Graph.ofDatabases listing ∧
        later = (.databases, .list (listing.map Database.name)) :: rest
  /-- while a graph is shown, it is the one of the listed databases -/
  drawn : ∀ g, current .graph (shown renderer period run) = some (.graph g) →
    ∃ listing : List Database, g = Graph.ofDatabases listing ∧
      current .databases (shown renderer period run) = some (.list (listing.map Database.name)) ∧
      g.nodes = (listing.map Database.name).eraseDups.map Graph.Element.node
  /-- an outcome that arrives for a poller is shown once at most -/
  polled : ∀ id, (contents id (seen renderer period run)).Sublist
    ((outcomes id run).filterMap (Outcome.shown renderer))
  /-- an answered query was sent by its call, and is answered once -/
  asked : ∀ call, (answered renderer period run call).Sublist
    (queries (ofCall call (seen renderer period run)))

end Run

end Session

/-- In every run, whatever calls and polls are under way at once and whatever becomes of their
queries, each panel has one source. The results are the replies to the operator's own queries, the
graph, the list of databases and the list of tables those to the queries that ask for them, one
update for each reply in the order in which they arrive. The live panel has one update for each
outcome that the poller of the active subscription looks at, and none has two. A reply that the
renderer does not return for is no result and not shown live; where it returns, none is left out.
The list of databases changes right after the graph, with nothing in between, and while a graph is
shown it lists the same databases, whose names without repeats are the nodes. The notice panel shows
nothing but errors. -/
theorem every_panel_one_source (renderer : Renderer) (period : Nat) (run : List Session.Move) :
    Session.Run.Sources renderer period run where
  all := Session.Run.shown_eq run
  results := Session.Run.history_answers (fun _ => rfl) run
  resulting h := by
    have hresults : Session.history .results (Session.Run.shown renderer period run) =
        ((Session.Run.answers renderer period run).filter Session.Answered.isQuery).filterMap
          fun a => renderer.render a.reply := by
      rw [List.filterMap_filter]
      exact Session.Run.history_answers (fun _ => rfl) run
    rw [hresults]
    apply Session.Run.map_some_filterMap
    intro a ha
    obtain ⟨hmem, hquery⟩ := List.mem_filter.1 ha
    exact h a hmem hquery
  graph := Session.Run.history_answers (fun _ => rfl) run
  databases := Session.Run.history_answers (fun _ => rfl) run
  tables := Session.Run.history_answers (fun _ => rfl) run
  live := by
    rw [Session.Run.history_shown, Session.Run.polls, List.filterMap_filterMap]
    rfl
  polling h := by
    rw [Session.Run.history_shown .live run, ← Session.Run.map_some_filterMap h, Session.Run.polls,
      List.filterMap_filterMap]
    rfl
  notice := Session.Run.history_shown .notice run
  messages content h := by
    rw [Session.Run.history_shown .notice run] at h
    obtain ⟨what, _, hwhat⟩ := List.mem_filterMap.1 h
    exact Session.Happening.isError_of_notice? hwhat
  writer _ _ _ h := Session.Run.writer_of_shown h
  together _ _ _ h := Session.Run.graph_of_databases h
  followed _ _ _ h := Session.Run.databases_of_graph h
  drawn g h := by
    rw [Session.Run.shown_eq] at h ⊢
    obtain ⟨listing, rfl, hdatabases⟩ := Session.Run.current_databases h
    exact ⟨listing, rfl, hdatabases, Graph.nodes_ofDatabases listing⟩
  polled id := Session.Run.contents_sublist run id
  asked call :=
    (List.sublist_append_left _ _).trans (Session.Run.answered_sublist run call)

/-- The database may change while its tables are asked for; then the new one counts. -/
example : Session.Run.shown .text 0
    [.begin 0 .tables, .begin 0 (.use "b"), .answer 1 (.ok (.tabular [])),
      .answer 0 (.ok (.listing [⟨"a", ["x"]⟩, ⟨"b", ["y"]⟩]))] = [(.tables, .list ["y"])] := by
  decide +kernel

end QueryConsole
