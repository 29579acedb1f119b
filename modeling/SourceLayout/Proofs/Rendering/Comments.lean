import SourceLayout.Proofs.Building.Calls
import SourceLayout.Proofs.Building.Supporting
import SourceLayout.Proofs.Rendering.Completion

/-! Comments that go first only come before the rest.  The emitter's program finds output and a
blank line wanted where it would find neither, and it may open regions and ask for blank lines of
its own.  Its first line takes the wanted blank line along, and from there on both runs emit the
same. -/

namespace SourceLayout

/-! ### What is emitted under comments -/

namespace Move

theorem emissions_act_cons (flags : Flags) (a : Action) (ms : List Move) :
    emissions flags (.act a :: ms) = a.emissions flags ++ emissions (a.flagsAfter flags) ms := by
  rw [emissions, emittedAll, emitted, Emitted.flattenAll_append, Emitted.flattenAll_map_single]
  rfl

/-- Without regions, moves emit the same and leave the same flags. -/
theorem emissions_actionsOf (flags : Flags) (ms : List Move) :
    emissions flags ((actionsOf ms).map .act) = emissions flags ms ∧
      flagsAfterAll flags ((actionsOf ms).map .act) = flagsAfterAll flags ms := by
  induction ms using listInduction generalizing flags with
  | nil => exact ⟨rfl, rfl⟩
  | act a ms ih =>
    rw [actionsOf, actions, List.singleton_append, List.map_cons, emissions_act_cons,
      emissions_act_cons, (ih _).1]
    exact ⟨rfl, (ih _).2⟩
  | region mark body ms ihBody ih =>
    have hregion : emissions flags (.region mark body :: ms) =
        emissions flags body ++ emissions (flagsAfterAll flags body) ms := by
      rw [emissions, emittedAll, emitted, List.singleton_append, Emitted.flattenAll]
      rfl
    rw [actionsOf, actions, List.map_append, emissions_append, flagsAfterAll_append, hregion,
      (ihBody flags).1, (ihBody flags).2, (ih _).1, (ih _).2]
    exact ⟨rfl, rfl⟩

/-- Output stays output. -/
theorem hasOutput_flagsAfterAll {flags : Flags} (h : flags.hasOutput = true) (as : List Action) :
    (flagsAfterAll flags (as.map .act)).hasOutput = true := by
  induction as generalizing flags with
  | nil => exact h
  | cons a as ih =>
    have hkept : (a.flagsAfter flags).hasOutput = true := by
      cases a with
      | line _ | emptyLine => rfl
      | requestBlank => simp [Action.flagsAfter, h]
      | shift _ | probe | divert | finish | write _ | fail _ => exact h
    exact ih hkept

/-- Calls that fail nowhere, from a start without line breaks, and do not begin with a bare line
break, emit one empty line more when there is output with a blank line wanted before them, provided
that they emit anything. -/
theorem emissions_under_output {names : Assignment} {as : List Action} {s : Session}
    (hrun : (runAll names (as.map .act) s).fault = none) (hcalls : ∀ a ∈ as, a.isBuilding)
    (hfirst : as.find? Action.isWriting ≠ some .emptyLine)
    (hbreaks : s.builder.arena.changes = []) (hflags : s.builder.flags = {}) :
    emissions ⟨true, true⟩ (as.map .act) =
      if (flagsAfterAll {} (as.map .act)).hasOutput then .emptyLine :: emissions {} (as.map .act)
      else [] := by
  induction as generalizing s with
  | nil => rfl
  | cons a as ih =>
    rw [List.forall_mem_cons] at hcalls
    rw [List.map_cons, runAll, Outcome.fault_andThen_eq_none] at hrun
    rw [List.map_cons, emissions_act_cons, emissions_act_cons, flagsAfterAll]
    have hnext : a.isWriting = false → as.find? Action.isWriting ≠ some .emptyLine := by
      intro ha
      rwa [List.find?_cons_of_neg (by simp [ha])] at hfirst
    cases a with
    | line v =>
      obtain ⟨item, hitem, -⟩ := Builder.lineOf_of_fault (b := s.builder) hrun.1
      have houtput : (flagsAfterAll ⟨true, false⟩ (as.map .act)).hasOutput = true :=
        hasOutput_flagsAfterAll rfl as
      simp [flagsAfter, Action.flagsAfter, Action.emissions, hitem, houtput]
    | emptyLine => exact absurd rfl hfirst
    | requestBlank =>
      have hempty : s.builder.isEmpty = true := by
        have houtput : s.builder.hasOutput = false := congrArg Flags.hasOutput hflags
        simp [Builder.isEmpty, houtput]
      have hsame : s.requestBlank = s := by
        rw [Session.requestBlank, Builder.requestBlank, if_pos hempty]
      rw [run, Action.run, Outcome.state_done, hsame] at hrun
      exact ih hrun.2 hcalls.2 (hnext rfl) hbreaks hflags
    | shift offset =>
      have hfault : (s.builder.shift offset).fault = some .firstLineIndent := by
        simp [Builder.shift, LineArena.shift, hbreaks, Except.map, Outcome.ofExcept]
      cases hfault.symm.trans hrun.1
    | probe => exact ih hrun.2 hcalls.2 (hnext rfl) hbreaks hflags
    | finish =>
      have hbuilder := Session.builder_finish (Session.suspended_of_finish hrun.1)
      refine ih hrun.2 hcalls.2 (hnext rfl) ?_ ?_
      · exact (congrArg (·.arena.changes) hbuilder).trans hbreaks
      · exact (congrArg Builder.flags hbuilder).trans hflags
    | fail fault => cases hrun.1
    | divert | write _ => cases hcalls.1

end Move

namespace Emission

/-- The line of a text. -/
def ofText (text : String) : Emission := .line (.text text)

theorem printed_ofText (names : Assignment) (texts : List String) (es : List Emission) :
    printed names 0 (texts.map ofText ++ es) = texts.map (Stretch.mk 0) ++ printed names 0 es := by
  induction texts with
  | nil => rfl
  | cons text texts ih =>
    rw [List.map_cons, List.cons_append, ofText, printed, Printer.rows_text, ih]
    rfl

theorem offsetOf_ofText (texts : List String) : offsetOf (texts.map ofText) = 0 := by
  induction texts with
  | nil => rfl
  | cons text texts ih =>
    rw [List.map_cons, offsetOf_cons, ih]
    rfl

namespace Writable

variable {names : Assignment} {es : List Emission}

theorem nil (names : Assignment) : Writable names [] :=
  ⟨fun _ h => (List.not_mem_nil h).elim, fun _ h => (List.not_mem_nil h).elim, Int.le_refl 0⟩

/-- An empty line may come before what can be written. -/
theorem emptyLine (h : Writable names es) : Writable names (.emptyLine :: es) where
  flat := h.flat
  levels := List.forall_mem_cons.mpr ⟨Int.le_refl 0, h.levels⟩
  level := by
    rw [offsetOf_cons, offset, Int.zero_add]
    exact h.level

/-- Lines of texts may come before what can be written. -/
theorem texts (h : Writable names es) (texts : List String) :
    Writable names (texts.map ofText ++ es) where
  flat := by
    rw [List.filterMap_append, List.forall_mem_append]
    refine ⟨fun item hitem => ?_, h.flat⟩
    obtain ⟨e, he, hitem⟩ := List.mem_filterMap.mp hitem
    obtain ⟨text, -, rfl⟩ := List.mem_map.mp he
    obtain rfl := Option.some.inj hitem
    simp [Fragment.strokes, Stroke.IsFlat]
  levels := by
    rw [printed_ofText, List.forall_mem_append]
    exact ⟨by simp, h.levels⟩
  level := by
    rw [offsetOf_append, offsetOf_ofText, Int.zero_add]
    exact h.level

end Writable

end Emission

namespace Stretch

theorem line_of_level_zero (indentation text : String) : line indentation ⟨0, text⟩ = text := by
  unfold line
  split
  · next h => exact h.symm
  · simp [Text.repeated]

end Stretch

/-! ### Programs under comments -/

namespace Step

open Renderer (commentLines)

theorem movesOf_commentLines (texts : List String) :
    movesOf (commentLines (texts.map .str)) =
      texts.map fun text => .act (.line (.list [.str text])) := by
  induction texts with
  | nil => rfl
  | cons text texts ih => exact congrArg (_ :: ·) ih

/-- Comments are emitted as their lines, and leave output behind. -/
theorem emissions_commentLines (flags : Flags) (hwanted : flags.blankWanted = false)
    (texts : List String) :
    Move.emissions flags (movesOf (commentLines (texts.map .str))) =
        texts.map Emission.ofText ∧
      (Move.flagsAfterAll flags (movesOf (commentLines (texts.map .str)))).blankWanted = false ∧
      (texts ≠ [] →
        (Move.flagsAfterAll flags (movesOf (commentLines (texts.map .str)))).hasOutput = true) := by
  rw [movesOf_commentLines]
  induction texts generalizing flags with
  | nil => exact ⟨rfl, hwanted, fun h => absurd rfl h⟩
  | cons text texts ih =>
    have hitem : (Value.list [.str text]).toFragment = .ok (.text text) := by
      rw [Value.toFragment_singleton, Value.toFragment_str]
    obtain ⟨hemissions, hblank, houtput⟩ := ih ⟨true, false⟩ rfl
    rw [List.map_cons, List.map_cons, Move.emissions_act_cons, Action.emissions, hitem]
    simp only [hwanted, Bool.false_eq_true, if_false]
    refine ⟨congrArg (_ :: ·) hemissions, hblank, fun _ => ?_⟩
    cases texts with
    | nil => rfl
    | cons other texts => exact houtput (List.cons_ne_nil _ _)

variable {names : Assignment} {texts : List String} {program : List Step}

/-- Under comments, calls that fail nowhere emit the comments and then, if they emit anything, an
empty line and what they emit without comments. -/
theorem emissionsOf_under_comments (htexts : texts ≠ [])
    (hrun : (runAll names program .fresh).fault = none)
    (hcalls : ∀ a ∈ actionsOf program, a.isBuilding)
    (hfirst : (actionsOf program).find? Action.isWriting ≠ some .emptyLine) :
    emissionsOf (commentLines (texts.map .str) ++ .requestBlank :: program) =
      texts.map Emission.ofText ++
        if (runAll names program .fresh).state.builder.isEmpty then []
        else .emptyLine :: emissionsOf program := by
  obtain ⟨hcomments, hblank, houtput⟩ := emissions_commentLines {} rfl texts
  have hflags : Move.flagsAfterAll {} (movesOf (commentLines (texts.map .str))) =
      ⟨true, false⟩ := congrArg₂ Flags.mk (houtput htexts) hblank
  have hmoves : movesOf (.requestBlank :: program) = .act .requestBlank :: movesOf program := rfl
  have hfollows := Move.follows (s := .fresh) (t := .fresh) ⟨.fresh, fun _ => rfl, rfl⟩
    (Action.divert_notMem_of_isBuilding hcalls) (by rwa [← runAll_eq_runAll_moves])
  have hunder := Move.emissions_under_output hfollows.1 hcalls hfirst rfl rfl
  obtain ⟨hplain, hafter⟩ := Move.emissions_actionsOf {} (movesOf program)
  rw [(Move.emissions_actionsOf _ _).1, hplain, hafter,
    ← (grows_of_run hrun (Action.divert_notMem_of_isBuilding hcalls)).flags] at hunder
  rw [emissionsOf, movesOf_append, Move.emissions_append, hcomments, hflags, hmoves,
    Move.emissions_act_cons]
  congr 1
  refine hunder.trans ?_
  rw [Builder.isEmpty]
  cases houtput : (runAll names program .fresh).state.builder.hasOutput with
  | false => simp [Builder.flags, houtput]
  | true =>
    simp [Builder.flags, houtput]
    rfl

/-- The actions of a program under comments. -/
theorem actionsOf_under_comments (texts : List String) (program : List Step) :
    actionsOf (commentLines (texts.map .str) ++ .requestBlank :: program) =
      (texts.map fun text => .line (.list [.str text])) ++ .requestBlank :: actionsOf program := by
  rw [actionsOf, movesOf_append, movesOf_commentLines, Move.actionsOf_append]
  congr 1
  induction texts with
  | nil => rfl
  | cons text texts ih => exact congrArg (_ :: ·) ih

/-- The items of a program under comments. -/
theorem itemsOf_under_comments (texts : List String) (program : List Step) :
    itemsOf (commentLines (texts.map .str) ++ .requestBlank :: program) =
      texts.map .text ++ itemsOf program := by
  have hcomments : (texts.map fun text => Action.line (.list [.str text])).filterMap Action.item? =
      texts.map .text := by
    simp [List.filterMap_map, Function.comp_def, Action.item?, Value.toFragment_singleton,
      Except.toOption]
  rw [itemsOf, actionsOf_under_comments, List.filterMap_append, hcomments]
  rfl

/-- Comments can be written on a fresh builder, and support what runs on it. -/
theorem supports_comments (names : Assignment) (texts : List String) :
    let o := runAll names (commentLines (texts.map .str) ++ [.requestBlank]) .fresh
    o.fault = none ∧ o.state.builder.Supports .fresh := by
  intro o
  have hactions := actionsOf_under_comments texts []
  have hcalls : ∀ a ∈ actionsOf (commentLines (texts.map .str) ++ [.requestBlank]),
      a.isCall = true := by
    rw [hactions, List.forall_mem_append, List.forall_mem_cons]
    exact ⟨by simp [Action.isCall], rfl, fun a ha => (nomatch ha)⟩
  have hitems : ∀ item ∈ itemsOf (commentLines (texts.map .str) ++ [.requestBlank]),
      item.pendings = [] := by
    rw [itemsOf_under_comments]
    intro item hitem
    obtain ⟨text, -, rfl⟩ := List.mem_map.mp ((List.mem_append.mp hitem).resolve_right
      List.not_mem_nil)
    exact Fragment.pendings_text text
  have hrun : o.fault = none := by
    simp only [o, runAll_append, Outcome.fault_andThen_eq_none]
    refine ⟨Renderer.fault_commentLines names (fun c hc => ?_) rfl, rfl⟩
    obtain ⟨text, -, rfl⟩ := List.mem_map.mp hc
    exact ⟨text, rfl⟩
  have hstay := Action.divert_notMem hcalls
  have hclosed : o.state.builder.suspended = [] := (grows_of_run hrun hstay).suspended
  have hfinished : o.state.builder.finished = false := by
    simp only [o, runAll_eq_runAll_moves] at hrun ⊢
    exact Move.finished_of_calls hcalls hrun
  have hpendings := (Builder.exists_finish hclosed).mp ⟨_, finish_eq_children hrun hstay hitems⟩
  exact ⟨hrun, hfinished, congrArg List.length hclosed, Nat.zero_le _, nofun, nofun,
    fun index hindex => .inr (hpendings index hindex)⟩

/-- Under comments, calls that fail nowhere fail nowhere. -/
theorem fault_under_comments (hrun : (runAll names program .fresh).fault = none)
    (hcalls : ∀ a ∈ actionsOf program, a.isBuilding) (texts : List String) :
    (runAll names (commentLines (texts.map .str) ++ .requestBlank :: program) .fresh).fault =
      none := by
  obtain ⟨hcomments, hsupports⟩ := supports_comments names texts
  have hprogram : commentLines (texts.map .str) ++ .requestBlank :: program =
      (commentLines (texts.map .str) ++ [.requestBlank]) ++ program := by simp
  rw [hprogram, runAll_append, Outcome.andThen_of_fault hcomments, runAll_eq_runAll_moves]
  rw [runAll_eq_runAll_moves] at hrun
  exact (Move.supports hcalls hsupports hrun).1

/-- The lines of a program under comments are the comments and then, if the program emits anything,
an empty line and its lines without comments. -/
theorem linesOf_under_comments {indentation : String} {lines : List String} (htexts : texts ≠ [])
    (hrun : (runAll names program .fresh).fault = none)
    (hcalls : ∀ a ∈ actionsOf program, a.isBuilding)
    (hitems : ∀ item ∈ itemsOf program, item.newlines = [] ∧ item.pendings = [])
    (hfirst : (actionsOf program).find? Action.isWriting ≠ some .emptyLine)
    (hlines : (runAll names program .fresh).state.builder.linesOf names indentation = .ok lines) :
    (runAll names (commentLines (texts.map .str) ++ .requestBlank :: program) .fresh
      ).state.builder.linesOf names indentation =
      .ok (texts ++ if (runAll names program .fresh).state.builder.isEmpty then []
        else "" :: lines) := by
  obtain ⟨hwritable, hclear, rfl⟩ :=
    writable_of_linesOf hrun (Action.divert_notMem_of_isBuilding hcalls) hitems hlines
  have hall := fault_under_comments hrun hcalls texts
  have hstay : .divert ∉ actionsOf (commentLines (texts.map .str) ++ .requestBlank :: program) := by
    rw [actionsOf_under_comments]
    simpa using Action.divert_notMem_of_isBuilding hcalls
  have hpendings : ∀ item ∈ itemsOf (commentLines (texts.map .str) ++ .requestBlank :: program),
      item.pendings = [] := by
    rw [itemsOf_under_comments, List.forall_mem_append]
    exact ⟨by simp, fun item h => (hitems item h).2⟩
  have hemissions := emissionsOf_under_comments htexts hrun hcalls hfirst
  -- What follows the comments can be written, with no margin refused.
  generalize hrest : (if (runAll names program .fresh).state.builder.isEmpty then []
    else .emptyLine :: emissionsOf program) = rest at hemissions
  have hafter : Emission.Writable names rest ∧
      (Emission.printed names 0 rest).findSome? (Stretch.refusal? indentation) = none ∧
      (Emission.printed names 0 rest).map (Stretch.line indentation) =
        if (runAll names program .fresh).state.builder.isEmpty then []
        else "" :: (Emission.printed names 0 (emissionsOf program)).map
          (Stretch.line indentation) := by
    subst hrest
    cases (runAll names program .fresh).state.builder.isEmpty with
    | true => exact ⟨.nil names, rfl, rfl⟩
    | false => exact ⟨hwritable.emptyLine, hclear, rfl⟩
  have hcomments : (texts.map (Stretch.mk 0)).findSome? (Stretch.refusal? indentation) = none := by
    simp [Stretch.refusal?_of_level_zero]
  have hwritten := linesOf_of_writable hall hstay hpendings
    (hemissions ▸ hafter.1.texts texts) indentation
  rw [hwritten, hemissions, Emission.printed_ofText, List.findSome?_append, hcomments, hafter.2.1,
    List.map_append, hafter.2.2, List.map_map]
  simp [Function.comp_def, Stretch.line_of_level_zero]

end Step

/-! ### Renderings under comments -/

namespace Renderer

variable {μ γ : Type}

/-- A rendering whose comments can be written gives the lines of the comments and the program
together, or fails as they do. -/
theorem lines_renderWith {r : Renderer μ γ} (names : Assignment) (w : World μ)
    (hopened : (Step.runAll names r.opening .fresh).fault = none) :
    let o := Step.runAll names (r.opening ++ (r.emitter.emit names w).2) .fresh
    (r.renderWith names w).2.2.map (·.sheet.lines) =
      match o.fault with
      | some fault => .error fault
      | none => o.state.builder.linesOf names r.config.indentation := by
  intro o
  have hprogram : (Step.runAll names r.opening .fresh).andThen
        (Step.runAll names ((r.emitter.emit names w).2 ++ [.finish])) =
      o.andThen (Step.runAll names [.finish]) := by
    simp only [o, Step.runAll_append, Outcome.andThen_assoc]
    congr 1
    funext s
    exact Step.runAll_append names _ _ s
  simp only [renderWith, hopened, Option.isNone_none, if_true, hprogram]
  cases hfault : o.fault with
  | some fault =>
    have hstop : o.andThen (Step.runAll names [.finish]) = o := by rw [Outcome.andThen, hfault]
    rw [hstop, hfault]
    rfl
  | none =>
    rw [Outcome.andThen_of_fault hfault, Builder.linesOf]
    cases hfinish : o.state.builder.finish.2 with
    | error fault =>
      have hfailed : (Step.runAll names [.finish] o.state).fault = some fault := by
        rcases hpair : o.state.builder.finish with ⟨b, result⟩
        rw [hpair] at hfinish
        obtain rfl : result = .error fault := hfinish
        rw [Step.runAll, Step.run, Session.finish, hpair]
        rfl
      simp only [hfailed]
      rfl
    | ok tree =>
      rw [runAll_finish hfinish]
      simp only [Outcome.fault_done, Outcome.state_done]
      cases hsheet : tree.toSheet names r.config.indentation <;>
        simp [hsheet, bind, Except.bind, Except.map, pure, Except.pure]

/-- With comments, a rendering comes to its end where it does without them, and under the same
names, if the emitter keeps to calls of the builder, none of its items holds a line break of its
own, and its first line is not a bare line break.  The lines are the comments and then, if the emitter has
emitted anything, an empty line and the lines without comments. -/
theorem call_render_comments {r : Renderer μ γ} {s : State μ} {plain : Rendered}
    {texts : List String} {program : List Step} (htexts : texts ≠ [])
    (hplain : ({ r with comments := [] }.call s .render).2.2 = .ok (.rendered plain))
    (hprogram : (r.emitter.emit plain.names (r.assignNames s).1.world).2 = program)
    (hcalls : ∀ a ∈ Step.actionsOf program, a.isBuilding)
    (hitems : ∀ item ∈ Step.itemsOf program, item.newlines = [] ∧ item.pendings = [])
    (hfirst : (Step.actionsOf program).find? Action.isWriting ≠ some .emptyLine) :
    ∃ result,
      ({ r with comments := texts.map .str }.call s .render).2.2 = .ok (.rendered result) ∧
      result.names = plain.names ∧
      result.sheet.lines = texts ++
        if (Step.runAll plain.names program .fresh).state.builder.isEmpty then []
        else "" :: plain.sheet.lines := by
  set bare : Renderer μ γ := { r with comments := [] }
  set commented : Renderer μ γ := { r with comments := texts.map .str }
  set w : World μ := (r.assignNames s).1.world
  have hassign : (r.assignNames s).2 = .ok plain.names := assignNames_of_rendered (r := bare) hplain
  -- Without comments, a blank line is asked for in vain.
  have hbare := lines_renderWith (r := bare) plain.names w rfl
  have hrendered : (bare.renderWith plain.names w).2.2 = .ok plain := by
    have hcall : (bare.call s .render).2.2 = _ := call_render_of_assignNames hassign
    rw [hplain] at hcall
    cases hresult : (bare.renderWith plain.names w).2.2 with
    | error fault =>
      change _ = (bare.renderWith plain.names w).2.2.map _ at hcall
      rw [hresult] at hcall
      cases hcall
    | ok result =>
      change _ = (bare.renderWith plain.names w).2.2.map _ at hcall
      rw [hresult] at hcall
      cases hcall
      rfl
  have hopening : bare.opening ++ (bare.emitter.emit plain.names w).2 =
      .requestBlank :: program := by rw [← hprogram]; rfl
  have hstart : Step.runAll plain.names (.requestBlank :: program) .fresh =
      Step.runAll plain.names program .fresh := rfl
  rw [hrendered, hopening, hstart] at hbare
  have hrun : (Step.runAll plain.names program .fresh).fault = none := by
    cases hfault : (Step.runAll plain.names program .fresh).fault with
    | none => rfl
    | some fault =>
      simp only [hfault] at hbare
      cases hbare
  simp only [hrun] at hbare
  have hlines : (Step.runAll plain.names (commentLines (texts.map .str) ++ .requestBlank :: program)
      .fresh).state.builder.linesOf plain.names commented.config.indentation = .ok _ :=
    Step.linesOf_under_comments htexts hrun hcalls hitems hfirst hbare.symm
  have hall := Step.fault_under_comments hrun hcalls texts
  have hopened : (Step.runAll plain.names commented.opening .fresh).fault = none :=
    fault_opening plain.names fun c hc => by
      obtain ⟨text, -, rfl⟩ := List.mem_map.mp hc
      exact ⟨text, rfl⟩
  have hcommented := lines_renderWith plain.names w hopened
  have hunder : commented.opening ++ (commented.emitter.emit plain.names w).2 =
      commentLines (texts.map .str) ++ .requestBlank :: program := by
    rw [← hprogram, opening, List.append_assoc]
    rfl
  rw [hunder] at hcommented
  simp only [hall, hlines] at hcommented
  cases hresult : (commented.renderWith plain.names w).2.2 with
  | error fault =>
    rw [hresult] at hcommented
    cases hcommented
  | ok result =>
    rw [hresult] at hcommented
    refine ⟨result, ?_, names_of_renderWith hresult, Except.ok.inj hcommented⟩
    have hcall : (commented.call s .render).2.2 =
        (commented.renderWith plain.names w).2.2.map .rendered :=
      call_render_of_assignNames hassign
    rw [hcall, hresult]
    rfl

/-- Two comments before a region in a list that begins with a blank line. -/
theorem call_render_comments_each :
    let r : Renderer Unit Unit :=
      { emitter := .fixed (.ok []) (fun _ => [.requestBlank, .each true true
          [[.region .plain [.line [.str "a"], .indent [.line [.str "b"]]]], [.line [.str "c"]]],
          .line []]) none
        typeGraph := () }
    let s : State Unit := .start ⟨.empty, ()⟩
    ∃ plain, ({ r with comments := [] }.call s .render).2.2 = .ok (.rendered plain) ∧
      plain.sheet.lines = ["a", "    b", "", "c", ""] ∧
      ∃ result, ({ r with comments := ["# x", "# y"].map .str }.call s .render).2.2 =
          .ok (.rendered result) ∧
        result.names = plain.names ∧
        result.sheet.lines = ["# x", "# y", "", "a", "    b", "", "c", ""] := by
  intro r s
  let plain : Rendered :=
    { tree := .seq [.marked .plain (.seq [.text "a", .newline 1, .text "b", .newline (-1)]),
        .newline 0, .text "c", .newline 0, .newline 0]
      names := .empty
      sheet := ⟨["a", "    b", "", "c", ""], [⟨.plain, ⟨0, 0⟩, ⟨2, 0⟩⟩]⟩ }
  let program := (r.emitter.emit plain.names (r.assignNames s).1.world).2
  have hplain : ({ r with comments := [] }.call s .render).2.2 = .ok (.rendered plain) := by cbv
  have hactions : Step.actionsOf program = [.requestBlank, .requestBlank, .line (.list [.str "a"]),
      .shift 1, .line (.list [.str "b"]), .shift (-1), .requestBlank, .line (.list [.str "c"]),
      .emptyLine] := by cbv
  have hitems : Step.itemsOf program = [.text "a", .text "b", .text "c"] := by cbv
  have houtput : (Step.runAll .empty program .fresh).state.builder.isEmpty = false := by cbv
  obtain ⟨result, hresult, hnames, hlines⟩ :=
    call_render_comments (List.cons_ne_nil "# x" ["# y"]) hplain rfl
      (by rw [hactions]; simp [Action.isBuilding])
      (by rw [hitems]; simp)
      (by rw [hactions]; simp [Action.isWriting])
  refine ⟨plain, hplain, rfl, result, hresult, hnames, hlines.trans ?_⟩
  rw [houtput]
  rfl

end Renderer

end SourceLayout
