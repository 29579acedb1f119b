import SourceLayout.Proofs.Building.Balance
import SourceLayout.Proofs.Rendering.Assigning
import SourceLayout.Proofs.Text.TabStops

/-! A rendering comes to its end if the emitter keeps to lines, blocks, tables, regions and bodies,
and to texts and names of its namespaces.  The tree can always be finished, no name lacks a text and
no level drops below zero, so that only a margin that is too large can be in the way. -/

namespace SourceLayout

/-! ### The comments -/

/-- A text can be written as a line as long as the tree is not finished. -/
theorem Builder.line_str {b : Builder} (h : b.finished = false) (text : String) :
    b.line [.str text] = .done (b.flushBlank.append (.text text)).appendBreak := by
  rw [line_singleton, lineOf_eq_done h (Value.toFragment_str text)]

namespace Renderer

variable {μ γ : Type} {r : Renderer μ γ} {w : World μ} {names : Assignment}

/-- The steps that write comments. -/
def commentLines (comments : List Value) : List Step := comments.map fun c => .line [c]

/-- Comments that are texts can be written. -/
theorem fault_commentLines {comments : List Value} (names : Assignment)
    (hcomments : ∀ c ∈ comments, ∃ text, c = .str text) {s : Session}
    (h : s.builder.finished = false) :
    (Step.runAll names (commentLines comments) s).fault = none := by
  induction comments generalizing s with
  | nil => rfl
  | cons c comments ih =>
    rw [List.forall_mem_cons] at hcomments
    obtain ⟨⟨text, rfl⟩, hrest⟩ := hcomments
    have hline := Builder.line_str h text
    rw [commentLines, List.map_cons, Step.runAll, Step.run, Session.onBuilder, hline]
    exact ih hrest (s.builder.finished_flushBlank.trans h)

theorem fault_opening (names : Assignment) (hcomments : ∀ c ∈ r.comments, ∃ text, c = .str text) :
    (Step.runAll names r.opening .fresh).fault = none := by
  have h := fault_commentLines names hcomments (s := .fresh) rfl
  rw [opening, Step.runAll_append, Outcome.fault_andThen_eq_none]
  exact ⟨h, rfl⟩

theorem areBalanced_commentLines (comments : List Value) :
    Step.areBalanced (commentLines comments) = true := by
  induction comments with
  | nil => rfl
  | cons c comments ih => exact ih

theorem areBalanced_opening (r : Renderer μ γ) : Step.areBalanced r.opening = true := by
  rw [opening, Step.areBalanced_append]
  exact Bool.and_eq_true_iff.mpr ⟨areBalanced_commentLines r.comments, rfl⟩

/-- The items of comments that are texts are texts. -/
theorem exists_of_mem_itemsOf_commentLines {comments : List Value}
    (hcomments : ∀ c ∈ comments, ∃ text, c = .str text) :
    ∀ item ∈ Step.itemsOf (commentLines comments), ∃ text, item = .text text := by
  induction comments with
  | nil => exact fun item h => nomatch h
  | cons c comments ih =>
    rw [List.forall_mem_cons] at hcomments
    obtain ⟨⟨text, rfl⟩, hrest⟩ := hcomments
    have hitem : (Action.line (.list [.str text])).item? = some (.text text) := by
      rw [Action.item?, Value.toFragment_singleton, Value.toFragment_str]
      rfl
    have hfirst : Step.itemsOf [.line [.str text]] = [.text text] :=
      List.filterMap_cons_some hitem
    rw [commentLines, List.map_cons, ← List.singleton_append, Step.itemsOf_append, hfirst,
      List.forall_mem_append, List.forall_mem_singleton]
    exact ⟨⟨text, rfl⟩, ih hrest⟩

theorem exists_of_mem_itemsOf_opening (hcomments : ∀ c ∈ r.comments, ∃ text, c = .str text)
    {item : Tree} (h : item ∈ Step.itemsOf r.opening) : ∃ text, item = .text text := by
  have hrequest : Step.itemsOf [.requestBlank] = [] := rfl
  rw [opening, Step.itemsOf_append, hrequest, List.append_nil] at h
  exact exists_of_mem_itemsOf_commentLines hcomments item h

theorem isWritable_of_mem_itemsOf_opening (names : Assignment)
    (hcomments : ∀ c ∈ r.comments, ∃ text, c = .str text) :
    ∀ item ∈ Step.itemsOf r.opening, ∀ leaf ∈ item.leaves, leaf.IsWritable names := by
  intro item hitem
  obtain ⟨text, rfl⟩ := exists_of_mem_itemsOf_opening hcomments hitem
  rw [Fragment.leaves, List.forall_mem_singleton]
  trivial

/-! ### The emission -/

/-- The session after its tree is finished. -/
theorem runAll_finish {s : Session} {tree : Tree} (h : s.builder.finish.2 = .ok tree) :
    Step.runAll names [.finish] s = .done { s with builder := s.builder.finish.1, tree } := by
  rcases hfinish : s.builder.finish with ⟨b, result⟩
  rw [hfinish] at h
  obtain rfl : result = .ok tree := h
  rw [Step.runAll, Step.run, Session.finish, hfinish]
  rfl

/-- A run without a fault is rendered as the tree that it finishes. -/
theorem renderWith_of_run {tree : Tree}
    (hopened : (Step.runAll names r.opening .fresh).fault = none)
    (hrun : (Step.runAll names (r.opening ++ (r.emitter.emit names w).2) .fresh).fault = none)
    (hfinish : (Step.runAll names (r.opening ++ (r.emitter.emit names w).2) .fresh
      ).state.builder.finish.2 = .ok tree) :
    (r.renderWith names w).2.2 =
      (tree.toSheet names r.config.indentation).map fun sheet => { tree, names, sheet } := by
  have hprogram : (Step.runAll names r.opening .fresh).andThen
        (Step.runAll names ((r.emitter.emit names w).2 ++ [.finish])) =
      (Step.runAll names (r.opening ++ (r.emitter.emit names w).2) .fresh).andThen
        (Step.runAll names [.finish]) := by
    rw [Step.runAll_append, Outcome.andThen_assoc]
    congr 1
    funext s
    exact Step.runAll_append names _ _ s
  rw [Outcome.andThen_of_fault hrun, runAll_finish hfinish] at hprogram
  simp only [renderWith, hopened, Option.isNone_none, if_true, hprogram, Outcome.fault_done,
    Outcome.state_done]
  cases tree.toSheet names r.config.indentation <;> rfl

/-- What an emitter writes under comments that are texts is written as it is printed, or refused at
the first margin that is too large, when its program is balanced, runs without a fault and has
writable items. -/
theorem renderWith_of_balanced (hcomments : ∀ c ∈ r.comments, ∃ text, c = .str text)
    (hrun : (Step.runAll names (r.emitter.emit names w).2
      (Step.runAll names r.opening .fresh).state).fault = none)
    (hbalanced : Step.areBalanced (r.emitter.emit names w).2 = true)
    (hwritable : ∀ item ∈ Step.itemsOf (r.emitter.emit names w).2, ∀ leaf ∈ item.leaves,
      leaf.IsWritable names) :
    let printed := (Printer.printAll names (r.opening ++ (r.emitter.emit names w).2) {}).printed
    (∃ tree, (Step.runAll names (r.opening ++ (r.emitter.emit names w).2) .fresh
      ).state.builder.finish.2 = .ok tree) ∧
    (∀ c ∈ printed, 0 ≤ c.level) ∧
    ((∃ fault, printed.findSome? (Stretch.refusal? r.config.indentation) = some fault ∧
        (r.renderWith names w).2.2 = .error fault) ∨
      printed.findSome? (Stretch.refusal? r.config.indentation) = none ∧
        ∃ result, (r.renderWith names w).2.2 = .ok result ∧ result.names = names ∧
          result.sheet.lines = printed.map (Stretch.line r.config.indentation)) := by
  have hopened := fault_opening names hcomments
  generalize hprogram : (r.emitter.emit names w).2 = program at *
  intro printed
  have hall : (Step.runAll names (r.opening ++ program) .fresh).fault = none := by
    rw [Step.runAll_append, Outcome.andThen_of_fault hopened]
    exact hrun
  have hallBalanced : Step.areBalanced (r.opening ++ program) = true := by
    rw [Step.areBalanced_append, areBalanced_opening, hbalanced]
    rfl
  have hallWritable : ∀ item ∈ Step.itemsOf (r.opening ++ program), ∀ leaf ∈ item.leaves,
      leaf.IsWritable names := by
    rw [Step.itemsOf_append, List.forall_mem_append]
    exact ⟨isWritable_of_mem_itemsOf_opening names hcomments, hwritable⟩
  obtain ⟨tree, hfinish, hlines⟩ :=
    Step.toSheet_of_balanced r.config.indentation hall hallBalanced hallWritable
  refine ⟨⟨tree, hfinish⟩, (Printer.printAll_balanced names hallBalanced).1, ?_⟩
  subst hprogram
  rw [renderWith_of_run hopened hall hfinish]
  cases hsheet : tree.toSheet names r.config.indentation with
  | error fault =>
    rw [hsheet] at hlines
    exact .inl ⟨fault, Fragment.eq_some_of_error hlines.symm, rfl⟩
  | ok sheet =>
    rw [hsheet] at hlines
    obtain ⟨hclear, hsame⟩ := Fragment.eq_none_and_eq_of_ok hlines.symm
    exact .inr ⟨hclear, { tree, names, sheet }, rfl, rfl, hsame.symm⟩

/-- A rendering that has its names gives what is written under them. -/
theorem call_render_of_assignNames {s : State μ} (h : (r.assignNames s).2 = .ok names) :
    (r.call s .render).2.2 =
      (r.renderWith names (r.assignNames s).1.world).2.2.map .rendered := by
  rcases hassign : r.assignNames s with ⟨t, result⟩
  rw [hassign] at h
  obtain rfl : result = .ok names := h
  simp only [call, hassign]

/-- The standard assigner gives what its registry assigns to the namespaces of the emitter. -/
theorem attempt_standard (hassigner : r.config.assigner = .standard) {order : List NamespaceId}
    (hsetUp : (r.emitter.setUp w).2 = .ok order) :
    (r.attempt w).2 = ((r.emitter.setUp w).1.registry.assign order).2 := by
  have hunique : Registry.unique (Registry.unique order) = Registry.unique order :=
    eraseDups_of_nodup (nodup_eraseDups order)
  rcases hgiven : r.emitter.setUp w with ⟨v, given⟩
  rw [hgiven] at hsetUp
  obtain rfl : given = .ok order := hsetUp
  simp only [attempt, hgiven, hassigner, Assigner.standard, Registry.assign, hunique]

end Renderer

/-- The leaf is a text, or a name of one of the namespaces. -/
def Registry.Knows (r : Registry) (order : List NamespaceId) : Tree → Prop
  | .text _ => True
  | .name n => ∃ id ∈ order, n ∈ (r.lookup id).members
  | _ => False

theorem Registry.Knows.isWritable {r : Registry} {order : List NamespaceId} {names : Assignment}
    (hnames : (r.assign order).2 = .ok names) {leaf : Tree} (h : r.Knows order leaf) :
    leaf.IsWritable names := by
  cases leaf with
  | text _ => trivial
  | name n =>
    obtain ⟨id, hid, hn⟩ := h
    exact Registry.exists_get?_of_assign hnames hid hn
  | newline _ | pending _ | seq _ | table _ | marked _ _ | foreign _ => exact h.elim

/-- A line is refused for a limit of the machine. -/
theorem Stretch.mem_of_refusal? {indentation : String} {c : Stretch} {fault : Fault}
    (h : c.refusal? indentation = some fault) :
    fault ∈ [.levelTooLarge, .marginTooLong, .marginTooLarge] := by
  unfold refusal? at h
  split_ifs at h
  exact mem_of_marginFault? h

namespace Renderer

/-- Whatever was called before, a rendering with the standard assigner comes to its end when the
namespaces can be assigned, the comments are texts, and the emitter's program is balanced, runs
without a fault and writes nothing but texts and names of the namespaces.  The tree is finished, no
level is below zero and every name has a text.  The lines are those that are printed, unless the
margin of one of them is too large; then the first such line is the only reason to fail. -/
theorem call_render_of_balanced {μ γ : Type} {r : Renderer μ γ} {w : World μ} {names : Assignment}
    {order : List NamespaceId} {program : List Step} (before : List Call)
    (hassigner : r.config.assigner = .standard) (hsetUp : (r.emitter.setUp w).2 = .ok order)
    (hnames : ((r.emitter.setUp w).1.registry.assign order).2 = .ok names)
    (hcomments : ∀ c ∈ r.comments, ∃ text, c = .str text)
    (hprogram : (r.emitter.emit names
      (r.assignNames (r.after (.start w) before)).1.world).2 = program)
    (hrun : (Step.runAll names program (Step.runAll names r.opening .fresh).state).fault = none)
    (hbalanced : Step.areBalanced program = true)
    (hcontent : ∀ item ∈ Step.itemsOf program, ∀ leaf ∈ item.leaves,
      (r.emitter.setUp w).1.registry.Knows order leaf) :
    let printed := (Printer.printAll names (r.opening ++ program) {}).printed
    let reply := (r.call (r.after (.start w) before) .render).2.2
    (∃ tree, (Step.runAll names (r.opening ++ program) .fresh).state.builder.finish.2 = .ok tree) ∧
    (∀ c ∈ printed, 0 ≤ c.level) ∧
    (∀ item ∈ Step.itemsOf program, ∀ leaf ∈ item.leaves, leaf.IsWritable names) ∧
    ((∃ fault, printed.findSome? (Stretch.refusal? r.config.indentation) = some fault ∧
        fault ∈ [.levelTooLarge, .marginTooLong, .marginTooLarge] ∧ reply = .error fault) ∨
      printed.findSome? (Stretch.refusal? r.config.indentation) = none ∧
        ∃ result, reply = .ok (.rendered result) ∧ result.names = names ∧
          result.sheet.lines = printed.map (Stretch.line r.config.indentation)) := by
  intro printed reply
  have hwritable : ∀ item ∈ Step.itemsOf program, ∀ leaf ∈ item.leaves, leaf.IsWritable names :=
    fun item hitem leaf hleaf => (hcontent item hitem leaf hleaf).isWritable hnames
  have hassign : (r.assignNames (.start w)).2 = .ok names := by
    rw [r.assignNames_of_none rfl]
    exact (attempt_standard hassigner hsetUp).trans hnames
  have hreply := call_render_of_assignNames (assignNames_after_eq_ok hassign before)
  subst hprogram
  obtain ⟨hfinish, hlevels, hrendered⟩ :=
    renderWith_of_balanced hcomments hrun hbalanced hwritable
  refine ⟨hfinish, hlevels, hwritable, hrendered.imp ?_ ?_⟩
  · rintro ⟨fault, hfound, hrender⟩
    obtain ⟨c, -, hc⟩ := List.exists_of_findSome?_eq_some hfound
    exact ⟨fault, hfound, Stretch.mem_of_refusal? hc, hreply.trans (by rw [hrender]; rfl)⟩
  · rintro ⟨hnone, result, hrender, hresult, hlines⟩
    exact ⟨hnone, result, hreply.trans (by rw [hrender]; rfl), hresult, hlines⟩

/-- A second rendering with names of two namespaces, a block in a region and a table. -/
theorem call_render_of_balanced_types :
    let w : World Unit := ⟨⟨[{ label := "keywords", members := [⟨0, "class", true⟩] },
      { label := "types", forbidden := [0], members := [⟨1, "class", false⟩] }]⟩, ()⟩
    let r : Renderer Unit Unit :=
      { emitter := .fixed (.ok [0, 1]) (fun _ =>
          [.line [.name ⟨0, "class", true⟩, .str " ", .name ⟨1, "class", false⟩],
            .indent [.region .plain [.block "a\n    b\n\nc"],
              .table (.list [.list [.str "d", .str "e"]])]]) none
        typeGraph := ()
        comments := [.str "# types"]
        config := { indentation := "\t" } }
    ∃ result, (r.call (r.after (.start w) [.names, .render]) .render).2.2 =
        .ok (.rendered result) ∧
      result.sheet.lines = ["# types", "", "class class2", "\ta", "\t\tb", "", "\tc", "\td e"] := by
  intro w r
  let names : Assignment := ⟨[(⟨1, "class", false⟩, "class2"), (⟨0, "class", true⟩, "class")]⟩
  let program := (r.emitter.emit names w).2
  have hnames : ((r.emitter.setUp w).1.registry.assign [0, 1]).2 = .ok names := by cbv
  have hrun : (Step.runAll names program (Step.runAll names r.opening .fresh).state).fault = none :=
    by cbv
  have hbalanced : Step.areBalanced program = true := by cbv
  have hitems : Step.itemsOf program = [.seq [.name ⟨0, "class", true⟩, .text " ",
      .name ⟨1, "class", false⟩], .text "a", .text "b", .text "c",
      .table [[.text "d", .text "e"]]] := by cbv
  have hcontent : ∀ item ∈ Step.itemsOf program, ∀ leaf ∈ item.leaves,
      (r.emitter.setUp w).1.registry.Knows [0, 1] leaf := by
    rw [hitems]
    simp [Fragment.leaves, Fragment.leavesOf, Fragment.leavesOfRows, Registry.Knows, r, w,
      Emitter.fixed, Registry.lookup]
  have hprinted : (Printer.printAll names (r.opening ++ program) {}).printed = [⟨0, "# types"⟩,
      ⟨0, ""⟩, ⟨0, "class class2"⟩, ⟨1, "a"⟩, ⟨2, "b"⟩, ⟨2, ""⟩, ⟨1, "c"⟩, ⟨1, "d e"⟩] := by cbv
  have hprogram : (r.emitter.emit names
      (r.assignNames (r.after (.start w) [.names, .render])).1.world).2 = program := rfl
  obtain ⟨-, -, -, ⟨fault, hfound, -⟩ | ⟨-, result, hreply, -, hlines⟩⟩ :=
    call_render_of_balanced [.names, .render] rfl rfl hnames (by simp [r]) hprogram hrun
      hbalanced hcontent
  · have hclear : (Printer.printAll names (r.opening ++ program) {}).printed.findSome?
        (Stretch.refusal? "\t") = none := by
      rw [hprinted]
      decide
    cases hclear.symm.trans hfound
  · rw [hprinted] at hlines
    exact ⟨result, hreply, hlines.trans (by decide)⟩

end Renderer

/-! ### A margin that is too large -/

/-- A text with a second line at this many levels. -/
def deepBlock (depth : Nat) : String :=
  String.ofList ('a' :: '\n' :: (List.replicate depth '\t' ++ ['b']))

theorem cutLines_deepBlock (depth : Nat) :
    Text.cutLines (List.replicate depth '\t' ++ ['b']) =
      (List.replicate depth '\t' ++ ['b'], []) := by
  induction depth with
  | zero => rfl
  | succ depth ih => rw [List.replicate_succ, List.cons_append, Text.cutLines, ih] <;> simp

theorem lines_deepBlock (depth : Nat) :
    Text.lines (deepBlock depth) = ("a", [String.ofList (List.replicate depth '\t' ++ ['b'])]) := by
  have hcut : Text.cutLines ('a' :: '\n' :: (List.replicate depth '\t' ++ ['b'])) =
      (['a'], [List.replicate depth '\t' ++ ['b']]) := by
    rw [Text.cutLines, Text.cutLines, cutLines_deepBlock] <;> simp [Text.breakBefore]
  rw [Text.lines, deepBlock, String.toList_ofList, hcut]
  rfl

theorem lineIndentation_deepBlock (depth : Nat) :
    Text.lineIndentation (String.ofList (List.replicate depth '\t' ++ ['b'])) =
      (depth * Text.tabWidth, some "b") := by
  have hlevels : ∀ level ∈ List.replicate depth "\t",
      level = Text.spaces Text.tabWidth ∨ level = "\t" :=
    fun _ h => .inr (List.eq_of_mem_replicate h)
  have hjoin : String.ofList (List.replicate depth '\t' ++ ['b']) =
      String.join (List.replicate depth "\t") ++ "b" := by
    rw [← String.toList_inj, String.toList_ofList, String.toList_append, String.toList_join,
      List.flatMap_replicate]
    exact congrArg (· ++ ['b']) List.flatten_replicate_singleton.symm
  have hcolumn := Text.foldl_advance_join hlevels []
  rw [List.append_nil, List.foldl_nil, Nat.zero_add, List.length_replicate] at hcolumn
  rw [hjoin, Text.lineIndentation_append (Text.isIndent_of_mem_join hlevels) rfl rfl, hcolumn,
    Nat.mul_comm]

theorem moves_deepBlock {depth : Nat} (h : 0 < depth) :
    (Step.block (deepBlock depth)).moves = [.act (.line (.str "a")), .act (.shift depth),
      .act (.line (.str "b")), .act (.shift (-depth))] := by
  have hmod : depth * Text.tabWidth % Text.tabWidth = 0 := Nat.mul_mod_left _ _
  have hdiv : depth * Text.tabWidth / Text.tabWidth = depth := Nat.mul_div_cancel _ (by decide)
  simp only [Step.moves, lines_deepBlock, Step.blockMoves, lineIndentation_deepBlock, hmod, hdiv]
  simp [Nat.ne_of_gt h]

theorem fault_deepBlock {depth : Nat} (h : 0 < depth) (names : Assignment) :
    (Step.runAll names [.block (deepBlock depth)] .fresh).fault = none := by
  rw [Step.runAll_eq_runAll_moves, Step.movesOf, moves_deepBlock h]
  rfl

theorem itemsOf_deepBlock {depth : Nat} (h : 0 < depth) :
    Step.itemsOf [.block (deepBlock depth)] = [.text "a", .text "b"] := by
  rw [Step.itemsOf, Step.actionsOf, Step.movesOf, moves_deepBlock h]
  rfl

theorem printed_deepBlock (depth : Nat) (names : Assignment) :
    (Printer.printAll names [.requestBlank, .block (deepBlock depth)] {}).printed =
      [⟨0, "a"⟩, ⟨depth, "b"⟩] := by
  have hdiv : depth * Text.tabWidth / Text.tabWidth = depth := Nat.mul_div_cancel _ (by decide)
  simp only [Printer.printAll, Printer.print, lines_deepBlock, Printer.putLines,
    lineIndentation_deepBlock, hdiv]
  simp [Printer.put, Printer.requestBlank]

/-- The second line is refused when its margin cannot be built, and the first never is. -/
theorem findSome?_deepBlock {depth : Nat} {indentation : String} {fault : Fault}
    (h : Stretch.marginFault? indentation ⟨depth, "b"⟩ = some fault) :
    ([⟨0, "a"⟩, ⟨depth, "b"⟩] : List Stretch).findSome? (Stretch.refusal? indentation) =
      some fault := by
  have hfirst : Stretch.refusal? indentation ⟨0, "a"⟩ = none :=
    Stretch.refusal?_of_level_zero indentation "a"
  have hsecond : Stretch.refusal? indentation ⟨depth, "b"⟩ = some fault := by
    rw [Stretch.refusal?, if_neg (by simp), h]
  rw [List.findSome?_cons, hfirst, List.findSome?_cons, hsecond]

namespace Renderer

/-- The renderer of that text alone, with this indentation. -/
def ofDeepBlock (depth : Nat) (indentation : String) : Renderer Unit Unit where
  emitter := .fixed (.ok []) (fun _ => [.block (deepBlock depth)]) none
  typeGraph := ()
  config := { indentation }

theorem call_render_deepBlock {depth : Nat} {indentation : String} {fault : Fault}
    (hdepth : 0 < depth) (h : Stretch.marginFault? indentation ⟨depth, "b"⟩ = some fault) :
    let r := ofDeepBlock depth indentation
    (r.call (.start ⟨.empty, ()⟩) .render).2.2 = .error fault := by
  intro r
  have hprogram : (r.emitter.emit .empty ⟨.empty, ()⟩).2 = [.block (deepBlock depth)] := rfl
  have hrun : (Step.runAll .empty (r.emitter.emit .empty ⟨.empty, ()⟩).2
      (Step.runAll .empty r.opening .fresh).state).fault = none := fault_deepBlock hdepth .empty
  have hwritable : ∀ item ∈ Step.itemsOf (r.emitter.emit .empty ⟨.empty, ()⟩).2,
      ∀ leaf ∈ item.leaves, leaf.IsWritable .empty := by
    rw [hprogram, itemsOf_deepBlock hdepth]
    simp [Fragment.leaves, Fragment.IsWritable]
  have hfound := findSome?_deepBlock h
  rw [← printed_deepBlock depth .empty] at hfound
  have hassign : (r.assignNames (.start ⟨.empty, ()⟩)).2 = .ok .empty := rfl
  rw [call_render_of_assignNames hassign]
  obtain ⟨-, -, ⟨other, hother, hrender⟩ | ⟨hnone, -⟩⟩ :=
    renderWith_of_balanced (r := r) (by simp [r, ofDeepBlock]) hrun rfl hwritable
  · obtain rfl := Option.some.inj (hother.symm.trans hfound)
    exact congrArg (Except.map Reply.rendered) hrender
  · cases hnone.symm.trans hfound

/-- A rendering fails although its program is balanced and holds nothing but texts: a text can bring
a level, and the indentation a length, with which a margin cannot be built. -/
theorem call_render_margin_refused :
    let w : World Unit := ⟨.empty, ()⟩
    let program (depth : Nat) : List Step := [.block (deepBlock depth)]
    let refused (depth : Nat) (indentation : String) (fault : Fault) : Prop :=
      let r := ofDeepBlock depth indentation
      r.config.assigner = .standard ∧ (r.emitter.setUp w).2 = .ok [] ∧
      ((r.emitter.setUp w).1.registry.assign []).2 = .ok .empty ∧
      (r.emitter.emit .empty w).2 = program depth ∧
      (Step.runAll .empty (program depth) (Step.runAll .empty r.opening .fresh).state).fault =
        none ∧
      Step.areBalanced (program depth) = true ∧
      Step.itemsOf (program depth) = [.text "a", .text "b"] ∧
      (r.call (.start w) .render).2.2 = .error fault
    refused (2 ^ 30) (String.ofList (List.replicate (2 ^ 33) ' ')) .marginTooLong ∧
    refused (2 ^ 30) (String.ofList (List.replicate (2 ^ 32) '→')) .marginTooLarge ∧
    refused (2 ^ 63) "\t" .levelTooLarge := by
  intro w program refused
  have hrefused {depth : Nat} {indentation : String} {fault : Fault} (hdepth : 0 < depth)
      (h : Stretch.marginFault? indentation ⟨depth, "b"⟩ = some fault) :
      refused depth indentation fault :=
    ⟨rfl, rfl, rfl, rfl, fault_deepBlock hdepth .empty, rfl, itemsOf_deepBlock hdepth,
      call_render_deepBlock hdepth h⟩
  refine ⟨hrefused (by decide) ?_, hrefused (by decide) ?_, hrefused (by decide) ?_⟩
  · refine Stretch.marginFault?_of_length (by decide) ?_
    rw [String.length_ofList, List.length_replicate]
    decide
  · have hlength : (String.ofList (List.replicate (2 ^ 32) '→')).length = 2 ^ 32 := by
      rw [String.length_ofList, List.length_replicate]
    have hbytes : Text.charBytes (String.ofList (List.replicate (2 ^ 32) '→')) = 2 := by
      simp only [Text.charBytes, String.toList_ofList, List.all_replicate]
      decide
    refine Stretch.marginFault?_of_bytes (by decide) ?_ ?_
    · rw [hlength]
      decide
    · rw [Text.bytesFor, hbytes, hlength]
      exact Nat.lt_add_left _ (by decide)
  · exact Stretch.marginFault?_of_level (by decide)

end Renderer

end SourceLayout
