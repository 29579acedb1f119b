import SourceLayout.Proofs.Rendering.Comments
import SourceLayout.Proofs.Rendering.Independence

/-! A name is looked up by a template as by a rendering.  The template asks a filter that keeps the
assignment of the first template, the rendering the assignment that it is made under; as soon as
there is an assignment, both are it. -/

namespace SourceLayout

/-! ### A name in a template -/

namespace Template

/-- The template that writes the text of the name that its only variable is bound to. -/
def nameTemplate : String := "{{ v | name }}"

/-- What the template consists of. -/
def nameNodes : List Node := [.output (.filter (.variable "v") "name" [])]

theorem ofTemplate_nameTemplate : Node.ofTemplate nameTemplate = .ok nameNodes := by
  have hpieces : pieces nameTemplate =
      [.tag .output [.word "v", .symbol '|', .word "name"]] := by decide +kernel
  rw [Node.ofTemplate, hpieces]
  rfl

variable {s : Setting} {x : Name}

/-- On the level of the whole template, the variable stands for the name. -/
theorem read_variable (hvalue : s.values.lookup "v" = some (.name x)) :
    Scope.read [Level.of s [] (Node.selfGiven nameNodes) nameNodes] "v" = .name x := by
  have hgiven : Node.selfGiven nameNodes = [] := rfl
  have hreads : (Node.readsOfAll nameNodes).eraseDups = ["v"] := by decide
  rw [hgiven, Level.of, hreads]
  simp [Scope.read, Scope.knows, Setting.resolve?, hvalue, Object.ofValue, Binding.taken]

theorem nameText_name (s : Setting) (x : Name) (m : Memory) :
    (nameText s (.name x)).run m =
      match s.names.get? x with
      | some text => .ok (.textOf x text, m)
      | none => .error (.unassigned x) := by
  cases h : s.names.get? x <;> simp [nameText, Object.unhashable?, h] <;> rfl

/-- Where the variable stands for the name, the text of the name is written. -/
theorem renderAll_nameNodes {scope : Scope} (hread : scope.read "v" = .name x) (m : Memory) :
    (Node.renderAll s scope nameNodes).run m =
      match s.names.get? x with
      | some text => .ok (Text.codes text, m)
      | none => .error (.unassigned x) := by
  have hvalue : (Expr.eval s scope (.filter (.variable "v") "name" [])).run m =
      match s.names.get? x with
      | some text => .ok (.textOf x text, m)
      | none => .error (.unassigned x) := by
    rw [← nameText_name]
    simp [Expr.eval, Expr.evalAll, filtered, Filter.ofName?, Filter.apply, hread, Object.use]
    rfl
  rw [nameNodes, Node.renderAll, Node.renderAll, Node.render]
  simp only [StateT.run_bind, hvalue]
  cases s.names.get? x with
  | none => rfl
  | some text =>
    simp [Object.textOf, Object.use, Object.write]
    rfl

/-- The template is the text of the name to which the variable is bound, as it is. -/
theorem render_nameTemplate (hvalue : s.values.lookup "v" = some (.name x))
    (hself : ∀ entry ∈ s.values, entry.1 ≠ selfName) :
    render s nameTemplate =
      match s.names.get? x with
      | some text => .ok text
      | none => .error (.unassigned x) := by
  have hscreen : Node.screenAll false nameNodes = .ok () := rfl
  have hlimits : Node.checkLimits nameNodes = .ok () := checkLimits_eq_ok (by decide +kernel)
  have hreserved : s.values.any (·.1 = selfName) = false := by simpa using hself
  rw [render_of_parts s ofTemplate_nameTemplate hscreen hlimits,
    if_neg (ne_true_of_eq_false hreserved), renderAll_nameNodes (read_variable hvalue)]
  cases s.names.get? x with
  | none => rfl
  | some text =>
    show Except.ok (String.ofList (Text.written (Text.codes text))) = _
    rw [Text.written_codes, String.ofList_toList]

end Template

/-! ### A name on a line -/

theorem Stretch.fault?_of_level_zero (indentation text content : String) :
    fault? indentation ⟨0, text⟩ (.text content) = none := by
  rw [fault?, marginFault?_of_level_zero, ite_self]

namespace Emission

variable {names : Assignment} {indentation : String} {es : List Emission}

/-- The lines that emissions are written to, or why they cannot be written. -/
def written (names : Assignment) (indentation : String) (es : List Emission) :
    Except Fault (List String) :=
  match Stretch.firstFault? indentation {} (strokes names es) with
  | some fault => .error fault
  | none => .ok (Stretch.linesOf indentation (Stretch.cuts {} (strokes names es)))

/-- A line that ends at the level zero comes before the others. -/
theorem written_of_strokes {e : Emission} {text : String}
    (hstrokes : strokes names (e :: es) = .text text :: .lineBreak 0 :: strokes names es) :
    written names indentation (e :: es) = (written names indentation es).map (text :: ·) := by
  have hopen : Stretch.fault? indentation {} (.text text) = none :=
    Stretch.fault?_of_level_zero indentation "" text
  have hbreak : (({} : Stretch).add (.text text)).fault? indentation (.lineBreak 0) = none := rfl
  have hline : (({} : Stretch).add (.text text)).line indentation = text := by
    rw [Stretch.add, String.empty_append, Stretch.line_of_level_zero]
  have hnext : (({} : Stretch).add (.text text)).add (.lineBreak 0) = {} := rfl
  rw [written, hstrokes, Stretch.firstFault?, hopen, Option.none_or, Stretch.firstFault?, hbreak,
    Option.none_or, hnext, Stretch.cuts, Stretch.cuts, hnext,
    Stretch.linesOf_cons (Stretch.cuts_ne_nil _ _), hline, written]
  cases Stretch.firstFault? indentation {} (strokes names es) <;> rfl

/-- Lines of texts come before the others. -/
theorem written_ofText (texts : List String) (hlead : lead es = 0) :
    written names indentation (texts.map ofText ++ es) =
      (written names indentation es).map (texts ++ ·) := by
  induction texts with
  | nil =>
    rw [List.map_nil, List.nil_append]
    cases written names indentation es <;> rfl
  | cons text texts ih =>
    have hbreak : lead (texts.map ofText ++ es) = 0 := by
      cases texts with
      | nil => exact hlead
      | cons other texts => rfl
    have hstrokes : strokes names (ofText text :: (texts.map ofText ++ es)) =
        .text text :: .lineBreak 0 :: strokes names (texts.map ofText ++ es) := by
      rw [ofText, strokes, hbreak]
      rfl
    rw [List.map_cons, List.cons_append, written_of_strokes hstrokes, ih]
    cases written names indentation es <;> rfl

/-- An empty line comes before the others. -/
theorem written_emptyLine (hlead : lead es = 0) :
    written names indentation (.emptyLine :: es) =
      (written names indentation es).map ("" :: ·) := by
  have hstrokes : strokes names (.emptyLine :: es) = .lineBreak 0 :: strokes names es := by
    rw [strokes, hlead]
  have hbreak : Stretch.fault? indentation {} (.lineBreak 0) = none := rfl
  have hnext : ({} : Stretch).add (.lineBreak 0) = {} := rfl
  have hline : ({} : Stretch).line indentation = "" := rfl
  rw [written, hstrokes, Stretch.firstFault?, hbreak, Option.none_or, hnext, Stretch.cuts, hnext,
    Stretch.linesOf_cons (Stretch.cuts_ne_nil _ _), hline, written]
  cases Stretch.firstFault? indentation {} (strokes names es) <;> rfl

/-- The line of a name is the text of the name, and is no line if there is none. -/
theorem written_name (names : Assignment) (indentation : String) (x : Name) :
    written names indentation [.line (.name x)] =
      match names.get? x with
      | some text => .ok [text]
      | none => .error (.unassigned x) := by
  cases hname : names.get? x with
  | none =>
    have hstrokes : strokes names [.line (.name x)] =
        .halt (.unassigned x) :: [.lineBreak 0] := by
      simp [strokes, Fragment.strokes, hname, lead]
    rw [written, hstrokes]
    rfl
  | some text =>
    have hstrokes : strokes names [.line (.name x)] =
        .text text :: .lineBreak 0 :: strokes names [] := by
      simp [strokes, Fragment.strokes, hname, lead]
    rw [written_of_strokes hstrokes]
    rfl

end Emission

namespace Step

open Renderer (commentLines)

variable {x : Name} {names : Assignment}

/-- A program that runs without a fault is written as what it emits. -/
theorem linesOf_eq_written {steps : List Step} (hrun : (runAll names steps .fresh).fault = none)
    (hstay : .divert ∉ actionsOf steps) (hpendings : ∀ item ∈ itemsOf steps, item.pendings = [])
    (mapping : Assignment) (indentation : String) :
    (runAll names steps .fresh).state.builder.linesOf mapping indentation =
      Emission.written mapping indentation (emissionsOf steps) := by
  rw [linesOf_eq_of_run hrun hstay hpendings, Fragment.lines_toSheet, strokes_children]
  rfl

/-- A name on a line, after comments. -/
def nameUnder (texts : List String) (x : Name) : List Step :=
  commentLines (texts.map .str) ++ [.requestBlank, .line [.name x]]

theorem toFragment_name (x : Name) : (Value.list [.name x]).toFragment = .ok (.name x) := by
  rw [Value.toFragment_singleton, Value.toFragment_name]

theorem actionsOf_line_name (x : Name) :
    actionsOf [.line [.name x]] = [.line (.list [.name x])] := rfl

theorem itemsOf_line_name (x : Name) : itemsOf [.line [.name x]] = [.name x] := by
  have hitem : (Action.line (.list [.name x])).item? = some (.name x) := by
    rw [Action.item?, toFragment_name]
    rfl
  exact List.filterMap_cons_some hitem

theorem emissionsOf_line_name (x : Name) : emissionsOf [.line [.name x]] = [.line (.name x)] := by
  show Move.emissions {} [.act (.line (.list [.name x]))] = _
  rw [Move.emissions_act_cons, Action.emissions, toFragment_name]
  rfl

theorem fault_line_name (names : Assignment) (x : Name) :
    (runAll names [.line [.name x]] .fresh).fault = none := by
  rw [runAll_eq_runAll_moves]
  show (Move.runAll names [.act (.line (.list [.name x]))] .fresh).fault = none
  rw [Move.runAll, Outcome.fault_andThen_eq_none]
  exact ⟨(Builder.Underway.lineOf (b := .fresh) rfl (toFragment_name x)).1, rfl⟩

/-- A name is emitted under comments after an empty line, if there are any comments. -/
theorem emissionsOf_nameUnder (texts : List String) (x : Name) :
    emissionsOf (nameUnder texts x) =
      texts.map Emission.ofText ++ ((if texts = [] then [] else [.emptyLine]) ++
        [.line (.name x)]) := by
  by_cases htexts : texts = []
  · subst htexts
    exact emissionsOf_line_name x
  · have houtput : (runAll .empty [.line [.name x]] .fresh).state.builder.isEmpty = false := rfl
    rw [nameUnder, emissionsOf_under_comments htexts (fault_line_name .empty x)
      (by simp [actionsOf_line_name, Action.isBuilding])
      (by simp [actionsOf_line_name, Action.isWriting]), houtput, emissionsOf_line_name,
      if_neg htexts]
    rfl

theorem pendings_line_name (x : Name) :
    ∀ item ∈ itemsOf [.line [.name x]], item.pendings = [] := by
  rw [itemsOf_line_name, List.forall_mem_singleton]
  exact Fragment.pendings_name x

theorem fault_nameUnder (names : Assignment) (texts : List String) (x : Name) :
    (runAll names (nameUnder texts x) .fresh).fault = none :=
  fault_under_comments (fault_line_name names x) (by simp [actionsOf_line_name, Action.isBuilding])
    texts

/-- A name under comments is written as its text, and not at all if it has none. -/
theorem linesOf_nameUnder (names : Assignment) (indentation : String) (texts : List String)
    (x : Name) :
    (runAll names (nameUnder texts x) .fresh).state.builder.linesOf names indentation =
      match names.get? x with
      | some text => .ok (texts ++ ((if texts = [] then [] else [""]) ++ [text]))
      | none => .error (.unassigned x) := by
  have hstay : .divert ∉ actionsOf (nameUnder texts x) := by
    rw [nameUnder, actionsOf_under_comments, actionsOf_line_name]
    simp
  have hpendings : ∀ item ∈ itemsOf (nameUnder texts x), item.pendings = [] := by
    rw [nameUnder, itemsOf_under_comments, List.forall_mem_append]
    exact ⟨by simp, pendings_line_name x⟩
  have hlead : Emission.lead ((if texts = [] then [] else [.emptyLine]) ++ [.line (.name x)]) =
      0 := by
    split <;> rfl
  rw [linesOf_eq_written (fault_nameUnder names texts x) hstay hpendings, emissionsOf_nameUnder,
    Emission.written_ofText texts hlead]
  by_cases htexts : texts = []
  · rw [if_pos htexts, if_pos htexts, List.nil_append, Emission.written_name]
    cases names.get? x <;> rfl
  · rw [if_neg htexts, if_neg htexts, List.singleton_append, Emission.written_emptyLine rfl,
      Emission.written_name]
    cases names.get? x <;> rfl

end Step

/-! ### The two look-ups -/

namespace Emitter

variable {μ : Type}

/-- The emitter has one line with the name, whatever the assignment, and gives its templates a
variable for the name. -/
structure Offers (e : Emitter μ) (x : Name) : Prop where
  emits : ∀ names w, (e.emit names w).2 = [.line [.name x]]
  binds : ∃ give, e.variables? = some give ∧ ∀ names w, ∃ values,
    (give names w).2 = .ok values ∧ values.lookup "v" = some (.name x) ∧
      ∀ entry ∈ values, entry.1 ≠ Template.selfName

end Emitter

namespace Renderer

variable {μ γ : Type} {r : Renderer μ γ} {s : State μ} {names : Assignment} {x : Name}

/-- The assignment that templates look names up in is the one that there is. -/
def State.Coherent (s : State μ) : Prop := ∀ a, s.environment? = some a → s.names? = some a

namespace State.Coherent

theorem start (w : World μ) : (State.start w).Coherent := fun _ h => nomatch h

theorem assignNames (h : s.Coherent) (r : Renderer μ γ) : (r.assignNames s).1.Coherent := by
  intro a ha
  cases hnames : s.names? with
  | some b =>
    rw [r.assignNames_of_some hnames] at ha ⊢
    exact h a ha
  | none =>
    have hnone : s.environment? = none := by
      cases henvironment : s.environment? with
      | none => rfl
      | some b =>
        have hb := h b henvironment
        rw [hnames] at hb
        cases hb
    rw [r.assignNames_of_none hnames] at ha
    rw [hnone] at ha
    cases ha

/-- With names assigned, a coherent state looks them up in their assignment. -/
theorem environment (h : s.Coherent) (hnames : s.names? = some names) :
    s.environment?.getD names = names := by
  cases henvironment : s.environment? with
  | none => rfl
  | some a => exact Option.some.inj ((h a henvironment).symm.trans hnames)

theorem call (h : s.Coherent) (r : Renderer μ γ) (c : Call) : (r.call s c).1.Coherent := by
  cases hc : c.needsNames with
  | false => rwa [call_of_not_needsNames r s hc]
  | true =>
    have hnext := h.assignNames r
    rcases hassign : r.assignNames s with ⟨t, fault | names⟩
    · rw [call_of_assignNames_eq_error hc hassign]
      rwa [hassign] at hnext
    · rw [hassign] at hnext
      have hnames : t.names? = some names := names?_of_assignNames hassign
      cases c with
      | names | typeGraph => cases hc
      | render =>
        simp only [Renderer.call, hassign]
        exact hnext
      | template text =>
        simp only [Renderer.call, hassign, hnext.environment hnames]
        intro a ha
        exact hnames.trans ha

theorem after (h : s.Coherent) (r : Renderer μ γ) (calls : List Call) :
    (r.after s calls).Coherent := by
  induction calls generalizing s with
  | nil => exact h
  | cons c calls ih => exact ih (h.call r c)

end State.Coherent

/-- A template that looks up the name gives its text. -/
theorem call_nameTemplate (hcoherent : s.Coherent) (hoffers : r.emitter.Offers x)
    (hnames : (r.assignNames s).2 = .ok names) :
    (r.call s (.template Template.nameTemplate)).2.2 =
      match names.get? x with
      | some text => .ok (.text text)
      | none => .error (.unassigned x) := by
  obtain ⟨give, hgive, hbinds⟩ := hoffers.binds
  have hassign : r.assignNames s = ((r.assignNames s).1, .ok names) := Prod.ext rfl hnames
  have henvironment := (hcoherent.assignNames r).environment (names?_of_assignNames hassign)
  obtain ⟨values, hvalues, hvalue, hself⟩ := hbinds names (r.assignNames s).1.world
  have hfill : (r.fill names names Template.nameTemplate (r.assignNames s).1.world).2 =
      match names.get? x with
      | some text => .ok text
      | none => .error (.unassigned x) := by
    let setting : Template.Setting :=
      { registry := (give names (r.assignNames s).1.world).1.registry, names, values }
    have hrendered := Template.render_nameTemplate (s := setting) hvalue hself
    simp only [fill, context, hgive, hvalues, bind, Except.bind]
    exact hrendered
  rw [call_template_of_assignNames hassign, henvironment, hfill]
  cases names.get? x <;> rfl

/-- A rendering of the name gives its text on a line. -/
theorem call_render_name {texts : List String} (hcomments : r.comments = texts.map .str)
    (hoffers : r.emitter.Offers x) (hnames : (r.assignNames s).2 = .ok names) :
    match names.get? x with
    | some text => ∃ result, (r.call s .render).2.2 = .ok (.rendered result) ∧
        result.names = names ∧
        result.sheet.lines = texts ++ ((if texts = [] then [] else [""]) ++ [text])
    | none => (r.call s .render).2.2 = .error (.unassigned x) := by
  have hopened : (Step.runAll names r.opening .fresh).fault = none := by
    refine fault_opening names fun c hc => ?_
    rw [hcomments] at hc
    obtain ⟨text, -, rfl⟩ := List.mem_map.mp hc
    exact ⟨text, rfl⟩
  have hlines := lines_renderWith names (r.assignNames s).1.world hopened
  have hprogram : r.opening ++ (r.emitter.emit names (r.assignNames s).1.world).2 =
      Step.nameUnder texts x := by
    rw [hoffers.emits, opening, hcomments, List.append_assoc]
    rfl
  rw [hprogram] at hlines
  simp only [Step.fault_nameUnder, Step.linesOf_nameUnder] at hlines
  have hcall := call_render_of_assignNames hnames
  cases hresult : (r.renderWith names (r.assignNames s).1.world).2.2 with
  | error fault =>
    rw [hresult] at hcall hlines
    cases hx : names.get? x with
    | none =>
      rw [hx] at hlines
      cases hlines
      exact hcall
    | some text =>
      rw [hx] at hlines
      cases hlines
  | ok result =>
    rw [hresult] at hcall hlines
    cases hx : names.get? x with
    | none =>
      rw [hx] at hlines
      cases hlines
    | some text =>
      rw [hx] at hlines
      exact ⟨result, hcall, names_of_renderWith hresult, Except.ok.inj hlines⟩

/-- With the standard assigner, or one that always gives the same, there are no names for a breach of
contract only, or because the emitter gives no namespaces. -/
theorem isBreach_of_assignNames (hassigner : r.config.assigner.Steady) {fault : Fault}
    (h : (r.assignNames s).2 = .error fault) :
    fault.isBreach = true ∨ (r.emitter.setUp s.world).2 = .error fault := by
  cases hnames : s.names? with
  | some a =>
    rw [r.assignNames_of_some hnames] at h
    cases h
  | none =>
    rw [r.assignNames_of_none hnames] at h
    rcases hgiven : r.emitter.setUp s.world with ⟨v, other | given⟩
    · simp only [attempt, hgiven] at h
      obtain rfl := Except.error.inj h
      exact .inr rfl
    · simp only [attempt, hgiven] at h
      exact .inl (hassigner.isBreach h)

/-- After any calls, a template and a rendering that look up one name give the same text for it, or
the same fault if the name has none; so do later ones, in whichever order they come.  Where the
names cannot be assigned, both fail for the reason that the assignment gives, or that the emitter
gives for having no namespaces. -/
theorem call_name_lookups (r : Renderer μ γ) (hassigner : r.config.assigner.Steady) {x : Name}
    (hoffers : r.emitter.Offers x) {texts : List String} (hcomments : r.comments = texts.map .str)
    (w : World μ) (before later : List Call) :
    let s := r.after (.start w) before
    let t := r.after s later
    match (r.assignNames s).2 with
    | .error fault =>
      (fault.isBreach = true ∨ (r.emitter.setUp s.world).2 = .error fault) ∧ ∀ u, u = s ∨ r.Steady ∧ u = t →
        (r.call u (.template Template.nameTemplate)).2.2 = .error fault ∧
        (r.call u .render).2.2 = .error fault
    | .ok names =>
      match names.get? x with
      | some text =>
        (r.call t (.template Template.nameTemplate)).2.2 = .ok (.text text) ∧
        ∃ result, (r.call t .render).2.2 = .ok (.rendered result) ∧ result.names = names ∧
          result.sheet.lines = texts ++ ((if texts = [] then [] else [""]) ++ [text])
      | none =>
        (r.call t (.template Template.nameTemplate)).2.2 = .error (.unassigned x) ∧
        (r.call t .render).2.2 = .error (.unassigned x) ∧
        (Fault.unassigned x).message = "No name assigned for " ++ x.describe := by
  intro s t
  cases hassign : (r.assignNames s).2 with
  | error fault =>
    refine ⟨isBreach_of_assignNames hassigner hassign, fun u hu => ?_⟩
    have hfails : (r.assignNames u).2 = .error fault := by
      rcases hu with rfl | ⟨hr, rfl⟩
      · exact hassign
      · have hs := ((undisturbed_start r w).after hr before).assignNames hr
        have ht := (((undisturbed_start r w).after hr before).after hr later).assignNames hr
        exact ht.1.trans (hs.1.symm.trans hassign)
    have herror : r.assignNames u = ((r.assignNames u).1, .error fault) := Prod.ext rfl hfails
    rw [call_of_assignNames_eq_error rfl herror, call_of_assignNames_eq_error rfl herror]
    exact ⟨rfl, rfl⟩
  | ok names =>
    have hcoherent : t.Coherent := ((State.Coherent.start w).after r before).after r later
    have hnames : (r.assignNames t).2 = .ok names := assignNames_after_eq_ok hassign later
    have htemplate := call_nameTemplate hcoherent hoffers hnames
    have hrender := call_render_name hcomments hoffers hnames
    simp only
    cases hx : names.get? x with
    | some text =>
      rw [hx] at htemplate hrender
      exact ⟨htemplate, hrender⟩
    | none =>
      rw [hx] at htemplate hrender
      exact ⟨htemplate, hrender, rfl⟩

/-- A name that is looked up after a rendering and a template with a fault. -/
theorem call_name_lookups_point :
    let x : Name := ⟨0, "Point", false⟩
    let w : World Unit := ⟨⟨[{ label := "types", members := [x] }]⟩, ()⟩
    let r : Renderer Unit Unit :=
      { emitter := .fixed (.ok [0]) (fun _ => [.line [.name x]]) (some [("v", .name x)])
        typeGraph := ()
        comments := ["# types"].map .str }
    let t := r.after (r.after (.start w) [.render]) [.template "{{ x }}"]
    r.emitter.Offers x ∧ r.config.assigner.Steady ∧
    (r.call t (.template Template.nameTemplate)).2.2 = .ok (.text "Point") ∧
    ∃ result, (r.call t .render).2.2 = .ok (.rendered result) ∧
      result.sheet.lines = ["# types", "", "Point"] := by
  intro x w r t
  have hoffers : r.emitter.Offers x :=
    { emits := fun _ _ => rfl
      binds := ⟨_, rfl, fun _ _ => ⟨_, rfl, rfl, by decide⟩⟩ }
  have hassign : (r.assignNames (r.after (.start w) [.render])).2 = .ok ⟨[(x, "Point")]⟩ := by cbv
  have hlookups := call_name_lookups r .standard hoffers rfl w [.render] [.template "{{ x }}"]
  simp only [hassign] at hlookups
  obtain ⟨htemplate, result, hrender, -, hlines⟩ := hlookups
  exact ⟨hoffers, .standard, htemplate, result, hrender, hlines⟩

/-- Two fixed names with the same text cannot be assigned, nor can any name without the namespaces of
the emitter.  A template and a rendering fail for that reason, and not because the name has no
text. -/
theorem call_name_lookups_refused :
    let x : Name := ⟨0, "a", true⟩
    let w : World Unit := ⟨⟨[{ label := "types", members := [x, ⟨1, "a", true⟩] }]⟩, ()⟩
    let r : Renderer Unit Unit :=
      { emitter := .fixed (.ok [0]) (fun _ => [.line [.name x]]) (some [("v", .name x)])
        typeGraph := () }
    let missing : Fault := .raised "KeyError" "'missing'"
    let r' : Renderer Unit Unit :=
      { r with
        emitter := .fixed (.error missing) (fun _ => [.line [.name x]]) (some [("v", .name x)]) }
    r.config.assigner.Steady ∧ r.emitter.Offers x ∧
    (r.call (.start w) (.template Template.nameTemplate)).2.2 = .error (.fixedClash "a" "types") ∧
    (r.call (.start w) .render).2.2 = .error (.fixedClash "a" "types") ∧
    (Fault.fixedClash "a" "types").message ≠ "No name assigned for " ++ x.describe ∧
    r'.config.assigner.Steady ∧ r'.emitter.Offers x ∧
    (r'.call (.start w) (.template Template.nameTemplate)).2.2 = .error missing ∧
    (r'.call (.start w) .render).2.2 = .error missing ∧
    missing.message ≠ "No name assigned for " ++ x.describe := by
  intro x w r missing r'
  have hoffers : r.emitter.Offers x :=
    { emits := fun _ _ => rfl
      binds := ⟨_, rfl, fun _ _ => ⟨_, rfl, rfl, by decide⟩⟩ }
  have hoffers' : r'.emitter.Offers x := ⟨hoffers.emits, hoffers.binds⟩
  exact ⟨.standard, hoffers, by cbv, by cbv, by decide +kernel, .standard, hoffers', rfl, rfl,
    by decide +kernel⟩

end Renderer

end SourceLayout
