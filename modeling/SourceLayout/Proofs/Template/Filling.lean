import SourceLayout.Proofs.Naming.Assigned
import SourceLayout.Proofs.Template.Scanning
import SourceLayout.Template.Rendering

/-! Templates that only write variables.  Such a template is its literal texts, with line breaks as
LF, and between them the texts that the variables are bound to, as they are.  Variables whose names
are forms of one word share their place: the last of them wins. -/

namespace SourceLayout.Template

/-- A variable that a template writes, the text that it is bound to, and the literal text after its
tag. -/
structure Slot where
  name : String
  value : String
  after : String
deriving DecidableEq, Repr, Inhabited

/-- The literal texts of a template that begins with one. -/
def literals (first : String) (slots : List Slot) : List String := first :: slots.map (·.after)

/-- The template that begins with a text and goes on with tags. -/
def source (first : String) : List Slot → String
  | [] => first
  | slot :: slots => first ++ variableTag slot.name ++ source slot.after slots

/-- What the template writes if it writes the text `shown` at a tag. -/
def filled (shown : Slot → String) (first : String) : List Slot → String
  | [] => Text.normalized first
  | slot :: slots => Text.normalized first ++ shown slot ++ filled shown slot.after slots

/-- The text of the last tag whose variable has a name that is a form of the same word. -/
def Slot.last (slots : List Slot) (slot : Slot) : String :=
  match slots.reverse.find? (fun other => Text.wordForm other.name = Text.wordForm slot.name) with
  | some other => other.value
  | none => slot.value

/-- Nothing opens in the literal texts, nor where one of them meets a tag, and the names are those
of variables. -/
structure Separated (first : String) (slots : List Slot) : Prop where
  plain : ∀ text ∈ literals first slots, IsPlain text.toList
  apart : ∀ text ∈ (literals first slots).dropLast, text.toList.getLast? ≠ some '{'
  named : ∀ slot ∈ slots, isVariable slot.name = true

namespace Separated

variable {first : String} {slot : Slot} {slots : List Slot}

theorem tail (h : Separated first (slot :: slots)) : Separated slot.after slots where
  plain text htext := h.plain text (List.mem_cons_of_mem _ htext)
  apart text htext := h.apart text (List.mem_cons_of_mem _ htext)
  named other hother := h.named other (List.mem_cons_of_mem _ hother)

theorem plain_first (h : Separated first slots) : IsPlain first.toList :=
  h.plain first List.mem_cons_self

theorem apart_first (h : Separated first (slot :: slots)) : first.toList.getLast? ≠ some '{' :=
  h.apart first List.mem_cons_self

end Separated

/-! ### Pieces -/

/-- The pieces of a template that only writes variables. -/
def piecesOf (first : String) : List Slot → List Piece
  | [] => literalPiece (Text.normalizeBreaks first.toList).reverse
  | slot :: slots =>
    literalPiece (Text.normalizeBreaks first.toList).reverse ++
      .tag .output [.word slot.name] :: piecesOf slot.after slots

theorem notMem_variableTag {name : String} (h : isVariable name = true) :
    '\r' ∉ (variableTag name).toList := by
  simp only [isVariable, Bool.and_eq_true, List.all_eq_true] at h
  obtain ⟨⟨⟨-, hparts⟩, -⟩, -⟩ := h
  have hname : '\r' ∉ name.toList := fun hcr => absurd (hparts '\r' hcr) (by decide)
  simpa [variableTag] using hname

theorem scan_source {first : String} {slots : List Slot} (h : Separated first slots)
    (atLineStart : Bool) :
    scan (.text [] atLineStart) (Text.normalizeBreaks (source first slots).toList) =
      piecesOf first slots := by
  induction slots generalizing first atLineStart with
  | nil =>
    have hplain : IsPlain (Text.normalizeBreaks first.toList ++ ([] : List Char).head?.toList) := by
      simpa using h.plain_first.normalizeBreaks
    have hscan := scan_text hplain [] atLineStart
    rw [List.append_nil, List.append_nil] at hscan
    exact hscan
  | cons slot slots ih =>
    have hvariable := h.named slot List.mem_cons_self
    have hplain : IsPlain (Text.normalizeBreaks first.toList ++ ['{']) := by
      have hconcat := (h.plain_first.concat h.apart_first).normalizeBreaks
      rwa [Text.normalizeBreaks_append _ (by decide)] at hconcat
    have hsource : Text.normalizeBreaks (source first (slot :: slots)).toList =
        Text.normalizeBreaks first.toList ++ ((variableTag slot.name).toList ++
          Text.normalizeBreaks (source slot.after slots).toList) := by
      rw [source, String.toList_append, String.toList_append, List.append_assoc,
        Text.normalizeBreaks_append _ ?_,
        Text.normalizeBreaks_append_of_notMem (notMem_variableTag hvariable)]
      simp [variableTag]
    rw [hsource, scan_text ?_, scan_variableTag hvariable, List.append_nil, ih h.tail]
    · rfl
    · simpa [variableTag] using hplain

theorem pieces_source {first : String} {slots : List Slot} (h : Separated first slots) :
    pieces (source first slots) = piecesOf first slots :=
  scan_source h true

/-! ### Parts -/

/-- The part of a literal text, if there is any. -/
def literalNodes (text : String) : List Node :=
  if (Text.normalizeBreaks text.toList).isEmpty then [] else [.literal (Text.normalized text)]

/-- The parts of a template that only writes variables. -/
def nodesOf (first : String) : List Slot → List Node
  | [] => literalNodes first
  | slot :: slots =>
    literalNodes first ++ .output (.variable slot.name) :: nodesOf slot.after slots

/-- A word alone that does not negate is an expression of its own. -/
theorem read_word {name : String} (h : name ≠ "not") (steps : Nat) :
    Expr.read (steps + 4) [.word name] = .ok (Expr.ofWord name, []) := by
  unfold Expr.read
  split
  · contradiction
  · next heq =>
    cases heq
    exact absurd rfl h
  · next hsteps _ =>
    cases hsteps
    rfl

theorem ofTokens_variable {name : String} (h : isVariable name = true) :
    Expr.ofTokens [.word name] = .ok (.variable name) := by
  simp only [isVariable, Bool.and_eq_true, Option.isNone_iff_eq_none, decide_eq_true_eq] at h
  obtain ⟨⟨-, hconstant⟩, hnot⟩ := h
  have hread : Expr.readFrom [.word name] = .ok (Expr.ofWord name, []) := read_word hnot 8
  rw [Expr.ofTokens, hread, Expr.ofWord, hconstant]
  rfl

theorem foldlM_literalPiece (text : String) (a : Assembly) :
    (literalPiece (Text.normalizeBreaks text.toList).reverse).foldlM Assembly.take a =
      .ok { a with parts := (literalNodes text).reverse ++ a.parts } := by
  rw [literalPiece, literalNodes, List.isEmpty_reverse, List.reverse_reverse]
  split <;> rfl

theorem foldlM_piecesOf {slots : List Slot} (h : ∀ slot ∈ slots, isVariable slot.name = true)
    (first : String) (a : Assembly) :
    (piecesOf first slots).foldlM Assembly.take a =
      .ok { a with parts := (nodesOf first slots).reverse ++ a.parts } := by
  induction slots generalizing first a with
  | nil => exact foldlM_literalPiece first a
  | cons slot slots ih =>
    have htake (b : Assembly) : b.take (.tag .output [.word slot.name]) =
        .ok (b.add (.output (.variable slot.name))) := by
      rw [Assembly.take, ofTokens_variable (h slot List.mem_cons_self)]
      rfl
    have hrest := ih fun other hother => h other (List.mem_cons_of_mem _ hother)
    rw [piecesOf, List.foldlM_append, foldlM_literalPiece]
    simp only [bind, Except.bind, List.foldlM_cons, htake, hrest]
    simp [nodesOf, Assembly.add]

theorem ofTemplate_source {first : String} {slots : List Slot} (h : Separated first slots) :
    Node.ofTemplate (source first slots) = .ok (nodesOf first slots) := by
  rw [Node.ofTemplate, pieces_source h, Node.ofPieces, foldlM_piecesOf h.named]
  simp [bind, Except.bind, pure, Except.pure]

/-! ### Parts without blocks -/

/-- The part is a literal text or writes a variable. -/
def Node.IsFlat : Node → Prop
  | .literal _ | .output (.variable _) => True
  | _ => False

theorem isFlat_literalNodes (text : String) : ∀ node ∈ literalNodes text, node.IsFlat := by
  intro node hnode
  rw [literalNodes] at hnode
  split at hnode
  · cases hnode
  · rw [List.mem_singleton.mp hnode]
    trivial

theorem isFlat_nodesOf (first : String) (slots : List Slot) :
    ∀ node ∈ nodesOf first slots, node.IsFlat := by
  induction slots generalizing first with
  | nil => exact isFlat_literalNodes first
  | cons slot slots ih =>
    rw [nodesOf, List.forall_mem_append, List.forall_mem_cons]
    exact ⟨isFlat_literalNodes first, trivial, ih slot.after⟩

theorem constant?_variable (name : String) : (Expr.variable name).constant? = none := by
  rw [Expr.constant?, Expr.fixed?, Expr.reads]
  rfl

theorem screenAll_of_flat {nodes : List Node} (h : ∀ node ∈ nodes, node.IsFlat) (lazily : Bool) :
    Node.screenAll lazily nodes = .ok () := by
  induction nodes with
  | nil => rfl
  | cons node nodes ih =>
    rw [List.forall_mem_cons] at h
    have hnode : node.screen lazily = .ok () := by
      match node, h.1 with
      | .literal _, _ => rfl
      | .output (.variable name), _ =>
        rw [Node.screen, Expr.screen, constant?_variable]
    rw [Node.screenAll, hnode]
    exact ih h.2

/-- The line of a program is hardly indented and opens few parentheses, outside of all loops. -/
structure ProgramLine.IsPlain (line : ProgramLine) : Prop where
  level : line.level = 1
  parentheses : line.parentheses ≤ 3
  loops : line.loops = 0

theorem isPlain_of_level : ProgramLine.IsPlain { level := 1 } := ⟨rfl, Nat.zero_le 3, rfl⟩

theorem isPlain_outline_of_flat {node : Node} (h : node.IsFlat) (scope : Scope) :
    ∀ line ∈ node.outline scope 1 0, line.IsPlain := by
  match node, h with
  | .literal _, _ =>
    rw [Node.outline, List.forall_mem_singleton]
    exact isPlain_of_level
  | .output (.variable name), _ =>
    have hparentheses : (Expr.variable name).parentheses scope ≤ 2 := by
      rw [Expr.parentheses, constant?_variable]
      simp only
      split <;> decide
    rw [Node.outline, List.forall_mem_singleton]
    refine ⟨rfl, ?_, rfl⟩
    simp only
    split
    · exact Nat.zero_le 3
    · exact Nat.succ_le_succ hparentheses

theorem isPlain_outlineAll_of_flat {nodes : List Node} (h : ∀ node ∈ nodes, node.IsFlat)
    (scope : Scope) (goesOn : Bool) :
    ∀ line ∈ Node.outlineAll scope 1 0 goesOn nodes, line.IsPlain := by
  induction nodes generalizing goesOn with
  | nil => simp [Node.outlineAll]
  | cons node nodes ih =>
    rw [List.forall_mem_cons] at h
    rw [Node.outlineAll, List.forall_mem_append]
    refine ⟨?_, ih h.2 _⟩
    split
    · simp
    · exact isPlain_outline_of_flat h.1 scope

theorem isPlain_outlineProgram_of_flat {nodes : List Node} (h : ∀ node ∈ nodes, node.IsFlat) :
    ∀ line ∈ Node.outlineProgram nodes, line.IsPlain := by
  have hreplicate (n : Nat) :
      ∀ line ∈ List.replicate n ({ level := 1 } : ProgramLine), line.IsPlain := by
    intro line hline
    rw [List.eq_of_mem_replicate hline]
    exact isPlain_of_level
  have htakingUp (level : Level) : ∀ line ∈ Node.takingUp 1 level, line.IsPlain := by
    intro line hline
    obtain ⟨binding, -, rfl⟩ := List.mem_map.mp hline
    exact isPlain_of_level
  rw [Node.outlineProgram]
  simp only [List.forall_mem_append, List.forall_mem_cons]
  exact ⟨⟨⟨hreplicate _, htakingUp _⟩, hreplicate _⟩, isPlain_of_level,
    isPlain_outlineAll_of_flat h _ false⟩

/-- Parts without blocks stay below all limits, however many they are. -/
theorem checkLimits_of_flat {nodes : List Node} (h : ∀ node ∈ nodes, node.IsFlat) :
    Node.checkLimits nodes = .ok () := by
  refine checkLimits_eq_ok fun line hline => ?_
  obtain ⟨hlevel, hparentheses, hloops⟩ := isPlain_outlineProgram_of_flat h line hline
  rw [hlevel, hloops]
  exact ⟨by decide, Nat.le_trans hparentheses (by decide), by decide⟩

/-! ### Variables -/

variable {s : Setting} {first : String} {slots : List Slot}

theorem readsOfAll_append (nodes others : List Node) :
    Node.readsOfAll (nodes ++ others) = Node.readsOfAll nodes ++ Node.readsOfAll others := by
  induction nodes with
  | nil => rfl
  | cons node nodes ih => rw [List.cons_append, Node.readsOfAll, ih, Node.readsOfAll,
      List.append_assoc]

theorem readsOfAll_literalNodes (text : String) : Node.readsOfAll (literalNodes text) = [] := by
  rw [literalNodes]
  split <;> rfl

/-- The template reads its variables in order. -/
theorem readsOfAll_nodesOf (first : String) (slots : List Slot) :
    Node.readsOfAll (nodesOf first slots) = slots.map (·.name) := by
  induction slots generalizing first with
  | nil => exact readsOfAll_literalNodes first
  | cons slot slots ih =>
    rw [nodesOf, readsOfAll_append, readsOfAll_literalNodes, Node.readsOfAll, Node.reads, ih]
    rfl

theorem usesOfAll_of_flat {nodes : List Node} (h : ∀ node ∈ nodes, node.IsFlat) :
    Node.usesOfAll nodes = (Node.readsOfAll nodes).map .read := by
  induction nodes with
  | nil => rfl
  | cons node nodes ih =>
    rw [List.forall_mem_cons] at h
    have hnode : node.uses = node.reads.map .read := by
      match node, h.1 with
      | .literal _, _ | .output (.variable _), _ => rfl
    rw [Node.usesOfAll, hnode, ih h.2, Node.readsOfAll, List.map_append]

/-- A template without a variable of its own name is not given itself. -/
theorem selfGiven_nodesOf (h : ∀ slot ∈ slots, slot.name ≠ selfName) :
    Node.selfGiven (nodesOf first slots) = [] := by
  have huses : Node.usesOfAll (nodesOf first slots) = slots.map fun slot => .read slot.name := by
    rw [usesOfAll_of_flat (isFlat_nodesOf first slots), readsOfAll_nodesOf, List.map_map]
    rfl
  have hfind : (Node.usesOfAll (nodesOf first slots)).find? (·.name = selfName) = none := by
    rw [huses, List.find?_eq_none]
    intro use huse
    obtain ⟨slot, hslot, rfl⟩ := List.mem_map.mp huse
    exact ne_true_of_eq_false (decide_eq_false (h slot hslot))
  rw [Node.selfGiven, Node.readsFirst, hfind]
  rfl

/-- The level of the template takes up its variables in order. -/
theorem level_nodesOf (hdistinct : (slots.map (·.name)).Nodup) :
    Level.of s [] [] (nodesOf first slots) =
      (slots.map fun slot => Binding.taken slot.name (s.resolve? slot.name)).reverse := by
  rw [Level.of, readsOfAll_nodesOf, eraseDups_of_nodup hdistinct]
  simp [Scope.knows]

theorem resolve?_of_lookup {name value : String} (h : s.values.lookup name = some (.str value)) :
    s.resolve? name = some (.text value (.variable name)) := by
  rw [Setting.resolve?, h]
  rfl

/-- On a level that knows it, a name stands for the latest binding of its word. -/
theorem read_of_find? {level : Level} {name : String} {binding : Binding} {o : Object}
    (hknown : level.any (·.name = name) = true)
    (hfind : level.find? (·.form = Text.wordForm name) = some binding)
    (hobject : binding.object? = some o) : Scope.read [level] name = o := by
  simp [Scope.read, hknown, hfind, hobject]

/-- A variable stands for the text of the last one whose name is a form of the same word. -/
theorem read_of_slots (hbound : ∀ slot ∈ slots, s.values.lookup slot.name = some (.str slot.value))
    {slot : Slot} (hslot : slot ∈ slots) :
    ∃ origin, Scope.read
      [(slots.map fun slot => Binding.taken slot.name (s.resolve? slot.name)).reverse] slot.name =
        .text (slot.last slots) origin := by
  let binding (slot : Slot) : Binding := Binding.taken slot.name (s.resolve? slot.name)
  have hknown : ((slots.map binding).reverse.any (·.name = slot.name)) = true := by
    rw [List.any_reverse, List.any_map, List.any_eq_true]
    exact ⟨slot, hslot, decide_eq_true rfl⟩
  have hfind : (slots.map binding).reverse.find? (·.form = Text.wordForm slot.name) =
      (slots.reverse.find? fun other => Text.wordForm other.name = Text.wordForm slot.name).map
        binding := by
    rw [← List.map_reverse, List.find?_map]
    rfl
  have hsome : (slots.reverse.find? fun other =>
      Text.wordForm other.name = Text.wordForm slot.name).isSome = true := by
    rw [List.find?_isSome]
    exact ⟨slot, List.mem_reverse.mpr hslot, decide_eq_true rfl⟩
  obtain ⟨other, hother⟩ := Option.isSome_iff_exists.mp hsome
  have hmem : other ∈ slots := List.mem_reverse.mp (List.mem_of_find?_eq_some hother)
  rw [hother] at hfind
  rw [Slot.last, hother]
  exact ⟨_, read_of_find? hknown hfind (resolve?_of_lookup (hbound other hmem))⟩

/-! ### The text -/

theorem codes_append (text other : String) :
    Text.codes (text ++ other) = Text.codes text ++ Text.codes other := by
  simp [Text.codes]

theorem renderAll_append (scope : Scope) (nodes others : List Node) :
    Node.renderAll s scope (nodes ++ others) = do
      let written ← Node.renderAll s scope nodes
      let rest ← Node.renderAll s scope others
      return written ++ rest := by
  induction nodes with
  | nil => simp [Node.renderAll]
  | cons node nodes ih =>
    simp only [List.cons_append, Node.renderAll, ih, bind_assoc, pure_bind, List.append_assoc]

theorem renderAll_literalNodes (scope : Scope) (text : String) :
    Node.renderAll s scope (literalNodes text) = pure (Text.codes (Text.normalized text)) := by
  rw [literalNodes]
  split
  · next hempty =>
    rw [Text.normalized, List.isEmpty_iff.mp hempty]
    rfl
  · simp [Node.renderAll, Node.render]

theorem render_variable {scope : Scope} {name text : String} {origin : Origin}
    (h : scope.read name = .text text origin) :
    Node.render s scope (.output (.variable name)) = pure (Text.codes text) := by
  simp only [Node.render, Expr.eval, h, pure_bind, Object.use]
  rfl

/-- Where the variables stand for texts, these are written between the literal texts. -/
theorem renderAll_nodesOf {scope : Scope} {shown : Slot → String} (first : String)
    (h : ∀ slot ∈ slots, ∃ origin, scope.read slot.name = .text (shown slot) origin) :
    Node.renderAll s scope (nodesOf first slots) = pure (Text.codes (filled shown first slots)) := by
  induction slots generalizing first with
  | nil => exact renderAll_literalNodes scope first
  | cons slot slots ih =>
    rw [List.forall_mem_cons] at h
    obtain ⟨⟨origin, hread⟩, hrest⟩ := h
    rw [nodesOf, renderAll_append, renderAll_literalNodes, Node.renderAll, render_variable hread,
      ih slot.after hrest, filled, codes_append, codes_append]
    simp

/-- A template that only writes variables is its literal texts and the texts of the variables, and
nothing where a variable has the template's own name. -/
theorem render_source (h : Separated first slots) (hdistinct : (slots.map (·.name)).Nodup)
    (hbound : ∀ slot ∈ slots, s.values.lookup slot.name = some (.str slot.value)) :
    render s (source first slots) =
      if s.values.any (·.1 = selfName) then .error (.reservedVariable selfName)
      else .ok (filled (Slot.last slots) first slots) := by
  have hflat := isFlat_nodesOf first slots
  rw [render_of_parts s (ofTemplate_source h) (screenAll_of_flat hflat false)
    (checkLimits_of_flat hflat)]
  split
  · rfl
  · next hself =>
    have hnames : ∀ slot ∈ slots, slot.name ≠ selfName := by
      intro slot hslot hname
      obtain ⟨before, after, hvalues, -⟩ := List.lookup_eq_some_iff.mp (hbound slot hslot)
      exact hself (List.any_eq_true.mpr
        ⟨(slot.name, .str slot.value), by simp [hvalues], decide_eq_true hname⟩)
    rw [selfGiven_nodesOf hnames, level_nodesOf hdistinct,
      renderAll_nodesOf first fun slot hslot => read_of_slots hbound hslot]
    show Except.ok (String.ofList (Text.written (Text.codes _))) = _
    rw [Text.written_codes, String.ofList_toList]

theorem filled_congr {shown other : Slot → String} (h : ∀ slot ∈ slots, shown slot = other slot) :
    filled shown first slots = filled other first slots := by
  induction slots generalizing first with
  | nil => rfl
  | cons slot slots ih =>
    rw [List.forall_mem_cons] at h
    rw [filled, filled, h.1, ih h.2]

/-- Variables whose names are forms of different words are written as their own texts. -/
theorem filled_last (h : (slots.map fun slot => Text.wordForm slot.name).Nodup) :
    filled (Slot.last slots) first slots = filled (·.value) first slots := by
  refine filled_congr fun slot hslot => ?_
  unfold Slot.last
  split
  · next other hother =>
    have hmem : other ∈ slots := List.mem_reverse.mp (List.mem_of_find?_eq_some hother)
    have hform := List.find?_some hother
    rw [List.inj_on_of_nodup_map h hmem hslot (of_decide_eq_true hform)]
  · rfl

end SourceLayout.Template
