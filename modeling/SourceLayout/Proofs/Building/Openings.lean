import SourceLayout.Proofs.Building.Printing
import SourceLayout.Proofs.Writing.Spans

/-! Where the regions of a program begin in the lines.  A region begins where the next text would
go, at the margin of a line without text.  Its first line stands there, unless a blank line was
wanted when the region was opened: the blank line is then written inside of the region, before its
first line. -/

namespace SourceLayout

/-! ### The regions that moves open -/

/-- A region that moves open: how many marked fragments are emitted before it, the flags of the
builder where it is opened, its mark, and its moves. -/
structure Opening where
  number : Nat
  flags : Flags
  mark : Mark
  body : List Move

namespace Move

mutual

/-- How many marked fragments a move emits: its region, and those inside of its items. -/
def marked (names : Assignment) : Move → Nat
  | .act a => (a.item?.toList.flatMap (Fragment.nodes names)).length
  | .region _ body => markedAll names body + 1

/-- How many marked fragments moves emit. -/
def markedAll (names : Assignment) : List Move → Nat
  | [] => 0
  | m :: ms => marked names m + markedAll names ms

end

mutual

/-- The regions that a move opens, in the order of their opening, from the flags `flags` on and
after `number` marked fragments. -/
def openings (names : Assignment) (flags : Flags) (number : Nat) : Move → List Opening
  | .act _ => []
  | .region mark body =>
    ⟨number, flags, mark, body⟩ :: openingsOf names flags (number + 1) body

/-- The regions that moves open, in the order of their opening. -/
def openingsOf (names : Assignment) (flags : Flags) (number : Nat) : List Move → List Opening
  | [] => []
  | m :: ms =>
    openings names flags number m ++
      openingsOf names (flagsAfter flags m) (number + marked names m) ms

end

end Move

/-- The regions that a program opens on a fresh builder when none of its steps fails. -/
def Step.openings (names : Assignment) (steps : List Step) : List Opening :=
  Move.openingsOf names {} 0 (movesOf steps)

/-! ### The nodes of trees in a row -/

/-- The node without the way to it. -/
def Node.pathless (n : Node) : Node := { n with path := [] }

namespace Fragment

open Node

variable {names : Assignment}

/-- The marked nodes of trees that are written one after the other after some strokes, without the
ways to them. -/
def sites (names : Assignment) (earlier : List Stroke) (fs : List Tree) : List Node :=
  (ofParts [] 0 earlier (fs.map (part names))).map pathless

theorem pathless_ofParts (sep earlier : List Stroke) (i j : Nat)
    (parts : List (List Node × List Stroke)) :
    (ofParts sep i earlier parts).map pathless = (ofParts sep j earlier parts).map pathless := by
  induction parts generalizing i j earlier with
  | nil => rfl
  | cons part parts ih =>
    rw [ofParts, ofParts, List.map_append, List.map_append, ih, List.map_map, List.map_map]
    rfl

theorem pathless_under (earlier later : List Stroke) (i j : Nat)
    (parts : List (List Node × List Stroke)) :
    ((ofParts [] i later parts).map (under j earlier)).map pathless =
      (ofParts [] i (earlier ++ later) parts).map pathless := by
  induction parts generalizing i later with
  | nil => rfl
  | cons part parts ih =>
    simp only [ofParts, List.map_append, ih, List.map_map, List.append_assoc]
    congr 1
    refine List.map_congr_left fun n _ => ?_
    simp [pathless, under]

theorem sites_cons (earlier : List Stroke) (f : Tree) (fs : List Tree) :
    sites names earlier (f :: fs) =
      sites names earlier [f] ++ sites names (earlier ++ f.strokes names) fs := by
  simp only [sites, List.map_cons, List.map_nil, part, ofParts, List.append_nil, List.map_append]
  rw [pathless_ofParts [] _ 1 0]

theorem sites_append (earlier : List Stroke) (fs gs : List Tree) :
    sites names earlier (fs ++ gs) =
      sites names earlier fs ++ sites names (earlier ++ fs.flatMap (strokes names)) gs := by
  induction fs generalizing earlier with
  | nil => simp [sites, ofParts]
  | cons f fs ih =>
    rw [List.cons_append, sites_cons, ih, sites_cons earlier f fs, List.flatMap_cons,
      List.append_assoc, List.append_assoc]

/-- One fragment and the sequence of it have the same nodes. -/
theorem sites_ofList (earlier : List Stroke) (fs : List Tree) :
    sites names earlier [ofList fs] = sites names earlier fs := by
  have hseq : sites names earlier [seq fs] = sites names earlier fs := by
    simp only [sites, List.map_cons, List.map_nil, part, nodes_seq, ofParts, List.append_nil]
    rw [pathless_under, List.append_nil]
  rcases fs with _ | ⟨f, _ | ⟨g, fs⟩⟩
  · exact hseq
  · rfl
  · exact hseq

theorem sites_marked (earlier : List Stroke) (mark : Mark) (f : Tree) :
    sites names earlier [marked mark f] =
      ⟨[], earlier, mark, f⟩ :: sites names earlier [f] := by
  simp [sites, part, ofParts, under, pathless]

theorem length_sites (earlier : List Stroke) (fs : List Tree) :
    (sites names earlier fs).length = (fs.flatMap (nodes names)).length := by
  induction fs generalizing earlier with
  | nil => rfl
  | cons f fs ih =>
    rw [sites_cons, List.length_append, ih, List.flatMap_cons, List.length_append]
    simp [sites, part, ofParts]

end Fragment

/-! ### Where a region is emitted -/

/-- The strokes end at the beginning of a line, which has no text yet. -/
def Stretch.AtMargin (ss : List Stroke) : Prop := (ss.foldl add {}).text = ""

namespace Emission

/-- The changes after some line breaks are those of what is emitted after them. -/
theorem getD_changes_append (before es : List Emission) (k : Nat) :
    (changes (before ++ es)).getD (breaksOf before + k) 0 = (changes es).getD k 0 := by
  induction before with
  | nil => simp [breaksOf]
  | cons e before ih =>
    rw [List.cons_append, breaksOf_cons]
    cases e with
    | line item =>
      rw [changes_line, breaks, Nat.add_assoc, Nat.add_comm 1, List.getD_cons_succ, ih]
    | emptyLine =>
      rw [changes_emptyLine, breaks, Nat.add_assoc, Nat.add_comm 1, List.getD_cons_succ, ih]
    | shift offset => rw [changes_shift, breaks, Nat.zero_add, ih]

end Emission

namespace Emitted

variable {names : Assignment} {change : Nat → Int}

/-- All that is emitted ends its lines. -/
theorem text_foldl_settled (n : Nat) (os : List Emitted) {c : Stretch} (h : c.text = "") :
    (((settled change n os).flatMap (Fragment.strokes names)).foldl Stretch.add c).text = "" := by
  rw [strokes_flattenAll]
  generalize flattenAll os = es
  induction es generalizing n c with
  | nil => exact h
  | cons e es ih =>
    rw [List.map_cons, settled, treesOf, List.flatMap_append, List.foldl_append]
    refine ih _ ?_
    cases e with
    | line item =>
      simp [trees, Emission.trees, Fragment.strokes, Stretch.add]
    | emptyLine => rfl
    | shift offset => exact h

theorem atMargin_settled (n : Nat) (os : List Emitted) {earlier : List Stroke}
    (h : Stretch.AtMargin earlier) :
    Stretch.AtMargin (earlier ++ (settled change n os).flatMap (Fragment.strokes names)) := by
  rw [Stretch.AtMargin, List.foldl_append]
  exact text_foldl_settled n os h

end Emitted

namespace Move

open Emitted

variable {names : Assignment} {change : Nat → Int}

theorem length_sites_act (earlier : List Stroke) (flags : Flags) (n : Nat) (a : Action) :
    (Fragment.sites names earlier (settled change n (emitted flags (.act a)))).length =
      marked names (.act a) := by
  rw [Fragment.length_sites, emitted, marked]
  cases a with
  | line v =>
    rw [Action.emissions, Action.item?]
    cases v.toFragment with
    | error fault => rfl
    | ok item =>
      cases flags.blankWanted <;>
        simp [Except.toOption, treesOf, trees, Emission.trees, Fragment.nodes]
  | emptyLine | requestBlank | shift _ | probe | divert | finish | write _ | fail _ => rfl

/-- Moves emit as many marked fragments as they are said to. -/
theorem length_sites_emittedAll (earlier : List Stroke) (flags : Flags) (n : Nat)
    (ms : List Move) :
    (Fragment.sites names earlier (settled change n (emittedAll flags ms))).length =
      markedAll names ms := by
  induction ms using listInduction generalizing earlier flags n with
  | nil => rfl
  | act a ms ih =>
    rw [emittedAll, settled, treesOf_append, Fragment.sites_append, List.length_append,
      length_sites_act, ih, markedAll]
  | region mark body ms ihBody ih =>
    rw [emittedAll, emitted, settled, treesOf_append, Fragment.sites_append, List.length_append,
      ih, treesOf, treesOf, List.append_nil, trees, Fragment.sites_marked, Fragment.sites_ofList,
      List.length_cons, ihBody, markedAll, marked]

theorem length_sites_emitted (earlier : List Stroke) (flags : Flags) (n : Nat) (m : Move) :
    (Fragment.sites names earlier (settled change n (emitted flags m))).length =
      marked names m := by
  have h : (Fragment.sites names earlier (settled change n (emittedAll flags [m]))).length =
      markedAll names [m] := length_sites_emittedAll earlier flags n [m]
  rwa [emittedAll, emittedAll, List.append_nil, markedAll, markedAll, Nat.add_zero] at h

end Move

/-- The region stands among the trees of what is emitted, the `j`-th of their nodes, at the
beginning of a line.  What is emitted in it comes between `pre` and `post`. -/
structure Opening.Site (names : Assignment) (change : Nat → Int) (n : Nat) (earlier : List Stroke)
    (os : List Emitted) (o : Opening) (j : Nat) (before : List Stroke) (pre post : List Emission) :
    Prop where
  node : (Fragment.sites names earlier (Emitted.settled change n os))[j]? =
    some ⟨[], before, o.mark, .ofList
      (Emitted.settled change (n + Emission.breaksOf pre) (Move.emittedAll o.flags o.body))⟩
  atMargin : Stretch.AtMargin before
  emissions : Emitted.flattenAll os =
    pre ++ (Emitted.flattenAll (Move.emittedAll o.flags o.body) ++ post)

namespace Opening

open Emitted

variable {names : Assignment} {change : Nat → Int} {n j : Nat} {earlier before : List Stroke}
  {os : List Emitted} {o : Opening} {pre post : List Emission}

namespace Site

theorem append_left (h : Site names change n earlier os o j before pre post)
    (more : List Emitted) :
    Site names change n earlier (os ++ more) o j before pre (post ++ flattenAll more) where
  node := by
    obtain ⟨hlt, -⟩ := List.getElem?_eq_some_iff.mp h.node
    rw [settled, treesOf_append, Fragment.sites_append, List.getElem?_append_left hlt, h.node]
  atMargin := h.atMargin
  emissions := by rw [flattenAll_append, h.emissions, List.append_assoc, List.append_assoc]

theorem append_right (first : List Emitted)
    (h : Site names change (n + Emission.breaksOf (flattenAll first))
      (earlier ++ (settled change n first).flatMap (Fragment.strokes names)) os o j before pre
      post) :
    Site names change n earlier (first ++ os) o
      ((Fragment.sites names earlier (settled change n first)).length + j) before
      (flattenAll first ++ pre) post where
  node := by
    rw [settled, treesOf_append, Fragment.sites_append,
      List.getElem?_append_right (Nat.le_add_right _ _), Nat.add_sub_cancel_left, h.node,
      Emission.breaksOf_append, Nat.add_assoc]
  atMargin := h.atMargin
  emissions := by rw [flattenAll_append, h.emissions, List.append_assoc]

theorem inside (mark : Mark) (h : Site names change n earlier os o j before pre post) :
    Site names change n earlier [.region mark os] o (j + 1) before pre post where
  node := by
    rw [settled, treesOf, treesOf, List.append_nil, trees, Fragment.sites_marked,
      Fragment.sites_ofList, List.getElem?_cons_succ, h.node]
  atMargin := h.atMargin
  emissions := by rw [flattenAll, flatten, flattenAll, List.append_nil, h.emissions]

theorem here {number : Nat} {flags : Flags} (mark : Mark) (body : List Move)
    (h : Stretch.AtMargin earlier) :
    Site names change n earlier [.region mark (Move.emittedAll flags body)]
      ⟨number, flags, mark, body⟩ 0 earlier [] [] where
  node := by
    rw [settled, treesOf, treesOf, List.append_nil, trees, Fragment.sites_marked]
    rfl
  atMargin := h
  emissions := by
    rw [flattenAll, flatten, flattenAll]
    rfl

end Site

/-- The region stands among the trees of what is emitted from `flags` on, where its number says when
`number` marked fragments are emitted before. -/
def Placed (names : Assignment) (change : Nat → Int) (n : Nat) (earlier : List Stroke)
    (os : List Emitted) (number : Nat) (o : Opening) : Prop :=
  ∃ j before pre post, o.number = number + j ∧
    Site names change n earlier os o j before pre post

/-- A region that stands among the trees of later moves stands among those of all moves. -/
theorem Placed.cons {m : Move} {ms : List Move} {flags : Flags} {number : Nat}
    (h : Placed names change (n + Emission.breaksOf (flattenAll (Move.emitted flags m)))
      (earlier ++ (settled change n (Move.emitted flags m)).flatMap (Fragment.strokes names))
      (Move.emittedAll (Move.flagsAfter flags m) ms) (number + Move.marked names m) o) :
    Placed names change n earlier (Move.emittedAll flags (m :: ms)) number o := by
  obtain ⟨j, before, pre, post, hnumber, hsite⟩ := h
  have hright := hsite.append_right
  rw [Move.length_sites_emitted] at hright
  exact ⟨_, before, _, post, by rw [hnumber, Nat.add_assoc], hright⟩

/-- Every region that moves open stands among the trees of what they emit, where its number says. -/
theorem placed_of_mem {flags : Flags} {number : Nat} {ms : List Move}
    (h : Stretch.AtMargin earlier)
    (ho : o ∈ Move.openingsOf names flags number ms) :
    Placed names change n earlier (Move.emittedAll flags ms) number o := by
  induction ms using Move.listInduction generalizing flags number n earlier with
  | nil => cases ho
  | act a ms ih => exact .cons (ih (atMargin_settled _ _ h) ho)
  | region mark body ms ihBody ih =>
    rw [Move.openingsOf, List.mem_append, Move.openings, List.mem_cons] at ho
    -- The region itself, one inside of it, or one that is opened after it is closed.
    rcases ho with (rfl | ho) | ho
    · exact ⟨0, earlier, [], _, rfl, (Site.here mark body h).append_left _⟩
    · obtain ⟨j, before, pre, post, hnumber, hsite⟩ := ihBody h ho
      exact ⟨j + 1, before, pre, _, by rw [hnumber]; omega, (hsite.inside mark).append_left _⟩
    · exact .cons (ih (atMargin_settled _ _ h) ho)

end Opening

/-! ### The lines of a region -/

namespace Stretch

open Stroke

variable {indentation : String} {before : List Stroke}

/-- A text at the beginning of a line stands right after the margin. -/
theorem slice_text (h : AtMargin before) (t : String) (after : List Stroke) :
    Text.slice (indentation.length * (before.foldl add {}).level.toNat)
      (indentation.length * (before.foldl add {}).level.toNat + t.length)
      ((linesOf indentation (cuts {} (before ++ .text t :: after))).getD (breaks before) "") =
        t := by
  obtain ⟨rest, hrest⟩ := exists_getD_cuts_breaks {} (before ++ [.text t]) after
  have hbreaks : breaks (before ++ [.text t]) = breaks before := breaks_append before [.text t]
  rw [hbreaks, List.append_assoc, List.singleton_append, List.foldl_append] at hrest
  have hopen : (before.foldl add {}).text = "" := h
  rw [getD_linesOf, hrest]
  simp only [List.foldl_cons, List.foldl_nil, add, hopen, String.empty_append]
  exact slice_line (before.foldl add {}).level "" t rest

/-- A line break at the beginning of a line ends an empty line. -/
theorem getD_linesOf_lineBreak (h : AtMargin before) (change : Int)
    (after : List Stroke) :
    (linesOf indentation (cuts {} (before ++ .lineBreak change :: after))).getD (breaks before) "" =
      "" := by
  have hopen : (cuts {} (before ++ .lineBreak change :: after)).getD (breaks before) {} =
      before.foldl add {} := getD_cuts_append {} before _ 0
  rw [getD_linesOf, hopen, line_eq_empty_iff]
  exact h

/-- A text after an empty line at the same level stands right after the margin, too. -/
theorem slice_text_after_lineBreak (t : String) (after : List Stroke) :
    Text.slice (indentation.length * (before.foldl add {}).level.toNat)
      (indentation.length * (before.foldl add {}).level.toNat + t.length)
      ((linesOf indentation (cuts {} (before ++ .lineBreak 0 :: .text t :: after))).getD
        (breaks before + 1) "") = t := by
  have hnext : (before ++ [Stroke.lineBreak 0]).foldl add {} =
      ⟨(before.foldl add {}).level, ""⟩ := by
    rw [List.foldl_append, List.foldl_cons, List.foldl_nil, add, Int.add_zero]
  have hmargin : AtMargin (before ++ [.lineBreak 0]) := congrArg text hnext
  have hslice : Text.slice _ _ ((linesOf indentation _).getD _ "") = t :=
    slice_text hmargin t after
  rw [hnext, List.append_assoc, breaks_append] at hslice
  exact hslice

end Stretch

/-- Moves that begin with a line of a text emit this line first, after the blank line if one is
wanted. -/
theorem Move.exists_emittedAll_line (flags : Flags) (t : String) (rest : List Move) :
    ∃ more, emittedAll flags (Step.moves (.line [.str t]) ++ rest) =
      (if flags.blankWanted then [.single .emptyLine] else []) ++
        .single (.line (.text t)) :: more := by
  have htext : (Value.list [.str t]).toFragment = .ok (.text t) := by
    rw [Value.toFragment_singleton, Value.toFragment_str]
  refine ⟨emittedAll ⟨true, false⟩ rest, ?_⟩
  rw [Step.moves, List.singleton_append, emittedAll, emitted, flagsAfter, Action.emissions, htext]
  cases flags.blankWanted <;> rfl

namespace Step

open Stretch Emitted

/-- Every region that a program opens has a node in the finished tree, of the number of the region.
The node holds what is emitted in the region, and stands at the beginning of a line. -/
theorem exists_node_of_mem_openings {names : Assignment} {steps : List Step} {o : Opening}
    (ho : o ∈ openings names steps) :
    ∃ n pre post, ((Fragment.seq (children steps)).nodes names)[o.number]? = some n ∧
      n.mark = o.mark ∧
      n.body = .ofList (settled (change steps) (Emission.breaksOf pre)
        (Move.emittedAll o.flags o.body)) ∧
      AtMargin n.before ∧
      flattenAll (emittedBy steps) =
        pre ++ (flattenAll (Move.emittedAll o.flags o.body) ++ post) := by
  have hplaced : Opening.Placed names (change steps) 0 [] (emittedBy steps) 0 o :=
    Opening.placed_of_mem rfl ho
  obtain ⟨j, before, pre, post, hnumber, hsite⟩ := hplaced
  have hnodes : ((Fragment.seq (children steps)).nodes names).map Node.pathless =
      Fragment.sites names [] (children steps) := by
    rw [Fragment.nodes_seq, Fragment.sites]
  have hnode : (Fragment.sites names [] (children steps))[j]? = _ := hsite.node
  rw [← hnodes, List.getElem?_map, Option.map_eq_some_iff] at hnode
  obtain ⟨n, hn, hnode⟩ := hnode
  have hbefore : n.before = before := congrArg Node.before hnode
  have hbody : n.body = .ofList (settled (change steps) (0 + Emission.breaksOf pre)
      (Move.emittedAll o.flags o.body)) := congrArg Node.body hnode
  rw [Nat.zero_add] at hnumber hbody
  exact ⟨n, pre, post, hnumber ▸ hn, congrArg Node.mark hnode, hbody, hbefore ▸ hsite.atMargin,
    hsite.emissions⟩

/-- A region that begins with a line of a text begins at this text, unless a blank line was wanted
when the region was opened.  The blank line is then the first line of the region, and the text is on
the line after it. -/
theorem region_starts {names : Assignment} {steps : List Step} {indentation : String} {tree : Tree}
    {sheet : Sheet} (hrun : (runAll names steps .fresh).fault = none)
    (hstay : .divert ∉ actionsOf steps) (hitems : ∀ item ∈ itemsOf steps, item.pendings = [])
    (hfinish : (runAll names steps .fresh).state.builder.finish.2 = .ok tree)
    (hsheet : tree.toSheet names indentation = .ok sheet) :
    ∀ o ∈ openings names steps, ∀ t rest, o.body = moves (line [.str t]) ++ rest →
      ∃ n r, (tree.nodes names)[o.number]? = some n ∧ sheet.regions[o.number]? = some r ∧
        r.mark = o.mark ∧
        (∃ inside, n.body = .ofList inside ∧ Laid (Move.emittedAll o.flags o.body) inside) ∧
        ∃ l c : Nat, r.start = ⟨l, c⟩ ∧
          (o.flags.blankWanted = false →
            Text.slice c (c + t.length) (sheet.lines.getD l "") = t) ∧
          (o.flags.blankWanted = true → sheet.lines.getD l "" = "" ∧
            Text.slice c (c + t.length) (sheet.lines.getD (l + 1) "") = t) := by
  intro o ho t rest hbody
  obtain rfl : tree = .seq (children steps) :=
    Except.ok.inj (hfinish.symm.trans (finish_eq_children hrun hstay hitems))
  obtain ⟨n, pre, post, hn, hmark, hnbody, hmargin, hemissions⟩ := exists_node_of_mem_openings ho
  have hr : sheet.regions[o.number]? = some (n.region indentation names []) := by
    rw [Fragment.regions_toSheet hsheet, List.getElem?_map, hn]
    rfl
  refine ⟨n, _, hn, hr, hmark, ⟨_, hnbody, laid_settled _ _ _⟩, Stroke.breaks n.before,
    indentation.length * (n.before.foldl add {}).level.toNat, ?_, ?_⟩
  · have hopen : (n.before.foldl add {}).text = "" := hmargin
    rw [Node.region, List.nil_append, place, hopen]
    rfl
  obtain ⟨after, hafter⟩ := (Fragment.inOrder_nodes _).bounded n (List.mem_of_getElem? hn)
  obtain ⟨more, hmore⟩ := Move.exists_emittedAll_line o.flags t rest
  rw [Node.through, hnbody, Fragment.strokes_ofList, List.append_assoc, hbody, hmore] at hafter
  rw [hbody, hmore] at hemissions
  rw [Fragment.lines_of_toSheet hsheet, ← hafter]
  constructor
  · intro hblank
    rw [hblank]
    exact slice_text hmargin t _
  · intro hblank
    -- The blank line is followed by a line at the same level.
    have hchange : change steps (Emission.breaksOf pre) = 0 := by
      rw [change, hemissions, hblank]
      exact Emission.getD_changes_append pre _ 0
    obtain ⟨later, hlater⟩ : ∃ later, (settled (change steps) (Emission.breaksOf pre)
        ((if true then [.single .emptyLine] else []) ++ .single (.line (.text t)) :: more)).flatMap
          (Fragment.strokes names) ++ after =
        .lineBreak (change steps (Emission.breaksOf pre)) :: .text t :: later := ⟨_, rfl⟩
    rw [hblank, hlater, hchange]
    exact ⟨getD_linesOf_lineBreak hmargin 0 _, slice_text_after_lineBreak t later⟩

/-- A region with a blank line wanted before it, and one inside of it on a later line. -/
theorem region_starts_blank_line :
    let steps := [line [.str "a"], indent [requestBlank, region .plain [line [.str "b"],
      region (.issue "m") [line [.str "c"]]]]]
    let sheet : Sheet := ⟨["a", "", "\tb", "\tc"],
      [⟨.plain, ⟨1, 1⟩, ⟨4, 0⟩⟩, ⟨.issue "m", ⟨3, 1⟩, ⟨4, 0⟩⟩]⟩
    (runAll .empty steps .fresh).fault = none ∧
    (openings .empty steps).map (fun o => (o.number, o.mark, o.flags.blankWanted)) =
      [(0, .plain, true), (1, .issue "m", false)] ∧
    ∃ tree, (runAll .empty steps .fresh).state.builder.finish.2 = .ok tree ∧
      tree.toSheet .empty "\t" = .ok sheet ∧
      ∀ o ∈ openings .empty steps, ∀ t rest, o.body = moves (line [.str t]) ++ rest →
        ∃ n r, (tree.nodes .empty)[o.number]? = some n ∧ sheet.regions[o.number]? = some r ∧
          r.mark = o.mark ∧
          (∃ inside, n.body = .ofList inside ∧ Laid (Move.emittedAll o.flags o.body) inside) ∧
          ∃ l c : Nat, r.start = ⟨l, c⟩ ∧
            (o.flags.blankWanted = false →
              Text.slice c (c + t.length) (sheet.lines.getD l "") = t) ∧
            (o.flags.blankWanted = true → sheet.lines.getD l "" = "" ∧
              Text.slice c (c + t.length) (sheet.lines.getD (l + 1) "") = t) := by
  intro steps sheet
  have hrun : (runAll .empty steps .fresh).fault = none := by cbv
  have hstay : .divert ∉ actionsOf steps := by
    simp [steps, actionsOf, movesOf, moves, Move.actionsOf, Move.actions]
  have hitems : ∀ item ∈ itemsOf steps, item.pendings = [] := by
    have hlist : itemsOf steps = [.text "a", .text "b", .text "c"] := by cbv
    simp [hlist, Fragment.pendings, Fragment.leaves, Fragment.index?]
  have hfinish : (runAll .empty steps .fresh).state.builder.finish.2 =
      .ok (.seq [.text "a", .newline 1, .marked .plain (.seq [.newline 0, .text "b", .newline 0,
        .marked (.issue "m") (.seq [.text "c", .newline (-1)])])]) := by cbv
  have hsheet : (Fragment.seq [.text "a", .newline 1, .marked .plain (.seq [.newline 0, .text "b",
      .newline 0, .marked (.issue "m") (.seq [.text "c", .newline (-1)])])] : Tree).toSheet .empty
        "\t" = .ok sheet := by cbv
  exact ⟨hrun, by cbv, _, hfinish, hsheet, region_starts hrun hstay hitems hfinish hsheet⟩

/-- A blank line that was asked for before a region was opened is the first line of the region, so
that the region does not begin at its text. -/
theorem region_starts_at_blank_line :
    let steps := [line [.str "a"], requestBlank, region .plain [line [.str "b"]]]
    (runAll .empty steps .fresh).fault = none ∧ itemsOf steps = [.text "a", .text "b"] ∧
    ∃ tree sheet, (runAll .empty steps .fresh).state.builder.finish.2 = .ok tree ∧
      tree.toSheet .empty defaultIndentation = .ok sheet ∧ sheet.lines = ["a", "", "b"] ∧
      ∃ r ∈ sheet.regions, r.start = ⟨1, 0⟩ ∧
        Text.slice 0 (0 + "b".length) (sheet.lines.getD 1 "") ≠ "b" := by
  refine ⟨by cbv, by cbv, .seq [.text "a", .newline 0,
    .marked .plain (.seq [.newline 0, .text "b", .newline 0])],
    ⟨["a", "", "b"], [⟨.plain, ⟨1, 0⟩, ⟨3, 0⟩⟩]⟩, by cbv, by cbv, rfl, _,
    List.mem_singleton.mpr rfl, rfl, by decide⟩

end Step

end SourceLayout
