import SourceLayout.Proofs.Building.Moments
import SourceLayout.Proofs.Building.Supporting

/-! Blank lines between the bodies of a list.  Bodies that make no request of their own emit what
they would one after another, with an empty line more before the first content of some.  Bodies
without content pass a request on, and requests before any output are dropped. -/

namespace SourceLayout

namespace Step

/-- Some line of the program has a content. -/
def hasContent (steps : List Step) : Bool := (actionsOf steps).any Action.isContent

/-- The program writes a line, be it an empty one. -/
def hasWriting (steps : List Step) : Bool := (actionsOf steps).any Action.isWriting

/-- Whether an empty line is written before the first content of the body with the number `k`, on a
builder without a request that has output or has none. -/
def blankAt (hasOutput interposing leading : Bool) (bodies : List (List Step)) (k : Nat) : Bool :=
  hasContent (bodies.getD k []) &&
    match hasOutput, interposing, leading with
    | true, true, true => true
    | true, true, false => 0 < k
    | true, false, true => (bodies.take k).all (!hasContent ·)
    | false, true, _ => (bodies.take k).any hasWriting
    | _, false, false | false, false, _ => false

/-- How many empty lines are written so, over all bodies. -/
def blankCount (hasOutput interposing leading : Bool) (bodies : List (List Step)) : Nat :=
  match hasOutput, interposing, leading with
  | true, true, true => bodies.countP hasContent
  | true, true, false => bodies.tail.countP hasContent
  | true, false, true => if bodies.any hasContent then 1 else 0
  | false, true, _ => (bodies.dropWhile (!hasWriting ·)).tail.countP hasContent
  | _, false, false | false, false, _ => 0

end Step

namespace Emitted

mutual

/-- What is emitted, with an empty line before its first content. -/
def spaced : Emitted → List Emitted
  | .single (.line item) => [.single .emptyLine, .single (.line item)]
  | .single e => [.single e]
  | .region mark body => [.region mark (spacedAll body)]

/-- What is emitted, in order, with an empty line before its first content. -/
def spacedAll : List Emitted → List Emitted
  | [] => []
  | o :: os => if (itemsOf [o]).isEmpty then o :: spacedAll os else spaced o ++ os

end

theorem spacedAll_of_itemsOf {os : List Emitted} (h : itemsOf os = []) : spacedAll os = os := by
  induction os with
  | nil => rfl
  | cons o os ih =>
    have hsplit : itemsOf (o :: os) = itemsOf [o] ++ itemsOf os := itemsOf_append [o] os
    rw [hsplit, List.append_eq_nil_iff] at h
    rw [spacedAll, h.1, List.isEmpty_nil, if_pos rfl, ih h.2]

theorem spacedAll_append (os ps : List Emitted) :
    spacedAll (os ++ ps) =
      if (itemsOf os).isEmpty then os ++ spacedAll ps else spacedAll os ++ ps := by
  induction os with
  | nil => rfl
  | cons o os ih =>
    have hsplit : itemsOf (o :: os) = itemsOf [o] ++ itemsOf os := itemsOf_append [o] os
    rw [List.cons_append, spacedAll, spacedAll, ih, hsplit]
    cases itemsOf [o] with
    | nil => cases itemsOf os <;> rfl
    | cons item items => simp

end Emitted

/-! ### Bodies that make no request -/

namespace Move

variable {ms : List Move}

/-- Moves without a request emit the same whether there is output or not, if no blank line is
wanted. -/
theorem emittedAll_of_not_wanted (hquiet : .requestBlank ∉ actionsOf ms) (output : Bool) :
    emittedAll ⟨output, false⟩ ms = emittedAll {} ms ∧
      flagsAfterAll ⟨output, false⟩ ms =
        ⟨output || (actionsOf ms).any Action.isWriting, false⟩ := by
  induction ms using listInduction generalizing output with
  | nil => simp [emittedAll, flagsAfterAll, actionsOf]
  | act a ms ih =>
    rw [actionsOf, actions, List.mem_append, not_or, List.mem_singleton] at hquiet
    have hflags (flags : Bool) : a.flagsAfter ⟨flags, false⟩ = ⟨flags || a.isWriting, false⟩ := by
      cases a <;> simp_all [Action.flagsAfter, Action.isWriting]
    have hemissions : a.emissions ⟨output, false⟩ = a.emissions {} := by cases a <;> rfl
    obtain ⟨hrest, hafter⟩ := ih hquiet.2 (output || a.isWriting)
    obtain ⟨hplain, -⟩ := ih hquiet.2 (false || a.isWriting)
    rw [emittedAll, emittedAll, flagsAfterAll, flagsAfter, flagsAfter, emitted, emitted, hflags,
      hflags, hemissions, hrest, hplain, hafter, actionsOf, actions]
    simp [Bool.or_assoc]
  | region mark body ms ihBody ih =>
    rw [actionsOf, actions, List.mem_append, not_or] at hquiet
    obtain ⟨hbody, hbodyAfter⟩ := ihBody hquiet.1 output
    obtain ⟨-, hbodyPlain⟩ := ihBody hquiet.1 false
    obtain ⟨hrest, hafter⟩ := ih hquiet.2 (output || (actionsOf body).any Action.isWriting)
    obtain ⟨hplain, -⟩ := ih hquiet.2 (false || (actionsOf body).any Action.isWriting)
    rw [emittedAll, emittedAll, flagsAfterAll, flagsAfter, flagsAfter, emitted, emitted, hbody,
      hbodyAfter, hbodyPlain, hrest, hplain, hafter, actionsOf, actions, List.any_append,
      Bool.or_assoc]
    exact ⟨rfl, rfl⟩

theorem emittedAll_cons_of_not_wanted {m : Move} (hquiet : .requestBlank ∉ actionsOf (m :: ms)) :
    emittedAll {} (m :: ms) = emitted {} m ++ emittedAll {} ms := by
  rw [actionsOf, List.mem_append, not_or] at hquiet
  have hfirst : .requestBlank ∉ actionsOf [m] := by simpa [actionsOf] using hquiet.1
  have hflags : flagsAfter {} m = ⟨_, false⟩ := (emittedAll_of_not_wanted hfirst false).2
  rw [emittedAll, hflags, (emittedAll_of_not_wanted hquiet.2 _).1]

/-- Sound moves without content emit no item, and those with content do. -/
theorem isEmpty_itemsOf_emittedAll (flags : Flags) (hsound : ∀ a ∈ actionsOf ms, a.Sound) :
    (Emitted.itemsOf (emittedAll flags ms)).isEmpty = !(actionsOf ms).any Action.isContent := by
  rw [itemsOf_emittedAll]
  generalize actionsOf ms = as at hsound ⊢
  induction as with
  | nil => rfl
  | cons a as ih =>
    rw [List.forall_mem_cons] at hsound
    rw [List.any_cons, Bool.not_or, ← ih hsound.2]
    cases a with
    | line v =>
      obtain ⟨item, hitem⟩ := hsound.1
      simp [Action.item?, hitem, Except.toOption, Action.isContent]
    | emptyLine | requestBlank | shift _ | probe | divert | finish | write _ | fail _ => rfl

/-- Moves without a request emit an empty line before their first content, if a blank line is
wanted.  It is wanted still after moves without content. -/
theorem emittedAll_of_wanted (hquiet : .requestBlank ∉ actionsOf ms)
    (hsound : ∀ a ∈ actionsOf ms, a.Sound) :
    emittedAll ⟨true, true⟩ ms = Emitted.spacedAll (emittedAll {} ms) ∧
      flagsAfterAll ⟨true, true⟩ ms = ⟨true, !(actionsOf ms).any Action.isContent⟩ := by
  induction ms using listInduction with
  | nil => exact ⟨rfl, rfl⟩
  | act a ms ih =>
    rw [emittedAll_cons_of_not_wanted hquiet, emittedAll, flagsAfterAll, flagsAfter, emitted,
      emitted, Emitted.spacedAll_append]
    rw [actionsOf, actions, List.mem_append, not_or, List.mem_singleton] at hquiet
    rw [actionsOf, actions, List.forall_mem_append, List.forall_mem_singleton] at hsound
    obtain ⟨hrest, hafter⟩ := ih hquiet.2 hsound.2
    rw [actionsOf, actions, List.any_append]
    cases a with
    | line v =>
      obtain ⟨item, hitem⟩ := hsound.1
      obtain ⟨hplain, hplainAfter⟩ := emittedAll_of_not_wanted hquiet.2 true
      simp only [Action.emissions, hitem, Action.flagsAfter, hplain, hplainAfter]
      simp [Emitted.itemsOf, Emitted.flattenAll, Emitted.flatten, Emission.item?,
        Emitted.spacedAll, Emitted.spaced, Action.isContent]
    | requestBlank => exact absurd rfl hquiet.1
    | emptyLine | shift _ | probe | divert | finish | write _ | fail _ =>
      simp only [Action.flagsAfter, hrest, hafter]
      simp [Action.emissions, Emitted.itemsOf, Emitted.flattenAll, Emitted.flatten,
        Emission.item?, Action.isContent]
  | region mark body ms ihBody ih =>
    rw [emittedAll_cons_of_not_wanted hquiet, emittedAll, flagsAfterAll, flagsAfter, emitted,
      emitted]
    rw [actionsOf, actions, List.mem_append, not_or] at hquiet
    rw [actionsOf, actions, List.forall_mem_append] at hsound
    obtain ⟨hbody, hbodyAfter⟩ := ihBody hquiet.1 hsound.1
    have hitems : Emitted.itemsOf [.region mark (emittedAll {} body)] =
        Emitted.itemsOf (emittedAll {} body) := by
      rw [Emitted.itemsOf_region]
      exact List.append_nil _
    rw [actionsOf, actions, List.any_append, hbody, hbodyAfter, List.singleton_append,
      List.singleton_append, Emitted.spacedAll, hitems, isEmpty_itemsOf_emittedAll _ hsound.1]
    -- a region without content leaves the blank line to what follows it
    cases hcontent : (actionsOf body).any Action.isContent with
    | true =>
      obtain ⟨hrest, hafter⟩ := emittedAll_of_not_wanted hquiet.2 true
      exact ⟨congrArg (_ :: ·) hrest, hafter⟩
    | false =>
      have hnone : Emitted.itemsOf (emittedAll {} body) = [] := by
        rw [← List.isEmpty_iff, isEmpty_itemsOf_emittedAll _ hsound.1, hcontent]
        rfl
      obtain ⟨hrest, hafter⟩ := ih hquiet.2 hsound.2
      rw [Emitted.spacedAll_of_itemsOf hnone]
      exact ⟨congrArg (_ :: ·) hrest, hafter⟩

end Move

/-! ### Bodies after one another -/

namespace Step

variable {bodies : List (List Step)}

theorem mem_actionsOf_flatten {a : Action} :
    a ∈ actionsOf bodies.flatten ↔ ∃ body ∈ bodies, a ∈ actionsOf body := by
  induction bodies with
  | nil => simp [actionsOf, movesOf, Move.actionsOf]
  | cons body bodies ih =>
    have hsplit : actionsOf (body :: bodies).flatten =
        actionsOf body ++ actionsOf bodies.flatten := by
      rw [List.flatten_cons, actionsOf, movesOf_append, Move.actionsOf_append]
      rfl
    rw [hsplit, List.mem_append, ih, List.exists_mem_cons_iff]

/-- The bodies of a list act as they do by themselves, but for the requests between them. -/
theorem mem_actionsOf_movesOfEach {interposing wanted : Bool} {a : Action}
    (h : a ∈ Move.actionsOf (movesOfEach interposing wanted bodies)) :
    a = .requestBlank ∨ ∃ body ∈ bodies, a ∈ actionsOf body := by
  induction bodies generalizing wanted with
  | nil => cases h
  | cons body bodies ih =>
    rw [movesOfEach, Move.actionsOf_append, Move.actionsOf_append, List.mem_append,
      List.mem_append] at h
    rw [List.exists_mem_cons_iff]
    rcases h with h | h | h
    · cases wanted with
      | true => exact .inl (List.mem_singleton.mp h)
      | false => cases h
    · exact .inr (.inl h)
    · exact (ih h).imp_right .inr

/-- What bodies without requests emit one after another. -/
theorem emittedAll_flatten (hquiet : ∀ body ∈ bodies, .requestBlank ∉ actionsOf body)
    (output : Bool) :
    Move.emittedAll ⟨output, false⟩ (movesOf bodies.flatten) =
      (bodies.map emittedBy).flatten := by
  induction bodies generalizing output with
  | nil => rfl
  | cons body bodies ih =>
    rw [List.forall_mem_cons] at hquiet
    obtain ⟨hbody, hafter⟩ := Move.emittedAll_of_not_wanted hquiet.1 output
    rw [List.flatten_cons, movesOf_append, Move.emittedAll_append, hbody, hafter, ih hquiet.2]
    rfl

/-- Whether a blank line is wanted before the body with the number `k`, where `asked` tells it of
the first body. -/
def wantedAt (interposing asked hasOutput : Bool) (bodies : List (List Step)) : Nat → Bool
  | 0 => asked
  | k + 1 =>
    if interposing then hasOutput || (bodies.take (k + 1)).any hasWriting
    else asked && (bodies.take (k + 1)).all (!hasContent ·)

/-- What is wanted after the first body, from what is wanted when it was run. -/
theorem wantedAt_cons {interposing asked hasOutput : Bool}
    (hasked : asked = true → hasOutput = true) (body : List Step) (bodies : List (List Step))
    (k : Nat) :
    wantedAt interposing asked hasOutput (body :: bodies) (k + 1) =
      wantedAt interposing
        (asked && !hasContent body || interposing && (hasOutput || hasWriting body))
        (hasOutput || hasWriting body) bodies k := by
  cases k with
  | zero => cases interposing <;> cases asked <;> simp_all [wantedAt]
  | succ k => cases interposing <;> simp [wantedAt, Bool.or_assoc, Bool.and_assoc]

/-- A blank line that is still wanted after a body was wanted before it, when there was output. -/
theorem output_of_still_wanted {asked hasOutput : Bool} (hasked : asked = true → hasOutput = true)
    {body : List Step} (h : (asked && !hasContent body) = true) :
    (hasOutput || hasWriting body) = true := by
  rw [Bool.and_eq_true] at h
  exact Bool.or_eq_true_iff.mpr (.inl (hasked h.1))

/-- What bodies without requests emit with requests between them. -/
theorem emittedAll_movesOfEach {interposing wanted : Bool} {flags : Flags}
    (hquiet : ∀ body ∈ bodies, .requestBlank ∉ actionsOf body)
    (hsound : ∀ body ∈ bodies, ∀ a ∈ actionsOf body, a.Sound)
    (hflags : flags.blankWanted = true → flags.hasOutput = true) :
    Move.emittedAll flags (movesOfEach interposing wanted bodies) =
      (bodies.mapIdx fun k body =>
        if wantedAt interposing (flags.blankWanted || wanted && flags.hasOutput) flags.hasOutput
          bodies k then Emitted.spacedAll (emittedBy body) else emittedBy body).flatten := by
  induction bodies generalizing wanted flags with
  | nil => rfl
  | cons body bodies ih =>
    rw [List.forall_mem_cons] at hquiet hsound
    obtain ⟨output, pending⟩ := flags
    -- the first body is run with a blank line wanted that was pending or is asked for here
    set asked := (pending || wanted && output) with hasked
    have hout : asked = true → output = true := by
      cases output <;> simp_all
    have hrequest (request : List Move) (h : request = if wanted then [.act .requestBlank] else []) :
        Move.emittedAll ⟨output, pending⟩ request = [] ∧
          Move.flagsAfterAll ⟨output, pending⟩ request = ⟨output, asked⟩ := by
      subst h
      cases wanted <;> cases output <;> simp [hasked] <;> exact ⟨rfl, rfl⟩
    obtain ⟨hnothing, hheard⟩ := hrequest _ rfl
    have hbody : Move.emittedAll ⟨output, asked⟩ (movesOf body) =
          (if asked then Emitted.spacedAll (emittedBy body) else emittedBy body) ∧
        Move.flagsAfterAll ⟨output, asked⟩ (movesOf body) =
          ⟨output || hasWriting body, asked && !hasContent body⟩ := by
      cases hwanted : asked with
      | true =>
        rw [hout hwanted]
        exact Move.emittedAll_of_wanted hquiet.1 hsound.1
      | false => exact Move.emittedAll_of_not_wanted hquiet.1 output
    rw [movesOfEach, Move.emittedAll_append, Move.emittedAll_append, hnothing, hheard, hbody.1,
      hbody.2, List.nil_append, List.mapIdx_cons, List.flatten_cons]
    congr 1
    rw [ih hquiet.2 hsound.2]
    · simp only [wantedAt_cons hout]
    · exact output_of_still_wanted hout

/-- An empty line is written where a blank line is wanted and a content takes it along. -/
theorem blankAt_eq (hasOutput interposing leading : Bool) (bodies : List (List Step)) (k : Nat) :
    blankAt hasOutput interposing leading bodies k =
      (hasContent (bodies.getD k []) &&
        wantedAt interposing (leading && hasOutput) hasOutput bodies k) := by
  cases k <;> cases hasOutput <;> cases interposing <;> cases leading <;>
    simp [blankAt, wantedAt]

/-- How often a content takes a wanted blank line along. -/
def takenCount (interposing asked hasOutput : Bool) (bodies : List (List Step)) : Nat :=
  (List.range bodies.length).countP fun k =>
    hasContent (bodies.getD k []) && wantedAt interposing asked hasOutput bodies k

theorem takenCount_cons {interposing asked hasOutput : Bool}
    (hasked : asked = true → hasOutput = true) (body : List Step) (bodies : List (List Step)) :
    takenCount interposing asked hasOutput (body :: bodies) =
      takenCount interposing
          (asked && !hasContent body || interposing && (hasOutput || hasWriting body))
          (hasOutput || hasWriting body) bodies +
        if hasContent body && asked then 1 else 0 := by
  rw [takenCount, takenCount, List.length_cons, List.range_succ_eq_map, List.countP_cons,
    List.countP_map]
  simp only [Function.comp_def, Nat.succ_eq_add_one, wantedAt_cons hasked, List.getD_cons_succ,
    List.getD_cons_zero]
  rfl

theorem takenCount_of_all (bodies : List (List Step)) :
    takenCount true true true bodies = bodies.countP hasContent := by
  induction bodies with
  | nil => rfl
  | cons body bodies ih =>
    rw [takenCount_cons fun _ => rfl, List.countP_cons, ← ih]
    simp

theorem takenCount_of_first {asked hasOutput : Bool} (hasked : asked = true → hasOutput = true)
    (bodies : List (List Step)) :
    takenCount false asked hasOutput bodies =
      if asked && bodies.any hasContent then 1 else 0 := by
  induction bodies generalizing asked hasOutput with
  | nil => cases asked <;> rfl
  | cons body bodies ih =>
    rw [takenCount_cons hasked, Bool.false_and, Bool.or_false, ih (output_of_still_wanted hasked)]
    cases asked <;> cases hcontent : hasContent body <;> simp [hcontent]

theorem takenCount_of_none (bodies : List (List Step)) :
    takenCount true false false bodies =
      (bodies.dropWhile (!hasWriting ·)).tail.countP hasContent := by
  induction bodies with
  | nil => rfl
  | cons body bodies ih =>
    rw [takenCount_cons id, List.dropWhile_cons]
    cases hasWriting body with
    | true => simp [takenCount_of_all]
    | false => simpa using ih

/-- The empty lines are as many as are counted. -/
theorem countP_blankAt (hasOutput interposing leading : Bool) (bodies : List (List Step)) :
    (List.range bodies.length).countP (blankAt hasOutput interposing leading bodies) =
      blankCount hasOutput interposing leading bodies := by
  rw [funext (blankAt_eq hasOutput interposing leading bodies)]
  show takenCount interposing (leading && hasOutput) hasOutput bodies = _
  match hasOutput, interposing, leading with
  | true, true, true => exact takenCount_of_all bodies
  | true, true, false =>
    cases bodies with
    | nil => rfl
    | cons body bodies =>
      rw [takenCount_cons fun _ => rfl]
      simp [takenCount_of_all, blankCount]
  | true, false, true | true, false, false | false, false, true | false, false, false =>
    simp [takenCount_of_first, blankCount]
  | false, true, true | false, true, false => exact takenCount_of_none bodies

/-- Bodies without requests emit an empty line more before the first content of some. -/
theorem emittedAll_each (interposing leading : Bool) {flags : Flags}
    (hquiet : ∀ body ∈ bodies, .requestBlank ∉ actionsOf body)
    (hsound : ∀ body ∈ bodies, ∀ a ∈ actionsOf body, a.Sound)
    (hwanted : flags.blankWanted = false) :
    Move.emittedAll flags (movesOfEach interposing leading bodies) =
      (bodies.mapIdx fun k body =>
        if blankAt flags.hasOutput interposing leading bodies k
          then Emitted.spacedAll (emittedBy body) else emittedBy body).flatten := by
  have hflags : flags.blankWanted = true → flags.hasOutput = true := by simp [hwanted]
  rw [emittedAll_movesOfEach hquiet hsound hflags, hwanted, Bool.false_or]
  congr 1
  rw [List.mapIdx_eq_mapIdx_iff]
  intro k hk
  have hbody : bodies.getD k [] = bodies[k] := List.getD_eq_getElem _ _ hk
  have hempty := Move.isEmpty_itemsOf_emittedAll {} (hsound bodies[k] (List.getElem_mem hk))
  rw [blankAt_eq, hbody]
  cases hcontent : hasContent bodies[k] with
  | true => rw [Bool.true_and]
  | false =>
    have hnone : Emitted.itemsOf (emittedBy bodies[k]) = [] := by
      rw [← List.isEmpty_iff]
      exact hempty.trans (congrArg (!·) hcontent)
    rw [Emitted.spacedAll_of_itemsOf hnone, ite_self, ite_self]

end Step

namespace Emission

theorem breaksOf_spacedAll (os : List Emitted) :
    breaksOf (Emitted.flattenAll (Emitted.spacedAll os)) =
      breaksOf (Emitted.flattenAll os) + if (Emitted.itemsOf os).isEmpty then 0 else 1 := by
  induction os using Emitted.listInduction with
  | nil => rfl
  | single e os ih =>
    cases e with
    | line item =>
      show breaksOf (.emptyLine :: .line item :: Emitted.flattenAll os) =
        breaksOf (.line item :: Emitted.flattenAll os) + 1
      rw [breaksOf_cons, Nat.add_comm]
      rfl
    | emptyLine | shift _ =>
      show breaksOf (_ :: Emitted.flattenAll (Emitted.spacedAll os)) =
        breaksOf (_ :: Emitted.flattenAll os) + if (Emitted.itemsOf os).isEmpty then 0 else 1
      rw [breaksOf_cons, breaksOf_cons, ih, Nat.add_assoc]
  | region mark body os ihBody ih =>
    have hnil : Emitted.itemsOf [] = [] := rfl
    rw [Emitted.spacedAll, Emitted.itemsOf_region, Emitted.itemsOf_region, hnil, List.append_nil,
      Emitted.flattenAll, Emitted.flatten, breaksOf_append]
    cases hitems : Emitted.itemsOf body with
    | nil =>
      rw [List.isEmpty_nil, if_pos rfl, List.nil_append, Emitted.flattenAll, Emitted.flatten,
        breaksOf_append, ih, Nat.add_assoc]
    | cons item items =>
      rw [hitems] at ihBody
      simp only [List.cons_append, List.isEmpty_cons, Bool.false_eq_true, if_false] at ihBody ⊢
      rw [Emitted.spaced, List.singleton_append, Emitted.flattenAll, Emitted.flatten,
        breaksOf_append, ihBody]
      omega

end Emission

namespace Step

variable {bodies : List (List Step)}

/-- Each empty line before the first content of a body is one line break more. -/
theorem breaksOf_bodies (hsound : ∀ body ∈ bodies, ∀ a ∈ actionsOf body, a.Sound)
    (blank : Nat → Bool) (hcontent : ∀ k, blank k = true → hasContent (bodies.getD k []) = true) :
    Emission.breaksOf (Emitted.flattenAll (bodies.mapIdx fun k body =>
        if blank k then Emitted.spacedAll (emittedBy body) else emittedBy body).flatten) =
      Emission.breaksOf (Emitted.flattenAll (bodies.map emittedBy).flatten) +
        (List.range bodies.length).countP blank := by
  induction bodies generalizing blank with
  | nil => rfl
  | cons body bodies ih =>
    rw [List.forall_mem_cons] at hsound
    have hrest := ih hsound.2 (fun k => blank (k + 1)) fun k => hcontent (k + 1)
    have hfirst : Emission.breaksOf (Emitted.flattenAll
          (if blank 0 then Emitted.spacedAll (emittedBy body) else emittedBy body)) =
        Emission.breaksOf (Emitted.flattenAll (emittedBy body)) + if blank 0 then 1 else 0 := by
      have hempty := Move.isEmpty_itemsOf_emittedAll {} hsound.1
      cases hblank : blank 0 with
      | false => rfl
      | true =>
        have hitems : (Emitted.itemsOf (emittedBy body)).isEmpty = false :=
          hempty.trans (congrArg (!·) (hcontent 0 hblank))
        rw [if_pos rfl, if_pos rfl, Emission.breaksOf_spacedAll, hitems]
        rfl
    rw [List.mapIdx_cons, List.flatten_cons, Emitted.flattenAll_append, Emission.breaksOf_append,
      hfirst, hrest, List.map_cons, List.flatten_cons, Emitted.flattenAll_append,
      Emission.breaksOf_append, List.length_cons, List.range_succ_eq_map, List.countP_cons,
      List.countP_map]
    simp only [Function.comp_def, Nat.succ_eq_add_one]
    omega

/-- Bodies that fail nowhere one after another and make no request of their own fail nowhere with
blank lines between them either, on any builder on which no blank line is wanted, as it never is
without output.  They emit the same but for one empty line before the first content of some: with
interposing and leading blank lines of every body, with interposing ones of every body but the first,
with a leading one of the first body that has a content.  Without output there is none up to the end
of the first body that writes a line, and none at all for a leading blank line only.  A list with a
choice of blank lines does the same. -/
theorem each_spaced {names : Assignment} (interposing leading : Bool) {s : Session}
    (hrun : (runAll names bodies.flatten s).fault = none)
    (hbuilding : ∀ body ∈ bodies, ∀ a ∈ actionsOf body, a.isBuilding = true)
    (hquiet : ∀ body ∈ bodies, .requestBlank ∉ actionsOf body)
    (hwanted : s.builder.blankWanted = false) :
    let plain := (runAll names bodies.flatten s).state.builder
    let spaced := (each interposing leading bodies).run names s
    let blank := blankAt s.builder.hasOutput interposing leading bodies
    spaced.fault = none ∧
    Grows s.builder (bodies.map emittedBy).flatten plain.flags plain ∧
    Grows s.builder (bodies.mapIdx fun k body =>
        if blank k then Emitted.spacedAll (emittedBy body) else emittedBy body).flatten
      spaced.state.builder.flags spaced.state.builder ∧
    spaced.state.builder.arena.size =
      plain.arena.size + blankCount s.builder.hasOutput interposing leading bodies ∧
    ∀ value b, BlankLines.ofValue value = .ok b → b.isInterposing = interposing →
      b.isLeading = leading → (eachAt value bodies).run names s = spaced := by
  intro plain spaced blank
  have hfault : spaced.fault = none := fault_runEach hbuilding interposing leading (.refl _) hrun
  have hflags : s.builder.flags = ⟨s.builder.hasOutput, false⟩ := by rw [Builder.flags, hwanted]
  have hsound : ∀ body ∈ bodies, ∀ a ∈ actionsOf body, a.Sound := by
    rw [runAll_eq_runAll_moves] at hrun
    exact fun body hbody a ha =>
      Move.sound_of_run hrun a (mem_actionsOf_flatten.mpr ⟨body, hbody, ha⟩)
  have hstay : ∀ body ∈ bodies, .divert ∉ actionsOf body := fun body hbody =>
    Action.divert_notMem_of_isBuilding (hbuilding body hbody)
  have hplain : Grows s.builder (bodies.map emittedBy).flatten plain.flags plain := by
    have hnone : .divert ∉ Move.actionsOf (movesOf bodies.flatten) := fun hmem =>
      let ⟨body, hbody, h⟩ := mem_actionsOf_flatten.mp hmem
      hstay body hbody h
    rw [← emittedAll_flatten hquiet s.builder.hasOutput, ← hflags]
    simp only [plain, runAll_eq_runAll_moves] at hrun ⊢
    have hgrows := Grows.moves hnone hrun
    rwa [← hgrows.flags] at hgrows
  have hgrows : Grows s.builder (bodies.mapIdx fun k body =>
        if blank k then Emitted.spacedAll (emittedBy body) else emittedBy body).flatten
      spaced.state.builder.flags spaced.state.builder := by
    have hnone : .divert ∉ Move.actionsOf (movesOfEach interposing leading bodies) := by
      intro hmem
      rcases mem_actionsOf_movesOfEach hmem with h | ⟨body, hbody, h⟩
      · cases h
      · exact hstay body hbody h
    have hspaced : spaced = Move.runAll names (movesOfEach interposing leading bodies) s :=
      runEach_eq_runAll_moves names interposing leading bodies s
    rw [hspaced] at hfault
    have hmoves := Grows.moves hnone hfault
    rwa [← hspaced, ← hmoves.flags,
      emittedAll_each interposing leading hquiet hsound hwanted] at hmoves
  have hcontent (k : Nat) (hk : blank k = true) : hasContent (bodies.getD k []) = true :=
    (Bool.and_eq_true_iff.mp hk).1
  refine ⟨hfault, hplain, hgrows, ?_, ?_⟩
  · rw [hplain.arena, hgrows.arena, Emission.size_foldl_onArena, Emission.size_foldl_onArena,
      breaksOf_bodies hsound blank hcontent, countP_blankAt, Nat.add_assoc]
  · rintro value b hvalue rfl rfl
    rw [run, hvalue]
    rfl

/-- Bodies that write nothing or an empty line only pass a request on, and the empty line stands
before the content itself, inside the region.  A request before any output is dropped. -/
theorem each_spaced_passed_on :
    let start := (runAll .empty [line [.str "a"]] .fresh).state
    let bodies := [[region .plain [line [.str "b"]]], [line []], [region .plain []],
      [shift 1, region (.issue "m") [line [], line [.str "c"]]], [line [.str "d"]]]
    let passed := (each true false bodies).run .empty start
    let bare := [[region .plain []], [line []], [line [.str "e"]]]
    let empty := (runAll .empty [requestBlank, region .plain []] .fresh).state
    let first := (eachAt (.str "leading-and-interposing") bare).run .empty empty
    (passed.fault = none ∧
      Grows start.builder ([.region .plain [.single (.line (.text "b"))], .single .emptyLine,
        .region .plain [], .single (.shift 1), .region (.issue "m") [.single .emptyLine,
          .single .emptyLine, .single (.line (.text "c"))],
        .single .emptyLine, .single (.line (.text "d"))] : List Emitted)
        passed.state.builder.flags passed.state.builder) ∧
    first.fault = none ∧
      Grows empty.builder ([.region .plain [], .single .emptyLine, .single .emptyLine,
        .single (.line (.text "e"))] : List Emitted)
        first.state.builder.flags first.state.builder := by
  intro start bodies passed bare empty first
  have hstart : (runAll .empty bodies.flatten start).fault = none := by cbv
  have hbare : (runAll .empty bare.flatten empty).fault = none := by cbv
  have hactions : ∀ body ∈ bodies ++ bare, ∀ a ∈ actionsOf body,
      a.isBuilding = true ∧ a ≠ .requestBlank := by
    simp [bodies, bare, actionsOf, movesOf, moves, Move.actionsOf, Move.actions, Action.isBuilding]
  rw [List.forall_mem_append] at hactions
  have hpassed := each_spaced true false hstart
    (fun body hbody a ha => (hactions.1 body hbody a ha).1)
    (fun body hbody hmem => (hactions.1 body hbody _ hmem).2 rfl) rfl
  have hfirst := each_spaced true true hbare
    (fun body hbody a ha => (hactions.2 body hbody a ha).1)
    (fun body hbody hmem => (hactions.2 body hbody _ hmem).2 rfl)
    (not_wanted_of_isEmpty (by cbv) (by cbv))
  have hpassedEmitted : (bodies.mapIdx fun k body =>
      if blankAt start.builder.hasOutput true false bodies k
        then Emitted.spacedAll (emittedBy body) else emittedBy body).flatten =
      ([.region .plain [.single (.line (.text "b"))], .single .emptyLine,
        .region .plain [], .single (.shift 1), .region (.issue "m") [.single .emptyLine,
          .single .emptyLine, .single (.line (.text "c"))],
        .single .emptyLine, .single (.line (.text "d"))] : List Emitted) := by cbv
  have hfirstEmitted : (bare.mapIdx fun k body =>
      if blankAt empty.builder.hasOutput true true bare k
        then Emitted.spacedAll (emittedBy body) else emittedBy body).flatten =
      ([.region .plain [], .single .emptyLine, .single .emptyLine,
        .single (.line (.text "e"))] : List Emitted) := by cbv
  have hvalue : (each true true bare).run .empty empty = first :=
    (hfirst.2.2.2.2 (.str "leading-and-interposing") .leadingAndInterposing rfl rfl rfl).symm
  have hbodies : (each true false bodies).run .empty start = passed := rfl
  obtain ⟨hfault, -, hgrows, -, -⟩ := hpassed
  obtain ⟨hfirstFault, -, hfirstGrows, -, -⟩ := hfirst
  rw [hpassedEmitted, hbodies] at hgrows
  rw [hfirstEmitted, hvalue] at hfirstGrows
  rw [hbodies] at hfault
  rw [hvalue] at hfirstFault
  exact ⟨⟨hfault, hgrows⟩, hfirstFault, hfirstGrows⟩

end Step

end SourceLayout
