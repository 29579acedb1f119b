import SourceLayout.Proofs.Rendering.Assigning
import SourceLayout.Proofs.Template.Filling

/-! Templates of a renderer that only write variables.  What such a template gives depends on the
variables and on nothing else, be it the names that are assigned, the namespaces or earlier calls: it
is the literal texts with the texts of the variables between them. -/

namespace SourceLayout.Renderer

open Template (Slot Separated source filled selfName)

variable {μ γ : Type} {r : Renderer μ γ} {names : Assignment} {first : String} {slots : List Slot}

/-- A template that only writes variables is filled in with their texts, wherever it looks names
up. -/
theorem fill_source {w : World μ} {values : List (String × Value)} (hsource : Separated first slots)
    (hdistinct : (slots.map (·.name)).Nodup) (hvalues : (r.context names w).2 = .ok values)
    (hbound : ∀ slot ∈ slots, values.lookup slot.name = some (.str slot.value))
    (environment : Assignment) :
    (r.fill names environment (source first slots) w).2 =
      if values.any (·.1 = selfName) then .error (.reservedVariable selfName)
      else .ok (filled (Slot.last slots) first slots) := by
  rw [fill]
  simp only [hvalues, bind, Except.bind]
  exact Template.render_source hsource hdistinct hbound

/-- In every state of a renderer, a template that only writes variables gives its literal texts, in
which line breaks become LF, and between them the texts that distinct variables are bound to, as
they are.  Of variables whose names are forms of one word, the last gives its text for all of them;
if the names are forms of different words, each variable gives its own.  Where a variable has the
template's own name, or where the names cannot be assigned, the call fails for that reason. -/
theorem call_template_filled (r : Renderer μ γ) (s : State μ) (hsource : Separated first slots)
    (hdistinct : (slots.map (·.name)).Nodup) :
    (∀ names values, (r.assignNames s).2 = .ok names →
      (r.context names (r.assignNames s).1.world).2 = .ok values →
      (∀ slot ∈ slots, values.lookup slot.name = some (.str slot.value)) →
      (r.call s (.template (source first slots))).2.2 =
        if values.any (·.1 = selfName) then .error (.reservedVariable selfName)
        else .ok (.text (filled (Slot.last slots) first slots))) ∧
    ((slots.map fun slot => Text.wordForm slot.name).Nodup →
      filled (Slot.last slots) first slots = filled (·.value) first slots) ∧
    ∀ fault, (r.assignNames s).2 = .error fault →
      (r.call s (.template (source first slots))).2.2 = .error fault := by
  refine ⟨fun names values hnames hvalues hbound => ?_, Template.filled_last, fun fault hfault => ?_⟩
  · rw [call_template_of_assignNames (Prod.ext rfl hnames),
      fill_source hsource hdistinct hvalues hbound]
    split <;> rfl
  · rw [call_of_assignNames_eq_error rfl (Prod.ext rfl hfault)]

/-- Markup, braces, a line break at the end and template syntax in a value come out as they are, and
line breaks of the template as LF. -/
theorem call_template_filled_verbatim :
    let slots : List Slot := [⟨"x", "\x7b\x7b y \x7d\x7d\r\n", " &\n"⟩, ⟨"y", "<i>", "\x7b\r"⟩]
    let values : List (String × Value) := [("y", .str "<i>"), ("x", .str "\x7b\x7b y \x7d\x7d\r\n")]
    let r : Renderer Unit Unit :=
      { emitter := .fixed (.ok []) (fun _ => []) (some values), typeGraph := () }
    Separated "<b>\r\n " slots ∧ (slots.map (·.name)).Nodup ∧
    source "<b>\r\n " slots = "<b>\r\n \x7b\x7b x \x7d\x7d &\n\x7b\x7b y \x7d\x7d\x7b\r" ∧
    (r.call (.start ⟨.empty, ()⟩) (.template (source "<b>\r\n " slots))).2.2 =
      .ok (.text "<b>\n \x7b\x7b y \x7d\x7d\r\n &\n<i>\x7b\n") := by
  intro slots values r
  have hsource : Separated "<b>\r\n " slots :=
    { plain := by decide +kernel
      apart := by decide +kernel
      named := by decide +kernel }
  have hbound : ∀ slot ∈ slots, values.lookup slot.name = some (.str slot.value) :=
    List.forall_mem_cons.mpr ⟨rfl, List.forall_mem_singleton.mpr rfl⟩
  have htext : filled (·.value) "<b>\r\n " slots =
      "<b>\n \x7b\x7b y \x7d\x7d\r\n &\n<i>\x7b\n" := by decide +kernel
  obtain ⟨hcall, hforms, -⟩ :=
    r.call_template_filled (.start ⟨.empty, ()⟩) hsource (by decide)
  refine ⟨hsource, by decide, by decide +kernel, ?_⟩
  rw [hcall .empty values rfl rfl hbound, if_neg (by decide), hforms (by decide +kernel), htext]

/-- A ligature and its two letters are one word, and the last variable of that word gives its text
for both.  With a variable that has the template's own name no template is filled in, nor with names
that cannot be assigned. -/
theorem call_template_not_verbatim :
    let slots : List Slot := [⟨"ﬁ", "LIG", "|"⟩, ⟨"fi", "plain", ""⟩]
    let values : List (String × Value) := [("fi", .str "plain"), ("ﬁ", .str "LIG")]
    let r (values : List (String × Value)) : Renderer Unit Unit :=
      { emitter := .fixed (.ok [0]) (fun _ => []) (some values), typeGraph := () }
    let w : World Unit := ⟨⟨[{ label := "types" }]⟩, ()⟩
    let clash : World Unit :=
      ⟨⟨[{ label := "types", members := [⟨0, "a", true⟩, ⟨1, "a", true⟩] }]⟩, ()⟩
    let template := source "" slots
    template = "\x7b\x7b ﬁ \x7d\x7d|\x7b\x7b fi \x7d\x7d" ∧
    Separated "" slots ∧ (slots.map (·.name)).Nodup ∧ filled (·.value) "" slots = "LIG|plain" ∧
    (∀ slot ∈ slots, values.lookup slot.name = some (.str slot.value)) ∧
    ((r values).call (.start w) (.template template)).2.2 = .ok (.text "plain|plain") ∧
    ((r (("self", .str "me") :: values)).call (.start w) (.template template)).2.2 =
      .error (.reservedVariable "self") ∧
    ((r values).call (.start clash) (.template template)).2.2 =
      .error (.fixedClash "a" "types") := by
  intro slots values r w clash template
  have hsource : Separated "" slots :=
    { plain := by decide +kernel
      apart := by decide +kernel
      named := by decide +kernel }
  have hdistinct : (slots.map (·.name)).Nodup := by decide
  have hbound : ∀ slot ∈ slots, values.lookup slot.name = some (.str slot.value) :=
    List.forall_mem_cons.mpr ⟨rfl, List.forall_mem_singleton.mpr rfl⟩
  have hbound' : ∀ slot ∈ slots,
      (("self", Value.str "me") :: values).lookup slot.name = some (.str slot.value) :=
    List.forall_mem_cons.mpr ⟨rfl, List.forall_mem_singleton.mpr rfl⟩
  have hassign (values : List (String × Value)) :
      (r values).assignNames (.start w) = (((r values).assignNames (.start w)).1, .ok .empty) := rfl
  have htext : filled (Slot.last slots) "" slots = "plain|plain" := by decide +kernel
  refine ⟨by decide +kernel, hsource, hdistinct, by decide +kernel, hbound, ?_, ?_, rfl⟩
  · rw [call_template_of_assignNames (hassign _), fill_source hsource hdistinct rfl hbound,
      if_neg (by decide), htext]
    rfl
  · rw [call_template_of_assignNames (hassign _), fill_source hsource hdistinct rfl hbound',
      if_pos (by decide)]
    rfl

end SourceLayout.Renderer
