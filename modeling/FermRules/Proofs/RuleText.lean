import FermRules.Proofs.ClauseText
import FermRules.Proofs.LegalReading
import FermRules.Proofs.StandardKeywords

/-! # Written rules are read back

The text of a legal rule is read as the rule, settled, and this is so too when
clauses stand in front of it. The clauses are taken one by one. Then no keyword
hides a target or an action, for these names belong to no keyword, so the action
is met, and behind a jump its parameters are taken in the same way. -/
namespace FermRules

open Reading

variable {registry : Registry}

namespace Action

/-- The action as it is read back. -/
def settled (a : Action) : Action := { a with params := a.params.map Clause.settled }

def targetTokens (registry : Registry) (target : String) : List Token :=
  if registry.isTarget target then [.word target] else [.word "jump", .written target]

/-- The tokens that an action is written as. -/
def tokens (registry : Registry) (a : Action) : List Token :=
  match a.kind with
  | .goto => [.word "goto", .written a.target]
  | .jump => targetTokens registry a.target ++ a.params.flatMap Clause.tokens

end Action

namespace LeafRule

/-- The rule as it is read back. -/
def settled (r : LeafRule) : LeafRule :=
  ⟨r.conditions.map Clause.settled, r.action.map Action.settled⟩

/-- The tokens of the conditions and of the action. -/
def parts (registry : Registry) (r : LeafRule) : List (List Token) :=
  r.conditions.map Clause.tokens ++ r.action.toList.map (Action.tokens registry)

/-- The tokens that a rule is written as. -/
def tokens (registry : Registry) (r : LeafRule) : List Token :=
  if (r.parts registry).isEmpty then [.word "NOP"] else (r.parts registry).flatten

theorem tokens_of_empty {r : LeafRule} (hconditions : r.conditions = []) (ha : r.action = none) :
    r.tokens registry = [.word "NOP"] := by
  simp [tokens, parts, hconditions, ha]

theorem tokens_of_conditions {r : LeafRule} (hconditions : r.conditions ≠ [])
    (ha : r.action = none) : r.tokens registry = r.conditions.flatMap Clause.tokens := by
  simp [tokens, parts, hconditions, ha, List.flatMap_def]

theorem tokens_of_action {r : LeafRule} {a : Action} (ha : r.action = some a) :
    r.tokens registry = r.conditions.flatMap Clause.tokens ++ a.tokens registry := by
  simp [tokens, parts, ha, List.flatMap_def]

end LeafRule

/-! ## Writing -/

/-- The action has a text, which spells its tokens and does not change when the
action is settled. -/
def Action.Written (registry : Registry) (a : Action) : Prop :=
  ∃ text, a.render registry = .ok text ∧ a.settled.render registry = .ok text ∧
    Spells text.toList (a.tokens registry) ∧ Text.Flush text

theorem spells_target {target : String} (h : Text.Over Value.noFeed target)
    (hword : registry.isTarget target = true → Spells target.toList [.word target]) :
    List.Forall₂ (fun w ts => Spells w.toList ts)
      (if registry.isTarget target then [target] else ["jump", Token.write target])
      ((Action.targetTokens registry target).map ([·])) := by
  have hjump := Token.spells_of_isOptionWord (w := "jump") (by decide)
  unfold Action.targetTokens
  split
  · rename_i ht
    exact .cons (hword ht) .nil
  · exact .cons hjump (.cons (Spells.write (Value.unbroken_of_over h)) .nil)

/-- A target that is written bare has to be a word. -/
theorem Action.written_of_params {a : Action} (h : Text.Over Value.noFeed a.target)
    (hword : registry.isTarget a.target = true →
      Spells a.target.toList [.word a.target] ∧ Text.Flush a.target)
    (hparams : ∀ c ∈ a.params, c.Written) : a.Written registry := by
  obtain ⟨kind, target, params⟩ := a
  cases kind with
  | goto =>
    have hgoto := Token.spells_of_isOptionWord (w := "goto") (by decide)
    have hwrite := Spells.write (Value.unbroken_of_over h)
    exact ⟨joinWords ["goto", Token.write target], rfl, rfl,
      Spells.joinWords (.cons hgoto (.cons hwrite .nil)),
      (Token.flush_of_isOptionWord (by decide)).joinWords _⟩
  | jump =>
    obtain ⟨texts, hrender, hsettled, hspells, _⟩ := spells_clauses hparams
    refine ⟨joinWords ((if registry.isTarget target then [target]
      else ["jump", Token.write target]) ++ texts), ?_, ?_, ?_, ?_⟩
    · simp only [Action.render, hrender]
      rfl
    · simp only [Action.render, Action.settled, hsettled]
      rfl
    · have := Spells.joinWords (List.rel_append (spells_target h fun ht => (hword ht).1) hspells)
      rw [List.flatten_append, ← List.flatMap_def, List.flatMap_singleton', ← List.flatMap_def]
        at this
      exact this
    · split
      · rename_i htarget
        exact (hword htarget).2.joinWords _
      · exact (Token.flush_of_isOptionWord (by decide)).joinWords _

theorem Action.Legal.written (hr : registry.Legible) {e : Known} {a : Action}
    (h : a.Legal registry e) : a.Written registry := by
  have hword : ∀ target, registry.isTarget target = true →
      Spells target.toList [.word target] ∧ Text.Flush target :=
    fun target ht => ⟨(hr.target target ht).spells, (hr.target target ht).flush⟩
  cases h with
  | goto ht => exact Action.written_of_params ht (hword _) (List.forall_mem_nil _)
  | jump ht hparams => exact Action.written_of_params ht (hword _) hparams.written

theorem LeafRule.render_of_words {r : LeafRule} {conditions action : List String}
    (hc : r.conditions.mapM Clause.render = .ok conditions)
    (ha : r.action.toList.mapM (Action.render registry) = .ok action) :
    r.render registry = .ok (joinWords
      (if (conditions ++ action).isEmpty then ["NOP"] else conditions ++ action) ++ ";") := by
  rw [LeafRule.render, hc, ok_bind]
  cases hr : r.action with
  | none =>
    rw [hr] at ha
    cases ha
    rfl
  | some a =>
    rw [hr, Option.toList_some, List.mapM_cons] at ha
    obtain ⟨text, htext, ha⟩ := bind_ok ha
    cases ha
    simp only [htext]
    rfl

theorem LeafRule.spells_action {r : LeafRule}
    (h : ∀ a, r.action = some a → a.Written registry) : ∃ texts,
      r.action.toList.mapM (Action.render registry) = .ok texts ∧
      r.settled.action.toList.mapM (Action.render registry) = .ok texts ∧
      List.Forall₂ (fun w ts => Spells w.toList ts) texts
        (r.action.toList.map (Action.tokens registry)) ∧
      ∀ t ∈ texts, Text.Flush t := by
  cases ha : r.action with
  | none => exact ⟨[], rfl, by simp [LeafRule.settled, ha]; rfl, .nil, nofun⟩
  | some a =>
    obtain ⟨text, hrender, hsettled, hspells, hflush⟩ := h a ha
    refine ⟨[text], ?_, ?_, .cons hspells .nil, by simpa using hflush⟩
    · rw [Option.toList_some, List.mapM_cons, hrender]
      rfl
    · rw [LeafRule.settled, ha, Option.map_some, Option.toList_some, List.mapM_cons, hsettled]
      rfl

/-- The text of a rule spells its tokens, and it does not change when the rule is
settled. -/
theorem LeafRule.spells_of_written {r : LeafRule} (hconditions : ∀ c ∈ r.conditions, c.Written)
    (haction : ∀ a, r.action = some a → a.Written registry) : ∃ text,
      r.render registry = .ok (text ++ ";") ∧ r.settled.render registry = .ok (text ++ ";") ∧
      Spells text.toList (r.tokens registry) ∧ Text.Flush text := by
  obtain ⟨conditions, hcs, hcset, hcspells, hcflush⟩ := spells_clauses hconditions
  obtain ⟨action, has, haset, haspells, haflush⟩ := LeafRule.spells_action haction
  have hwords := List.rel_append hcspells haspells
  refine ⟨_, LeafRule.render_of_words hcs has, LeafRule.render_of_words hcset haset, ?_, ?_⟩
  · have hempty : (r.parts registry).isEmpty = (conditions ++ action).isEmpty := by
      rw [Bool.eq_iff_iff, List.isEmpty_iff_length_eq_zero, List.isEmpty_iff_length_eq_zero,
        hwords.length_eq, LeafRule.parts]
    rw [LeafRule.tokens, hempty]
    split
    · exact Token.spells_of_isOptionWord (by decide)
    · exact Spells.joinWords hwords
  · have hflush := List.forall_mem_append.mpr ⟨hcflush, haflush⟩
    cases hall : conditions ++ action with
    | nil => exact Token.flush_of_isOptionWord (by decide)
    | cons word words => exact (hflush word (hall ▸ List.mem_cons_self)).joinWords words

theorem LeafRule.Legal.spells (hr : registry.Legible) {e : Known} {r : LeafRule}
    (h : r.Legal registry e) : ∃ text,
      r.render registry = .ok (text ++ ";") ∧ r.settled.render registry = .ok (text ++ ";") ∧
      Spells text.toList (r.tokens registry) ∧ Text.Flush text :=
  LeafRule.spells_of_written h.conditions.written fun a ha => (h.action a ha).written hr

/-! ## Reading -/

namespace Reading

theorem opening_target (hr : registry.Legible) {r : Reading} (hs : r.known.Sound registry)
    (ha : r.action = none) {target : String} (ht : registry.isTarget target = true) :
    r.opening registry (.word target) = .ok (.target target) := by
  obtain ⟨hfree, hkeys⟩ := hr.target_free target ht
  have hnone : r.scope target = none := hs.none hkeys
  simp only [Registry.reserved, List.mem_cons, List.not_mem_nil, or_false, not_or] at hfree
  rw [(hr.target target ht).opening_eq, hnone]
  simp [hfree.1, hfree.2.1, hfree.2.2.1, inTarget, ha, ht]

theorem opening_jump (hr : registry.Legible) {r : Reading} (hs : r.known.Sound registry) :
    r.opening registry (.word "jump") = .ok (.action .jump) := by
  have hnone : r.scope "jump" = none := hr.scope_reserved hs (by decide)
  rw [hr.calls_jump.opening_eq, hnone]
  rfl

theorem opening_goto (hr : registry.Legible) {r : Reading} (hs : r.known.Sound registry) :
    r.opening registry (.word "goto") = .ok (.action .goto) := by
  have hnone : r.scope "goto" = none := hr.scope_reserved hs (by decide)
  rw [hr.calls_goto.opening_eq, hnone]
  rfl

theorem opening_nop (hr : registry.Legible) {r : Reading} (hs : r.known.Sound registry)
    (hn : r.negated = false) : r.opening registry (.word "NOP") = .ok .nothing := by
  have hnone : r.scope "NOP" = none := hr.scope_reserved hs (by decide)
  have htarget : registry.isTarget "NOP" = false := by
    cases ht : registry.isTarget "NOP" with
    | false => rfl
    | true => exact absurd (by decide) (hr.target_free "NOP" ht).1
  rw [hr.calls_nop.opening_eq, hnone]
  simp [htarget, hn]

/-- An action is read from its name and its target. -/
theorem run_act {r : Reading} (hn : r.negated = false) (ha : r.action = none) (kind : ActionKind)
    (hopen : r.opening registry (.word kind.name) = .ok (.action kind)) (target : String)
    (rest : List Token) :
    r.run registry (.word kind.name :: .written target :: rest)
      = (r.withAction registry kind target).run registry rest := by
  rw [run_cons, step, hopen, ok_bind]
  simp only [Value.readWord_cons, ok_bind, Token.written_text, act_eq hn ha]
  rfl

/-- The target of a jump is read however it is written. -/
theorem run_target (hr : registry.Legible) {r : Reading} (hs : r.known.Sound registry)
    (hn : r.negated = false) (ha : r.action = none) {target : String} (rest : List Token) :
    r.run registry (Action.targetTokens registry target ++ rest)
      = (r.withAction registry .jump target).run registry rest := by
  unfold Action.targetTokens
  split
  · rename_i ht
    rw [List.singleton_append, run_cons, step, opening_target hr hs ha ht, ok_bind]
    simp only [act_eq hn ha]
    rfl
  · exact run_act hn ha .jump (opening_jump hr hs) target rest

theorem run_action (hr : registry.Legible) {r : Reading} (hs : r.known.Sound registry)
    (hn : r.negated = false) (ha : r.action = none) {a : Action} (h : a.Legal registry r.known) :
    ∃ last, r.run registry (a.tokens registry) = .ok last ∧
      last.finish = .ok ⟨r.conditions, some a.settled⟩ := by
  cases h with
  | @goto target ht =>
    have hrun : r.run registry [.word "goto", .written target]
        = .ok (r.withAction registry .goto target) :=
      (run_act hn ha .goto (opening_goto hr hs) target []).trans (run_nil _)
    exact ⟨_, hrun, by rw [finish, withAction, hn]; rfl⟩
  | @jump target params ht hparams =>
    have hnext : (r.withAction registry .jump target).negated = false := hn
    have hrun := run_clauses hr hnext hparams []
    rw [List.append_nil, run_nil] at hrun
    refine ⟨_, (run_target hr hs hn ha _).trans hrun, ?_⟩
    obtain ⟨scope, conditions, action, negated, protocols⟩ := r
    dsimp only at hn ha
    subst hn ha
    rfl

/-- Behind legal conditions the reader knows what they tell, and no action has
been met yet. -/
theorem run_conditions (hr : registry.Legible) {cs : List Clause}
    (h : LegalAll registry (.start registry) cs) : ∃ mid : Reading,
      (∀ rest, (start registry).run registry (cs.flatMap Clause.tokens ++ rest)
        = mid.run registry rest) ∧
      mid.known = (Known.start registry).afterAll registry cs ∧
      mid.negated = false ∧ mid.action = none ∧ mid.conditions = cs.map Clause.settled :=
  ⟨(start registry).takingAll registry cs, run_clauses hr rfl h, known_takingAll _ cs, rfl, rfl,
    rfl⟩

/-- A rule is read from its tokens if its conditions are read and its action is read behind
them. A rule that is empty has a word of its own, which opens nothing. -/
theorem run_parts {r written : LeafRule} {first mid : Reading} (front : List Token)
    (hconditions : ∀ rest, first.run registry
      (front ++ (r.conditions.flatMap Clause.tokens ++ rest)) = mid.run registry rest)
    (hnothing : r.conditions = [] → r.action = none →
      mid.opening registry (.word "NOP") = .ok .nothing)
    (hfinish : r.action = none → mid.finish = .ok written)
    (haction : ∀ a, r.action = some a → ∃ last,
      mid.run registry (a.tokens registry) = .ok last ∧ last.finish = .ok written) :
    ∃ last, first.run registry (front ++ r.tokens registry) = .ok last ∧
      last.finish = .ok written := by
  cases ha : r.action with
  | none =>
    refine ⟨mid, ?_, hfinish ha⟩
    by_cases hempty : r.conditions = []
    · have hnop := hconditions [.word "NOP"]
      rw [hempty, List.flatMap_nil, List.nil_append] at hnop
      rw [LeafRule.tokens_of_empty hempty ha, hnop, run_cons, step, hnothing hempty ha, ok_bind]
      exact run_nil mid
    · have hall := hconditions []
      rw [List.append_nil, run_nil] at hall
      rw [LeafRule.tokens_of_conditions hempty ha, hall]
  | some a =>
    obtain ⟨last, hlast, hread⟩ := haction a ha
    exact ⟨last, by rw [LeafRule.tokens_of_action ha, hconditions, hlast], hread⟩

/-- Reading the clauses in front of a rule and then the rule gives both. -/
theorem run_rule (hr : registry.Legible) {cs : List Clause} {r : LeafRule}
    (h : (r.underAll cs).Legal registry (.start registry)) : ∃ last,
      (start registry).run registry (cs.flatMap Clause.tokens ++ r.tokens registry) = .ok last ∧
      last.finish = .ok (r.underAll cs).settled := by
  obtain ⟨mid, hrun, hknown, hneg, hnone, hconditions⟩ := run_conditions hr h.conditions
  have hsound : mid.known.Sound registry := by
    rw [hknown]
    exact Known.sound_start.afterAll _
  simp only [LeafRule.underAll, List.flatMap_append, List.append_assoc] at hrun hknown hconditions
  refine run_parts _ hrun (fun _ _ => opening_nop hr hsound hneg) (fun ha => ?_) fun a ha => ?_
  · rw [finish, hneg, hconditions, hnone, LeafRule.settled, LeafRule.underAll, ha]
    rfl
  · have haction : a.Legal registry mid.known := by
      rw [hknown]
      exact h.action a ha
    obtain ⟨last, hlast, hfinish⟩ := run_action hr hsound hneg hnone haction
    refine ⟨last, hlast, ?_⟩
    rw [hfinish, hconditions, LeafRule.settled, LeafRule.underAll, ha]
    rfl

end Reading

/-! ## Statements -/

/-- A statement is read as the rule that its tokens are read as. -/
theorem LeafRule.ofText_of_run {text : String} {tokens : List Token} {last : Reading}
    {r : LeafRule} (h : Spells text.toList tokens)
    (hrun : (start registry).run registry tokens = .ok last) (hfinish : last.finish = .ok r) :
    ofText registry (text ++ ";") = .ok r := by
  obtain ⟨ts, hts, hdrop⟩ := h.terminated
  rw [ofText, hts]
  show (Reading.run registry _ _ >>= _) = _
  rw [hdrop, hrun, ok_bind, hfinish]

theorem joinWords_concat (words : List String) (text ending : String) :
    joinWords (words ++ [text ++ ending]) = joinWords (words ++ [text]) ++ ending := by
  induction words with
  | nil => rfl
  | cons word words ih =>
    obtain ⟨second, rest, hs⟩ :=
      List.exists_cons_of_ne_nil
      (List.append_ne_nil_of_right_ne_nil words (List.cons_ne_nil text []))
    obtain ⟨second', rest', hs'⟩ := List.exists_cons_of_ne_nil
      (List.append_ne_nil_of_right_ne_nil words (List.cons_ne_nil (text ++ ending) []))
    rw [List.cons_append, List.cons_append, hs, hs', joinWords, joinWords, ← hs, ← hs', ih]
    simp only [String.append_assoc]

/-- A written rule behind the texts of the clauses in front of it is read as the
rule with these clauses, settled. -/
theorem ofText_behind (hr : registry.Legible) {cs : List Clause} {r : LeafRule}
    (h : (r.underAll cs).Legal registry (.start registry)) {texts : List String} {text : String}
    (hcsText : cs.mapM Clause.render = .ok texts) (hrText : r.render registry = .ok text) :
    LeafRule.ofText registry (joinWords (texts ++ [text])) = .ok (r.underAll cs).settled := by
  obtain ⟨hcs, hrule⟩ := LeafRule.legal_underAll.mp h
  obtain ⟨texts', hrender, _, hspells, _⟩ := spells_clauses hcs.written
  obtain ⟨body, hbody, _, htextspells, _⟩ := hrule.spells hr
  obtain rfl := Except.ok.inj (hrender.symm.trans hcsText)
  obtain rfl := Except.ok.inj (hbody.symm.trans hrText)
  have hall := Spells.joinWords (List.rel_append hspells (.cons htextspells .nil))
  rw [List.flatten_append, ← List.flatMap_def, List.flatten_singleton] at hall
  obtain ⟨last, hrun, hfinish⟩ := run_rule hr h
  rw [joinWords_concat]
  exact LeafRule.ofText_of_run hall hrun hfinish

/-- A rule that was read from a line is written as a text from which it is read
again, settled, if each module that was left out is covered; and the settled
rule is written as the same text. -/
theorem ofText_render {text : String} {tokens : List Token} {r : LeafRule}
    (hline : Text.Unbroken text) (htokens : tokenize text = .ok tokens)
    (hread : LeafRule.ofTokens .standard tokens = .ok r)
    (hcovered : LeafRule.Covered .standard tokens) :
    ∃ written, r.render .standard = .ok written ∧
      LeafRule.ofText .standard written = .ok r.settled ∧
      r.settled.render .standard = .ok written := by
  have hr := Registry.legible_standard
  have hlegal := LeafRule.legal_of_text hr hline htokens hcovered hread
  have hunder : (r.underAll []).Legal .standard (.start .standard) := hlegal
  have hnil : ([] : List Clause).mapM Clause.render = .ok [] := rfl
  obtain ⟨body, hbody, hsettled, _⟩ := hlegal.spells hr
  have hagain := ofText_behind hr hunder hnil hbody
  rw [List.nil_append, joinWords, LeafRule.underAll_nil] at hagain
  exact ⟨_, hbody, hagain, hsettled⟩

def sshRule : LeafRule :=
  ⟨[⟨"protocol", .scalar "tcp", some (Keyword.scalar "protocol").negatable⟩,
    ⟨"destination-port", .list ["22"], some (Keyword.scalar "destination-port").negatable⟩],
    some ⟨.jump, "ACCEPT", []⟩⟩

/-- The module is left out here, and the port behind it is read again all the
same, as a scalar. -/
theorem ofText_render_ssh :
    LeafRule.ofText .standard "-p tcp -m tcp --dport (22) -j ACCEPT" = .ok sshRule ∧
    sshRule.render .standard = .ok "protocol tcp destination-port 22 ACCEPT;" ∧
    LeafRule.ofText .standard "protocol tcp destination-port 22 ACCEPT;" = .ok sshRule.settled := by
  have htokens : tokenize "-p tcp -m tcp --dport (22) -j ACCEPT"
      = .ok (["-p", "tcp", "-m", "tcp", "--dport", "(22)", "-j", "ACCEPT"].map .word) := by
    decide +kernel
  have hread : LeafRule.ofTokens .standard
      (["-p", "tcp", "-m", "tcp", "--dport", "(22)", "-j", "ACCEPT"].map .word)
      = .ok sshRule := by decide +kernel
  have hcovered : LeafRule.Covered .standard
      (["-p", "tcp", "-m", "tcp", "--dport", "(22)", "-j", "ACCEPT"].map .word) := by
    decide +kernel
  have hwritten : sshRule.render .standard = .ok "protocol tcp destination-port 22 ACCEPT;" := by
    decide +kernel
  obtain ⟨written, hrender, hagain, _⟩ := ofText_render (by decide +kernel) htokens hread hcovered
  obtain rfl := Except.ok.inj (hwritten.symm.trans hrender)
  refine ⟨?_, hwritten, hagain⟩
  rw [LeafRule.ofText, htokens]
  exact hread

end FermRules
