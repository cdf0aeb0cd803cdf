import FermRules.Proofs.Continuing
import FermRules.Proofs.LegalReading
import FermRules.Proofs.StandardKeywords

/-! # Modules that a protocol implies

A module is left out of a rule if a protocol that the rule declares goes with
it. That loses nothing where the protocol has brought the keywords of the module
along and they are still in scope, so up to a jump: then the rule is read as if
the module had not been named. Neither of the two conditions may be dropped. The
test is for the name of the module alone, and so a module is also left out whose
keywords nothing else brings along. -/
namespace FermRules

namespace Reading

variable {registry : Registry}

/-! ## What is known up to a jump -/

/-- The conditions tell which protocols have been declared, and the scope finds
all keywords that these bring along. -/
structure Informed (registry : Registry) (r : Reading) : Prop where
  protocols : r.protocols = r.conditions.flatMap Clause.declares
  declared : Declared registry r.known

theorem informed_start : (start registry).Informed registry := ⟨rfl, fun _ hp => nomatch hp⟩

/-- A clause goes on the list, and what is known changes by one that declares the
same protocols. -/
theorem Informed.tell (hr : registry.Legible) {r : Reading} (h : r.Informed registry)
    (hin : r.inTarget = false) {c d : Clause} (hd : c.declares = d.declares) :
    ((r.inform (r.known.after registry c)).push d).Informed registry := by
  have hprotocols : (r.inform (r.known.after registry c)).protocols
      = r.protocols ++ c.declares := rfl
  have hafter := h.declared.after hr c
  constructor
  · rw [push_protocols, push_conditions (by simpa using hin), Clause.declares_push, hprotocols,
      h.protocols, hd]
    rfl
  · intro p hp k hk
    have hp' : p ∈ (r.known.after registry c).protocols := by
      have hmem : p ∈ ((r.inform (r.known.after registry c)).push d).protocols := hp
      rwa [push_protocols] at hmem
    show (((r.inform (r.known.after registry c)).push d).scope).Holds k
    rw [push_scope]
    exact hafter p hp' k hk

/-- Modules declare no protocols, so what is known may also change by their
keywords alone. -/
theorem Informed.activate (hr : registry.Legible) {r : Reading} (h : r.Informed registry)
    (names : List String) : (r.activate registry names).Informed registry := by
  have hafter := h.declared.after hr ⟨"match", .list names, some matchKeyword⟩
  rw [Known.after_match] at hafter
  exact ⟨h.protocols, hafter⟩

theorem Informed.modules (hr : registry.Legible) {r : Reading} (h : r.Informed registry)
    (hin : r.inTarget = false) (names : List String) :
    (r.addModules registry names).Informed registry := by
  rw [addModules_eq]
  split
  · exact h.activate hr names
  · rw [activate_eq r names (some matchKeyword)]
    refine h.tell hr hin ?_
    rw [Clause.declares_match rfl, Clause.declares_match rfl]

theorem Informed.option (hr : registry.Legible) {r : Reading} (h : r.Informed registry)
    (hin : r.inTarget = false) {k : Keyword} (hk : k ∈ registry.keywords) (p : Polarity)
    (v : Value) :
    ((r.learn registry k p v).push ⟨k.name, p.wrap v, some k⟩).Informed registry := by
  have hne : k.name ≠ "match" := fun he =>
    (hr.keyword k hk).free (by simp [he, Registry.reserved])
  rw [learn_eq r hne]
  exact h.tell hr hin rfl

theorem Informed.steps (hr : registry.Legible) {r r' : Reading} (hsound : r.Sound registry)
    (h : r.inTarget = false → r.Informed registry) {t : Token} {tokens rest : List Token}
    (hs : Steps registry r t tokens r' rest) : r'.inTarget = false → r'.Informed registry := by
  cases hs with
  | negation =>
    intro hin
    have hr := h hin
    exact ⟨hr.protocols, hr.declared⟩
  | @option k p v _ hk =>
    intro hin
    rw [push_inTarget, learn_inTarget] at hin
    have hunmarked : Informed registry { r with negated := false } :=
      ⟨(h hin).protocols, (h hin).declared⟩
    exact hunmarked.option hr hin (hsound.keyword hk).2 p v
  | @modules names =>
    intro hin
    have hfront : r.inTarget = false := by
      rw [addModules_eq] at hin
      split at hin
      · exact hin
      · rwa [push_inTarget] at hin
    exact (h hfront).modules hr hfront names
  | @action kind target _ _ ha =>
    intro hin
    have hfront : r.inTarget = false := by simp [inTarget, ha]
    cases kind with
    | jump => cases hin
    | goto => exact ⟨(h hfront).protocols, (h hfront).declared⟩
  | nothing => exact h

theorem run_informed (hr : registry.Legible) {tokens : List Token} {last : Reading}
    (h : (start registry).run registry tokens = .ok last) (hin : last.inTarget = false) :
    last.Informed registry := by
  have hlast := run_induction (P := fun r _ =>
      r.Sound registry ∧ (r.inTarget = false → r.Informed registry)) ?_
    ⟨sound_start, fun _ => informed_start⟩ h
  · exact hlast.2 hin
  · intro r t tokens r' rest ⟨hsound, hinformed⟩ hstep
    have hs := steps_of_step hstep
    exact ⟨hsound.steps hs, Informed.steps hr hsound hinformed hs⟩

/-! ## Reading a module that is covered -/

/-- Modules that are left out and covered leave the reading as it is. -/
theorem Informed.addModules_covered (hr : registry.Legible) {r : Reading}
    (h : r.Informed registry) {names : List String}
    (himplied : ∀ name ∈ names, name ∈ r.protocols.map registry.moduleForProtocol)
    (hcovers : ∀ name ∈ names, r.Covers registry name) :
    r.addModules registry names = r := by
  have hkept : r.kept registry names = [] := by
    refine List.filter_eq_nil_iff.mpr fun name hn => ?_
    simpa using himplied name hn
  have hscope : r.scope.extendAll (names.map registry.moduleKeywords) = r.scope := by
    rw [@extendAll_filter _ hr r.scope _ h.declared names (fun _ => false)
      fun name hn _ => (hcovers name hn).2, List.filter_false]
    rfl
  rw [addModules_eq, if_pos hkept, Reading.activate, hscope]

/-- The word of one module, which is no array and no list of several. -/
theorem readList_module (option : String) {m : String} (hcomma : ',' ∉ m.toList)
    (hopens : '(' ∉ m.toList) (rest : List Token) :
    Value.readList option (.word m :: rest) = .ok ([m], rest) := by
  have harray : Value.opensArray (.word m) = false := by
    have hhead : m.toList.head? ≠ some '(' := fun hhead => hopens (List.mem_of_mem_head? hhead)
    rw [Value.opensArray, Token.startsWith, Token.word, Bool.not_false, Bool.true_and]
    exact decide_eq_false hhead
  have hsplit : m.toList.splitOn ',' = [m.toList] := by
    rw [List.splitOn_eq_splitOnP]
    refine List.splitOnP_eq_singleton fun c hc => ?_
    have hne : c ≠ ',' := fun he => hcomma (he ▸ hc)
    simpa using hne
  rw [Value.readList, Value.readWord_cons, ok_bind]
  dsimp only
  rw [if_neg (by simp [harray]), if_neg (by simp [Token.word])]
  simp only [Token.word, hsplit, List.map_cons, List.map_nil, String.ofList_toList]
  rfl

theorem opening_match (hr : registry.Legible) {t : Token} (hmark : t.isNegation = false)
    (hquoted : t.quoted = false) (hname : optionName registry t.text = "match") {r : Reading}
    (hsound : r.Sound registry) : r.opening registry t = .ok .modules := by
  have hnone : r.scope "match" = none :=
    hr.scope_reserved (fun name k hk => hsound.keyword hk) (by decide)
  rw [opening, hmark, if_neg (by simp), if_neg (by simp [hquoted]), hname]
  simp [hnone]

/-- The option that names a module is read, and it leaves no trace. -/
theorem Informed.run_covered (hr : registry.Legible) {r : Reading} (hsound : r.Sound registry)
    (h : r.Informed registry) (hnegated : r.negated = false) {w m : String}
    (hw : (Token.word w).isNegation = false) (hname : optionName registry w = "match")
    (hcomma : ',' ∉ m.toList) (hopens : '(' ∉ m.toList)
    (himplied : m ∈ r.protocols.map registry.moduleForProtocol)
    (hcovers : r.Covers registry m) (rest : List Token) :
    r.run registry (.word w :: .word m :: rest) = r.run registry rest := by
  have hopening := opening_match hr hw rfl hname hsound
  have hstep : r.step registry (.word w) (.word m :: rest) = .ok (r, rest) := by
    rw [step, hopening, ok_bind]
    dsimp only [readModules]
    rw [hnegated, if_neg (by simp), readList_module _ hcomma hopens, ok_bind]
    dsimp only
    rw [h.addModules_covered hr (by simpa using himplied) (by simpa using hcovers)]
    rfl
  rw [run_cons, hstep, ok_bind]

end Reading

namespace LeafRule

/-- A module is redundant behind options that declare a protocol it goes with, if
none of them is a jump and the protocol brings its keywords along. -/
theorem ofTokens_covered {registry : Registry} (hr : registry.Legible) {front back : List Token}
    {rule : LeafRule} (hfront : ofTokens registry front = .ok rule)
    (hend : ∀ t, front.getLast? = some t → t.endsWith ';' = false)
    (hjump : ∀ a, rule.action = some a → a.kind ≠ .jump) {w m p : String}
    (hw : (Token.word w).isNegation = false) (hname : Reading.optionName registry w = "match")
    (hcomma : ',' ∉ m.toList) (hopens : '(' ∉ m.toList)
    (hsemi : back = [] → m.toList.getLast? ≠ some ';')
    (hdeclares : p ∈ rule.conditions.flatMap Clause.declares)
    (hmodule : registry.moduleForProtocol p = m)
    (hcovers : ∀ k ∈ registry.moduleKeywords m, k ∈ registry.protocolKeywords p) :
    ofTokens registry (front ++ [.word w, .word m] ++ back)
      = ofTokens registry (front ++ back) := by
  obtain ⟨last, hrun, hnegated, rfl⟩ := ofTokens_ok.mp hfront
  rw [dropTerminator_of_last hend] at hrun
  have hin : last.inTarget = false := by
    unfold Reading.inTarget
    split
    · rename_i a ha
      simpa using hjump a ha
    · rfl
  have hinformed := Reading.run_informed hr hrun hin
  have hsound := Reading.sound_start.run hrun
  have hp : p ∈ last.protocols := by
    rw [hinformed.protocols]
    exact hdeclares
  have hdrop : dropTerminator ([.word w, .word m] ++ back)
      = [.word w, .word m] ++ dropTerminator back := by
    refine dropTerminator_append fun hnil t ht => ?_
    obtain rfl : Token.word m = t := by simpa using ht
    rw [Token.endsWith, Token.word, Bool.not_false, Bool.true_and]
    exact decide_eq_false (hsemi hnil)
  have hmore : dropTerminator (front ++ ([.word w, .word m] ++ back))
      = front ++ dropTerminator ([.word w, .word m] ++ back) :=
    dropTerminator_append fun hnil => by simp at hnil
  have hback : dropTerminator (front ++ back) = front ++ dropTerminator back :=
    dropTerminator_append fun _ => hend
  have hcovered := hinformed.run_covered hr hsound hnegated hw hname hcomma
    hopens (hmodule ▸ List.mem_map_of_mem hp) ⟨hin, p, hp, hcovers⟩ (dropTerminator back)
  unfold ofTokens
  rw [List.append_assoc, hmore, hdrop, hback,
    Reading.run_append hr Reading.sound_start hrun, Reading.run_append hr Reading.sound_start hrun]
  exact congrArg (· >>= Reading.finish) hcovered

end LeafRule

/-! ## The standard registry -/

/-- A protocol that brings keywords along brings those of the module it goes with. -/
theorem Registry.standard_protocols_cover : ∀ t ∈ standard.protocols,
    ∀ k ∈ standard.moduleKeywords ((standard.protocolModules.lookup t.1).getD t.1), k ∈ t.2 := by
  decide +kernel

theorem Registry.standard_covers {p : String} (hp : standard.protocolKeywords p ≠ []) :
    ∀ k ∈ standard.moduleKeywords (standard.moduleForProtocol p),
      k ∈ standard.protocolKeywords p := by
  unfold protocolKeywords at hp ⊢
  cases hl : standard.protocols.lookup (Text.lowercase p) with
  | none =>
    rw [hl] at hp
    exact absurd rfl hp
  | some table =>
    obtain ⟨before, behind, heq, _⟩ := List.lookup_eq_some_iff.mp hl
    exact standard_protocols_cover (Text.lowercase p, table) (by simp [heq])

/-- Naming a module behind its protocol changes nothing, if the protocol has
keywords of its own or the module has none. -/
theorem ofTokens_redundant_module {front back : List Token} {rule : LeafRule} {p m : String}
    (hfront : LeafRule.ofTokens .standard front = .ok rule)
    (hend : ∀ t, front.getLast? = some t → t.endsWith ';' = false)
    (hjump : ∀ a, rule.action = some a → a.kind ≠ .jump)
    (hdeclares : p ∈ rule.conditions.flatMap Clause.declares)
    (hmodule : m = Registry.standard.moduleForProtocol p)
    (hword : ',' ∉ m.toList ∧ '(' ∉ m.toList ∧ (back = [] → m.toList.getLast? ≠ some ';'))
    (hknown : Registry.standard.protocolKeywords p ≠ [] ∨ Registry.standard.moduleKeywords m = []) :
    LeafRule.ofTokens .standard (front ++ [.word "-m", .word m] ++ back)
      = LeafRule.ofTokens .standard (front ++ back) := by
  obtain ⟨hcomma, hopens, hsemi⟩ := hword
  have hname : Reading.optionName .standard "-m" = "match" := by decide +kernel
  refine LeafRule.ofTokens_covered Registry.legible_standard hfront hend hjump (by decide) hname
    hcomma hopens hsemi hdeclares hmodule.symm ?_
  intro k hk
  rcases hknown with hknown | hnone
  · rw [hmodule] at hk
    exact Registry.standard_covers hknown k hk
  · rw [hnone] at hk
    cases hk

def tcpCondition : Clause := ⟨"protocol", .scalar "tcp", some (Keyword.scalar "protocol").negatable⟩

theorem ofTokens_redundant_module_tcp :
    LeafRule.ofTokens .standard [Token.word "-p", .word "tcp"] = .ok ⟨[tcpCondition], none⟩ ∧
    LeafRule.ofTokens .standard
        ([Token.word "-p", .word "tcp"] ++ [Token.word "-m", .word "tcp"]
          ++ [Token.word "--dport", .word "22", .word "-j", .word "ACCEPT"])
      = LeafRule.ofTokens .standard
        ([Token.word "-p", .word "tcp"]
          ++ [Token.word "--dport", .word "22", .word "-j", .word "ACCEPT"]) := by
  have hfront : LeafRule.ofTokens .standard [Token.word "-p", .word "tcp"]
      = .ok ⟨[tcpCondition], none⟩ := by decide +kernel
  refine ⟨hfront, ?_⟩
  refine ofTokens_redundant_module (p := "tcp") hfront ?_ nofun ?_ ?_ ?_ (.inl ?_)
  · intro t ht
    cases ht
    decide
  · decide
  · decide +kernel
  · exact ⟨by decide, by decide, nofun⟩
  · decide +kernel

/-- The protocol `esp` goes with a module, and has no keywords of its own. Behind
a jump the keywords of a protocol are out of scope, while the test for its
module goes on. -/
theorem module_not_redundant :
    Registry.standard.moduleForProtocol "esp" = "esp" ∧
    LeafRule.ofTokens .standard
        ([Token.word "-p", .word "esp"] ++ [Token.word "-m", .word "esp"]
          ++ [Token.word "--espspi", .word "500"])
      = .ok ⟨[⟨"protocol", .scalar "esp", some (Keyword.scalar "protocol").negatable⟩,
          ⟨"espspi", .scalar "500", some (Keyword.scalar "espspi").negatable⟩], none⟩ ∧
    LeafRule.ofTokens .standard
        ([Token.word "-p", .word "esp"] ++ [Token.word "--espspi", .word "500"])
      = .error (.unknownOption "--espspi") ∧
    LeafRule.ofTokens .standard
        ([Token.word "-p", .word "tcp", .word "-j", .word "ACCEPT"]
          ++ [Token.word "-m", .word "tcp"] ++ [Token.word "--dport", .word "22"])
      = .ok ⟨[tcpCondition], some ⟨.jump, "ACCEPT", [⟨"destination-port", .scalar "22",
          some (Keyword.scalar "destination-port").negatable⟩]⟩⟩ ∧
    LeafRule.ofTokens .standard
        ([Token.word "-p", .word "tcp", .word "-j", .word "ACCEPT"]
          ++ [Token.word "--dport", .word "22"])
      = .error (.unknownOption "--dport") := by
  refine ⟨?_, ?_, ?_, ?_, ?_⟩ <;> decide +kernel

end FermRules
