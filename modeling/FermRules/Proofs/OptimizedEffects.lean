import FermRules.Proofs.Effects
import FermRules.Proofs.Origin
import FermRules.Proofs.StandardKeywords

/-! # Optimized rules take the same actions

If conditions of one keyword agree on whether they may hold an array, then the
keywords with such a condition tell of every condition whether it may, which is
what the two passes need. Rules that were read by the standard registry agree,
for a condition is read for a keyword of the tables, or it lists modules. -/
namespace FermRules

open Rule

/-- Conditions of one keyword agree on whether they are mergeable. -/
def MergingAgrees (rules : List LeafRule) : Prop :=
  ∀ r ∈ rules, ∀ s ∈ rules, ∀ c ∈ r.conditions, ∀ d ∈ s.conditions,
    c.keyword = d.keyword → c.mergeable = d.mergeable

instance (rules : List LeafRule) : Decidable (MergingAgrees rules) :=
  inferInstanceAs (Decidable (∀ r ∈ rules, ∀ s ∈ rules, ∀ c ∈ r.conditions, ∀ d ∈ s.conditions,
    c.keyword = d.keyword → c.mergeable = d.mergeable))

/-- The keywords that have a mergeable condition. -/
def mergeableKeyword (rules : List LeafRule) (keyword : String) : Bool :=
  rules.any (·.conditions.any fun c => c.keyword = keyword && c.mergeable)

theorem MergingAgrees.follows {rules : List LeafRule} (h : MergingAgrees rules) :
    Every (Clause.Follows (mergeableKeyword rules)) (rules.map leaf) := by
  intro c hc
  rw [clausesAll_map_leaf] at hc
  obtain ⟨r, hr, hc⟩ := List.mem_flatMap.mp hc
  rw [Clause.Follows, Bool.eq_iff_iff]
  simp only [mergeableKeyword, List.any_eq_true, Bool.and_eq_true, decide_eq_true_eq]
  constructor
  · exact fun hm => ⟨r, hr, c, hc, rfl, hm⟩
  · rintro ⟨s, hs, d, hd, hk, hm⟩
    rw [h r hr s hs c hc d hd hk.symm, hm]

theorem MergingAgrees.effects_optimize {rules : List LeafRule} (h : MergingAgrees rules)
    (holds : String → Value → Bool) :
    effects holds (optimize (rules.map leaf)) = effects holds (rules.map leaf) := by
  rw [optimize, effects_merge holds h.follows.factor, effects_factor holds h.follows]

/-! ## Rules that have been read -/

theorem mergingAgrees_of_read {rules : List LeafRule}
    (h : ∀ r ∈ rules, ∃ tokens, LeafRule.ofTokens .standard tokens = .ok r) :
    MergingAgrees rules := by
  have hread : ∀ r ∈ rules, ∀ c ∈ r.conditions,
      c.ReadFor (matchKeyword :: Registry.standard.conditionKeywords) := by
    intro r hr
    obtain ⟨tokens, htokens⟩ := h r hr
    exact (LeafRule.made_of_tokens (Clause.closed_readFor _) (Clause.closed_readFor _)
      (fun _ _ _ _ => trivial) htokens).1
  have hmatch : ∀ k ∈ Registry.standard.conditionKeywords, k.name ≠ matchKeyword.name :=
    fun k hk he => (Registry.legible_standard.keyword k
      (Registry.standard.condition_subset_keywords hk)).free (he ▸ by decide)
  intro r hr s hs c hc d hd hkey
  obtain ⟨k, hk, hck, hcn⟩ := hread r hr c hc
  obtain ⟨l, hl, hdl, hdn⟩ := hread s hs d hd
  have hn : k.name = l.name := hcn.symm.trans (hkey.trans hdn)
  have hm : k.mergeable = l.mergeable := by
    rcases List.mem_cons.mp hk with rfl | hk <;> rcases List.mem_cons.mp hl with rfl | hl
    · rfl
    · exact absurd hn.symm (hmatch l hl)
    · exact absurd hn (hmatch k hk)
    · exact Registry.mergeable_standard hk hl hn
  simp only [Clause.mergeable, hck, hdl, hm]

/-- Optimizing keeps the actions that rules take, whatever conditions hold, if
conditions of one keyword agree; and all rules that have been read do agree. -/
theorem optimize_keeps_effects (rules : List LeafRule) :
    (MergingAgrees rules → ∀ holds : String → Value → Bool,
      effects holds (optimize (rules.map leaf)) = effects holds (rules.map leaf)) ∧
    ((∀ r ∈ rules, ∃ tokens, LeafRule.ofTokens .standard tokens = .ok r) →
      MergingAgrees rules) :=
  ⟨fun h holds => h.effects_optimize holds, mergingAgrees_of_read⟩

def acceptProtocol (protocol : String) : LeafRule :=
  ⟨[⟨"protocol", .scalar protocol, some (Keyword.scalar "protocol").negatable⟩],
    some ⟨.jump, "ACCEPT", []⟩⟩

/-- Two rules that are read are merged, and the one rule still accepts what
either of them accepts. -/
theorem optimize_keeps_effects_tcp_udp :
    (∀ r ∈ [acceptProtocol "tcp", acceptProtocol "udp"],
      ∃ tokens, LeafRule.ofTokens .standard tokens = .ok r) ∧
    (optimize ([acceptProtocol "tcp", acceptProtocol "udp"].map leaf)).length = 1 ∧
    effects (fun _ v => v = .scalar "udp")
        (optimize ([acceptProtocol "tcp", acceptProtocol "udp"].map leaf))
      = [some ⟨.jump, "ACCEPT", []⟩] := by
  have htokens : ∀ r ∈ [acceptProtocol "tcp", acceptProtocol "udp"],
      ∃ tokens, LeafRule.ofTokens .standard tokens = .ok r := by
    simp only [List.forall_mem_cons]
    refine ⟨⟨["-p", "tcp", "-j", "ACCEPT"].map .word, ?_⟩,
      ⟨["-p", "udp", "-j", "ACCEPT"].map .word, ?_⟩, fun _ h => nomatch h⟩
    all_goals decide +kernel
  refine ⟨htokens, by decide, ?_⟩
  rw [(optimize_keeps_effects _).1 ((optimize_keeps_effects _).2 htokens)]
  decide

end FermRules
