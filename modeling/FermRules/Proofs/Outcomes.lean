import FermRules.Proofs.Handling
import FermRules.Proofs.MergeRuns
import FermRules.Proofs.Splitting
import FermRules.Proofs.StandardKeywords
import FermRules.Proofs.Walking

/-! # How a conversion may end

A conversion comes to the last line, or a fault ends it that is structural or one of
arity. Everything else that might go wrong on the way does not: a word that matches no
character, a token that is not there, a shape that nobody reads, the first condition
of a rule without conditions, and a value without a text. The last of these is a fault
of what is written; the others are steps of splitting, reading and optimizing that
have no result, and these have one whatever they are given. -/
namespace FermRules

theorem Registry.Standard.shape_ne_fixed_zero : ∀ k ∈ Registry.standard.keywords,
    k.shape ≠ .fixed 0 := by
  intro k hk hzero
  have hback := (Registry.legible_standard.keyword k hk).readsBack
  rw [hzero] at hback
  cases hback

theorem DumpFault.isFatal_iff (fault : DumpFault) :
    fault.isFatal = true ↔ fault.kind = .structural ∨ fault.kind = .arity := by
  unfold DumpFault.isFatal
  cases fault.kind <;> simp [FaultKind.isFatal]

namespace Conversion

variable {settings : Settings} {registry : Registry} {lines : List String}

theorem fault_isFatal {located : LocatedFault}
    (h : (ofLines settings registry lines).fault = some located) :
    located.fault.isFatal = true := by
  have hfault : (ofLines settings registry lines).fault
      = (run settings registry 1 {} lines).fault := rfl
  rw [hfault, run_eq] at h
  rcases hall : Context.handleAll settings registry 1 {} lines with ⟨⟨ctx, events⟩, found⟩
  rw [hall] at h
  cases found with
  | none => cases h
  | some found =>
    cases h
    obtain ⟨_, text, _, mid, _, last, -, -, hhandle, -⟩ := Context.handleAll_fatal hall
    obtain ⟨fault, -, hfatal, rfl⟩ := Context.handle_fatal_iff.mp (congrArg Prod.snd hhandle)
    exact hfatal

/-- A conversion ends with its last line or with a fault of one of two kinds, and all
that it has written has a text. Any text is split, any tokens are read and any rules
are optimized step by step without a step that fails, and what comes of it is what the
conversion goes on with. -/
theorem returns_or_fails (settings : Settings) (lines : List String) :
    ((ofLines settings .standard lines).fault = none ∨
      ∃ located, (ofLines settings .standard lines).fault = some located ∧
        (located.fault.kind = .structural ∨ located.fault.kind = .arity)) ∧
    ((ofLines settings .standard lines).written settings .standard).fault = none ∧
    (∀ text : String, Lexer.split text.toList.length text.toList = some (tokenize text)) ∧
    (∀ tokens, Walk.parse .standard tokens = some (LeafRule.ofTokens .standard tokens)) ∧
    ∀ rules, Rule.optimizeRuns rules = some (Rule.optimize rules) := by
  refine ⟨?_, written_ofLines settings .standard lines, Lexer.split_tokenize,
    Walk.parse_eq Registry.Standard.shape_ne_fixed_zero, Rule.optimizeRuns_eq⟩
  cases hfault : (ofLines settings .standard lines).fault with
  | none => exact .inl rfl
  | some located =>
    exact .inr ⟨located, rfl, (DumpFault.isFatal_iff _).mp (fault_isFatal hfault)⟩

end Conversion

end FermRules
