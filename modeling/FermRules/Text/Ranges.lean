/-! Character classes as sorted tables of code point ranges, both ends included. -/

namespace FermRules.Text

abbrev Ranges := List (Nat × Nat)

/-- Looks no further than the first range that ends at the point or beyond it. -/
def Ranges.contains : Ranges → Nat → Bool
  | [], _ => false
  | (first, last) :: rest, n => if n ≤ last then decide (first ≤ n) else Ranges.contains rest n

theorem Ranges.mem_of_contains {ranges : Ranges} {n : Nat} (h : ranges.contains n = true) :
    ∃ r ∈ ranges, r.1 ≤ n ∧ n ≤ r.2 := by
  induction ranges with
  | nil => simp [Ranges.contains] at h
  | cons r rest ih =>
    simp only [Ranges.contains] at h
    split at h
    next hlast => exact ⟨r, by simp, by simpa using h, hlast⟩
    next =>
      obtain ⟨s, hs, hb⟩ := ih h
      exact ⟨s, by simp [hs], hb⟩

end FermRules.Text
