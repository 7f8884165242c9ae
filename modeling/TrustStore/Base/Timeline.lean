import Mathlib.Order.Defs.PartialOrder

/-!
# Names that are reused

Support library: over time, a name such as that of a process is held by one incarnation after
another, each for an interval of time. Each incarnation has a stamp that tells it from the others
with its name. Who samples the stamp of a name twice, and finds the same, knows who held the name
in between.
-/

namespace TrustStore.Base

universe u v w x

/-- Who holds which name at which time. A sample of a name that nobody holds is `absent`. -/
structure Timeline (ν : Type u) (T : Type v) (ι : Type w) (κ : Type x) [Preorder T] where
  holder : ν → T → Option ι
  stamp : ι → κ
  absent : κ
  interval : ∀ n a b c i, a ≤ b → b ≤ c →
    holder n a = some i → holder n c = some i → holder n b = some i
  stamp_inj : ∀ n a b i j,
    holder n a = some i → holder n b = some j → stamp i = stamp j → i = j
  stamp_ne_absent : ∀ n a b i, holder n a = some i → holder n b = none → stamp i ≠ absent

namespace Timeline

variable {ν : Type u} {T : Type v} {ι : Type w} {κ : Type x} [Preorder T]

/-- The stamp that is found under a name at a time. -/
def sample (timeline : Timeline ν T ι κ) (n : ν) (t : T) : κ :=
  match timeline.holder n t with
  | some i => timeline.stamp i
  | none => timeline.absent

/-- Whoever holds a name when a sample is taken holds it at every sample with the same outcome. -/
theorem holder_of_sample_eq (timeline : Timeline ν T ι κ) {n : ν} {a b : T} {i : ι}
    (h : timeline.sample n a = timeline.sample n b) (ha : timeline.holder n a = some i) :
    timeline.holder n b = some i := by
  simp only [sample, ha] at h
  cases hb : timeline.holder n b with
  | none =>
    rw [hb] at h
    exact absurd h (timeline.stamp_ne_absent n a b i ha hb)
  | some j =>
    rw [hb] at h
    rw [timeline.stamp_inj n a b i j ha hb h]

/-- Between two samples with the same outcome the holder does not change. -/
theorem holder_between (timeline : Timeline ν T ι κ) {n : ν} {a b c : T} {i : ι}
    (h : timeline.sample n a = timeline.sample n c) (hab : a ≤ b) (hbc : b ≤ c)
    (ha : timeline.holder n a = some i) : timeline.holder n b = some i :=
  timeline.interval n a b c i hab hbc ha (timeline.holder_of_sample_eq h ha)

end Timeline
end TrustStore.Base
