import Mathlib.Algebra.Ring.Nat
import Mathlib.Data.List.Nodup
import StateIntern.Proofs.ByteOrder

/-! Tallies of handles. However the handles come, their tally has one row for each key, in the order
of keys, and the numbers of the rows are how often the keys came. -/
namespace StateIntern

variable {State : Type}

namespace Handle

variable {f g h : Handle State}

theorem order_lt_trans (first : f.order g = .lt) (second : g.order h = .lt) :
    f.order h = .lt := by
  rw [order_eq_lt_iff] at first second ⊢
  revert first second
  cases f.key? <;> cases g.key? <;> cases h.key? <;>
    simp only [Option.map_none, Option.map_some, Option.some_lt_some, Option.not_lt_none,
      Option.none_lt_some, false_implies, implies_true]
  exact List.lt_trans

theorem equal_congr (same : f.key? = g.key?) : f.equal h = g.equal h := by
  rw [equal, equal, same]

end Handle

namespace Tally

variable {tally : Tally State} {g h : Handle State} {hs : List (Handle State)}

/-- The handles that stand for the keys. -/
def handles (tally : Tally State) : List (Handle State) := tally.map (·.1)

/-- How often the key of a handle came up. -/
def count (tally : Tally State) (h : Handle State) : Nat :=
  (tally.map fun row => if row.1.equal h then row.2 else 0).sum

def total (tally : Tally State) : Nat := (tally.map (·.2)).sum

/-- The rows are in the order of handles, with one row for each key. -/
def Ascending (tally : Tally State) : Prop := tally.handles.Pairwise (·.order · = .lt)

theorem mem_handles_add (member : g ∈ (tally.add h).handles) : g = h ∨ g ∈ tally.handles := by
  induction tally with
  | nil => exact .inl (by simpa [add, handles] using member)
  | cons row rest ih =>
    obtain ⟨first, visits⟩ := row
    simp only [add, handles] at member ih ⊢
    cases order : h.order first <;> simp only [order, List.map_cons, List.mem_cons] at member ⊢
    · exact member
    · exact .inr member
    · rcases member with same | later
      · exact .inr (.inl same)
      · exact (ih later).imp_right .inr

theorem exists_handle_add {key? : Option String} :
    (∃ g ∈ (tally.add h).handles, g.key? = key?) ↔
      h.key? = key? ∨ ∃ g ∈ tally.handles, g.key? = key? := by
  induction tally with
  | nil => simp [add, handles]
  | cons row rest ih =>
    obtain ⟨first, visits⟩ := row
    simp only [add, handles] at ih ⊢
    cases order : h.order first <;> simp only [List.map_cons, List.exists_mem_cons_iff]
    · rw [Handle.order_eq_eq_iff] at order
      rw [order, ← or_assoc, or_self]
    · rw [ih, or_left_comm]

theorem total_add : (tally.add h).total = tally.total + 1 := by
  induction tally with
  | nil => rfl
  | cons row rest ih =>
    obtain ⟨first, visits⟩ := row
    simp only [add, total] at ih ⊢
    cases h.order first <;> simp only [List.map_cons, List.sum_cons] <;> omega

theorem count_add : (tally.add h).count g = tally.count g + if h.equal g then 1 else 0 := by
  induction tally with
  | nil => by_cases same : h.equal g <;> simp [add, count, same]
  | cons row rest ih =>
    obtain ⟨first, visits⟩ := row
    simp only [add, count] at ih ⊢
    cases order : h.order first <;> simp only [List.map_cons, List.sum_cons]
    · exact Nat.add_comm ..
    · rw [Handle.equal_congr (Handle.order_eq_eq_iff.1 order)]
      split_ifs
      · exact Nat.add_right_comm ..
      · rfl
    · omega

theorem Ascending.add (ascending : tally.Ascending) : (tally.add h).Ascending := by
  induction tally with
  | nil => exact List.pairwise_singleton _ _
  | cons row rest ih =>
    obtain ⟨first, visits⟩ := row
    obtain ⟨lowest, tail⟩ := List.pairwise_cons.1 ascending
    rw [Tally.add]
    cases order : h.order first with
    | lt =>
      refine List.pairwise_cons.2 ⟨fun g member => ?_, ascending⟩
      rcases List.mem_cons.1 member with rfl | later
      · exact order
      · exact Handle.order_lt_trans order (lowest g later)
    | eq => exact ascending
    | gt =>
      refine List.pairwise_cons.2 ⟨fun g member => ?_, ih tail⟩
      rcases mem_handles_add member with rfl | later
      · exact Handle.order_eq_lt_iff.2 (Handle.order_eq_gt_iff.1 order)
      · exact lowest g later

/-- What the tally of a list of handles has in it. -/
structure Counts (hs : List (Handle State)) (tally : Tally State) : Prop where
  ascending : tally.Ascending
  given : ∀ g ∈ tally.handles, g ∈ hs
  known : ∀ h ∈ hs, ∃ g ∈ tally.handles, g.key? = h.key?
  count : ∀ h, tally.count h = hs.countP (·.equal h)
  total : tally.total = hs.length

theorem Counts.add (counts : Counts hs tally) : Counts (hs ++ [h]) (tally.add h) where
  ascending := counts.ascending.add
  given g member := by
    rcases mem_handles_add member with rfl | old
    · simp
    · exact List.mem_append_left _ (counts.given g old)
  known g member := by
    rw [exists_handle_add]
    rcases List.mem_append.1 member with old | new
    · exact .inr (counts.known g old)
    · rw [List.mem_singleton.1 new]
      exact .inl rfl
  count g := by
    rw [count_add, counts.count, List.countP_append, List.countP_singleton]
  total := by
    rw [total_add, counts.total, List.length_append, List.length_singleton]

theorem counts_ofList (hs : List (Handle State)) : Counts hs (ofList hs) := by
  have all (more before : List (Handle State)) (tally : Tally State)
      (counts : Counts before tally) :
      Counts (before ++ more) (more.foldl (fun tally h => tally.add h) tally) := by
    induction more generalizing before tally with
    | nil => simpa using counts
    | cons h rest ih => simpa using ih _ _ (counts.add (h := h))
  exact all hs [] [] ⟨.nil, nofun, nofun, fun _ => rfl, rfl⟩

theorem Ascending.nodup (ascending : tally.Ascending) : tally.Nodup := by
  refine List.Nodup.of_map Prod.fst (List.Pairwise.imp (fun {g h} less same => ?_) ascending)
  rw [same, Handle.order_eq_eq_iff.2 rfl] at less
  contradiction

theorem Ascending.count (ascending : tally.Ascending) {row : Handle State × Nat}
    (member : row ∈ tally) : tally.count row.1 = row.2 := by
  induction tally with
  | nil => contradiction
  | cons first rest ih =>
    obtain ⟨lowest, tail⟩ := List.pairwise_cons.1 ascending
    have apart {r : Handle State × Nat} (later : r ∈ rest) : first.1.key? ≠ r.1.key? := by
      intro same
      have less := lowest r.1 (List.mem_map_of_mem later)
      rw [Handle.order_eq_eq_iff.2 same] at less
      contradiction
    rw [Tally.count, List.map_cons, List.sum_cons]
    rcases List.mem_cons.1 member with rfl | later
    · have none : (rest.map fun r => if r.1.equal row.1 then r.2 else 0).sum = 0 := by
        refine List.sum_eq_zero_iff_forall_eq_nat.2 fun visits counted => ?_
        obtain ⟨r, later, rfl⟩ := List.mem_map.1 counted
        exact if_neg fun same => apart later (Handle.equal_iff.1 same).symm
      rw [none, if_pos (Handle.equal_iff.2 rfl), Nat.add_zero]
    · rw [if_neg fun same => apart later (Handle.equal_iff.1 same), Nat.zero_add]
      exact ih tail later

/-- Where every key has one handle, the rows are the handles that came, with how often they did. -/
theorem Counts.mem_iff (counts : Counts hs tally)
    (unique : ∀ g ∈ hs, ∀ h ∈ hs, g.key? = h.key? → g = h) {row : Handle State × Nat} :
    row ∈ tally ↔ row.1 ∈ hs ∧ row.2 = hs.countP (·.equal row.1) := by
  constructor
  · intro member
    refine ⟨counts.given _ (List.mem_map_of_mem member), ?_⟩
    rw [← counts.count, counts.ascending.count member]
  · rintro ⟨came, counted⟩
    obtain ⟨g, listed, same⟩ := counts.known row.1 came
    obtain ⟨own, member, rfl⟩ := List.mem_map.1 listed
    have handle := unique _ (counts.given _ listed) _ came same
    have visits := counts.ascending.count member
    rw [counts.count, handle, ← counted] at visits
    rwa [← Prod.ext handle visits.symm]

end Tally

end StateIntern
