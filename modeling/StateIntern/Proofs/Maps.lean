import Std.Data.TreeMap

/-! Ordered maps whose keys are told apart by their order: what an insert changes for a look-up, and
how large a map is. -/
namespace StateIntern

variable {Key Value : Type} [Ord Key] [Std.TransOrd Key] [Std.LawfulEqOrd Key]

theorem getElem?_insert_eq [DecidableEq Key] (map : Std.TreeMap Key Value) (key : Key)
    (value : Value) (other : Key) :
    (map.insert key value)[other]? = if key = other then some value else map[other]? := by
  rw [Std.TreeMap.getElem?_insert]
  by_cases same : key = other
  · simp [same]
  · have different : compare key other ≠ .eq := fun equal =>
      same (Std.LawfulEqOrd.eq_of_compare equal)
    rw [if_neg different, if_neg same]

/-- A map is as large as a list that names each of its keys once. -/
theorem size_eq_length_of_mem_iff {map : Std.TreeMap Key Value} {keys : List Key}
    (distinct : keys.Nodup) (named : ∀ key, key ∈ map ↔ key ∈ keys) : map.size = keys.length := by
  have same : map.keys.Perm keys := by
    refine (List.perm_ext_iff_of_nodup Std.TreeMap.nodup_keys distinct).2 fun key => ?_
    rw [Std.TreeMap.mem_keys, named]
  rw [← Std.TreeMap.length_keys, same.length_eq]

end StateIntern
