import StateIntern.Variable
import StateIntern.Text.Quoted

/-! Finite sets of variables, listed in ascending order. -/
namespace StateIntern

structure VarSet where
  toList : List Var
  ascending : toList.Pairwise (· < ·)
  deriving DecidableEq

namespace VarSet

def empty : VarSet := ⟨[], .nil⟩

instance : Membership Var VarSet := ⟨fun s v => v ∈ s.toList⟩

instance (v : Var) (s : VarSet) : Decidable (v ∈ s) :=
  inferInstanceAs (Decidable (v ∈ s.toList))

def insertOrdered (v : Var) : List Var → List Var
  | [] => [v]
  | w :: rest => if v < w then v :: w :: rest
    else if v = w then w :: rest else w :: insertOrdered v rest

theorem mem_insertOrdered {v w : Var} {vars : List Var} :
    w ∈ insertOrdered v vars ↔ w = v ∨ w ∈ vars := by
  induction vars with
  | nil => simp [insertOrdered]
  | cons u rest ih =>
    simp only [insertOrdered]
    split
    · simp
    · split
      next same => simp [same]
      next => simp [ih, or_left_comm]

theorem insertOrdered_ascending {v : Var} {vars : List Var} (h : vars.Pairwise (· < ·)) :
    (insertOrdered v vars).Pairwise (· < ·) := by
  induction vars with
  | nil => simp [insertOrdered]
  | cons u rest ih =>
    have below {w : Var} (member : w ∈ rest) : u < w := List.rel_of_pairwise_cons h member
    simp only [insertOrdered]
    split
    next less =>
      refine List.pairwise_cons.2 ⟨fun w member => ?_, h⟩
      rcases List.mem_cons.1 member with rfl | member
      · exact less
      · exact Var.lt_trans less (below member)
    next notLess =>
      split
      · exact h
      next other =>
        refine List.pairwise_cons.2 ⟨fun w member => ?_, ih h.of_cons⟩
        rcases mem_insertOrdered.1 member with rfl | member
        · exact (Var.eq_or_lt_of_not_lt notLess).resolve_left other
        · exact below member

def insert (v : Var) (s : VarSet) : VarSet :=
  ⟨insertOrdered v s.toList, insertOrdered_ascending s.ascending⟩

def ofList (vars : List Var) : VarSet := vars.foldl (fun s v => s.insert v) empty

theorem mem_insert {v w : Var} {s : VarSet} : w ∈ s.insert v ↔ w = v ∨ w ∈ s :=
  mem_insertOrdered

theorem mem_ofList {v : Var} {vars : List Var} : v ∈ ofList vars ↔ v ∈ vars := by
  suffices h : ∀ s : VarSet, v ∈ vars.foldl (fun s v => s.insert v) s ↔ v ∈ s ∨ v ∈ vars by
    rw [ofList, h]
    exact or_iff_right (List.not_mem_nil (a := v))
  induction vars with
  | nil => simp
  | cons w rest ih => simp [ih, mem_insert, or_assoc, or_left_comm]

/-- The names in braces, as a log shows them. -/
def text (s : VarSet) : String :=
  "\x7b" ++ ", ".intercalate (s.toList.map fun v => "Var(" ++ Text.quoted v.name ++ ")") ++ "\x7d"

end VarSet

end StateIntern
