import StateIntern.Cache.Basic
import StateIntern.Proofs.Maps

/-! Memo tables as they are asked and written, alone and as the three tables of a cache. A question
counts as a hit or as a miss, and after a miss an answer may be written down. -/
namespace StateIntern

namespace Memo

variable {Key Value : Type} [Ord Key]

/-- The table with one more hit counted. -/
def withHit (m : Memo Key Value) : Memo Key Value := { m with hits := m.hits + 1 }

/-- The table with one more miss counted. -/
def withMiss (m : Memo Key Value) : Memo Key Value := { m with misses := m.misses + 1 }

/-- The table after a miss whose answer has been written down. -/
def withAnswer (m : Memo Key Value) (key : Key) (value : Value) : Memo Key Value :=
  { m.withMiss with answers := m.answers.insert key value }

@[simp] theorem answers_withHit (m : Memo Key Value) : m.withHit.answers = m.answers := rfl

@[simp] theorem answers_withMiss (m : Memo Key Value) : m.withMiss.answers = m.answers := rfl

theorem ask_of_kept {m : Memo Key Value} {key : Key} {value : Value}
    (kept : m.answers[key]? = some value) : m.ask key = (some value, m.withHit) := by
  simp only [ask, kept, withHit]

theorem ask_of_missing {m : Memo Key Value} {key : Key} (missing : m.answers[key]? = none) :
    m.ask key = (none, m.withMiss) := by
  simp only [ask, missing, withMiss]

theorem store_of_kept {m : Memo Key Value} {key : Key} {first : Value}
    (kept : m.answers[key]? = some first) (value : Value) : m.store key value = (first, m) := by
  simp only [store, kept]

theorem store_of_absent {m : Memo Key Value} {key : Key} (absent : m.answers[key]? = none)
    (value : Value) :
    m.store key value = (value, { m with answers := m.answers.insert key value }) := by
  simp only [store, absent]

theorem store_of_missing {m : Memo Key Value} {key : Key} (missing : m.answers[key]? = none)
    (value : Value) : m.withMiss.store key value = (value, m.withAnswer key value) :=
  store_of_absent (m := m.withMiss) missing value

theorem getElem?_withAnswer [Std.TransOrd Key] [Std.LawfulEqOrd Key] [DecidableEq Key]
    (m : Memo Key Value) (key : Key) (value : Value) (other : Key) :
    (m.withAnswer key value).answers[other]? =
      if key = other then some value else m.answers[other]? :=
  getElem?_insert_eq m.answers key value other

theorem mem_withAnswer [Std.TransOrd Key] [Std.LawfulEqOrd Key] {m : Memo Key Value}
    {key : Key} {value : Value} {other : Key} :
    other ∈ (m.withAnswer key value).answers ↔ key = other ∨ other ∈ m.answers := by
  rw [withAnswer, Std.TreeMap.mem_insert, Std.LawfulEqOrd.compare_eq_iff_eq]

theorem size_withAnswer [Std.TransOrd Key] {m : Memo Key Value} {key : Key}
    (missing : m.answers[key]? = none) (value : Value) :
    (m.withAnswer key value).size = m.size + 1 := by
  have absent : m.answers.contains key = false := by
    rw [← Std.TreeMap.isSome_getElem?_eq_contains, missing, Option.isSome_none]
  rw [size, withAnswer, Std.TreeMap.size_insert, absent]
  rfl

end Memo

namespace Memos

@[simp] theorem table_replace (m : Memos) (property : Property)
    (table : Memo StateId property.Value) : (m.replace property table).table property = table := by
  cases property <;> rfl

/-- The other tables stay. -/
theorem table_replace_of_ne (m : Memos) {property other : Property} (differ : other ≠ property)
    (table : Memo StateId property.Value) :
    (m.replace property table).table other = m.table other := by
  cases property <;> cases other <;> first | rfl | exact absurd rfl differ

end Memos

end StateIntern
