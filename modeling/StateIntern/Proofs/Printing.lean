import Std.Data.String.ToInt
import StateIntern.Conjunction.Text
import StateIntern.Proofs.Canonical

/-! Printed conjunctions. What keeps one from being printed, and the cut of the text of one whose
variables are words: constraints can be read back from it, up to the naming of tags. -/
namespace StateIntern

open Text

theorem Var.fault?_eq_none_iff {v : Var} : v.fault? = none ↔ v.isPrintable = true := by
  unfold fault?
  split
  next empty => simp [isPrintable, empty]
  next => simp

theorem Var.isPrintable_iff {v : Var} :
    v.isPrintable = true ↔ v.name ≠ "" ∧ placeholder ∉ v.name.toList := by
  simp [isPrintable]

namespace Conjunction

theorem undeclared?_eq_none_iff {s : Conjunction} {v : Var} :
    s.undeclared? v = none ↔ v ∈ s.env.map (·.var) := by
  simp [undeclared?]

theorem undeclared?_eq_some_iff {s : Conjunction} {v : Var} {fault : StateError} :
    s.undeclared? v = some fault ↔ v ∉ s.env.map (·.var) ∧ .unknownVariable v = fault := by
  simp only [undeclared?, Option.ite_none_left_eq_some, Option.some.injEq]

/-- The fault of a list of names is that of the first that is not declared. -/
theorem findSome?_undeclared?_eq_some_iff {s : Conjunction} {vars : List Var} {fault : StateError} :
    vars.findSome? s.undeclared? = some fault ↔ ∃ before v after, vars = before ++ v :: after ∧
      (∀ u ∈ before, u ∈ s.env.map (·.var)) ∧ v ∉ s.env.map (·.var) ∧
      .unknownVariable v = fault := by
  simp only [List.findSome?_eq_some_iff, undeclared?_eq_some_iff, undeclared?_eq_none_iff]
  grind

theorem printFault?_eq_none_iff {s : Conjunction} :
    s.printFault? = none ↔ (∀ d ∈ s.env, d.var.isPrintable = true) ∧
      ∀ c ∈ s.constraints, ∀ v ∈ c.vars, v ∈ s.env.map (·.var) := by
  simp only [printFault?, Option.or_eq_none_iff, List.findSome?_eq_none_iff,
    Var.fault?_eq_none_iff, undeclared?, ite_eq_left_iff, reduceCtorEq, imp_false, not_not]

theorem print_eq_ok_iff {s : Conjunction} {text : String} :
    s.print = .ok text ↔ s.printFault? = none ∧ s.text = text := by
  unfold print
  cases s.printFault? <;> simp

end Conjunction

namespace Constraint

/-- The variable on the left. -/
def subject : Constraint → Var
  | .atLeast x _ | .atMost x _ | .equals x _ | .same x _ => x

def relation : Constraint → List Char
  | .atLeast _ _ => ['>', '=']
  | .atMost _ _ => ['<', '=']
  | .equals _ _ | .same _ _ => ['=']

def operand : Constraint → List Char
  | .atLeast _ n | .atMost _ n | .equals _ n => n.repr.toList
  | .same _ y => y.name.toList

theorem toList_text (c : Constraint) :
    c.text.toList = c.subject.name.toList ++ ' ' :: (c.relation ++ ' ' :: c.operand) := by
  cases c <;> simp [text, subject, relation, operand]

theorem subject_mem_vars (c : Constraint) : c.subject ∈ c.vars := by
  cases c <;> simp [subject, vars]

end Constraint

theorem isDigit_of_mem_digits {n : Nat} {c : Char} (member : c ∈ Nat.toDigits 10 n) :
    c.isDigit = true :=
  Nat.isDigit_of_mem_toDigits (by decide) (by decide) member

theorem isWord_digits (n : Nat) : IsWord (Nat.toDigits 10 n) := by
  refine ⟨Nat.toDigits_ne_nil, fun c member => ?_⟩
  have digit : c.isAlphanum = true := by
    simp [Char.isAlphanum, isDigit_of_mem_digits member]
  simp [isWordChar, isAlphanumeric_of_isAlphanum digit]

theorem isDigit_of_mem_number {n : Int} {c : Char} (member : c ∈ n.repr.toList) :
    c = '-' ∨ c.isDigit = true := by
  cases n with
  | ofNat n =>
    rw [Int.repr, Nat.toList_repr] at member
    exact .inr (isDigit_of_mem_digits member)
  | negSucc n =>
    rw [Int.repr, String.toList_append, Nat.toList_repr] at member
    rcases List.mem_append.1 member with sign | digits
    · exact .inl (by simpa using sign)
    · exact .inr (isDigit_of_mem_digits digits)

/-- A number is one word, after a sign if it is negative. -/
def numberPieces : Int → List Piece
  | .ofNat n => [.word (Nat.toDigits 10 n)]
  | .negSucc n => [.gap '-', .word (Nat.toDigits 10 (n + 1))]

theorem splits_number (n : Int) {rest : List Char} {ps : List Piece} (stops : Stops rest)
    (cut : Splits rest ps) : Splits (n.repr.toList ++ rest) (numberPieces n ++ ps) := by
  cases n with
  | ofNat n =>
    rw [Int.repr, Nat.toList_repr]
    exact .word (isWord_digits n) stops cut
  | negSucc n =>
    rw [Int.repr, String.toList_append, Nat.toList_repr]
    exact .gap (by decide) (.word (isWord_digits (n + 1)) stops cut)

theorem placeholder_not_mem_number (n : Int) : placeholder ∉ n.repr.toList := by
  intro member
  rcases isDigit_of_mem_number member with minus | digit
  · exact absurd minus (by decide)
  · exact absurd digit (by decide)

/-- A text of such constraints cannot be taken for canonical text. -/
theorem Constraint.placeholder_not_mem_text {c : Constraint}
    (free : ∀ v ∈ c.vars, placeholder ∉ v.name.toList) : placeholder ∉ c.text.toList := by
  have subject := free _ c.subject_mem_vars
  have relation : placeholder ∉ c.relation := by cases c <;> simp [Constraint.relation, placeholder]
  have operand : placeholder ∉ c.operand := by
    cases c with
    | same x y => exact free y (by simp [vars])
    | _ => exact placeholder_not_mem_number _
  have blank : placeholder ≠ ' ' := by decide
  simp [toList_text, subject, relation, operand, blank]

/-- What stands between two constraints. -/
def separator : List Char := [' ', '/', '\\', ' ']

/-- The constraints of a text after its first. -/
def Conjunction.continuation (constraints : List Constraint) : List Char :=
  constraints.flatMap fun c => separator ++ c.text.toList

theorem Conjunction.toList_intercalate (c : Constraint) (rest : List Constraint) :
    (" /\\ ".intercalate ((c :: rest).map Constraint.text)).toList =
      c.text.toList ++ continuation rest := by
  induction rest generalizing c with
  | nil => simp [continuation]
  | cons d rest ih =>
    have tail := ih d
    simp only [List.map_cons] at tail ⊢
    rw [String.intercalate_cons_cons, String.toList_append, String.toList_append, tail]
    simp [continuation, separator]

theorem Conjunction.placeholder_not_mem_text {s : Conjunction} (printable : s.printFault? = none) :
    placeholder ∉ s.text.toList := by
  obtain ⟨names, declared⟩ := printFault?_eq_none_iff.1 printable
  have free : ∀ c ∈ s.constraints, placeholder ∉ c.text.toList := by
    intro c member
    refine Constraint.placeholder_not_mem_text fun v inside => ?_
    obtain ⟨d, declared, rfl⟩ := List.mem_map.1 (declared c member v inside)
    exact (Var.isPrintable_iff.1 (names d declared)).2
  unfold text
  cases constraints : s.constraints with
  | nil => decide
  | cons c rest =>
    rw [constraints] at free
    rw [if_neg (List.cons_ne_nil _ _), toList_intercalate]
    simp only [List.mem_append, continuation, List.mem_flatMap, not_or, not_exists, not_and]
    have between : placeholder ∉ separator := by decide
    exact ⟨free c List.mem_cons_self, fun d member =>
      ⟨between, free d (List.mem_cons_of_mem _ member)⟩⟩

/-- A word that cannot be taken for a number. -/
def Var.IsName (v : Var) : Prop :=
  (∀ c ∈ v.name.toList, isWordChar c = true) ∧ ∃ c ∈ v.name.toList, c.isDigit = false

instance (v : Var) : Decidable v.IsName :=
  decidable_of_iff (v.name.toList.all isWordChar = true ∧ v.name.toList.any (!·.isDigit) = true)
    (by simp [Var.IsName])

theorem Var.IsName.isWord {v : Var} (name : v.IsName) : IsWord v.name.toList := by
  obtain ⟨wordChars, c, member, -⟩ := name
  exact ⟨List.ne_nil_of_mem member, wordChars⟩

namespace Constraint

def operandPieces : Constraint → List Piece
  | .atLeast _ n | .atMost _ n | .equals _ n => numberPieces n
  | .same _ y => [.word y.name.toList]

def pieces (c : Constraint) : List Piece :=
  .word c.subject.name.toList :: .gap ' ' ::
    (c.relation.map .gap ++ .gap ' ' :: c.operandPieces)

theorem splits_gaps {chars text : List Char} {ps : List Piece}
    (others : ∀ c ∈ chars, isWordChar c = false) (cut : Splits text ps) :
    Splits (chars ++ text) (chars.map .gap ++ ps) := by
  induction chars with
  | nil => exact cut
  | cons c rest ih =>
    exact .gap (others c List.mem_cons_self)
      (ih fun d member => others d (List.mem_cons_of_mem _ member))

theorem splits_text {c : Constraint} (names : ∀ v ∈ c.vars, v.IsName) {rest : List Char}
    {ps : List Piece} (stops : Stops rest) (cut : Splits rest ps) :
    Splits (c.text.toList ++ rest) (c.pieces ++ ps) := by
  have operand : Splits (c.operand ++ rest) (c.operandPieces ++ ps) := by
    cases c with
    | same x y => exact .word (names y (by simp [vars])).isWord stops cut
    | _ => exact splits_number _ stops cut
  have relation : ∀ d ∈ c.relation, isWordChar d = false := by
    cases c <;> simp only [Constraint.relation, List.forall_mem_cons, List.not_mem_nil,
      false_imp_iff, implies_true, and_true] <;> decide
  have subject := (names _ c.subject_mem_vars).isWord
  have blank : isWordChar ' ' = false := by decide
  rw [toList_text, pieces]
  simpa using Splits.word subject (stops_cons_iff.2 blank)
    (.gap blank (splits_gaps relation (.gap blank operand)))

end Constraint

namespace Conjunction

def continuationPieces (constraints : List Constraint) : List Piece :=
  constraints.flatMap fun c => separator.map .gap ++ c.pieces

theorem stops_continuation (constraints : List Constraint) : Stops (continuation constraints) := by
  cases constraints with
  | nil => exact stops_nil
  | cons c rest => exact stops_cons_iff.2 (by decide)

theorem splits_continuation {constraints : List Constraint}
    (names : ∀ c ∈ constraints, ∀ v ∈ c.vars, v.IsName) :
    Splits (continuation constraints) (continuationPieces constraints) := by
  induction constraints with
  | nil => exact .nil
  | cons c rest ih =>
    have others := ih fun d member => names d (List.mem_cons_of_mem _ member)
    have first := Constraint.splits_text (names c List.mem_cons_self)
      (stops_continuation rest) others
    have between : ∀ d ∈ separator, isWordChar d = false := by
      simp only [separator, List.forall_mem_cons, List.not_mem_nil, false_imp_iff, implies_true,
        and_true]
      decide
    simpa [continuation, continuationPieces] using Constraint.splits_gaps between first

/-- The cut of a printed conjunction. -/
def textPieces : List Constraint → List Piece
  | [] => [.word ['t', 'o', 'p']]
  | c :: rest => c.pieces ++ continuationPieces rest

theorem splits_text {s : Conjunction} (names : ∀ c ∈ s.constraints, ∀ v ∈ c.vars, v.IsName) :
    Splits s.text.toList (textPieces s.constraints) := by
  unfold text
  cases constraints : s.constraints with
  | nil =>
    have top : pieces "top".toList = textPieces [] := by decide +kernel
    exact splits_iff.2 top
  | cons c rest =>
    rw [constraints, List.forall_mem_cons] at names
    rw [if_neg (List.cons_ne_nil _ _), toList_intercalate]
    exact Constraint.splits_text names.1 (stops_continuation rest) (splits_continuation names.2)

/-- The variables of a printable conjunction are declared, so they are named as its environment
is. -/
theorem isName_of_printable {s : Conjunction} (printable : s.printFault? = none)
    (names : ∀ d ∈ s.env, d.var.IsName) : ∀ c ∈ s.constraints, ∀ v ∈ c.vars, v.IsName := by
  intro c member v inside
  obtain ⟨d, declared, rfl⟩ :=
    List.mem_map.1 ((printFault?_eq_none_iff.1 printable).2 c member v inside)
  exact names d declared

end Conjunction

end StateIntern
