import StateIntern.Conjunction.Engine
import StateIntern.Proofs.Operation
import StateIntern.Proofs.Printing

/-! Keys of conjunctions. Where variables are words and no marker is a number, a key tells the
constraints in their order, with each variable up to the naming of its tag. -/
namespace StateIntern

open Text

namespace Scheme

variable {s : Scheme}

/-- One untagged variable, or two copies of one base name on one side. -/
def AlikeVar (s : Scheme) (x y : Var) : Prop :=
  (x = y ∧ s.split? x.name = none) ∨
    ∃ tag, s.split? x.name = some tag ∧ s.split? y.name = some tag

/-- One form, one constant, and variables that stand for the same. -/
def AlikeConstraint (s : Scheme) : Constraint → Constraint → Prop
  | .atLeast x n, .atLeast y m => s.AlikeVar x y ∧ n = m
  | .atMost x n, .atMost y m => s.AlikeVar x y ∧ n = m
  | .equals x n, .equals y m => s.AlikeVar x y ∧ n = m
  | .same x x', .same y y' => s.AlikeVar x y ∧ s.AlikeVar x' y'
  | _, _ => False

theorem alike_gap_gap_iff {c d : Char} : s.Alike (.gap c) (.gap d) ↔ c = d :=
  ⟨fun alike => by cases alike; rfl, fun same => same ▸ .gap c⟩

theorem not_alike_gap_word {c : Char} {letters : List Char} :
    ¬s.Alike (.gap c) (.word letters) := by
  rintro ⟨⟩

theorem not_alike_word_gap {c : Char} {letters : List Char} :
    ¬s.Alike (.word letters) (.gap c) := by
  rintro ⟨⟩

theorem Alike.refl (p : Piece) : s.Alike p p := by
  cases p with
  | gap c => exact .gap c
  | word letters =>
    cases split : s.split? (String.ofList letters) with
    | none => exact .untagged split
    | some tag => exact .tagged split split

theorem Alike.symm {p q : Piece} (alike : s.Alike p q) : s.Alike q p := by
  cases alike with
  | gap c => exact .gap c
  | untagged untagged => exact .untagged untagged
  | tagged tagV tagW => exact .tagged tagW tagV

theorem alike_names_iff {x y : Var} :
    s.Alike (.word x.name.toList) (.word y.name.toList) ↔ s.AlikeVar x y := by
  obtain ⟨x⟩ := x
  obtain ⟨y⟩ := y
  constructor
  · intro alike
    generalize left : x.toList = v at alike
    generalize right : y.toList = w at alike
    cases alike with
    | untagged untagged =>
      rw [← left, String.ofList_toList] at untagged
      exact .inl ⟨by rw [String.toList_inj.1 (left.trans right.symm)], untagged⟩
    | tagged tagV tagW =>
      rw [← left, String.ofList_toList] at tagV
      rw [← right, String.ofList_toList] at tagW
      exact .inr ⟨_, tagV, tagW⟩
  · rintro (⟨same, untagged⟩ | ⟨tag, tagX, tagY⟩)
    · cases same
      exact .untagged (by rwa [String.ofList_toList])
    · have splitX : s.split? (String.ofList x.toList) = some tag := by
        rw [String.ofList_toList]
        exact tagX
      have splitY : s.split? (String.ofList y.toList) = some tag := by
        rw [String.ofList_toList]
        exact tagY
      exact .tagged splitX splitY

/-- No marker is a number. -/
def KeepsNumbers (s : Scheme) : Prop := ∀ r ∈ s.rules, r.marker.toList.all Char.isDigit = false

theorem mem_attach_of_mem_marker {r : Rule} {base : List Char} {c : Char}
    (member : c ∈ r.marker.toList) : c ∈ r.attach base := by
  unfold Rule.attach
  cases r.affix with
  | leading => exact List.mem_append_left _ member
  | trailing => exact List.mem_append_right _ member

theorem KeepsNumbers.splitWord?_digits (keeps : s.KeepsNumbers) (n : Nat) :
    s.splitWord? (Nat.toDigits 10 n) = none := by
  rw [Option.eq_none_iff_forall_not_mem]
  rintro ⟨base, side⟩ tagged
  obtain ⟨-, -, r, member, -, attached⟩ := splitWord?_eq_some tagged
  have digits : r.marker.toList.all Char.isDigit = true := by
    rw [List.all_eq_true]
    intro c inside
    exact isDigit_of_mem_digits (attached ▸ mem_attach_of_mem_marker inside)
  simp [keeps r member] at digits

theorem KeepsNumbers.alike_digits_iff (keeps : s.KeepsNumbers) {letters : List Char} {n : Nat} :
    s.Alike (.word (Nat.toDigits 10 n)) (.word letters) ↔ Nat.toDigits 10 n = letters := by
  have untagged := split?_ofList_eq_none_iff.2 (keeps.splitWord?_digits n)
  constructor
  · intro alike
    cases alike with
    | untagged => rfl
    | tagged tag => simp [untagged] at tag
  · rintro rfl
    exact .untagged untagged

theorem KeepsNumbers.alike_numbers_iff (keeps : s.KeepsNumbers) {m n : Nat} :
    s.Alike (.word (Nat.toDigits 10 m)) (.word (Nat.toDigits 10 n)) ↔ m = n := by
  rw [keeps.alike_digits_iff]
  constructor
  · intro same
    rw [← Nat.ofDigitChars_ten_toDigits (n := m), same, Nat.ofDigitChars_ten_toDigits]
  · rintro rfl
    rfl

theorem KeepsNumbers.not_alike_number_name (keeps : s.KeepsNumbers) {n : Nat} {y : Var}
    (name : y.IsName) : ¬s.Alike (.word (Nat.toDigits 10 n)) (.word y.name.toList) := by
  rw [keeps.alike_digits_iff]
  intro same
  obtain ⟨-, c, member, other⟩ := name
  rw [← same] at member
  simp [isDigit_of_mem_digits member] at other

theorem KeepsNumbers.forall₂_number_iff (keeps : s.KeepsNumbers) {m n : Int}
    {ps qs : List Piece} :
    List.Forall₂ s.Alike (numberPieces m ++ ps) (numberPieces n ++ qs) ↔
      m = n ∧ List.Forall₂ s.Alike ps qs := by
  cases m <;> cases n
  case ofNat.ofNat a b =>
    rw [Int.ofNat.injEq]
    simp [numberPieces, keeps.alike_numbers_iff]
  all_goals
    simp [numberPieces, keeps.alike_numbers_iff, alike_gap_gap_iff, not_alike_gap_word,
      not_alike_word_gap]

theorem KeepsNumbers.not_forall₂_number_name (keeps : s.KeepsNumbers) {n : Int} {y : Var}
    (name : y.IsName) {ps qs : List Piece} :
    ¬List.Forall₂ s.Alike (numberPieces n ++ ps) (.word y.name.toList :: qs) := by
  cases n <;> simp [numberPieces, keeps.not_alike_number_name name, not_alike_gap_word]

theorem KeepsNumbers.not_forall₂_name_number (keeps : s.KeepsNumbers) {n : Int} {x : Var}
    (name : x.IsName) {ps qs : List Piece} :
    ¬List.Forall₂ s.Alike (.word x.name.toList :: ps) (numberPieces n ++ qs) := by
  have apart (n : Nat) : ¬s.Alike (.word x.name.toList) (.word (Nat.toDigits 10 n)) :=
    fun alike => keeps.not_alike_number_name name alike.symm
  cases n <;> simp [numberPieces, apart, not_alike_word_gap]

/-- A constraint can be read back from its text, and what follows it too. -/
theorem KeepsNumbers.forall₂_constraint_iff (keeps : s.KeepsNumbers) {c d : Constraint}
    (namesC : ∀ v ∈ c.vars, v.IsName) (namesD : ∀ v ∈ d.vars, v.IsName) {ps qs : List Piece} :
    List.Forall₂ s.Alike (c.pieces ++ ps) (d.pieces ++ qs) ↔
      s.AlikeConstraint c d ∧ List.Forall₂ s.Alike ps qs := by
  cases c <;> cases d <;>
    simp only [Constraint.pieces, Constraint.subject, Constraint.relation,
      Constraint.operandPieces, Constraint.vars, AlikeConstraint, List.map_cons, List.map_nil,
      List.cons_append, List.nil_append, List.forall₂_cons, alike_gap_gap_iff, alike_names_iff,
      keeps.forall₂_number_iff, Char.reduceEq, true_and, false_and, and_false, and_assoc,
      List.forall_mem_cons] at namesC namesD ⊢
  case equals.same => simp [keeps.not_forall₂_number_name namesD.2.1]
  case same.equals => simp [keeps.not_forall₂_name_number namesC.2.1]

theorem continuationPieces_cons (c : Constraint) (cs : List Constraint) :
    Conjunction.continuationPieces (c :: cs) =
      separator.map .gap ++ (c.pieces ++ Conjunction.continuationPieces cs) := by
  simp [Conjunction.continuationPieces]

theorem KeepsNumbers.forall₂_continuation_iff (keeps : s.KeepsNumbers)
    {cs ds : List Constraint} (namesC : ∀ c ∈ cs, ∀ v ∈ c.vars, v.IsName)
    (namesD : ∀ d ∈ ds, ∀ v ∈ d.vars, v.IsName) :
    List.Forall₂ s.Alike (Conjunction.continuationPieces cs) (Conjunction.continuationPieces ds) ↔
      List.Forall₂ s.AlikeConstraint cs ds := by
  induction cs generalizing ds with
  | nil => cases ds <;> simp [Conjunction.continuationPieces, separator]
  | cons c cs ih =>
    cases ds with
    | nil => simp [Conjunction.continuationPieces, separator]
    | cons d ds =>
      rw [List.forall_mem_cons] at namesC namesD
      have tail := ih namesC.2 namesD.2
      rw [continuationPieces_cons, continuationPieces_cons]
      simp [separator, alike_gap_gap_iff, keeps.forall₂_constraint_iff namesC.1 namesD.1, tail]

/-- The constraints can be read back from a text. The empty conjunction is the only one whose text
is a single word. -/
theorem KeepsNumbers.forall₂_textPieces_iff (keeps : s.KeepsNumbers)
    {cs ds : List Constraint} (namesC : ∀ c ∈ cs, ∀ v ∈ c.vars, v.IsName)
    (namesD : ∀ d ∈ ds, ∀ v ∈ d.vars, v.IsName) :
    List.Forall₂ s.Alike (Conjunction.textPieces cs) (Conjunction.textPieces ds) ↔
      List.Forall₂ s.AlikeConstraint cs ds := by
  rcases cs with _ | ⟨c, cs⟩ <;> rcases ds with _ | ⟨d, ds⟩
  · simp [Conjunction.textPieces, Alike.refl]
  · simp [Conjunction.textPieces, Constraint.pieces]
  · simp [Conjunction.textPieces, Constraint.pieces]
  · rw [List.forall_mem_cons] at namesC namesD
    rw [Conjunction.textPieces, Conjunction.textPieces,
      keeps.forall₂_constraint_iff namesC.1 namesD.1,
      keeps.forall₂_continuation_iff namesC.2 namesD.2, List.forall₂_cons]

end Scheme

namespace Cache

variable {World : Type}

theorem canonicalize_printable (c : Cache World Conjunction) {s : Conjunction}
    (printable : s.printFault? = none) :
    (c.canonicalize Conjunction.engine s).answer = .ok (c.scheme.normalize s.text) :=
  (c.canonicalize_eq_ok_iff Conjunction.engine s).2 ⟨s.text,
    Conjunction.print_eq_ok_iff.2 ⟨printable, rfl⟩,
    reservedWord?_eq_none_iff.2 (Conjunction.placeholder_not_mem_text printable), rfl⟩

theorem canonicalize_conjunction_iff (c : Cache World Conjunction) {s : Conjunction}
    {key : String} : (c.canonicalize Conjunction.engine s).answer = .ok key ↔
      s.printFault? = none ∧ c.scheme.normalize s.text = key := by
  constructor
  · intro canonical
    obtain ⟨text, printed, -, normal⟩ := (c.canonicalize_eq_ok_iff _ s).1 canonical
    obtain ⟨printable, rfl⟩ := Conjunction.print_eq_ok_iff.1 printed
    exact ⟨printable, normal⟩
  · rintro ⟨printable, rfl⟩
    exact c.canonicalize_printable printable

/-- Two printable conjunctions have keys, and these are one exactly when the constraints agree in
their order, up to the naming of tags. -/
theorem canonicalize_eq_iff_alike (c : Cache World Conjunction) {s t : Conjunction}
    {textS textT : String} (keeps : c.scheme.KeepsNumbers) (printS : s.print = .ok textS)
    (printT : t.print = .ok textT) (namesS : ∀ d ∈ s.env, d.var.IsName)
    (namesT : ∀ d ∈ t.env, d.var.IsName) :
    ∃ keyS keyT, (c.canonicalize Conjunction.engine s).answer = .ok keyS ∧
      (c.canonicalize Conjunction.engine t).answer = .ok keyT ∧
      (keyS = keyT ↔ List.Forall₂ c.scheme.AlikeConstraint s.constraints t.constraints) := by
  have printableS := (Conjunction.print_eq_ok_iff.1 printS).1
  have printableT := (Conjunction.print_eq_ok_iff.1 printT).1
  have namesS := Conjunction.isName_of_printable printableS namesS
  have namesT := Conjunction.isName_of_printable printableT namesT
  refine ⟨_, _, c.canonicalize_printable printableS, c.canonicalize_printable printableT, ?_⟩
  rw [Scheme.normalize, Scheme.normalize, String.ofList_inj,
    Scheme.normalizeChars_eq_iff_alike (Conjunction.placeholder_not_mem_text printableS)
      (Conjunction.placeholder_not_mem_text printableT),
    splits_iff.1 (Conjunction.splits_text namesS), splits_iff.1 (Conjunction.splits_text namesT)]
  exact keeps.forall₂_textPieces_iff namesS namesT

theorem canonicalize_left_copies :
    let c : Cache Unit Conjunction := new 0 .standard ()
    let s : Conjunction := .ofLists [⟨⟨"x_L"⟩, .int⟩] [.atLeast ⟨"x_L"⟩ (-3)]
    let t : Conjunction := .ofLists [⟨⟨"x_A"⟩, .int⟩] [.atLeast ⟨"x_A"⟩ (-3)]
    c.scheme.KeepsNumbers ∧ s.print = .ok "x_L >= -3" ∧ t.print = .ok "x_A >= -3" ∧
      (∀ d ∈ s.env, d.var.IsName) ∧ (∀ d ∈ t.env, d.var.IsName) ∧
      ∃ key, (c.canonicalize Conjunction.engine s).answer = .ok key ∧
        (c.canonicalize Conjunction.engine t).answer = .ok key := by
  intro c s t
  have keeps : c.scheme.KeepsNumbers := by unfold Scheme.KeepsNumbers; decide
  have printS : s.print = .ok "x_L >= -3" := by decide +kernel
  have printT : t.print = .ok "x_A >= -3" := by decide +kernel
  have namesS : ∀ d ∈ s.env, d.var.IsName := by decide +kernel
  have namesT : ∀ d ∈ t.env, d.var.IsName := by decide +kernel
  have left : Scheme.standard.split? "x_L" = some ("x", .left) := by decide +kernel
  obtain ⟨key, keyT, keyS, keyOfT, same⟩ :=
    c.canonicalize_eq_iff_alike keeps printS printT namesS namesT
  have alike : List.Forall₂ c.scheme.AlikeConstraint s.constraints t.constraints :=
    .cons ⟨.inr ⟨_, left, by decide +kernel⟩, rfl⟩ .nil
  exact ⟨keeps, printS, printT, namesS, namesT, key, keyS, same.2 alike ▸ keyOfT⟩

end Cache

end StateIntern
