import StateIntern.Proofs.Parts

/-! What a key tells about a conjunction. Where names can be read, states under one key have
constraints of the same forms with the same constants, one for one, about variables that are written
in one way. -/
namespace StateIntern

open Text

namespace Scheme

variable {s : Scheme}

theorem KeepsNumbers.normalize_number (keeps : s.KeepsNumbers) (n : Int) :
    s.normalize n.repr = n.repr := by
  have digits (n : Nat) : s.normalizeChars (Nat.toDigits 10 n) = Nat.toDigits 10 n := by
    rw [normalizeChars_word (isWord_digits n).2, canonicalWord, keeps.splitWord?_digits]
  have chars : s.normalizeChars n.repr.toList = n.repr.toList := by
    cases n with
    | ofNat n => rw [Int.repr, Nat.toList_repr, digits]
    | negSucc n =>
      have minus : isWordChar '-' = false := by decide
      have apart := normalizeChars_append_gap (s := s) minus [] (Nat.toDigits 10 (n + 1))
      rw [normalizeChars_nil, digits] at apart
      rw [Int.repr, String.toList_append, Nat.toList_repr]
      exact apart
  rw [normalize, chars, String.ofList_toList]

theorem KeepsNumbers.separatesNumbers (keeps : s.KeepsNumbers) : s.SeparatesNumbers := by
  intro m n same
  rw [keeps.normalize_number, keeps.normalize_number] at same
  exact Int.repr_injective same

theorem KeepsNumbers.readable_iff (keeps : s.KeepsNumbers) {v : Var} :
    s.Readable v ↔ SignFree v.name.toList ∧ ∀ n : Int, v.name ≠ n.repr := by
  constructor
  · rintro ⟨free, other⟩
    refine ⟨free, fun n same => other n ?_⟩
    rw [same]
  · rintro ⟨free, other⟩
    refine ⟨free, fun n same => other n ?_⟩
    rw [keeps.normalize_number] at same
    have chars := congrArg String.toList same
    rw [normalize, String.toList_ofList] at chars
    have unmarked : placeholder ∉ s.normalizeChars v.name.toList :=
      chars ▸ placeholder_not_mem_number n
    rw [normalizeChars_eq_self unmarked] at chars
    exact String.toList_inj.1 chars

/-- Numbers are made of digits and a minus sign. -/
theorem KeepsNumbers.readable_of_any (keeps : s.KeepsNumbers) {v : Var}
    (plain : SignFree v.name.toList ∧
      v.name.toList.any (fun c => c != '-' && !c.isDigit) = true) : s.Readable v := by
  obtain ⟨free, other⟩ := plain
  refine keeps.readable_iff.2 ⟨free, fun n same => ?_⟩
  obtain ⟨c, member, apart⟩ := List.any_eq_true.1 other
  rw [same] at member
  rcases isDigit_of_mem_number member with minus | digit
  · simp [minus] at apart
  · simp [digit] at apart

theorem standard_keepsNumbers : standard.KeepsNumbers := by
  unfold KeepsNumbers
  decide

end Scheme

/-- One form and one constant, whatever the variables. -/
def Constraint.SameShape : Constraint → Constraint → Prop := Matches fun _ _ => True

namespace Conjunction

variable {scheme : Scheme}

def vars (s : Conjunction) : List Var := s.constraints.flatMap Constraint.vars

theorem mem_vars_iff {s : Conjunction} {v : Var} :
    v ∈ s.vars ↔ ∃ c ∈ s.constraints, v ∈ c.vars :=
  List.mem_flatMap

/-- The parts of a key after its first constraint. -/
def moreParts (scheme : Scheme) (constraints : List Constraint) : List (List Char) :=
  constraints.flatMap fun c => ['/', '\\'] :: c.keyParts scheme

def keyParts (scheme : Scheme) : List Constraint → List (List Char)
  | [] => [scheme.normalizeChars "top".toList]
  | c :: rest => c.keyParts scheme ++ moreParts scheme rest

theorem head?_moreParts (constraints : List Constraint) :
    ∀ sign ∈ (moreParts scheme constraints).head?, sign ∈ signs := by
  cases constraints with
  | nil => exact fun sign member => absurd member (by simp [moreParts])
  | cons c rest =>
    rintro sign ⟨⟩
    decide

theorem parts_continuation (c : Constraint) (rest : List Constraint) :
    parts (scheme.normalizeChars (c.text.toList ++ continuation rest)) =
      c.keyParts scheme ++ moreParts scheme rest := by
  have blank : isWordChar ' ' = false := by decide
  have sign : ['/', '\\'] ∈ signs := by decide
  induction rest generalizing c with
  | nil => simp [continuation, moreParts, Constraint.parts_text]
  | cons d rest ih =>
    have text : c.text.toList ++ continuation (d :: rest) = c.text.toList ++
        ' ' :: (['/', '\\'] ++ ' ' :: (d.text.toList ++ continuation rest)) := by
      simp [continuation, separator]
    have kept := Scheme.normalizeChars_gaps (s := scheme) (not_isWordChar_of_sign _ sign)
    rw [text, Scheme.normalizeChars_append_gap blank, parts_append_blank, Constraint.parts_text,
      Scheme.normalizeChars_append_gap blank, parts_append_blank, kept, parts_sign sign, ih]
    rfl

theorem parts_text (s : Conjunction) :
    parts (scheme.normalizeChars s.text.toList) = keyParts scheme s.constraints := by
  unfold text
  cases s.constraints with
  | nil =>
    have single : ' ' ∉ scheme.normalizeChars "top".toList := fun member =>
      absurd (Scheme.mem_of_mem_normalizeChars (by decide) member) (by decide)
    exact parts_of_not_mem single
  | cons c rest =>
    rw [if_neg (List.cons_ne_nil _ _), toList_intercalate]
    exact parts_continuation c rest

theorem keyParts_eq_of_matches {cs ds : List Constraint}
    (matched : List.Forall₂ (Constraint.Matches scheme.SameForm) cs ds) :
    keyParts scheme cs = keyParts scheme ds := by
  have more {cs ds : List Constraint}
      (matched : List.Forall₂ (Constraint.Matches scheme.SameForm) cs ds) :
      moreParts scheme cs = moreParts scheme ds := by
    induction matched with
    | nil => rfl
    | cons first _ ih =>
      simp only [moreParts, List.flatMap_cons, first.keyParts_eq] at ih ⊢
      rw [ih]
  cases matched with
  | nil => rfl
  | cons first rest => rw [keyParts, keyParts, first.keyParts_eq, more rest]

theorem top_ne_keyParts (c : Constraint) (rest : List (List Char)) :
    [scheme.normalizeChars "top".toList] ≠ c.keyParts scheme ++ rest := by
  intro same
  have member : c.relation ∈ [scheme.normalizeChars "top".toList] := by
    rw [same]
    simp [Constraint.keyParts]
  have sign := c.relation_mem_signs
  have top := Scheme.eq_of_normalizeChars_eq_gaps (not_isWordChar_of_sign _ sign)
    (List.mem_singleton.1 member).symm
  rw [← top] at sign
  exact absurd sign (by decide)

theorem matches_of_moreParts_eq (numbers : scheme.SeparatesNumbers) {cs ds : List Constraint}
    (readC : ∀ c ∈ cs, ∀ v ∈ c.vars, scheme.Readable v)
    (readD : ∀ d ∈ ds, ∀ v ∈ d.vars, scheme.Readable v)
    (same : moreParts scheme cs = moreParts scheme ds) :
    List.Forall₂ (Constraint.Matches scheme.SameForm) cs ds := by
  induction cs generalizing ds with
  | nil =>
    cases ds with
    | nil => exact .nil
    | cons d ds => simp [moreParts] at same
  | cons c cs ih =>
    cases ds with
    | nil => simp [moreParts] at same
    | cons d ds =>
      rw [List.forall_mem_cons] at readC readD
      have constraints : c.keyParts scheme ++ moreParts scheme cs =
          d.keyParts scheme ++ moreParts scheme ds := by
        simpa [moreParts] using same
      obtain ⟨first, rest⟩ := (Constraint.keyParts_append_eq_iff
        (fun v member => (readC.1 v member).signFree) (fun v member => (readD.1 v member).signFree)
        (head?_moreParts cs) (head?_moreParts ds)).1 constraints
      exact .cons (Constraint.matches_of_keyParts_eq numbers readC.1 readD.1 first)
        (ih readC.2 readD.2 rest)

theorem matches_of_keyParts_eq (numbers : scheme.SeparatesNumbers) {cs ds : List Constraint}
    (readC : ∀ c ∈ cs, ∀ v ∈ c.vars, scheme.Readable v)
    (readD : ∀ d ∈ ds, ∀ v ∈ d.vars, scheme.Readable v)
    (same : keyParts scheme cs = keyParts scheme ds) :
    List.Forall₂ (Constraint.Matches scheme.SameForm) cs ds := by
  rcases cs with _ | ⟨c, cs⟩ <;> rcases ds with _ | ⟨d, ds⟩
  · exact .nil
  · exact absurd same (top_ne_keyParts d _)
  · exact absurd same.symm (top_ne_keyParts c _)
  · refine matches_of_moreParts_eq numbers readC readD ?_
    rw [moreParts, moreParts, List.flatMap_cons, List.flatMap_cons]
    exact congrArg (['/', '\\'] :: ·) same

theorem normalize_text_eq_of_matches {s t : Conjunction}
    (matched : List.Forall₂ (Constraint.Matches scheme.SameForm) s.constraints t.constraints) :
    scheme.normalize s.text = scheme.normalize t.text := by
  rw [Scheme.normalize_eq_iff, ← parts_inj, parts_text, parts_text]
  exact keyParts_eq_of_matches matched

theorem matches_of_normalize_text_eq (numbers : scheme.SeparatesNumbers) {s t : Conjunction}
    (readS : ∀ v ∈ s.vars, scheme.Readable v) (readT : ∀ v ∈ t.vars, scheme.Readable v)
    (same : scheme.normalize s.text = scheme.normalize t.text) :
    List.Forall₂ (Constraint.Matches scheme.SameForm) s.constraints t.constraints := by
  rw [Scheme.normalize_eq_iff, ← parts_inj, parts_text, parts_text] at same
  refine matches_of_keyParts_eq numbers ?_ ?_ same
  · intro c member v inside
    exact readS v (mem_vars_iff.2 ⟨c, member, inside⟩)
  · intro c member v inside
    exact readT v (mem_vars_iff.2 ⟨c, member, inside⟩)

end Conjunction

namespace Cache

variable {World : Type}

/-- A key tells how many constraints there are, and the form and the constant of each, as long as
no two numbers are written in one way and all names can be read. -/
theorem canonicalize_eq_sameShape (c : Cache World Conjunction) {s t : Conjunction} {key : String}
    (keyS : (c.canonicalize Conjunction.engine s).answer = .ok key)
    (keyT : (c.canonicalize Conjunction.engine t).answer = .ok key)
    (numbers : c.scheme.SeparatesNumbers) (readS : ∀ v ∈ s.vars, c.scheme.Readable v)
    (readT : ∀ v ∈ t.vars, c.scheme.Readable v) :
    List.Forall₂ Constraint.SameShape s.constraints t.constraints := by
  obtain ⟨-, normalS⟩ := c.canonicalize_conjunction_iff.1 keyS
  obtain ⟨-, normalT⟩ := c.canonicalize_conjunction_iff.1 keyT
  have matched := Conjunction.matches_of_normalize_text_eq numbers readS readT
    (normalS.trans normalT.symm)
  exact matched.imp fun c d alike => alike.imp fun _ _ _ _ _ => trivial

theorem canonicalize_spaced_names :
    let c : Cache Unit Conjunction := new 0 .standard ()
    let s : Conjunction := .ofLists [⟨⟨"the sum_L"⟩, .int⟩, ⟨⟨"n-1"⟩, .int⟩]
      [.atLeast ⟨"the sum_L"⟩ (-3), .same ⟨"n-1"⟩ ⟨"the sum_L"⟩]
    let t : Conjunction := .ofLists [⟨⟨"the sum_A"⟩, .int⟩, ⟨⟨"n-1"⟩, .int⟩]
      [.atLeast ⟨"the sum_A"⟩ (-3), .same ⟨"n-1"⟩ ⟨"the sum_A"⟩]
    (c.canonicalize Conjunction.engine s).answer = .ok "the sum#0 >= -3 /\\ n-1 = the sum#0" ∧
    (c.canonicalize Conjunction.engine t).answer = .ok "the sum#0 >= -3 /\\ n-1 = the sum#0" ∧
    c.scheme.SeparatesNumbers ∧ (∀ v ∈ s.vars, c.scheme.Readable v) ∧
    (∀ v ∈ t.vars, c.scheme.Readable v) ∧
    List.Forall₂ Constraint.SameShape s.constraints t.constraints := by
  intro c s t
  have keyS : (c.canonicalize Conjunction.engine s).answer =
      .ok "the sum#0 >= -3 /\\ n-1 = the sum#0" := by decide +kernel
  have keyT : (c.canonicalize Conjunction.engine t).answer =
      .ok "the sum#0 >= -3 /\\ n-1 = the sum#0" := by decide +kernel
  have numbers : c.scheme.SeparatesNumbers := Scheme.standard_keepsNumbers.separatesNumbers
  have readS : ∀ v ∈ s.vars, c.scheme.Readable v := by
    have plain : ∀ v ∈ s.vars, SignFree v.name.toList ∧
        v.name.toList.any (fun c => c != '-' && !c.isDigit) = true := by decide +kernel
    exact fun v member => Scheme.standard_keepsNumbers.readable_of_any (plain v member)
  have readT : ∀ v ∈ t.vars, c.scheme.Readable v := by
    have plain : ∀ v ∈ t.vars, SignFree v.name.toList ∧
        v.name.toList.any (fun c => c != '-' && !c.isDigit) = true := by decide +kernel
    exact fun v member => Scheme.standard_keepsNumbers.readable_of_any (plain v member)
  exact ⟨keyS, keyT, numbers, readS, readT,
    c.canonicalize_eq_sameShape keyS keyT numbers readS readT⟩

/-- Each assumption is needed: a name may bring signs along or be the text of a number, and a marker
of digits may tag the numbers themselves. -/
theorem canonicalize_confuses_shapes :
    let names : Cache Unit Conjunction := new 0 .standard ()
    let signed : Conjunction := .ofLists [⟨⟨"x >= 0 /\\ y"⟩, .int⟩] [.atLeast ⟨"x >= 0 /\\ y"⟩ 0]
    let plain : Conjunction := .ofLists [⟨⟨"x"⟩, .int⟩, ⟨⟨"y"⟩, .int⟩]
      [.atLeast ⟨"x"⟩ 0, .atLeast ⟨"y"⟩ 0]
    let named : Conjunction := .ofLists [⟨⟨"x"⟩, .int⟩, ⟨⟨"3"⟩, .int⟩] [.same ⟨"x"⟩ ⟨"3"⟩]
    let valued : Conjunction := .ofLists [⟨⟨"x"⟩, .int⟩] [.equals ⟨"x"⟩ 3]
    let digits : Cache Unit Conjunction := new 1 ⟨[⟨"0", .trailing, .left⟩, ⟨"1", .trailing, .left⟩,
      ⟨"_R", .trailing, .right⟩], by decide⟩ ()
    let ten : Conjunction := .ofLists [⟨⟨"x"⟩, .int⟩] [.atLeast ⟨"x"⟩ 10]
    let eleven : Conjunction := .ofLists [⟨⟨"x"⟩, .int⟩] [.atLeast ⟨"x"⟩ 11]
    ((names.canonicalize Conjunction.engine signed).answer = .ok "x >= 0 /\\ y >= 0" ∧
      (names.canonicalize Conjunction.engine plain).answer = .ok "x >= 0 /\\ y >= 0" ∧
      ¬List.Forall₂ Constraint.SameShape signed.constraints plain.constraints) ∧
    ((names.canonicalize Conjunction.engine named).answer = .ok "x = 3" ∧
      (names.canonicalize Conjunction.engine valued).answer = .ok "x = 3" ∧
      ¬List.Forall₂ Constraint.SameShape named.constraints valued.constraints) ∧
    (digits.canonicalize Conjunction.engine ten).answer = .ok "x >= 1#0" ∧
      (digits.canonicalize Conjunction.engine eleven).answer = .ok "x >= 1#0" ∧
      ¬List.Forall₂ Constraint.SameShape ten.constraints eleven.constraints := by
  intro names signed plain named valued digits ten eleven
  have keySigned : (names.canonicalize Conjunction.engine signed).answer =
      .ok "x >= 0 /\\ y >= 0" := by decide +kernel
  have keyPlain : (names.canonicalize Conjunction.engine plain).answer =
      .ok "x >= 0 /\\ y >= 0" := by decide +kernel
  have keyNamed : (names.canonicalize Conjunction.engine named).answer = .ok "x = 3" := by
    decide +kernel
  have keyValued : (names.canonicalize Conjunction.engine valued).answer = .ok "x = 3" := by
    decide +kernel
  have keyTen : (digits.canonicalize Conjunction.engine ten).answer = .ok "x >= 1#0" := by
    decide +kernel
  have keyEleven : (digits.canonicalize Conjunction.engine eleven).answer = .ok "x >= 1#0" := by
    decide +kernel
  have oneToTwo : ¬List.Forall₂ Constraint.SameShape signed.constraints plain.constraints := by
    intro matched
    exact absurd matched.length_eq (by decide +kernel)
  have nameToValue : ¬List.Forall₂ Constraint.SameShape named.constraints valued.constraints := by
    have left : named.constraints = [.same ⟨"x"⟩ ⟨"3"⟩] := by decide +kernel
    have right : valued.constraints = [.equals ⟨"x"⟩ 3] := by decide +kernel
    rw [left, right, List.forall₂_cons]
    rintro ⟨⟨⟩, -⟩
  have tenToEleven : ¬List.Forall₂ Constraint.SameShape ten.constraints eleven.constraints := by
    have left : ten.constraints = [.atLeast ⟨"x"⟩ 10] := by decide +kernel
    have right : eleven.constraints = [.atLeast ⟨"x"⟩ 11] := by decide +kernel
    rw [left, right, List.forall₂_cons]
    rintro ⟨⟨-, same⟩, -⟩
    exact absurd same (by decide)
  exact ⟨⟨keySigned, keyPlain, oneToTwo⟩, ⟨keyNamed, keyValued, nameToValue⟩,
    keyTen, keyEleven, tenToEleven⟩

end Cache

end StateIntern
