import StateIntern.Proofs.Key

/-! Text between blanks. Normalization keeps to each part, and the signs of a printed conjunction
are parts of their own; so a key tells the constraints wherever no variable brings a sign along or
can be taken for a number. -/
namespace StateIntern

namespace Text

def parts (text : List Char) : List (List Char) := text.splitOn ' '

theorem parts_append_blank (before after : List Char) :
    parts (before ++ ' ' :: after) = parts before ++ parts after :=
  List.splitOn_append_cons_self before after

theorem parts_inj {t u : List Char} : parts t = parts u ↔ t = u := by
  have restored (text : List Char) : [' '].intercalate (parts text) = text :=
    List.intercalate_splitOn ' '
  constructor
  · intro same
    rw [← restored t, same, restored]
  · rintro rfl
    rfl

theorem parts_of_not_mem {text : List Char} (single : ' ' ∉ text) : parts text = [text] := by
  apply List.splitOnP_eq_singleton
  intro c member
  by_contra blank
  exact single (by simpa using (show c = ' ' by simpa using blank) ▸ member)

/-- What stands between the names, the numbers and the constraints of a text. -/
def signs : List (List Char) := [['>', '='], ['<', '='], ['='], ['/', '\\']]

theorem not_isWordChar_of_sign : ∀ sign ∈ signs, ∀ c ∈ sign, isWordChar c = false := by
  have checked : signs.all (·.all fun c => !isWordChar c) = true := by decide +kernel
  simpa only [List.all_eq_true, Bool.not_eq_true'] using checked

theorem parts_sign {sign : List Char} (member : sign ∈ signs) : parts sign = [sign] := by
  have blanks : ∀ sign ∈ signs, ' ' ∉ sign := by decide
  exact parts_of_not_mem (blanks sign member)

/-- No part of the text is a sign. -/
def SignFree (text : List Char) : Prop := ∀ part ∈ parts text, part ∉ signs

instance (text : List Char) : Decidable (SignFree text) :=
  inferInstanceAs (Decidable (∀ part ∈ parts text, part ∉ signs))

/-- Parts that are no signs end at the first sign. -/
theorem append_eq_append_iff_of_signs {l l' m m' : List (List Char)}
    (free : ∀ part ∈ l, part ∉ signs) (free' : ∀ part ∈ l', part ∉ signs)
    (ends : ∀ sign ∈ m.head?, sign ∈ signs) (ends' : ∀ sign ∈ m'.head?, sign ∈ signs) :
    l ++ m = l' ++ m' ↔ l = l' ∧ m = m' := by
  have read {l m : List (List Char)} (free : ∀ part ∈ l, part ∉ signs)
      (ends : ∀ sign ∈ m.head?, sign ∈ signs) : (l ++ m).takeWhile (· ∉ signs) = l := by
    have stop : m.takeWhile (· ∉ signs) = [] := by
      cases m with
      | nil => rfl
      | cons sign rest => simp [ends sign rfl]
    rw [List.takeWhile_append_of_pos (by simpa using free), stop, List.append_nil]
  constructor
  · intro same
    have left : l = l' := by rw [← read free ends, same, read free' ends']
    subst left
    exact ⟨rfl, List.append_cancel_left same⟩
  · rintro ⟨rfl, rfl⟩
    rfl

end Text

open Text

namespace Scheme

variable {s : Scheme}

theorem parts_normalizeChars (text : List Char) :
    parts (s.normalizeChars text) = (parts text).map s.normalizeChars := by
  have blank : isWordChar ' ' = false := by decide
  -- on the length: each blank leaves two shorter texts
  generalize size : text.length = n
  induction n using Nat.strongRecOn generalizing text with
  | ind n ih =>
    subst size
    by_cases inside : ' ' ∈ text
    · obtain ⟨before, after, rfl⟩ := List.append_of_mem inside
      have first := ih before.length (by simp) before rfl
      have second := ih after.length (by simp; omega) after rfl
      rw [normalizeChars_append_gap blank, parts_append_blank, parts_append_blank,
        List.map_append, first, second]
    · have apart : ' ' ∉ s.normalizeChars text :=
        fun member => inside (mem_of_mem_normalizeChars blank member)
      rw [parts_of_not_mem inside, parts_of_not_mem apart]
      rfl

theorem signFree_normalizeChars {text : List Char} (free : SignFree text) :
    SignFree (s.normalizeChars text) := by
  intro part member sign
  rw [parts_normalizeChars] at member
  obtain ⟨native, inside, rfl⟩ := List.mem_map.1 member
  have same := eq_of_normalizeChars_eq_gaps (not_isWordChar_of_sign _ sign) rfl
  rw [← same] at sign
  exact free native inside sign

theorem normalize_eq_iff {t u : String} :
    s.normalize t = s.normalize u ↔ s.normalizeChars t.toList = s.normalizeChars u.toList := by
  rw [normalize, normalize, String.ofList_inj]

/-- Two names that are written in one way. -/
def SameForm (s : Scheme) (x y : Var) : Prop := s.normalize x.name = s.normalize y.name

/-- No two numbers are written in one way. -/
def SeparatesNumbers (s : Scheme) : Prop :=
  ∀ m n : Int, s.normalize m.repr = s.normalize n.repr → m = n

/-- A name that is not written as a number is, and that holds no sign. -/
structure Readable (s : Scheme) (v : Var) : Prop where
  signFree : SignFree v.name.toList
  notNumber : ∀ n : Int, s.normalize v.name ≠ s.normalize n.repr

end Scheme

theorem signFree_number (n : Int) : SignFree n.repr.toList := by
  have single : ' ' ∉ n.repr.toList := by
    intro member
    rcases isDigit_of_mem_number member with sign | digit
    · exact absurd sign (by decide)
    · exact absurd digit (by decide)
  intro part member sign
  rw [parts_of_not_mem single, List.mem_singleton] at member
  subst member
  obtain ⟨c, inside, wordChar⟩ : ∃ c ∈ n.repr.toList, isWordChar c = true := by
    cases n with
    | ofNat n =>
      obtain ⟨filled, wordChars⟩ := isWord_digits n
      obtain ⟨c, inside⟩ := List.exists_mem_of_ne_nil _ filled
      exact ⟨c, by rwa [Int.repr, Nat.toList_repr], wordChars c inside⟩
    | negSucc n =>
      obtain ⟨filled, wordChars⟩ := isWord_digits (n + 1)
      obtain ⟨c, inside⟩ := List.exists_mem_of_ne_nil _ filled
      refine ⟨c, ?_, wordChars c inside⟩
      rw [Int.repr, String.toList_append, Nat.toList_repr]
      exact List.mem_append_right _ inside
  rw [not_isWordChar_of_sign _ sign c inside] at wordChar
  contradiction

namespace Constraint

/-- One form and one constant, with related variables in the same places. -/
def Matches (R : Var → Var → Prop) : Constraint → Constraint → Prop
  | .atLeast x n, .atLeast y m => R x y ∧ n = m
  | .atMost x n, .atMost y m => R x y ∧ n = m
  | .equals x n, .equals y m => R x y ∧ n = m
  | .same x x', .same y y' => R x y ∧ R x' y'
  | _, _ => False

theorem Matches.imp {R S : Var → Var → Prop} {c d : Constraint} (matched : c.Matches R d)
    (implies : ∀ x ∈ c.vars, ∀ y ∈ d.vars, R x y → S x y) : c.Matches S d := by
  cases c <;> cases d <;> simp only [Matches] at matched
  case same.same =>
    exact ⟨implies _ (.head _) _ (.head _) matched.1,
      implies _ (.tail _ (.head _)) _ (.tail _ (.head _)) matched.2⟩
  all_goals exact ⟨implies _ (.head _) _ (.head _) matched.1, matched.2⟩

variable {s : Scheme}

/-- The parts that a constraint has in a key. -/
def keyParts (s : Scheme) (c : Constraint) : List (List Char) :=
  parts (s.normalizeChars c.subject.name.toList) ++
    c.relation :: parts (s.normalizeChars c.operand)

theorem relation_mem_signs (c : Constraint) : c.relation ∈ signs := by
  cases c <;> simp [relation, signs]

theorem parts_text (c : Constraint) : parts (s.normalizeChars c.text.toList) = c.keyParts s := by
  have blank : isWordChar ' ' = false := by decide
  have relation : s.normalizeChars c.relation = c.relation :=
    Scheme.normalizeChars_gaps (not_isWordChar_of_sign _ c.relation_mem_signs)
  rw [toList_text, Scheme.normalizeChars_append_gap blank, parts_append_blank,
    Scheme.normalizeChars_append_gap blank, parts_append_blank, relation,
    parts_sign c.relation_mem_signs]
  rfl

theorem signFree_subject {c : Constraint} (free : ∀ v ∈ c.vars, SignFree v.name.toList) :
    SignFree (s.normalizeChars c.subject.name.toList) :=
  Scheme.signFree_normalizeChars (free _ c.subject_mem_vars)

theorem signFree_operand {c : Constraint} (free : ∀ v ∈ c.vars, SignFree v.name.toList) :
    SignFree (s.normalizeChars c.operand) := by
  apply Scheme.signFree_normalizeChars
  cases c with
  | same x y => exact free y (.tail _ (.head _))
  | _ => exact signFree_number _

theorem head?_relation_cons (c : Constraint) (rest : List (List Char)) :
    ∀ sign ∈ (c.relation :: rest).head?, sign ∈ signs := by
  rintro sign ⟨⟩
  exact c.relation_mem_signs

theorem keyParts_append_eq_iff {c d : Constraint} (freeC : ∀ v ∈ c.vars, SignFree v.name.toList)
    (freeD : ∀ v ∈ d.vars, SignFree v.name.toList) {ps qs : List (List Char)}
    (ends : ∀ sign ∈ ps.head?, sign ∈ signs) (ends' : ∀ sign ∈ qs.head?, sign ∈ signs) :
    c.keyParts s ++ ps = d.keyParts s ++ qs ↔ c.keyParts s = d.keyParts s ∧ ps = qs := by
  simp only [keyParts, List.append_assoc, List.cons_append, List.cons.injEq, and_assoc,
    append_eq_append_iff_of_signs (signFree_subject freeC) (signFree_subject freeD)
      (c.head?_relation_cons _) (d.head?_relation_cons _),
    append_eq_append_iff_of_signs (signFree_operand freeC) (signFree_operand freeD) ends ends']

theorem Matches.keyParts_eq {c d : Constraint} (matched : c.Matches s.SameForm d) :
    c.keyParts s = d.keyParts s := by
  cases c <;> cases d <;>
    simp_all [Matches, Scheme.SameForm, Scheme.normalize_eq_iff, keyParts, subject, relation,
      operand]

theorem matches_of_keyParts_eq (numbers : s.SeparatesNumbers) {c d : Constraint}
    (readC : ∀ v ∈ c.vars, s.Readable v) (readD : ∀ v ∈ d.vars, s.Readable v)
    (same : c.keyParts s = d.keyParts s) : c.Matches s.SameForm d := by
  have freeC (v : Var) (member : v ∈ c.vars) := (readC v member).signFree
  have freeD (v : Var) (member : v ∈ d.vars) := (readD v member).signFree
  obtain ⟨subjects, rest⟩ := (append_eq_append_iff_of_signs (signFree_subject freeC)
    (signFree_subject freeD) (c.head?_relation_cons _) (d.head?_relation_cons _)).1 same
  obtain ⟨relations, operands⟩ := List.cons.inj rest
  rw [parts_inj] at subjects operands
  cases c <;> cases d <;> simp only [subject, relation, operand, List.cons.injEq, reduceCtorEq,
    Char.reduceEq, false_and] at subjects relations operands
  case equals.same n x y =>
    exact absurd (Scheme.normalize_eq_iff.2 operands.symm)
      ((readD y (.tail _ (.head _))).notNumber n)
  case same.equals x y z n =>
    exact absurd (Scheme.normalize_eq_iff.2 operands)
      ((readC y (.tail _ (.head _))).notNumber n)
  case same.same =>
    exact ⟨Scheme.normalize_eq_iff.2 subjects, Scheme.normalize_eq_iff.2 operands⟩
  all_goals
    exact ⟨Scheme.normalize_eq_iff.2 subjects, numbers _ _ (Scheme.normalize_eq_iff.2 operands)⟩

end Constraint

end StateIntern
