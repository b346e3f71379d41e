import Mathlib.Data.List.Find
import Mathlib.Data.Set.Function
import StateIntern.Proofs.Shape
import StateIntern.Proofs.Sharing

/-! Other tags for the variables of a state. A renaming that keeps base and side of each tagged
variable, and each untagged variable, changes neither the key nor what is derived: solutions move
along it, and first copies become first copies. -/
namespace StateIntern

open Text

namespace Constraint

def rename (f : Var → Var) : Constraint → Constraint
  | .atLeast x n => .atLeast (f x) n
  | .atMost x n => .atMost (f x) n
  | .equals x n => .equals (f x) n
  | .same x y => .same (f x) (f y)

variable {f : Var → Var}

theorem vars_rename (c : Constraint) : (c.rename f).vars = c.vars.map f := by
  cases c <;> rfl

theorem holds_rename (c : Constraint) (value : Var → Int) :
    (c.rename f).Holds value ↔ c.Holds fun x => value (f x) := by
  cases c <;> rfl

theorem holds_congr {c : Constraint} {value other : Var → Int}
    (agree : ∀ x ∈ c.vars, value x = other x) : c.Holds value ↔ c.Holds other := by
  cases c <;> simp only [vars, List.forall_mem_cons] at agree <;> simp [Holds, agree]

theorem matches_rename {R : Var → Var → Prop} {c : Constraint} (related : ∀ x ∈ c.vars, R x (f x)) :
    c.Matches R (c.rename f) := by
  cases c with
  | same x y => exact ⟨related x (.head _), related y (.tail _ (.head _))⟩
  | _ => exact ⟨related _ (.head _), rfl⟩

end Constraint

theorem Scheme.AlikeVar.sameForm {s : Scheme} {x y : Var} (alike : s.AlikeVar x y)
    (wordX : IsWord x.name.toList) (wordY : IsWord y.name.toList) : s.SameForm x y := by
  rcases alike with ⟨rfl, -⟩ | ⟨tag, tagX, tagY⟩
  · rfl
  · rw [← String.ofList_toList (s := x.name)] at tagX
    rw [← String.ofList_toList (s := y.name)] at tagY
    obtain ⟨⟨base, side⟩, splitX, splitY⟩ := exists_split?_iff.1 ⟨tag, tagX, tagY⟩
    rw [SameForm, normalize_eq_iff, normalizeChars_word wordX.2, normalizeChars_word wordY.2,
      canonicalWord, canonicalWord, splitX, splitY]

theorem Scheme.AlikeVar.isPrintable {s : Scheme} {x y : Var} (alike : s.AlikeVar x y)
    (wordY : IsWord y.name.toList) (printable : x.isPrintable = true) : y.isPrintable = true := by
  refine Var.isPrintable_iff.2 ⟨?_, ?_⟩
  · intro empty
    exact wordY.1 (by rw [empty]; rfl)
  · rcases alike with ⟨rfl, -⟩ | ⟨tag, -, tagY⟩
    · exact (Var.isPrintable_iff.1 printable).2
    · obtain ⟨split, splits, -⟩ := Option.map_eq_some_iff.1 tagY
      exact (splitWord?_eq_some splits).1

namespace Conjunction

variable {scheme : Scheme} {s : Conjunction}

def declaredVars (s : Conjunction) : Set Var := {v | v ∈ s.env.map (·.var)}

/-- New names for the variables of a state, all different. Each is a word that says the same as the
old name. -/
structure Renaming (scheme : Scheme) (s : Conjunction) where
  rename : Var → Var
  injective : Set.InjOn rename s.declaredVars
  words : ∀ v ∈ s.declaredVars, IsWord (rename v).name.toList
  alike : ∀ v ∈ s.declaredVars, scheme.AlikeVar v (rename v)

namespace Renaming

variable (f : s.Renaming scheme)

def declare (d : TypedVar) : TypedVar := ⟨f.rename d.var, d.kind⟩

/-- The state under its new names. -/
def apply : Conjunction where
  env := s.env.map f.declare
  constraints := s.constraints.map (·.rename f.rename)
  distinct := by
    have renamed : (s.env.map f.declare).map (·.var) = (s.env.map (·.var)).map f.rename := by
      rw [List.map_map, List.map_map]
      rfl
    rw [renamed]
    exact List.Nodup.map_on (fun x memberX y memberY => f.injective memberX memberY) s.distinct

theorem printable (printable : s.printFault? = none) : f.apply.printFault? = none := by
  obtain ⟨names, closed⟩ := printFault?_eq_none_iff.1 printable
  refine printFault?_eq_none_iff.2 ⟨?_, ?_⟩
  · intro d member
    obtain ⟨old, declared, rfl⟩ := List.mem_map.1 member
    have inside : old.var ∈ s.declaredVars := List.mem_map_of_mem declared
    exact (f.alike _ inside).isPrintable (f.words _ inside) (names old declared)
  · intro c member v inside
    obtain ⟨old, stored, rfl⟩ := List.mem_map.1 member
    rw [Constraint.vars_rename] at inside
    obtain ⟨x, spoken, rfl⟩ := List.mem_map.1 inside
    obtain ⟨d, declared, rfl⟩ := List.mem_map.1 (closed old stored x spoken)
    exact List.mem_map.2 ⟨f.declare d, List.mem_map_of_mem declared, rfl⟩

theorem normalize_text (closed : s.Closed) (words : ∀ v ∈ s.declaredVars, IsWord v.name.toList) :
    scheme.normalize f.apply.text = scheme.normalize s.text := by
  symm
  apply normalize_text_eq_of_matches
  rw [apply, List.forall₂_map_right_iff, List.forall₂_same]
  intro c member
  apply Constraint.matches_rename
  intro x spoken
  have declared : x ∈ s.declaredVars := closed c member x spoken
  exact (f.alike x declared).sameForm (words x declared) (f.words x declared)

theorem alikeDeclared : List.Forall₂ scheme.AlikeDeclared s.env f.apply.env := by
  rw [apply, List.forall₂_map_right_iff, List.forall₂_same]
  intro d declared
  exact ⟨f.alike d.var (List.mem_map_of_mem declared), rfl⟩

theorem firstCopy?_apply (base : Var) (side : Side) :
    scheme.firstCopy? f.apply.env base side =
      (scheme.firstCopy? s.env base side).map f.declare := by
  unfold Scheme.firstCopy?
  rw [apply, List.find?_map]
  refine congrArg (Option.map f.declare) (List.find?_congr fun d declared => ?_)
  have split := (Scheme.alikeVar_iff.1 (f.alike d.var (List.mem_map_of_mem declared))).1
  simp only [Function.comp_apply, declare, split]

theorem holds_apply (value : Var → Int) :
    f.apply.Holds value ↔ s.Holds fun x => value (f.rename x) := by
  simp only [Holds, apply, List.forall_mem_map, Constraint.holds_rename]

/-- Numbers for the old names are numbers for the new ones. -/
theorem exists_value (value : Var → Int) :
    ∃ other : Var → Int, ∀ v ∈ s.declaredVars, other (f.rename v) = value v := by
  have : Nonempty Var := ⟨⟨""⟩⟩
  refine ⟨fun v => value (Function.invFunOn f.rename s.declaredVars v), fun v declared => ?_⟩
  exact congrArg value (f.injective.leftInvOn_invFunOn declared)

/-- Solutions move along the renaming, both ways. -/
theorem diverges_apply (closed : s.Closed) (base : Var) :
    f.apply.Diverges scheme base ↔ s.Diverges scheme base := by
  unfold Diverges
  simp only [firstCopy?_apply, Option.map_eq_some_iff]
  constructor
  · rintro ⟨_, _, ⟨l, left, rfl⟩, ⟨r, right, rfl⟩, kinds, value, holds, differ⟩
    exact ⟨l, r, left, right, kinds, _, (f.holds_apply value).1 holds, differ⟩
  · rintro ⟨l, r, left, right, kinds, value, holds, differ⟩
    obtain ⟨other, moved⟩ := f.exists_value value
    have solved : f.apply.Holds other := by
      rw [holds_apply]
      intro c member
      refine (Constraint.holds_congr fun x spoken => ?_).2 (holds c member)
      exact moved x (closed c member x spoken)
    have movedL := moved l.var (List.mem_map_of_mem (Scheme.firstCopy?_eq_some left).1)
    have movedR := moved r.var (List.mem_map_of_mem (Scheme.firstCopy?_eq_some right).1)
    refine ⟨f.declare l, f.declare r, ⟨l, left, rfl⟩, ⟨r, right, rfl⟩, kinds, other, solved, ?_⟩
    simp only [declare, movedL, movedR]
    exact differ

end Renaming

end Conjunction

namespace Cache

variable {World : Type}

/-- A state and its renaming have one key and one instance, whichever comes first, and the same is
derived for both, alone or shared. -/
theorem run_renamed (owner : Nat) (scheme : Scheme) (world : World) {s : Conjunction}
    {text : String} (printed : s.print = .ok text)
    (words : ∀ v ∈ s.declaredVars, IsWord v.name.toList) (f : s.Renaming scheme) :
    let start : Cache World Conjunction := new owner scheme world
    let t := f.apply
    (∃ other, t.print = .ok other) ∧
    ∃ key common divergent,
      (start.canonicalize Conjunction.engine s).answer = .ok key ∧
      (start.canonicalize Conjunction.engine t).answer = .ok key ∧
      start.internAndQuery Conjunction.engine .common s = .ok common ∧
      start.internAndQuery Conjunction.engine .common t = .ok common ∧
      start.internAndQuery Conjunction.engine .divergent s = .ok divergent ∧
      start.internAndQuery Conjunction.engine .divergent t = .ok divergent ∧
      ∀ operations,
        let c := (start.run Conjunction.engine operations).cache
        (∃ h, (c.intern Conjunction.engine s).answer = .ok h ∧
          ((c.intern Conjunction.engine s).cache.intern Conjunction.engine t).answer = .ok h) ∧
        (∃ h, (c.intern Conjunction.engine t).answer = .ok h ∧
          ((c.intern Conjunction.engine t).cache.intern Conjunction.engine s).answer = .ok h) ∧
        ((∀ first ∈ Interning.first? (start.history Conjunction.engine operations) key,
            first = s ∨ first = t) →
          ∀ u, u = s ∨ u = t → c.internAndQuery Conjunction.engine .common u = .ok common ∧
            c.internAndQuery Conjunction.engine .divergent u = .ok divergent) := by
  intro start t
  have printableS := (Conjunction.print_eq_ok_iff.1 printed).1
  have printableT := f.printable printableS
  have closed := Conjunction.closed_of_printable printableS
  have keyS : (start.canonicalize Conjunction.engine s).answer = .ok (scheme.normalize s.text) :=
    start.canonicalize_printable printableS
  have keyT : (start.canonicalize Conjunction.engine t).answer = .ok (scheme.normalize s.text) := by
    rw [← f.normalize_text closed words]
    exact start.canonicalize_printable printableT
  obtain ⟨common, -, commons⟩ := run_agrees owner scheme world
    (fun u base => scheme.Paired u.env base)
    (fun operations _ => run_common owner scheme world operations) keyS keyT
    fun base => Scheme.paired_iff_of_alike f.alikeDeclared
  obtain ⟨divergent, -, divergents⟩ := run_agrees owner scheme world (Conjunction.Diverges scheme)
    (fun operations _ => run_divergent owner scheme world operations) keyS keyT
    fun base => (f.diverges_apply closed base).symm
  have freshC := commons [] fun first came => absurd came (Option.not_mem_none first)
  have freshD := divergents [] fun first came => absurd came (Option.not_mem_none first)
  refine ⟨⟨_, Conjunction.print_eq_ok_iff.2 ⟨printableT, rfl⟩⟩, _, common, divergent, keyS, keyT,
    freshC s (.inl rfl), freshC t (.inr rfl), freshD s (.inl rfl), freshD t (.inr rfl), ?_⟩
  intro operations c
  have placed : Placed start (start.history Conjunction.engine operations) c :=
    run_placed Registry.empty_valid operations
  have lastS := run_canonicalize owner scheme world operations keyS
  have lastT := run_canonicalize owner scheme world operations keyT
  refine ⟨intern_shared placed.valid_of_new lastS lastT,
    intern_shared placed.valid_of_new lastT lastS, fun came u among => ?_⟩
  exact ⟨commons operations came u among, divergents operations came u among⟩

/-- Two copies of one side trade their names, and the other side changes its convention. -/
theorem run_renamed_traded_names :
    let s : Conjunction := .ofLists
      [⟨⟨"x_L"⟩, .int⟩, ⟨⟨"x_R"⟩, .int⟩, ⟨⟨"x_A"⟩, .int⟩, ⟨⟨"y_B"⟩, .real⟩, ⟨⟨"n"⟩, .int⟩]
      [.same ⟨"x_A"⟩ ⟨"x_R"⟩, .atLeast ⟨"x_L"⟩ (-2), .same ⟨"y_B"⟩ ⟨"n"⟩]
    let t : Conjunction := .ofLists
      [⟨⟨"x_A"⟩, .int⟩, ⟨⟨"x_B"⟩, .int⟩, ⟨⟨"x_L"⟩, .int⟩, ⟨⟨"y_R"⟩, .real⟩, ⟨⟨"n"⟩, .int⟩]
      [.same ⟨"x_L"⟩ ⟨"x_B"⟩, .atLeast ⟨"x_A"⟩ (-2), .same ⟨"y_R"⟩ ⟨"n"⟩]
    let start : Cache Unit Conjunction := new 0 .standard ()
    s.print = .ok "x_A = x_R /\\ x_L >= -2 /\\ y_B = n" ∧
    (∀ v ∈ s.declaredVars, IsWord v.name.toList) ∧
    ∃ f : s.Renaming .standard, f.apply = t ∧
    ∃ key divergent,
      (start.canonicalize Conjunction.engine s).answer = .ok key ∧
      (start.canonicalize Conjunction.engine t).answer = .ok key ∧
      start.internAndQuery Conjunction.engine .divergent s = .ok divergent ∧
      start.internAndQuery Conjunction.engine .divergent t = .ok divergent := by
  intro s t start
  have printed : s.print = .ok "x_A = x_R /\\ x_L >= -2 /\\ y_B = n" := by decide +kernel
  have words : ∀ v ∈ s.env.map (·.var), IsWord v.name.toList := by decide +kernel
  let rename (v : Var) : Var := ([(⟨"x_L"⟩, ⟨"x_A"⟩), (⟨"x_A"⟩, ⟨"x_L"⟩), (⟨"x_R"⟩, ⟨"x_B"⟩),
    (⟨"y_B"⟩, ⟨"y_R"⟩)].lookup v).getD v
  have injective : ∀ v ∈ s.env.map (·.var), ∀ w ∈ s.env.map (·.var),
      rename v = rename w → v = w := by decide +kernel
  have renamed : ∀ v ∈ s.env.map (·.var), IsWord (rename v).name.toList := by decide +kernel
  have alike : ∀ v ∈ s.env.map (·.var), Scheme.standard.AlikeVar v (rename v) := by decide +kernel
  let f : s.Renaming .standard :=
    ⟨rename, fun v memberV w memberW => injective v memberV w memberW, renamed, alike⟩
  have applied : f.apply = t := by
    have env : s.env.map (fun d => ⟨rename d.var, d.kind⟩) = t.env := by decide +kernel
    have constraints : s.constraints.map (·.rename rename) = t.constraints := by decide +kernel
    exact (Conjunction.mk.injEq _ _ f.apply.distinct _ _ t.distinct).mpr ⟨env, constraints⟩
  obtain ⟨-, key, common, divergent, keyS, keyT, -, -, answerS, answerT, -⟩ :=
    run_renamed 0 .standard () printed words f
  rw [applied] at keyT answerT
  exact ⟨printed, words, f, applied, key, divergent, keyS, keyT, answerS, answerT⟩

end Cache

end StateIntern
