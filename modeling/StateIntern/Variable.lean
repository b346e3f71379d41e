import StateIntern.Text.Word

/-! Variables by name, and the kinds of number they range over. A tagged copy `x_L` and its base
`x` are both variables. -/
namespace StateIntern

structure Var where
  name : String
  deriving DecidableEq, Repr

/-- Names are ordered by code points. -/
instance : LT Var := ⟨fun a b => a.name < b.name⟩

instance (a b : Var) : Decidable (a < b) := inferInstanceAs (Decidable (a.name < b.name))

theorem Var.lt_trans {a b c : Var} (hab : a < b) (hbc : b < c) : a < c :=
  String.lt_trans hab hbc

theorem Var.lt_irrefl (a : Var) : ¬a < a := String.lt_irrefl a.name

theorem Var.eq_or_lt_of_not_lt {a b : Var} (h : ¬a < b) : a = b ∨ b < a := by
  obtain ⟨a⟩ := a
  obtain ⟨b⟩ := b
  by_cases back : b < a
  · exact .inr back
  · exact .inl (congrArg Var.mk (String.le_antisymm (String.not_lt.1 back) (String.not_lt.1 h)))

/-- Only such names can be printed without being taken for canonical text. -/
def Var.isPrintable (v : Var) : Bool := v.name != "" && !v.name.toList.contains Text.placeholder

inductive Kind where
  | int
  | real
  deriving DecidableEq, Repr

def Kind.text : Kind → String
  | .int => "int"
  | .real => "real"

/-- A declared variable. -/
structure TypedVar where
  var : Var
  kind : Kind
  deriving DecidableEq, Repr

def TypedVar.text (d : TypedVar) : String := d.var.name ++ ":" ++ d.kind.text

/-- By name, and of one name `int` before `real`. -/
def TypedVar.le (a b : TypedVar) : Bool :=
  a.var < b.var || (a.var == b.var && (a.kind == .int || b.kind == .real))

end StateIntern
