import StateIntern.Cache.Basic

/-! Counts and listings of what a cache holds. -/
namespace StateIntern

structure MemoStats where
  entries : Nat
  hits : Nat
  misses : Nat
  deriving DecidableEq, Repr

def MemoStats.zero : MemoStats := ⟨0, 0, 0⟩

def MemoStats.text (s : MemoStats) : String :=
  s.entries.repr ++ " entries, " ++ s.hits.repr ++ " hits, " ++ s.misses.repr ++ " misses"

def Memo.stats [Ord Key] (m : Memo Key Value) : MemoStats := ⟨m.size, m.hits, m.misses⟩

structure CacheStats where
  states : Nat
  strings : MemoStats
  common : MemoStats
  divergent : MemoStats
  deriving DecidableEq, Repr

def CacheStats.zero : CacheStats := ⟨0, .zero, .zero, .zero⟩

def CacheStats.lines (s : CacheStats) : List String :=
  ["Interned states: " ++ s.states.repr,
    "  strings:        " ++ s.strings.text,
    "  common vars:    " ++ s.common.text,
    "  non-equiv vars: " ++ s.divergent.text]

def CacheStats.text (s : CacheStats) : String := "\n".intercalate s.lines

/-- The keys by number. -/
abbrev Dump := List (StateId × String)

def Dump.lines (d : Dump) : List String :=
  ("Intern table (" ++ d.length.repr ++ " states):") ::
    d.map fun (id, key) => "  " ++ id.text ++ ": " ++ key

/-- Every line is ended, the last one too. -/
def Dump.text (d : Dump) : String := String.join (d.lines.map (· ++ "\n"))

namespace Cache

variable {World State : Type}

def stats (c : Cache World State) : CacheStats :=
  ⟨c.size, c.memos.text.stats, c.memos.common.stats, c.memos.divergent.stats⟩

def dump (c : Cache World State) : Dump := c.handles.map fun h => (h.id, h.text)

/-- The sizes of the tables in one line. -/
def description (c : Cache World State) : String :=
  "InternCache \x7b states: " ++ c.size.repr ++
    ", strings: " ++ c.memos.text.size.repr ++
    ", common_vars: " ++ c.memos.common.size.repr ++
    ", non_equiv_vars: " ++ c.memos.divergent.size.repr ++ " \x7d"

end Cache

end StateIntern
