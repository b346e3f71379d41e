import StateIntern.Engine.Listing
import StateIntern.Proofs.Operation
import StateIntern.Proofs.Rewriting

/-! Reserved words. The search for them cuts a text in its own way and finds the same words as the
scan that makes canonical text, so what that scan has rewritten can be told from native text: a
cache does not take it for a print. -/
namespace StateIntern

open Text

variable {s : Scheme}

namespace Scheme

theorem normalize_eq_self {text : String} (free : placeholder ∉ (s.normalize text).toList) :
    s.normalize text = text := by
  rw [normalize, String.toList_ofList] at free
  rw [normalize, normalizeChars_eq_self free, String.ofList_toList]

theorem canonicalWord_of_mem {word : List Char} (marked : placeholder ∈ word) :
    s.canonicalWord word = word :=
  canonicalWord_eq_self_iff.2 (splitWord?_of_mem marked)

theorem normalize_of_word {word : String} (isWord : IsWord word.toList)
    (marked : placeholder ∈ word.toList) : s.normalize word = word := by
  rw [normalize, normalizeChars_word isWord.2, canonicalWord_of_mem marked, String.ofList_toList]

end Scheme

theorem Cache.canonicalize_reserved {World State Fault : Type} {engine : Engine World State Fault}
    {c : Cache World State} {state : State} {world : World} {text word : String}
    (printed : engine.print state c.world = (.ok text, world))
    (reserved : reservedWord? text = some word) :
    c.canonicalize engine state = ⟨.error (.reservedName word), { c with world }, []⟩ := by
  simp only [canonicalize, printed, reserved]

/-- The reserved word of a text is the first word with the placeholder in the cut that canonical
text is made from, which keeps this word as it is. Text that has been rewritten has such a word, so
a state that is printed in canonical form is refused where tags have been rewritten. -/
theorem Scheme.reservedWord?_in_cut (s : Scheme) (text : String) :
    ∃ ps, (∀ qs, Splits text.toList qs ↔ qs = ps) ∧
      s.normalizeAt? text = some (s.normalize text) ∧
      (s.normalize text).toList = ps.flatMap s.canonicalPiece ∧
      (reservedWord? text = none ↔ placeholder ∉ text.toList) ∧
      (∀ word, reservedWord? text = some word ↔
        ∃ before after, ps = before ++ .word word.toList :: after ∧ placeholder ∈ word.toList ∧
          ∀ letters, .word letters ∈ before → placeholder ∉ letters) ∧
      (∀ word, reservedWord? text = some word →
        s.canonicalPiece (.word word.toList) = word.toList ∧ s.normalize word = word) ∧
      (s.normalize text ≠ text → ∃ word, reservedWord? (s.normalize text) = some word ∧
        ∀ {World State Fault : Type} (engine : Engine World State Fault) (c : Cache World State)
          (state : State) (world : World),
          engine.print state c.world = (.ok (s.normalize text), world) →
          c.canonicalize engine state = ⟨.error (.reservedName word), { c with world }, []⟩) := by
  refine ⟨pieces text.toList, fun qs => ?_, s.normalizeAt?_eq text, ?_, reservedWord?_eq_none_iff,
    fun word => reservedWord?_eq_some_iff, fun word found => ?_, fun rewritten => ?_⟩
  · rw [splits_iff, eq_comm]
  · rw [normalize, String.toList_ofList, normalizeChars_eq]
  · obtain ⟨before, after, cut, marked, -⟩ := reservedWord?_eq_some_iff.1 found
    have listed : .word word.toList ∈ pieces text.toList := by simp [cut]
    have isWord := (splits_pieces text.toList).isWord_of_mem listed
    exact ⟨canonicalWord_of_mem marked, normalize_of_word isWord marked⟩
  · have marked : reservedWord? (s.normalize text) ≠ none := fun none =>
      rewritten (normalize_eq_self (reservedWord?_eq_none_iff.1 none))
    obtain ⟨word, reserved⟩ := Option.ne_none_iff_exists'.1 marked
    exact ⟨word, reserved, fun engine c state world printed =>
      Cache.canonicalize_reserved printed reserved⟩

/-- Separators meet in this text, and its first marked word is not the first of its canonical
form. -/
theorem Scheme.reservedWord?_after_tag :
    let text := "  x_L <= y#1 + #"
    let printed : Listing := ⟨"  x#0 <= y#1 + #", [], []⟩
    let engine : Engine Unit Listing Empty := Listing.engine
    let c : Cache Unit Listing := .new 0 .versions ()
    reservedWord? text = some "y#1" ∧ standard.normalize "y#1" = "y#1" ∧
    standard.normalize text ≠ text ∧
    c.canonicalize engine printed = ⟨.error (.reservedName "x#0"), c, []⟩ := by
  intro text printed engine c
  have reserved : reservedWord? text = some "y#1" := by decide +kernel
  have key : standard.normalize text = "  x#0 <= y#1 + #" := by decide +kernel
  have rewritten : standard.normalize text ≠ text := by
    rw [key]
    decide
  have first : reservedWord? "  x#0 <= y#1 + #" = some "x#0" := by decide +kernel
  obtain ⟨ps, -, -, -, -, -, kept, refused⟩ := reservedWord?_in_cut standard text
  obtain ⟨word, found, refused⟩ := refused rewritten
  rw [key] at found refused
  cases found.symm.trans first
  exact ⟨reserved, (kept _ reserved).2, rewritten, refused engine c printed () rfl⟩

end StateIntern
