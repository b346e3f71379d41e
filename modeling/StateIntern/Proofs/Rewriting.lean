import Mathlib.Data.String.Basic
import StateIntern.Proofs.Tagging
import StateIntern.Tag.Offsets

/-! What the scan of a text computes. A text is cut into words and other characters, each word is
rewritten by the first rule that leaves a base of it, and the parts are put together again. A scan
that cuts words out by byte offsets computes the same and never cuts through a character. -/
namespace StateIntern.Text

theorem slice?_of_append {text : String} {before word after : List Char}
    (parts : text.toList = before ++ word ++ after) :
    slice? text (String.utf8Len before) (String.utf8Len (before ++ word)) =
      some (String.ofList word) := by
  obtain rfl : text = String.ofList (before ++ word ++ after) := by
    rw [← parts, String.ofList_toList]
  have first : String.Pos.Raw.IsValid (String.ofList (before ++ word ++ after))
      ⟨String.utf8Len before⟩ :=
    String.Pos.Raw.isValid_iff_exists_append.2 ⟨String.ofList before, String.ofList (word ++ after),
      by rw [List.append_assoc, String.ofList_append], by rw [← String.utf8ByteSize_ofList]; rfl⟩
  have last : String.Pos.Raw.IsValid (String.ofList (before ++ word ++ after))
      ⟨String.utf8Len (before ++ word)⟩ :=
    String.Pos.Raw.isValid_iff_exists_append.2 ⟨String.ofList (before ++ word), String.ofList after,
      by rw [String.ofList_append], by rw [← String.utf8ByteSize_ofList]; rfl⟩
  have cut := String.extract_of_valid before word after
  rw [← String.utf8Len_append] at cut
  rw [slice?, if_pos, cut]
  exact ⟨by simp, String.Pos.Raw.isValid_eq_true_iff.2 first,
    String.Pos.Raw.isValid_eq_true_iff.2 last⟩

end StateIntern.Text

namespace StateIntern.Scheme

open Text

variable {s : Scheme}

section Rules

/-- The first rule in the table that leaves a base name of the word. -/
structure FirstRule (s : Scheme) (word : List Char) (r : Rule) (base : List Char) : Prop where
  filled : base ≠ []
  attached : r.attach base = word
  first : ∃ before after, s.rules = before ++ r :: after ∧
    ∀ q ∈ before, ∀ other, other ≠ [] → q.attach other ≠ word

/-- Some rule leaves a base name of the word, which is not in canonical form. -/
def Tagged (s : Scheme) (word : List Char) : Prop :=
  placeholder ∉ word ∧ ∃ r ∈ s.rules, ∃ base, base ≠ [] ∧ r.attach base = word

/-- What is written for a piece of text. -/
inductive Writes (s : Scheme) : Piece → List Char → Prop where
  | gap (c : Char) : s.Writes (.gap c) [c]
  | tagged : placeholder ∉ word → s.FirstRule word r base →
      s.Writes (.word word) (base ++ [placeholder, r.side.digit])
  | kept : ¬s.Tagged word → s.Writes (.word word) word

theorem strip?_eq_none_iff {r : Rule} {word : List Char} :
    r.strip? word = none ↔ ∀ base, base ≠ [] → r.attach base ≠ word := by
  simp [Option.eq_none_iff_forall_ne_some, Rule.strip?_eq_some_iff]

theorem splitWord?_eq_some_iff {word base : List Char} {side : Side} :
    s.splitWord? word = some (base, side) ↔
      placeholder ∉ word ∧ ∃ r, s.FirstRule word r base ∧ r.side = side := by
  by_cases marked : placeholder ∈ word
  · simp [splitWord?_of_mem, marked]
  · rw [splitWord?, if_neg marked, List.findSome?_eq_some_iff]
    simp only [marked, not_false_eq_true, true_and, Option.map_eq_some_iff, Option.map_eq_none_iff,
      Rule.strip?_eq_some_iff, strip?_eq_none_iff]
    constructor
    · rintro ⟨before, r, after, rules, ⟨rest, ⟨filled, attached⟩, same⟩, unmatched⟩
      cases same
      exact ⟨r, ⟨filled, attached, before, after, rules, unmatched⟩, rfl⟩
    · rintro ⟨r, ⟨filled, attached, before, after, rules, unmatched⟩, rfl⟩
      exact ⟨before, r, after, rules, ⟨base, ⟨filled, attached⟩, rfl⟩, unmatched⟩

theorem splitWord?_eq_none_iff {word : List Char} : s.splitWord? word = none ↔ ¬s.Tagged word := by
  by_cases marked : placeholder ∈ word
  · simp [splitWord?_of_mem, Tagged, marked]
  · rw [splitWord?, if_neg marked, List.findSome?_eq_none_iff]
    simp [strip?_eq_none_iff, Tagged, marked]

theorem writes_iff {p : Piece} {part : List Char} :
    s.Writes p part ↔ s.canonicalPiece p = part := by
  constructor
  · intro writes
    cases writes with
    | gap c => rfl
    | tagged free first =>
      have split := splitWord?_eq_some_iff.2 ⟨free, _, first, rfl⟩
      simp [canonicalPiece, canonicalWord, split]
    | kept untagged =>
      have split := splitWord?_eq_none_iff.2 untagged
      simp [canonicalPiece, canonicalWord, split]
  · rintro rfl
    cases p with
    | gap c => exact .gap c
    | word letters =>
      rcases split : s.splitWord? letters with _ | ⟨base, side⟩
      · have untagged := splitWord?_eq_none_iff.1 split
        simpa [canonicalPiece, canonicalWord, split] using Writes.kept untagged
      · obtain ⟨free, r, first, rfl⟩ := splitWord?_eq_some_iff.1 split
        simpa [canonicalPiece, canonicalWord, split] using Writes.tagged free first

end Rules

section Offsets

/-- Both scans have read the same front of a text. -/
structure OffsetScan.Follows (marks : OffsetScan) (scan : Scan) (front : List Char) : Prop where
  written : marks.written = String.ofList scan.finished.reverse
  start : ∃ before, front = before ++ scan.word.reverse ∧
    marks.start = if scan.word = [] then none else some (String.utf8Len before)

variable {text : String} {marks : OffsetScan} {scan : Scan} {front rest : List Char}

theorem OffsetScan.Follows.flushAt? (follows : marks.Follows scan front)
    (parts : text.toList = front ++ rest) :
    s.flushAt? text marks (String.utf8Len front) = some (String.ofList (s.flush scan).reverse) := by
  obtain ⟨before, rfl, start⟩ := follows.start
  unfold Scheme.flushAt?
  by_cases empty : scan.word = []
  · simp [start, empty, follows.written, flush, canonicalWord_nil]
  · simp [start, empty, slice?_of_append parts, follows.written, flush, -String.utf8Len_append]

theorem OffsetScan.Follows.advanceAt? {c : Char} (follows : marks.Follows scan front)
    (parts : text.toList = front ++ c :: rest) :
    ∃ next, s.advanceAt? text marks (String.utf8Len front) c = some next ∧
      next.Follows (s.advance scan c) (front ++ [c]) := by
  unfold Scheme.advanceAt? advance
  by_cases wordChar : isWordChar c = true
  · obtain ⟨before, cut, start⟩ := follows.start
    refine ⟨_, if_pos wordChar, ?_⟩
    rw [if_pos wordChar]
    refine ⟨follows.written, before, by simp [cut], ?_⟩
    by_cases empty : scan.word = [] <;> simp [start, empty, cut]
  · refine ⟨_, by rw [if_neg wordChar, follows.flushAt? parts]; rfl, ?_⟩
    rw [if_neg wordChar]
    exact ⟨by simp, front ++ [c], by simp, by simp⟩

theorem OffsetScan.Follows.scanAt? (follows : marks.Follows scan front)
    (parts : text.toList = front ++ rest) :
    s.scanAt? text marks (String.utf8Len front) rest =
      some (String.ofList (s.flush (rest.foldl s.advance scan)).reverse) := by
  induction rest generalizing marks scan front with
  | nil => exact follows.flushAt? parts
  | cons c rest ih =>
    obtain ⟨next, step, follows⟩ := follows.advanceAt? (s := s) parts
    have later := ih follows (by simp [parts])
    simp only [String.utf8Len_append, String.utf8Len_cons, String.utf8Len_nil,
      Nat.zero_add] at later
    simp only [Scheme.scanAt?, step, Option.bind_some, later, List.foldl_cons]

theorem normalizeAt?_eq (s : Scheme) (text : String) :
    s.normalizeAt? text = some (s.normalize text) := by
  have start : OffsetScan.Follows ⟨"", none⟩ Scan.start [] := ⟨rfl, [], rfl, rfl⟩
  have parts : text.toList = [] ++ text.toList := rfl
  exact start.scanAt? parts

end Offsets

theorem forall₂_writes_iff {ps : List Piece} {parts : List (List Char)} :
    List.Forall₂ s.Writes ps parts ↔ ps.map s.canonicalPiece = parts := by
  induction ps generalizing parts with
  | nil => cases parts <;> simp
  | cons p rest ih => cases parts <;> simp [writes_iff, ih]

/-- Canonical text is what the one cut of the text and the order of the rules say: a word in which
some rule leaves a base becomes the base under the first such rule, with the mark of its side, and
all else stays. Characters that belong to no word part a text, the text stays as it is exactly if
none of its words is tagged, and words can be cut out by byte offsets. -/
theorem normalize_rewrites_words (s : Scheme) (text : String) :
    ∃ ps, (∀ qs, Splits text.toList qs ↔ qs = ps) ∧
      (∀ out, s.normalize text = out ↔
        ∃ parts, List.Forall₂ s.Writes ps parts ∧ out.toList = parts.flatten) ∧
      (s.normalize text = text ↔ ∀ letters, .word letters ∈ ps → ¬s.Tagged letters) ∧
      s.normalizeAt? text = some (s.normalize text) ∧
      ∀ (c : Char) (next : String), isWordChar c = false →
        s.normalize (text ++ String.singleton c ++ next) =
          s.normalize text ++ String.singleton c ++ s.normalize next := by
  refine ⟨pieces text.toList, fun qs => ?_, fun out => ?_, ?_, s.normalizeAt?_eq text, ?_⟩
  · rw [splits_iff, eq_comm]
  · have written : (s.normalize text).toList =
        ((pieces text.toList).map s.canonicalPiece).flatten := by
      simp [normalize, normalizeChars_eq, List.flatMap_def]
    simp only [forall₂_writes_iff, exists_eq_left', ← written, String.toList_inj]
    exact eq_comm
  · have same : s.normalize text = text ↔ s.normalizeChars text.toList = text.toList := by
      rw [← String.toList_inj, normalize, String.toList_ofList]
    simp only [same, normalizeChars_eq_self_iff, splitWord?_eq_none_iff]
  · intro c next other
    have parted := normalizeChars_append_gap (s := s) other text.toList next.toList
    rw [← String.toList_inj]
    simpa [normalize] using parted

theorem normalize_accented_names :
    isWordChar '≤' = false ∧ standard.normalizeAt? "ñ_L" = some "ñ#0" ∧
      standard.normalize ("ñ_L" ++ String.singleton '≤' ++ "é_B") = "ñ#0≤é#1" := by
  have other : isWordChar '≤' = false := by decide +kernel
  have left : standard.normalize "ñ_L" = "ñ#0" := by decide +kernel
  have right : standard.normalize "é_B" = "é#1" := by decide +kernel
  obtain ⟨ps, -, -, -, cut, parted⟩ := normalize_rewrites_words standard "ñ_L"
  rw [parted '≤' "é_B" other, cut, left, right]
  exact ⟨other, rfl, by decide⟩

end StateIntern.Scheme
