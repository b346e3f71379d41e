import Mathlib.Data.List.Forall2
import StateIntern.Proofs.Words
import StateIntern.Tag.Canonical

/-! Canonical text, word by word. The scan writes the canonical form of each word of the cut and
keeps what stands between them, so the words of canonical text can be read back: a tagged word to
its base and side, any other to itself. -/
namespace StateIntern.Scheme

open Text

variable {s : Scheme}

theorem splitWord?_eq_some {word base : List Char} {side : Side}
    (tagged : s.splitWord? word = some (base, side)) :
    placeholder ∉ word ∧ base ≠ [] ∧ ∃ r ∈ s.rules, r.side = side ∧ r.attach base = word := by
  unfold splitWord? at tagged
  split at tagged
  next => contradiction
  next free =>
    obtain ⟨r, member, stripped⟩ := List.exists_of_findSome?_eq_some tagged
    obtain ⟨rest, strip, pair⟩ := Option.map_eq_some_iff.1 stripped
    cases pair
    obtain ⟨filled, attached⟩ := Rule.strip?_eq_some_iff.1 strip
    exact ⟨free, filled, r, member, rfl, attached⟩

theorem mem_attach_of_mem {r : Rule} {base : List Char} {c : Char} (member : c ∈ base) :
    c ∈ r.attach base := by
  unfold Rule.attach
  cases r.affix with
  | leading => exact List.mem_append_right _ member
  | trailing => exact List.mem_append_left _ member

theorem mem_of_mem_base {word base : List Char} {side : Side}
    (tagged : s.splitWord? word = some (base, side)) {c : Char} (member : c ∈ base) : c ∈ word := by
  obtain ⟨-, -, r, -, -, attached⟩ := splitWord?_eq_some tagged
  rw [← attached]
  exact mem_attach_of_mem member

theorem isWordChar_digit (side : Side) : isWordChar side.digit = true := by
  cases side <;> decide

theorem canonicalWord_nil : s.canonicalWord [] = [] := by
  unfold canonicalWord
  split
  next base side tagged =>
    obtain ⟨-, filled, -⟩ := splitWord?_eq_some tagged
    obtain ⟨c, rest, rfl⟩ := List.exists_cons_of_ne_nil filled
    exact absurd (mem_of_mem_base tagged List.mem_cons_self) (List.not_mem_nil)
  next => rfl

theorem isWord_canonicalWord {word : List Char} (isWord : IsWord word) :
    IsWord (s.canonicalWord word) := by
  unfold canonicalWord
  split
  next base side tagged =>
    refine ⟨by simp, fun c member => ?_⟩
    rcases List.mem_append.1 member with inBase | mark
    · exact isWord.2 c (mem_of_mem_base tagged inBase)
    · rcases List.mem_cons.1 mark with rfl | digit
      · exact isWordChar_placeholder
      · rw [List.mem_singleton.1 digit]
        exact isWordChar_digit side
  next => exact isWord

/-- A run of word characters, which may be empty, is written in its canonical form. -/
theorem flatMap_canonicalPiece_run {run rest : List Char}
    (wordChars : ∀ c ∈ run, isWordChar c = true) (stops : Stops rest) :
    (pieces (run ++ rest)).flatMap s.canonicalPiece =
      s.canonicalWord run ++ (pieces rest).flatMap s.canonicalPiece := by
  by_cases empty : run = []
  · rw [empty, canonicalWord_nil, List.nil_append, List.nil_append]
  · rw [pieces_word ⟨empty, wordChars⟩ stops, List.flatMap_cons]
    rfl

/-- The word before the scan and the text after it are cut like one text. -/
theorem flush_foldl_advance (text : List Char) (scan : Scan)
    (wordChars : ∀ c ∈ scan.word, isWordChar c = true) :
    (s.flush (text.foldl s.advance scan)).reverse =
      scan.finished.reverse ++ (pieces (scan.word.reverse ++ text)).flatMap s.canonicalPiece := by
  have run : ∀ c ∈ scan.word.reverse, isWordChar c = true := by simpa using wordChars
  induction text generalizing scan with
  | nil =>
    rw [flatMap_canonicalPiece_run run stops_nil]
    simp [flush, pieces]
  | cons c rest ih =>
    rw [List.foldl_cons]
    by_cases first : isWordChar c = true
    · have step : s.advance scan c = ⟨scan.finished, c :: scan.word⟩ := by simp [advance, first]
      have longer : ∀ d ∈ c :: scan.word, isWordChar d = true :=
        List.forall_mem_cons.2 ⟨first, wordChars⟩
      rw [step, ih _ longer fun d member => longer d (List.mem_reverse.1 member)]
      simp
    · have other : isWordChar c = false := by simpa using first
      have step : s.advance scan c = ⟨c :: s.flush scan, []⟩ := by simp [advance, other]
      rw [step, ih _ (by simp) (by simp), flatMap_canonicalPiece_run run (stops_cons_iff.2 other),
        List.reverse_nil, List.nil_append, pieces_gap other]
      simp [flush, canonicalPiece]

theorem normalizeChars_eq (text : List Char) :
    s.normalizeChars text = (pieces text).flatMap s.canonicalPiece :=
  flush_foldl_advance text Scan.start (by simp [Scan.start])

def canonical (s : Scheme) : Piece → Piece
  | .word letters => .word (s.canonicalWord letters)
  | .gap c => .gap c

theorem pieces_normalizeChars (text : List Char) :
    pieces (s.normalizeChars text) = (pieces text).map s.canonical := by
  have exchanged := (splits_pieces text).exchange fun letters isWord =>
    isWord_canonicalWord (s := s) isWord
  rw [normalizeChars_eq]
  exact splits_iff.1 exchanged

theorem splitWord?_of_mem {word : List Char} (marked : placeholder ∈ word) :
    s.splitWord? word = none :=
  if_pos marked

theorem splitWord?_canonicalWord (word : List Char) :
    s.splitWord? (s.canonicalWord word) = none := by
  unfold canonicalWord
  split
  next => exact splitWord?_of_mem (by simp)
  next untagged => exact untagged

theorem canonicalWord_eq_self_iff {word : List Char} :
    s.canonicalWord word = word ↔ s.splitWord? word = none := by
  constructor
  · intro same
    rw [← same]
    exact splitWord?_canonicalWord word
  · intro untagged
    simp only [canonicalWord, untagged]

theorem normalizeChars_eq_iff {t u : List Char} :
    s.normalizeChars t = s.normalizeChars u ↔
      (pieces t).map s.canonical = (pieces u).map s.canonical := by
  rw [← pieces_inj, pieces_normalizeChars, pieces_normalizeChars]

theorem normalizeChars_eq_self_iff {text : List Char} :
    s.normalizeChars text = text ↔
      ∀ letters, .word letters ∈ pieces text → s.splitWord? letters = none := by
  have each := List.map_eq_map_iff (f := s.canonical) (g := id) (l := pieces text)
  rw [List.map_id] at each
  rw [← pieces_inj, pieces_normalizeChars, each]
  constructor
  · intro fixed letters member
    exact canonicalWord_eq_self_iff.1 (Piece.word.inj (fixed _ member))
  · intro untagged p member
    cases p with
    | gap c => rfl
    | word letters => exact congrArg Piece.word (canonicalWord_eq_self_iff.2 (untagged _ member))

/-- What was rewritten shows a placeholder. -/
theorem normalizeChars_eq_self {text : List Char} (free : placeholder ∉ s.normalizeChars text) :
    s.normalizeChars text = text := by
  rw [normalizeChars_eq] at free
  refine normalizeChars_eq_self_iff.2 fun letters member => ?_
  have unmarked : placeholder ∉ s.canonicalWord letters :=
    fun inside => free (List.mem_flatMap.2 ⟨_, member, inside⟩)
  unfold canonicalWord at unmarked
  split at unmarked
  next => simp at unmarked
  next untagged => exact untagged

theorem splitWord?_of_mem_pieces {text letters : List Char}
    (member : .word letters ∈ pieces (s.normalizeChars text)) : s.splitWord? letters = none := by
  rw [pieces_normalizeChars] at member
  obtain ⟨p, -, written⟩ := List.mem_map.1 member
  cases p with
  | gap c => contradiction
  | word native =>
    cases written
    exact splitWord?_canonicalWord native

theorem normalizeChars_normalizeChars (text : List Char) :
    s.normalizeChars (s.normalizeChars text) = s.normalizeChars text :=
  normalizeChars_eq_self_iff.2 fun _ member => splitWord?_of_mem_pieces member

/-- A word of canonical text: untagged, or a base with the mark of a side. -/
def IsCanonical (s : Scheme) (word : List Char) : Prop :=
  (placeholder ∉ word ∧ s.splitWord? word = none) ∨
    ∃ base side, base ≠ [] ∧ placeholder ∉ base ∧ word = base ++ [placeholder, Side.digit side]

theorem isCanonical_canonicalWord {word : List Char} (free : placeholder ∉ word) :
    s.IsCanonical (s.canonicalWord word) := by
  unfold canonicalWord
  split
  next base side tagged =>
    have filled := (splitWord?_eq_some tagged).2.1
    exact .inr ⟨base, side, filled, fun inside => free (mem_of_mem_base tagged inside), rfl⟩
  next untagged => exact .inl ⟨free, untagged⟩

theorem isCanonical_of_mem_pieces {text letters : List Char} (free : placeholder ∉ text)
    (member : .word letters ∈ pieces (s.normalizeChars text)) : s.IsCanonical letters := by
  rw [pieces_normalizeChars] at member
  obtain ⟨p, inside, same⟩ := List.mem_map.1 member
  cases p with
  | gap c => contradiction
  | word native =>
    cases same
    exact isCanonical_canonicalWord fun marked => free (mem_of_mem_pieces inside marked)

theorem normalizeChars_append_gap {c : Char} (other : isWordChar c = false)
    (before after : List Char) : s.normalizeChars (before ++ c :: after) =
      s.normalizeChars before ++ c :: s.normalizeChars after := by
  simp only [normalizeChars_eq, pieces_append_gap other, List.flatMap_append, List.flatMap_cons]
  rfl

@[simp] theorem normalizeChars_nil : s.normalizeChars [] = [] := by simp [normalizeChars_eq, pieces]

/-- Where there are no words nothing is rewritten. -/
theorem normalizeChars_gaps {text : List Char} (others : ∀ c ∈ text, isWordChar c = false) :
    s.normalizeChars text = text := by
  induction text with
  | nil => exact normalizeChars_nil
  | cons c rest ih =>
    rw [List.forall_mem_cons] at others
    have apart := normalizeChars_append_gap (s := s) others.1 [] rest
    rwa [normalizeChars_nil, List.nil_append, List.nil_append, ih others.2] at apart

theorem normalizeChars_word {word : List Char} (wordChars : ∀ c ∈ word, isWordChar c = true) :
    s.normalizeChars word = s.canonicalWord word := by
  have run := flatMap_canonicalPiece_run (s := s) wordChars stops_nil
  rw [List.append_nil] at run
  rw [normalizeChars_eq, run, pieces, List.flatMap_nil, List.append_nil]

theorem mem_of_mem_normalizeChars {text : List Char} {c : Char} (other : isWordChar c = false)
    (member : c ∈ s.normalizeChars text) : c ∈ text := by
  rw [normalizeChars_eq] at member
  obtain ⟨p, inside, written⟩ := List.mem_flatMap.1 member
  cases p with
  | gap d =>
    cases List.mem_singleton.1 written
    exact mem_of_mem_pieces inside (List.mem_singleton.2 rfl)
  | word letters =>
    have isWord := (splits_pieces text).isWord_of_mem inside
    have wordChar := (isWord_canonicalWord (s := s) isWord).2 c written
    rw [other] at wordChar
    contradiction

theorem eq_of_normalizeChars_eq_gaps {text gaps : List Char}
    (others : ∀ c ∈ gaps, isWordChar c = false) (same : s.normalizeChars text = gaps) :
    text = gaps := by
  have kept : ∀ c ∈ text, isWordChar c = false := by
    intro c member
    rw [← flatMap_chars_pieces text] at member
    obtain ⟨p, inside, written⟩ := List.mem_flatMap.1 member
    cases p with
    | gap d =>
      have here : .gap d ∈ pieces gaps := by
        rw [← same, pieces_normalizeChars]
        exact List.mem_map.2 ⟨_, inside, rfl⟩
      cases List.mem_singleton.1 written
      exact others c (mem_of_mem_pieces here (List.mem_singleton.2 rfl))
    | word letters =>
      have here : .word (s.canonicalWord letters) ∈ pieces gaps := by
        rw [← same, pieces_normalizeChars]
        exact List.mem_map.2 ⟨_, inside, rfl⟩
      obtain ⟨filled, wordChars⟩ := (splits_pieces gaps).isWord_of_mem here
      obtain ⟨d, first⟩ := List.exists_mem_of_ne_nil _ filled
      have wordChar := wordChars d first
      rw [others d (mem_of_mem_pieces here first)] at wordChar
      contradiction
  rw [← same, normalizeChars_gaps kept]

theorem Side.digit_injective {a b : Side} (same : a.digit = b.digit) : a = b := by
  cases a <;> cases b <;> first | rfl | exact absurd same (by decide)

/-- Of words without the placeholder, only two tagged ones of one base and side are merged. -/
theorem canonicalWord_eq_iff {v w : List Char} (freeV : placeholder ∉ v) (freeW : placeholder ∉ w) :
    s.canonicalWord v = s.canonicalWord w ↔
      (v = w ∧ s.splitWord? v = none) ∨
      ∃ tag, s.splitWord? v = some tag ∧ s.splitWord? w = some tag := by
  unfold canonicalWord
  rcases splitV : s.splitWord? v with _ | ⟨baseV, sideV⟩ <;>
    rcases splitW : s.splitWord? w with _ | ⟨baseW, sideW⟩
  · simp
  · have marked : v ≠ baseW ++ [placeholder, sideW.digit] := by
      rintro rfl
      exact freeV (by simp)
    simp only [marked, false_iff, reduceCtorEq, false_and, exists_false, or_false, and_true]
    rintro rfl
    simp [splitV] at splitW
  · have marked : baseV ++ [placeholder, sideV.digit] ≠ w := by
      rintro rfl
      exact freeW (by simp)
    simp [marked]
  · constructor
    · intro same
      obtain ⟨base, mark⟩ := List.append_inj' same rfl
      injection mark with _ digit
      injection digit with digit
      exact .inr ⟨_, rfl, by rw [base, Side.digit_injective digit]⟩
    · rintro (⟨-, untagged⟩ | ⟨tag, tagV, tagW⟩)
      · contradiction
      · cases tagV.trans tagW.symm
        rfl

/-- Both pieces say the same: one character between words, one untagged word, or two words tagged
with one base name and side. -/
inductive Alike (s : Scheme) : Piece → Piece → Prop where
  | gap (c : Char) : s.Alike (.gap c) (.gap c)
  | untagged : s.split? (String.ofList letters) = none → s.Alike (.word letters) (.word letters)
  | tagged : s.split? (String.ofList v) = some tag → s.split? (String.ofList w) = some tag →
      s.Alike (.word v) (.word w)

theorem split?_ofList (word : List Char) :
    s.split? (String.ofList word) =
      (s.splitWord? word).map fun tag => (String.ofList tag.1, tag.2) := by
  simp [split?]

theorem split?_ofList_eq_none_iff {word : List Char} :
    s.split? (String.ofList word) = none ↔ s.splitWord? word = none := by
  rw [split?_ofList, Option.map_eq_none_iff]

theorem exists_split?_iff {v w : List Char} :
    (∃ tag, s.split? (String.ofList v) = some tag ∧ s.split? (String.ofList w) = some tag) ↔
      ∃ tag, s.splitWord? v = some tag ∧ s.splitWord? w = some tag := by
  simp only [split?_ofList, Option.map_eq_some_iff]
  constructor
  · rintro ⟨tag, ⟨⟨baseV, sideV⟩, splitV, rfl⟩, ⟨⟨baseW, sideW⟩, splitW, same⟩⟩
    simp only [Prod.mk.injEq, String.ofList_inj] at same
    obtain ⟨rfl, rfl⟩ := same
    exact ⟨_, splitV, splitW⟩
  · rintro ⟨tag, splitV, splitW⟩
    exact ⟨_, ⟨tag, splitV, rfl⟩, tag, splitW, rfl⟩

theorem canonical_eq_iff {p q : Piece} (freeP : placeholder ∉ p.chars)
    (freeQ : placeholder ∉ q.chars) : s.canonical p = s.canonical q ↔ s.Alike p q := by
  cases p with
  | gap c =>
    constructor
    · intro same
      cases q with
      | gap d => cases same; exact .gap c
      | word => contradiction
    · rintro ⟨⟩
      rfl
  | word v =>
    cases q with
    | gap d =>
      constructor
      · intro same
        contradiction
      · rintro ⟨⟩
    | word w =>
      have freeV : placeholder ∉ v := freeP
      have freeW : placeholder ∉ w := freeQ
      rw [canonical, canonical, Piece.word.injEq, canonicalWord_eq_iff freeV freeW,
        ← split?_ofList_eq_none_iff, ← exists_split?_iff]
      constructor
      · rintro (⟨rfl, untagged⟩ | ⟨tag, tagV, tagW⟩)
        · exact .untagged untagged
        · exact .tagged tagV tagW
      · intro alike
        cases alike with
        | untagged untagged => exact .inl ⟨rfl, untagged⟩
        | tagged tagV tagW => exact .inr ⟨_, tagV, tagW⟩

theorem normalizeChars_eq_iff_alike {t u : List Char} (freeT : placeholder ∉ t)
    (freeU : placeholder ∉ u) :
    s.normalizeChars t = s.normalizeChars u ↔ List.Forall₂ s.Alike (pieces t) (pieces u) := by
  have free {text : List Char} (free : placeholder ∉ text) :
      ∀ p ∈ pieces text, placeholder ∉ p.chars :=
    fun p member inside => free (mem_of_mem_pieces member inside)
  have freeT := free freeT
  have freeU := free freeU
  rw [normalizeChars_eq_iff]
  generalize pieces t = ps at freeT
  generalize pieces u = qs at freeU
  induction ps generalizing qs with
  | nil => cases qs <;> simp
  | cons p ps ih =>
    cases qs with
    | nil => simp
    | cons q qs =>
      have head := canonical_eq_iff (s := s) (freeT p List.mem_cons_self)
        (freeU q List.mem_cons_self)
      have tail : ps.map s.canonical = qs.map s.canonical ↔ List.Forall₂ s.Alike ps qs :=
        ih (fun p member => freeT p (List.mem_cons_of_mem _ member)) qs
          fun q member => freeU q (List.mem_cons_of_mem _ member)
      rw [List.map_cons, List.map_cons, List.cons.injEq, List.forall₂_cons, head, tail]

/-- Texts have one canonical form exactly when their cuts say the same, piece by piece. -/
theorem normalize_eq_iff_alike {t u : String} (freeT : placeholder ∉ t.toList)
    (freeU : placeholder ∉ u.toList) :
    s.normalize t = s.normalize u ↔
      ∃ ps qs, Splits t.toList ps ∧ Splits u.toList qs ∧ List.Forall₂ s.Alike ps qs := by
  rw [normalize, normalize, String.ofList_inj, normalizeChars_eq_iff_alike freeT freeU]
  constructor
  · intro alike
    exact ⟨_, _, splits_pieces _, splits_pieces _, alike⟩
  · rintro ⟨ps, qs, cutT, cutU, alike⟩
    rwa [splits_iff.1 cutT, splits_iff.1 cutU]

theorem normalize_left_copies :
    placeholder ∉ "x_L <= n".toList ∧ placeholder ∉ "x_A <= n".toList ∧
      standard.normalize "x_L <= n" = standard.normalize "x_A <= n" := by
  have freeL : placeholder ∉ "x_L <= n".toList := by decide
  have freeA : placeholder ∉ "x_A <= n".toList := by decide
  have cutL : Splits "x_L <= n".toList
      [.word ['x', '_', 'L'], .gap ' ', .gap '<', .gap '=', .gap ' ', .word ['n']] :=
    splits_iff.2 (by decide +kernel)
  have cutA : Splits "x_A <= n".toList
      [.word ['x', '_', 'A'], .gap ' ', .gap '<', .gap '=', .gap ' ', .word ['n']] :=
    splits_iff.2 (by decide +kernel)
  have left : standard.split? (String.ofList ['x', '_', 'L']) = some ("x", .left) := by decide
  have plain : standard.split? (String.ofList ['n']) = none := by decide
  refine ⟨freeL, freeA, (normalize_eq_iff_alike freeL freeA).2 ⟨_, _, cutL, cutA, ?_⟩⟩
  refine .cons (.tagged left (by decide)) ?_
  exact .cons (.gap _) (.cons (.gap _) (.cons (.gap _) (.cons (.gap _)
    (.cons (.untagged plain) .nil))))

/-- Normalizing twice is normalizing once. The canonical text is cut where the text is cut, each
word stands there in its canonical form, and none of these words carries a tag, not even one whose
base is tagged itself. -/
theorem normalize_idempotent (s : Scheme) (text : String) :
    s.normalize (s.normalize text) = s.normalize text ∧
    ∃ ps, Splits text.toList ps ∧ Splits (s.normalize text).toList (ps.map s.canonical) ∧
      ∀ letters, .word letters ∈ ps.map s.canonical → s.split? (String.ofList letters) = none := by
  have cut : pieces (s.normalizeChars text.toList) = (pieces text.toList).map s.canonical :=
    pieces_normalizeChars text.toList
  have again := normalizeChars_normalizeChars (s := s) text.toList
  refine ⟨?_, pieces text.toList, splits_pieces _, ?_, fun letters member => ?_⟩
  · simp only [normalize, String.toList_ofList, again]
  · simp only [normalize, String.toList_ofList, splits_iff, cut]
  · rw [← cut] at member
    exact split?_ofList_eq_none_iff.2 (splitWord?_of_mem_pieces member)

example : standard.normalize "a_L_R = a_L_L" = "a_L#1 = a_L#0" ∧
    standard.normalize "a_L#1 = a_L#0" = "a_L#1 = a_L#0" := by decide +kernel

end StateIntern.Scheme
